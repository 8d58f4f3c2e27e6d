/-
KeymapCompiler/Proofs/Node/Keymap.lean

The source of the `keymap` node and what it holds of a layer.

`keymapSource` spells the node out for given layers, each a symbol with the lines
of its cells, and `value_keymap_eq_source` says that this is what is written.  The
cells of a layer are one for each key (`getElem?_cellTexts`), so by the ink of the
grid's lines the keymap holds, for each layer, the cells of the keys of the layout
in order (`ink_layerNodes`).
-/
import KeymapCompiler.Proofs.Devicetree
import KeymapCompiler.Proofs.Grid
import KeymapCompiler.Proofs.Layer.Symbols

namespace KeymapCompiler

open KeymapCompiler.Text

/-- A key without a binding does nothing. -/
theorem Formatter.text_none (f : Formatter) : f.text Binding.none = "&none" := by
  have name : Behavior.canonical "&none" = "&none" := by decide +kernel
  have family : Behavior.family? "&none" = some .plain := by decide +kernel
  have format : f.format Binding.none = .ok "&none" := by
    unfold Formatter.format Binding.none Binding.bare
    simp only [name, family]
    rw [if_neg (by decide)]
    rfl
  rw [text, format]

namespace Node

/-! ### Cells -/

/-- The cell of a key in a layer: its binding, or `&none` if the layer has none for it. -/
def cellText (f : Formatter) (bindings : List Binding) (key : Nat) : String :=
  match bindings[key]? with
  | some b => f.text b
  | none => "&none"

theorem length_cellTexts (f : Formatter) (keyCount : Nat) (bindings : List Binding) :
    (cellTexts f keyCount bindings).length = keyCount := by
  unfold cellTexts
  rw [List.length_append, List.length_map, List.length_take, List.length_replicate]
  omega

/-- A layer has one cell for each key. -/
theorem getElem?_cellTexts (f : Formatter) {keyCount key : Nat} (h : key < keyCount)
    (bindings : List Binding) :
    (cellTexts f keyCount bindings)[key]? = some (cellText f bindings key) := by
  unfold cellTexts cellText
  by_cases hkey : key < bindings.length
  · have htake : key < (bindings.take keyCount).length := by
      rw [List.length_take]
      omega
    rw [List.getElem?_append_left (by simpa using htake), List.getElem?_map,
      List.getElem?_take_of_lt h, List.getElem?_eq_getElem hkey]
    rfl
  · -- The key is one of those that the layer is filled up for.
    have hnone : bindings[key]? = none := List.getElem?_eq_none (Nat.not_lt.mp hkey)
    have htake : ((bindings.take keyCount).map f.text).length = bindings.length := by
      rw [List.length_map, List.length_take]
      omega
    rw [List.getElem?_append_right (by omega), htake, List.getElem?_replicate_of_lt (by omega),
      hnone, f.text_none]

/-! ### Source -/

/-- The source of a layer's node, given its symbol and the lines of its cells. -/
def layerSource (n : String × List String) : String :=
  "        layer_" ++ n.1 ++ " \x7b\n"
    ++ "            bindings = <\n"
    ++ String.join (n.2.map (· ++ "\n"))
    ++ "            >;\n"
    ++ "        \x7d;\n"

/-- The source of the `keymap` node, given the symbols of the layers and the lines of their
cells. -/
def keymapSource (nodes : List (String × List String)) : String :=
  "/ \x7b\n"
    ++ "    keymap \x7b\n"
    ++ "        compatible = \"zmk,keymap\";\n"
    ++ String.join (nodes.map fun n => "\n" ++ layerSource n)
    ++ "    \x7d;\n"
    ++ "\x7d;\n"

theorem layerBlock_eq_source (symbol : String) (rows : List String) :
    layerBlock symbol rows = layerSource (symbol, rows) := by
  have lead : "        layer_" = "        " ++ layerLead := by decide +kernel
  have opening : Devicetree.line 3 "bindings = <" = "            bindings = <\n" := by
    decide +kernel
  have closing : Devicetree.line 3 ">;" = "            >;\n" := by decide +kernel
  unfold layerBlock layerSource
  rw [Devicetree.node_two, opening, closing, lead]
  simp only [String.append_assoc]

theorem value_keymap_eq_source (f : Formatter) (layout : Layout) (layers : List (List Binding)) :
    (keymap f layout layers).value = keymapSource (layerNodes f layout layers) := by
  have compatible : Devicetree.line 2 "compatible = \"zmk,keymap\";"
      = "        compatible = \"zmk,keymap\";\n" := by decide +kernel
  have opening : "    keymap \x7b\n" = "    " ++ "keymap" ++ " \x7b\n" := by decide +kernel
  rw [value_keymap, Devicetree.underRoot_node_one, compatible]
  unfold Devicetree.sectionSource keymapSource
  rw [opening]
  simp only [layerBlock_eq_source, String.append_assoc]

/-! ### What the keymap holds -/

/-- The lines of layers hold the cells of the keys of the layout, in order. -/
theorem ink_layerNodes {layout : Layout} (hindent : isAllBlank layout.style.indent = true)
    (hgap : isAllBlank layout.style.gap = true)
    (hkeys : ∀ key ∈ layout.keys, key < layout.keyCount) (f : Formatter)
    (layers : List (List Binding)) :
    ((layerNodes f layout layers).map fun n => n.2.flatMap fun line => ink line.toList)
      = layers.map fun bindings =>
          layout.keys.flatMap fun key => ink (cellText f bindings key).toList := by
  -- Padding, gaps and indent are blank, so only the cells leave ink.
  have block : ∀ (bindings : List Binding) (context : String),
      ((cellLines layout (layerCells f layout.keyCount context bindings).value).flatMap
          fun line => ink line.toList)
        = layout.keys.flatMap fun key => ink (cellText f bindings key).toList := by
    intro bindings context
    rw [value_layerCells, cellLines, List.flatMap_map]
    simp only [trimmedEnd, String.toList_ofList, ink_trimEnd]
    rw [Grid.ink_lines hindent hgap]
    refine List.flatMap_congr fun key hkey => ?_
    rw [getElem?_cellTexts f (hkeys key hkey), Option.getD_some]
  rw [layerNodes, List.map_map]
  refine List.ext_getElem (by simp) fun i _ _ => ?_
  simp [block]

end Node

end KeymapCompiler
