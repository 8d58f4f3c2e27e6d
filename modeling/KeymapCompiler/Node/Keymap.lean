/-
KeymapCompiler/Node/Keymap.lean

The `keymap` node: one node for each layer, with the layer's cells in the rows of
the keyboard's layout.

A layer has one cell for each key of the keyboard.  Keys that the document leaves
out do nothing, and bindings past the last key are ignored with a warning.

`value_layerCells` says what the cells are.
-/
import KeymapCompiler.Binding.Format
import KeymapCompiler.Grid

namespace KeymapCompiler.Node

open KeymapCompiler.Devicetree

/-- The cells of a layer, one for each key. -/
def layerCells (f : Formatter) (keyCount : Nat) (context : String) (bindings : List Binding) :
    Reported (List String) := do
  Reported.warnIf (keyCount < bindings.length) .skippedEntry context
    (s!"{bindings.length} bindings for {keyCount} keys, "
      ++ s!"ignoring the last {bindings.length - keyCount}")
  let texts ← Reported.each (fun b => f.reported s!"{context}, key {b.2}" b.1)
    (bindings.take keyCount).zipIdx
  pure (texts ++ List.replicate (keyCount - bindings.length) (f.text Binding.none))

/-- The texts of the cells of a layer. -/
def cellTexts (f : Formatter) (keyCount : Nat) (bindings : List Binding) : List String :=
  (bindings.take keyCount).map f.text
    ++ List.replicate (keyCount - bindings.length) (f.text Binding.none)

/-- What the names of layers' nodes start with. -/
def layerLead : String := "layer_"

/-- The lines of a layer's cells; blanks at the end of a line are left out. -/
def cellLines (layout : Layout) (cells : List String) : List String :=
  (Grid.lines layout cells).map Text.trimmedEnd

/-- The node of a layer with a symbol. -/
def layerBlock (symbol : String) (rows : List String) : String :=
  node 2 (layerLead ++ symbol)
    (line 3 "bindings = <" ++ String.join (rows.map (· ++ "\n")) ++ line 3 ">;")

/-- The node of the layer at an index. -/
def layer (f : Formatter) (layout : Layout) (index : Nat) (bindings : List Binding) :
    Reported String := do
  let name := (f.layers[index]?.map (·.name)).getD ""
  let symbol := (f.layers[index]?.map (·.symbol)).getD ""
  let cells ← layerCells f layout.keyCount s!"layer {name}" bindings
  pure (layerBlock symbol (cellLines layout cells))

/-- Whether the columns of all layers can be padded. -/
def isPaddable (f : Formatter) (layout : Layout) (layers : List (List Binding)) : Bool :=
  layers.all fun bindings =>
    Grid.isPaddable layout (cellTexts f layout.keyCount bindings)

/-- The `keymap` node, if the columns of all layers can be padded. -/
def keymap (f : Formatter) (layout : Layout) (layers : List (List Binding)) :
    Reported String := do
  let blocks ← Reported.each (fun l => layer f layout l.2 l.1) layers.zipIdx
  pure (underRoot (node 1 "keymap"
    (line 2 "compatible = \"zmk,keymap\";" ++ String.join (blocks.map ("\n" ++ ·)))))

/-- Reporting does not change the cells. -/
theorem value_layerCells (f : Formatter) (keyCount : Nat) (context : String)
    (bindings : List Binding) :
    (layerCells f keyCount context bindings).value = cellTexts f keyCount bindings := by
  have items : (bindings.take keyCount).zipIdx.map Prod.fst = bindings.take keyCount :=
    List.zipIdx_map_fst 0 _
  have texts : (bindings.take keyCount).map f.text
      = (bindings.take keyCount).zipIdx.map fun b => f.text b.1 := by
    rw [← items, List.map_map, items]
    rfl
  unfold layerCells cellTexts
  simp only [Reported.value_bind, Reported.value_pure, Reported.value_each,
    Formatter.value_reported, texts]

end KeymapCompiler.Node
