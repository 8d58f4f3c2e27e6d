/-
KeymapCompiler/Proofs/Compile/Keys.lean

The keys of a compiled keymap.  A compile that succeeds writes one node for each
layer, under the symbol that is defined as the layer's index, and the lines of the
node hold the cells of the layer's keys in the order in which the layout places
them.  So no key is lost, repeated or moved between the document and the keymap.
-/
import KeymapCompiler.Proofs.Compile.Clean
import KeymapCompiler.Proofs.Node.Keymap

namespace KeymapCompiler

open KeymapCompiler.Text

theorem LayerTable.definitionLine_eq (index : Nat) (l : Layer) :
    definitionLine index l = ("#define LAYER_" ++ l.symbol ++ " " ++ toString index).toList := by
  have lead : Preprocessor.lead ++ defineLead.toList = "#define LAYER_".toList := by
    decide +kernel
  have blank : " ".toList = [' '] := by decide
  have digits : (toString index).toList = Nat.toDigits 10 index := Nat.toList_repr
  unfold definitionLine
  simp only [String.toList_append, ← lead, blank, digits, List.append_assoc, List.cons_append,
    List.nil_append]

namespace Document

variable {d : Document} {l : Layout} {map : Kconfig.Map}

/-- The definitions are one line for each node of the keymap. -/
theorem lines_layerDefines (d : Document) (l : Layout) :
    lines d.layerTable.defines.toList
      = (Node.layerNodes d.formatter l d.layers).mapIdx fun i n =>
          ("#define LAYER_" ++ n.1 ++ " " ++ toString i).toList := by
  have symbols : (Node.layerNodes d.formatter l d.layers).map (·.1) = d.layerTable.symbols :=
    Node.map_fst_layerNodes d.length_layerTable.symm l
  -- Symbols are made of word characters, so no definition goes over two lines.
  have words : ∀ s ∈ d.layerTable.symbols, ∀ c ∈ s.toList, isWord c = true :=
    fun s hs => LayerTable.isWord_of_mem_symbols hs
  rw [LayerTable.lines_defines words]
  refine List.ext_getElem ?_ fun i hi hi' => ?_
  · simp [Node.layerNodes, length_layerTable]
  · have hnode : i < (Node.layerNodes d.formatter l d.layers).length := by simpa using hi'
    have hlayer : i < d.layerTable.length := by simpa using hi
    have symbol : (Node.layerNodes d.formatter l d.layers)[i].1 = d.layerTable[i].symbol := by
      have at_i := congrArg (·[i]?) symbols
      simpa [LayerTable.symbols, hnode, hlayer] using at_i
    rw [List.getElem_mapIdx, List.getElem_mapIdx, LayerTable.definitionLine_eq, symbol]

/-- **Keys.**  The keymap has a node for each layer in order, which is named after the symbol that
is defined as its index, and the lines in it hold the cells of the layer's keys as the layout
places them, row by row, and else nothing but blanks. -/
theorem keymap_holds_keys {r : Reported Compiled} (h : d.compile l map = .ok r)
    (hindent : isAllBlank l.style.indent = true) (hgap : isAllBlank l.style.gap = true) :
    ∃ nodes : List (String × List String),
      r.value.keymap = Node.keymapSource nodes ∧
      lines r.value.layerDefines.toList = nodes.mapIdx (fun i n =>
        ("#define LAYER_" ++ n.1 ++ " " ++ toString i).toList) ∧
      (nodes.map fun n => n.2.flatMap fun line => ink line.toList)
        = d.layers.map fun bindings => l.keys.flatMap fun key =>
            ink (Node.cellText d.formatter bindings key).toList := by
  obtain ⟨herrors, -, rfl⟩ := compile_eq_ok_iff.mp h
  have hlayout := (List.append_eq_nil_iff.mp herrors).1
  obtain ⟨-, -, hkeys⟩ := (checkLayout_errors_eq_nil_iff l).mp hlayout
  rw [value_fragments]
  exact ⟨_, Node.value_keymap_eq_source _ _ _, lines_layerDefines d l,
    Node.ink_layerNodes hindent hgap hkeys _ _⟩

/-- The keymap of the sample holds two keys for each layer. -/
theorem keymap_sample :
    ∃ (r : Reported Compiled) (nodes : List (String × List String)),
      sample.compile Layout.sample [] = .ok r ∧ r.value.keymap = Node.keymapSource nodes ∧
        (nodes.map fun n => String.ofList (n.2.flatMap fun line => ink line.toList))
          = ["&hmLSHFTA&moLAYER_Nav", "&hello&none"] := by
  have hok : sample.compile Layout.sample [] = .ok _ :=
    compile_eq_ok_iff.mpr ⟨by decide +kernel, by decide +kernel, rfl⟩
  obtain ⟨nodes, hsource, -, hkeys⟩ :=
    keymap_holds_keys hok (by decide +kernel) (by decide +kernel)
  have cells := congrArg (List.map String.ofList) hkeys
  rw [List.map_map] at cells
  exact ⟨_, nodes, hok, hsource, cells.trans (by decide +kernel)⟩

end Document

end KeymapCompiler
