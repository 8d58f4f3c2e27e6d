/-
KeymapCompiler/Proofs/Layer/Symbols.lean

When the symbols of layers are unambiguous.  A keymap depends on them in three
places: every symbol is defined once, every layer has a node of its own name, and
a reference to a layer by its name reaches the index of that layer.  The first is
read back from the definitions as the preprocessor reads them (`definitions`).

All of it follows from the symbols being distinct, and the symbols are distinct
unless a displaced layer, one whose own symbol is taken, finds its suffixed symbol
to be the own symbol of an earlier layer.  Distinct names do not prevent that.
-/
import KeymapCompiler.Node.Keymap
import KeymapCompiler.Proofs.Symbol
import KeymapCompiler.Proofs.Text.Runs
import Mathlib.Data.List.Nodup

namespace KeymapCompiler

open KeymapCompiler.Text

/-! ### Definitions as the preprocessor reads them -/

namespace Preprocessor

/-- What a definition starts with. -/
def lead : List Char := "#define ".toList

/-- The name that a line defines and its value. -/
def definition? (line : List Char) : Option (String × String) :=
  if lead.isPrefixOf line then
    let rest := line.drop lead.length
    some (String.ofList (rest.takeWhile (· != ' ')),
      String.ofList (rest.dropWhile (· != ' ')).tail)
  else none

/-- The definitions of a text in order. -/
def definitions (text : String) : List (String × String) :=
  (lines text.toList).filterMap definition?

theorem definition?_append {name : List Char} (h : ' ' ∉ name) (value : List Char) :
    definition? (lead ++ (name ++ ' ' :: value))
      = some (String.ofList name, String.ofList value) := by
  have hprefix : lead.isPrefixOf (lead ++ (name ++ ' ' :: value)) = true :=
    List.isPrefixOf_iff_prefix.mpr (List.prefix_append _ _)
  rw [definition?, if_pos hprefix, List.drop_left]
  show some (_, _) = _
  rw [takeWhile_append_sign h, dropWhile_append_sign h]
  rfl

end Preprocessor

open Preprocessor

namespace LayerTable

/-! ### Symbols of a list of names -/

/-- The symbols that layers have on their own, with the indices of the layers. -/
def ownSymbols (names : List String) : List (String × Nat) :=
  names.mapIdx fun i name => (baseSymbol i name, i)

theorem symbols_assign (taken : List String) (index : Nat) (names : List String) :
    symbols (assign taken index names).value
      = Symbol.distinguishAll taken
          (names.mapIdx fun i name => (baseSymbol (index + i) name, index + i)) := by
  induction names generalizing taken index with
  | nil => rfl
  | cons name rest ih =>
    rw [List.mapIdx_cons, Symbol.distinguishAll]
    refine congrArg (_ :: ·) ?_
    have shift : ∀ i, index + 1 + i = index + (i + 1) := fun i => by omega
    have tail := ih (Symbol.distinguish taken (baseSymbol index name) index :: taken) (index + 1)
    simp only [shift] at tail
    exact tail

theorem symbols_ofNames (names : List String) :
    symbols (ofNames names).value = Symbol.distinguishAll [] (ownSymbols names) := by
  rw [ofNames, symbols_assign]
  simp [ownSymbols]

/-- There is nothing to warn of when the symbols that layers have on their own are distinct and
none is taken before. -/
theorem warnings_assign_eq_nil_iff (taken : List String) (index : Nat) (names : List String) :
    (assign taken index names).warnings = [] ↔
      (names.mapIdx fun i name => baseSymbol (index + i) name).Nodup ∧
        ∀ base ∈ names.mapIdx (fun i name => baseSymbol (index + i) name), base ∉ taken := by
  induction names generalizing taken index with
  | nil => simp [assign]
  | cons name rest ih =>
    have shift : ∀ i, index + 1 + i = index + (i + 1) := fun i => by omega
    have tail := ih (baseSymbol index name :: taken) (index + 1)
    simp only [shift] at tail
    rw [List.mapIdx_cons, Nat.add_zero, nodup_cons_and_new_iff, ← tail, assign]
    by_cases h : baseSymbol index name ∈ taken
    · exact iff_of_false (by simp [h]) fun hn => hn.1 h
    · simp [h, Symbol.distinguish_of_not_mem]

theorem warnings_ofNames_eq_nil_iff (names : List String) :
    (ofNames names).warnings = [] ↔ (names.mapIdx baseSymbol).Nodup := by
  rw [ofNames, warnings_assign_eq_nil_iff]
  simp

theorem isWord_of_mem_baseSymbol {index : Nat} {name : String} {c : Char}
    (h : c ∈ (baseSymbol index name).toList) : isWord c = true := by
  unfold baseSymbol at h
  dsimp only at h
  split at h
  · have empty : ∀ c ∈ "".toList, isWord c = true := by simp
    exact Symbol.isWord_of_mem_suffixed empty h
  · exact Symbol.isWord_of_mem_ofName h

/-- The symbols of layers are made of word characters. -/
theorem isWord_of_mem_symbols {names : List String} {s : String}
    (hs : s ∈ symbols (ofNames names).value) : ∀ c ∈ s.toList, isWord c = true := by
  rw [symbols_ofNames] at hs
  refine Symbol.isWord_of_mem_distinguishAll ?_ hs
  intro e he c hc
  obtain ⟨i, hi, rfl⟩ := List.mem_mapIdx.mp he
  exact isWord_of_mem_baseSymbol hc

/-! ### The text of the definitions -/

/-- The line that defines the symbol of the layer at an index. -/
def definitionLine (index : Nat) (l : Layer) : List Char :=
  lead ++ ((defineLead ++ l.symbol).toList ++ ' ' :: Nat.toDigits 10 index)

theorem toList_definition (index : Nat) (l : Layer) :
    (s!"#define {defineLead}{l.symbol} {index}\n").toList
      = definitionLine index l ++ ['\n'] := by
  show ((((("#define " ++ defineLead) ++ l.symbol) ++ " ") ++ toString index) ++ "\n").toList = _
  have start : "#define ".toList = lead := rfl
  have digits : (toString index).toList = Nat.toDigits 10 index := Nat.toList_repr
  have blank : " ".toList = [' '] := by decide
  have newline : "\n".toList = ['\n'] := by decide
  unfold definitionLine
  simp only [String.toList_append, start, digits, blank, newline, List.append_assoc,
    List.cons_append, List.nil_append]

theorem toList_defines (t : LayerTable) :
    t.defines.toList = (t.mapIdx definitionLine).flatMap (· ++ ['\n']) := by
  rw [defines, String.toList_join, List.mapIdx_eq_zipIdx_map, List.mapIdx_eq_zipIdx_map,
    List.flatMap_map, List.flatMap_map]
  refine List.flatMap_congr ?_
  rintro ⟨l, i⟩ -
  exact toList_definition i l

/-- The name that is defined for a layer is made of word characters. -/
theorem not_mem_define {t : LayerTable} (h : ∀ s ∈ t.symbols, ∀ c ∈ s.toList, isWord c = true)
    {l : Layer} (hl : l ∈ t) {c : Char} (hc : isWord c = false) :
    c ∉ (defineLead ++ l.symbol).toList := by
  intro hm
  rw [String.toList_append] at hm
  have hword : isWord c = true := by
    rcases List.mem_append.mp hm with hm | hm
    · have lead : defineLead.toList.all isWord = true := by decide
      exact List.all_eq_true.mp lead c hm
    · exact h l.symbol (List.mem_map_of_mem hl) c hm
  rw [hc] at hword
  cases hword

/-- The definitions are one line for each layer. -/
theorem lines_defines {t : LayerTable} (h : ∀ s ∈ t.symbols, ∀ c ∈ s.toList, isWord c = true) :
    lines t.defines.toList = t.mapIdx definitionLine := by
  have newline : isWord '\n' = false := by decide
  rw [toList_defines, lines_flatMap_closed_of_not_mem]
  intro line hline
  obtain ⟨i, hi, rfl⟩ := List.mem_mapIdx.mp hline
  have hlead : '\n' ∉ lead := by decide
  intro hm
  -- None of the three parts of a line has a line end: the lead, the symbol and the number.
  rcases List.mem_append.mp hm with hm | hm
  · exact hlead hm
  · rcases List.mem_append.mp hm with hm | hm
    · exact not_mem_define h (List.getElem_mem hi) newline hm
    · rcases List.mem_cons.mp hm with hm | hm
      · cases hm
      · have hword := Symbol.isWord_of_mem_toDigits hm
        rw [newline] at hword
        cases hword

/-- The preprocessor reads one definition for each layer: its symbol stands for its index. -/
theorem definitions_defines {t : LayerTable}
    (h : ∀ s ∈ t.symbols, ∀ c ∈ s.toList, isWord c = true) :
    definitions t.defines = t.mapIdx fun i l => (defineLead ++ l.symbol, toString i) := by
  have read : ∀ p ∈ t.zipIdx, (definition? ∘ fun p : Layer × Nat => definitionLine p.2 p.1) p
      = some (defineLead ++ p.1.symbol, toString p.2) := by
    intro p hp
    have hl : p.1 ∈ t := List.fst_mem_of_mem_zipIdx hp
    rw [Function.comp_apply, definitionLine, definition?_append (not_mem_define h hl (by decide)),
      String.ofList_toList, Nat.toString_eq_ofList_toDigits]
  rw [definitions, lines_defines h, List.mapIdx_eq_zipIdx_map, List.mapIdx_eq_zipIdx_map,
    List.filterMap_map, List.filterMap_congr read, List.filterMap_eq_map']

/-- The names that are defined are the symbols of the layers with their lead. -/
theorem map_fst_definitions (names : List String) :
    (definitions (defines (ofNames names).value)).map (·.1)
      = (symbols (ofNames names).value).map (defineLead ++ ·) := by
  rw [definitions_defines fun s hs => isWord_of_mem_symbols hs]
  refine List.ext_getElem (by simp [symbols]) ?_
  intro i _ _
  simp [symbols]

end LayerTable

/-! ### The nodes of the layers -/

namespace Node

/-- The nodes inside the `keymap` node: the symbol of each layer and its rows. -/
def layerNodes (f : Formatter) (layout : Layout) (layers : List (List Binding)) :
    List (String × List String) :=
  layers.zipIdx.map fun l =>
    let name := (f.layers[l.2]?.map (·.name)).getD ""
    ((f.layers[l.2]?.map (·.symbol)).getD "",
      cellLines layout (layerCells f layout.keyCount s!"layer {name}" l.1).value)

/-- The `keymap` node is written from the nodes inside it. -/
theorem value_keymap (f : Formatter) (layout : Layout) (layers : List (List Binding)) :
    (keymap f layout layers).value
      = Devicetree.underRoot (Devicetree.node 1 "keymap"
          (Devicetree.line 2 "compatible = \"zmk,keymap\";" ++ String.join
            ((layerNodes f layout layers).map fun n => "\n" ++ layerBlock n.1 n.2))) := by
  rw [keymap, layerNodes, Reported.value_bind, Reported.value_pure, Reported.value_each,
    List.map_map, List.map_map]
  rfl

/-- Layers that all have a symbol get nodes named after these. -/
theorem map_fst_layerNodes {f : Formatter} {layers : List (List Binding)}
    (h : layers.length = f.layers.length) (layout : Layout) :
    (layerNodes f layout layers).map (·.1) = f.layers.symbols := by
  refine List.ext_getElem (by simp [layerNodes, LayerTable.symbols, h]) ?_
  intro i hi hi'
  have hlt : i < f.layers.length := by simpa [LayerTable.symbols] using hi'
  simp [layerNodes, LayerTable.symbols, List.getElem?_eq_getElem hlt]

end Node

namespace LayerTable

/-! ### Unambiguous symbols -/

/-- The symbols of layers with given names are unambiguous wherever the keymap depends on them. -/
structure Unambiguous (names : List String) : Prop where
  /-- No two layers have the same symbol. -/
  symbols : (symbols (ofNames names).value).Nodup
  /-- No preprocessor symbol is defined twice. -/
  defined : ((definitions (defines (ofNames names).value)).map (·.1)).Nodup
  /-- No two layers have nodes of the same name. -/
  nodes : ∀ (f : Formatter) (layout : Layout) (layers : List (List Binding)),
    f.layers = (ofNames names).value → layers.length = names.length →
      ((Node.layerNodes f layout layers).map fun n => Node.layerLead ++ n.1).Nodup
  /-- The only definition of the symbol that stands for a name gives the index of that name. -/
  reached : ∀ name ∈ names, ∃ symbol index,
    (ofNames names).value.define? name = some symbol ∧
      (ofNames names).value.index? name = some index ∧
      (definitions (defines (ofNames names).value)).filter (·.1 == symbol)
        = [(symbol, toString index)]

/-- The first layer of a name is found by its index and by its symbol alike. -/
theorem exists_index?_define? {t : LayerTable} {name : String} (h : name ∈ t.names) :
    ∃ (i : Nat) (hi : i < t.length), t.index? name = some i ∧
      t.define? name = some (defineLead ++ t[i].symbol) := by
  obtain ⟨l, hl, hname⟩ := List.mem_map.mp h
  have found : (t.find? (·.name == name)).isSome :=
    List.find?_isSome.mpr ⟨l, hl, by simpa using hname⟩
  obtain ⟨first, e⟩ := Option.isSome_iff_exists.mp found
  obtain ⟨hp, i, hi, rfl, before⟩ := List.find?_eq_some_iff_getElem.mp e
  refine ⟨i, hi, ?_, ?_⟩
  · refine List.findIdx?_eq_some_iff_getElem.mpr ⟨hi, hp, ?_⟩
    intro j hj
    simpa using before j hj
  · rw [define?, e]
    rfl

/-- Distinct symbols are enough. -/
theorem Unambiguous.of_nodup {names : List String}
    (h : (LayerTable.symbols (ofNames names).value).Nodup) : Unambiguous names := by
  have hdefs := definitions_defines (t := (ofNames names).value)
    fun s hs => isWord_of_mem_symbols hs
  have led : ∀ lead : String,
      ((LayerTable.symbols (ofNames names).value).map (lead ++ ·)).Nodup := by
    intro lead
    refine List.Nodup.map (fun a b e => ?_) h
    exact (String.append_right_inj lead).mp e
  have defined : ((definitions (defines (ofNames names).value)).map (·.1)).Nodup := by
    rw [map_fst_definitions]
    exact led defineLead
  refine ⟨h, defined, ?_, ?_⟩
  · -- The heads of the nodes are the same symbols behind another lead.
    intro f layout layers hf hlen
    have hlen' : layers.length = f.layers.length := by
      rw [hf, hlen]
      exact (by simpa [LayerTable.names] using (congrArg List.length (names_ofNames names)).symm)
    have e : (Node.layerNodes f layout layers).map (fun n => Node.layerLead ++ n.1)
        = ((Node.layerNodes f layout layers).map (·.1)).map (Node.layerLead ++ ·) := by
      rw [List.map_map]
      rfl
    rw [e, Node.map_fst_layerNodes hlen', hf]
    exact led Node.layerLead
  · intro name hname
    obtain ⟨i, hi, hindex, hdefine⟩ :=
      exists_index?_define? (t := (ofNames names).value) (by rwa [names_ofNames])
    refine ⟨_, i, hdefine, hindex, ?_⟩
    refine filter_key_eq_singleton defined (e := (_, toString i)) ?_
    rw [hdefs]
    exact List.mem_mapIdx.mpr ⟨i, hi, rfl⟩

/-- **Unambiguous layers.**  The symbols of layers are unambiguous exactly when no layer that
finds its own symbol taken finds the suffixed one to be the own symbol of an earlier layer. -/
theorem unambiguous_iff (names : List String) :
    Unambiguous names ↔
      ∀ (i : Nat) (hi : i < names.length),
        baseSymbol i names[i] ∈ (LayerTable.symbols (ofNames names).value).take i →
          Symbol.suffixed (baseSymbol i names[i]) i ∉ (names.mapIdx baseSymbol).take i := by
  -- What the layers ask for is a list of symbols and positions, each position once.
  have positions : ((ownSymbols names).map (·.2)).Nodup := by
    have e : (ownSymbols names).map (·.2) = List.range names.length := by
      refine List.ext_getElem (by simp [ownSymbols]) ?_
      intro i _ _
      simp [ownSymbols]
    rw [e]
    exact List.nodup_range
  have own : (ownSymbols names).map (·.1) = names.mapIdx baseSymbol := by
    refine List.ext_getElem (by simp [ownSymbols]) ?_
    intro i _ _
    simp [ownSymbols]
  -- A suffix tells its layers apart, since no two of them have the same position.
  have distinct : (LayerTable.symbols (ofNames names).value).Nodup ↔
      ∀ (i : Nat) (hi : i < names.length),
        baseSymbol i names[i] ∈ (LayerTable.symbols (ofNames names).value).take i →
          Symbol.suffixed (baseSymbol i names[i]) i ∉ (names.mapIdx baseSymbol).take i := by
    rw [symbols_ofNames, Symbol.nodup_distinguishAll_iff positions, own]
    simp [Symbol.Displaced, ownSymbols]
  exact ⟨fun h => distinct.mp h.symbols, fun h => .of_nodup (distinct.mpr h)⟩

/-- Distinct names do not make symbols unambiguous: the suffixed symbol of the last layer is the
own symbol of the first. -/
theorem not_unambiguous_of_suffix_taken :
    ["x_y_2", "x y", "x-y"].Nodup ∧ ¬ Unambiguous ["x_y_2", "x y", "x-y"] := by
  refine ⟨by decide, fun h => ?_⟩
  have symbols : LayerTable.symbols (ofNames ["x_y_2", "x y", "x-y"]).value
      = ["x_y_2", "x_y", "x_y_2"] := by decide +kernel
  have distinct := h.symbols
  rw [symbols] at distinct
  exact absurd distinct (by decide)

end LayerTable

end KeymapCompiler
