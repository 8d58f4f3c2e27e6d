/-
KeymapCompiler/Proofs/Compile/Isolation.lean

Two compiles of documents that differ in the binding for one key of one layer.

Of all that a compile makes, only the `keymap` node is made of the bindings of the
layers: names, symbols and declarations do not look at them, and neither does the
check of the structure (`formatter_rebind`, `check_rebind`).  In the keymap the
binding reaches its own cell and the lines of its own layer, and of the warnings it
has at most one.

There is one way in which it reaches further.  A cell that is too wide to be padded
makes the whole compile break off, so of two bindings one may let the document
compile and the other not.  `compile_rebind_alike_iff` says that the two compiles
end alike in all other cases, and in none of these.
-/
import KeymapCompiler.Proofs.Compile.Outcome
import KeymapCompiler.Proofs.Node.Rebind

namespace KeymapCompiler.Document

open KeymapCompiler.Behavior

variable (d : Document) (l : Layout) (map : Kconfig.Map) (i k : Nat) (b b' : Binding)

/-- The document with another binding for a key of a layer.  A document that has no binding for the
key stays as it is. -/
def rebind : Document :=
  { d with layers := Node.rebind d.layers i k b }

/-! ### What does not look at the binding -/

theorem namesOfLayers_rebind : (d.rebind i k b).namesOfLayers = d.namesOfLayers := by
  have count : (d.rebind i k b).layers.length = d.layers.length := List.length_modify _ _ _
  unfold namesOfLayers
  rw [count]
  rfl

theorem layerTable_rebind : (d.rebind i k b).layerTable = d.layerTable := by
  rw [layerTable, namesOfLayers_rebind, layerTable]

theorem formatter_rebind : (d.rebind i k b).formatter = d.formatter := by
  rw [formatter, layerTable_rebind]
  rfl

theorem check_rebind : check (d.rebind i k b) l = check d l := by
  have count : (d.rebind i k b).layers.length = d.layers.length := List.length_modify _ _ _
  unfold check
  rw [count]
  rfl

theorem sound_rebind_iff : (d.rebind i k b).Sound l ↔ d.Sound l := by
  rw [← check_errors_eq_nil_iff_sound, check_rebind, check_errors_eq_nil_iff_sound]

/-! ### Cells -/

/-- The cells of the layers, one for each key. -/
def cells : List (List String) :=
  d.layers.map (Node.cellTexts d.formatter l.keyCount)

/-- The blocks of the layers in the keymap, each with the symbol of the layer and its lines. -/
def blocks : List (String × List String) :=
  d.layerTable.symbols.zip ((d.cells l).map (Node.cellLines l))

theorem layerNodes_eq_blocks : Node.layerNodes d.formatter l d.layers = d.blocks l := by
  apply List.zip_of_prod
  · exact Node.map_fst_layerNodes d.length_layerTable.symm l
  · have layers : d.layers.zipIdx.map Prod.fst = d.layers := List.zipIdx_map_fst 0 d.layers
    rw [Node.layerNodes, List.map_map, cells, List.map_map]
    conv_rhs => rw [← layers, List.map_map]
    apply List.map_congr_left
    intro bs _
    show Node.cellLines l (Node.layerCells d.formatter l.keyCount _ bs.1).value = _
    rw [Node.value_layerCells]
    rfl

theorem getElem?_layers_rebind_of_ne {layer : Nat} (h : layer ≠ i) :
    (d.rebind i k b).layers[layer]? = d.layers[layer]? := by
  show (d.layers.modify i _)[layer]? = _
  rw [List.getElem?_modify]
  simp [h.symm]

theorem getElem?_layers_rebind_self :
    (d.rebind i k b).layers[i]? = d.layers[i]?.map (·.set k b) := by
  show (d.layers.modify i _)[i]? = _
  rw [List.getElem?_modify]
  simp

theorem getElem?_cells_rebind_of_ne {layer : Nat} (h : layer ≠ i) :
    ((d.rebind i k b).cells l)[layer]? = (d.cells l)[layer]? := by
  rw [cells, cells, List.getElem?_map, List.getElem?_map, formatter_rebind,
    getElem?_layers_rebind_of_ne _ _ _ _ h]

theorem getElem?_blocks_rebind_of_ne {layer : Nat} (h : layer ≠ i) :
    ((d.rebind i k b).blocks l)[layer]? = (d.blocks l)[layer]? := by
  have lines : (((d.rebind i k b).cells l).map (Node.cellLines l))[layer]?
      = ((d.cells l).map (Node.cellLines l))[layer]? := by
    rw [List.getElem?_map, List.getElem?_map, getElem?_cells_rebind_of_ne _ _ _ _ _ h]
  apply Option.ext
  intro block
  rw [blocks, blocks, layerTable_rebind, List.getElem?_zip_eq_some, List.getElem?_zip_eq_some,
    lines]

/-- The cell of a key in a layer. -/
def cell? (layer key : Nat) : Option String :=
  (d.cells l)[layer]?.bind (·[key]?)

theorem cell?_rebind_of_ne {key : Nat} (h : key ≠ k) :
    (d.rebind i k b).cell? l i key = d.cell? l i key := by
  rw [cell?, cell?, cells, cells, List.getElem?_map, List.getElem?_map, formatter_rebind,
    getElem?_layers_rebind_self]
  rcases d.layers[i]? with - | bs
  · rfl
  · exact Node.getElem?_cellTexts_set_of_ne d.formatter h l.keyCount bs b

/-! ### Widths -/

/-- Wherever the layout places a key, its cell in a layer can be padded. -/
def FitsAt (layer key : Nat) : Prop :=
  ∀ bindings, d.layers[layer]? = some bindings → ∀ row ∈ l.rows, ∀ column : Nat,
    row[column]? = some (.key key) → l.style.alignment.forColumn column ≠ .center →
      (Node.cellText d.formatter bindings key).length ≤ Grid.maxPadded

theorem narrow_iff_fitsAt : d.Narrow l ↔ ∀ layer key, d.FitsAt l layer key := by
  constructor
  · intro h layer key bindings hbindings row hrow column
    exact h bindings (List.mem_of_getElem? hbindings) row hrow column key
  · intro h bindings hbindings row hrow column key
    obtain ⟨layer, hlayer⟩ := List.mem_iff_getElem?.mp hbindings
    exact h layer key bindings hlayer row hrow column

theorem fitsAt_rebind_iff_of_ne {layer key : Nat} (h : ¬ (layer = i ∧ key = k)) :
    (d.rebind i k b).FitsAt l layer key ↔ d.FitsAt l layer key := by
  unfold FitsAt
  rw [formatter_rebind]
  by_cases hlayer : layer = i
  · subst hlayer
    have hkey : key ≠ k := fun e => h ⟨rfl, e⟩
    rw [getElem?_layers_rebind_self]
    rcases d.layers[layer]? with - | bs
    · simp
    · simp [Node.cellText_set_of_ne d.formatter hkey]
  · rw [getElem?_layers_rebind_of_ne _ _ _ _ hlayer]

/-- All cells but that of the key are narrow in the one document as in the other. -/
theorem narrow_rebind_iff : (d.rebind i k b).Narrow l ↔
    (∀ layer key, ¬ (layer = i ∧ key = k) → d.FitsAt l layer key) ∧
      (d.rebind i k b).FitsAt l i k := by
  rw [narrow_iff_fitsAt]
  constructor
  · intro h
    refine ⟨fun layer key hne => ?_, h i k⟩
    exact (d.fitsAt_rebind_iff_of_ne l i k b hne).mp (h layer key)
  · rintro ⟨hothers, hkey⟩ layer key
    by_cases hne : layer = i ∧ key = k
    · obtain ⟨rfl, rfl⟩ := hne
      exact hkey
    · exact (d.fitsAt_rebind_iff_of_ne l i k b hne).mpr (hothers layer key hne)

/-! ### Warnings -/

/-- The warnings of the binding for a key of a layer. -/
def keyReport : Report :=
  match d.layers[i]?.bind (·[k]?) with
  | some b => Node.keyWarnings d.formatter l.keyCount (Node.layerContext d.formatter i) k b
  | none => []

theorem length_keyReport_le_one : (d.keyReport l i k).length ≤ 1 := by
  unfold keyReport
  split
  · exact Node.length_keyWarnings_le_one _ _ _ _ _
  · exact Nat.zero_le 1

theorem keyReport_eq_nil (h : l.keyCount ≤ k) : d.keyReport l i k = [] := by
  unfold keyReport Node.keyWarnings
  split
  · exact if_neg (Nat.not_lt.mpr h)
  · rfl

theorem exists_warnings_keymap_rebind :
    ∃ front back, ∀ b, (Node.keymap d.formatter l (d.rebind i k b).layers).warnings
      = front ++ ((d.rebind i k b).keyReport l i k ++ back) := by
  rcases h : d.layers[i]?.bind (·[k]?) with - | b₀
  · -- There is no binding for the key, so nothing is changed.
    have same : ∀ b, d.rebind i k b = d := by
      intro b
      have layers : (d.rebind i k b).layers = d.layers := by
        apply List.ext_getElem?
        intro layer
        by_cases hlayer : layer = i
        · subst hlayer
          rw [getElem?_layers_rebind_self]
          rcases hbs : d.layers[layer]? with - | bs
          · rfl
          · rw [hbs] at h
            exact congrArg some (List.set_eq_of_length_le (List.getElem?_eq_none_iff.mp h))
        · exact d.getElem?_layers_rebind_of_ne i k b hlayer
      show ({ d with layers := (d.rebind i k b).layers } : Document) = d
      rw [layers]
    refine ⟨(Node.keymap d.formatter l d.layers).warnings, [], fun b => ?_⟩
    rw [same, keyReport, h, List.append_nil, List.append_nil]
  · obtain ⟨bs, hi, hk⟩ := Option.bind_eq_some_iff.mp h
    have hlt := (List.getElem?_eq_some_iff.mp hk).1
    obtain ⟨front, back, hwarnings⟩ := Node.exists_warnings_keymap_rebind d.formatter l hi hlt
    refine ⟨front, back, fun b => ?_⟩
    -- The key's own binding is the new one, and its report stands between the others.
    have own : (d.rebind i k b).layers[i]?.bind (·[k]?) = some b := by
      rw [getElem?_layers_rebind_self, hi]
      exact List.getElem?_set_self hlt
    rw [keyReport, own, formatter_rebind]
    exact hwarnings b

/-- So much of the warnings of a compile as comes before those of the binding, and so much as comes
after them, does not look at the binding. -/
theorem exists_warnings_compile_rebind :
    ∃ front back, ∀ b r, (d.rebind i k b).compile l map = .ok r →
      r.warnings = front ++ ((d.rebind i k b).keyReport l i k ++ back) := by
  obtain ⟨front, back, hkeymap⟩ := d.exists_warnings_keymap_rebind l i k
  -- All stages but the keymap's see the same document, whatever the binding is.
  refine ⟨noteWarnings (check d l).notes ++ (rejectedWarnings d.rejected
    ++ ((LayerTable.ofNames d.namesOfLayers).warnings
    ++ ((d.declare Registry.withBuiltins).warnings ++ front))),
    back ++ ((Node.holdTaps d.formatter l.keyCount d.declared.holdTaps).warnings
    ++ ((Node.userMacros d.formatter d.declared.userMacros).warnings
    ++ ((Node.combos d.formatter l d.combos).warnings
    ++ (Kconfig.configure map d.configParameters).warnings))), ?_⟩
  intro b r h
  obtain ⟨-, -, rfl⟩ := compile_eq_ok_iff.mp h
  dsimp only
  rw [check_rebind, warnings_fragments, namesOfLayers_rebind, formatter_rebind, hkeymap]
  simp only [List.append_assoc]
  rfl

/-! ### Results -/

/-- Results of two documents that agree in all but a key of a layer. -/
structure SameBut (d d' : Document) (l : Layout) (i k : Nat) (r r' : Reported Compiled) :
    Prop where
  /-- All that is made but the keymap is the same. -/
  fragments : r'.value = { r.value with keymap := r'.value.keymap }
  /-- The keymaps are written from the blocks of the layers. -/
  keymaps : r.value.keymap = Node.keymapSource (d.blocks l) ∧
    r'.value.keymap = Node.keymapSource (d'.blocks l)
  /-- The blocks of the other layers are the same. -/
  blocks : ∀ layer, layer ≠ i → (d.blocks l)[layer]? = (d'.blocks l)[layer]?
  /-- The cells of the other keys of the layer are the same. -/
  cells : ∀ key, key ≠ k → d.cell? l i key = d'.cell? l i key
  /-- Without the warnings of the binding, of which there is at most one, the warnings are the
  same. -/
  warnings : ∃ front back, r.warnings = front ++ (d.keyReport l i k ++ back) ∧
    r'.warnings = front ++ (d'.keyReport l i k ++ back) ∧
    (d.keyReport l i k).length ≤ 1 ∧ (d'.keyReport l i k).length ≤ 1
  /-- Past the last key all warnings are the same. -/
  ignored : l.keyCount ≤ k → r.warnings = r'.warnings

/-- Two ends of a compile that agree: the same failure, or the same result but for the key. -/
def EndAlike (d d' : Document) (l : Layout) (map : Kconfig.Map) (i k : Nat) : Prop :=
  (∃ e, d.compile l map = .error e ∧ d'.compile l map = .error e) ∨
    ∃ r r', d.compile l map = .ok r ∧ d'.compile l map = .ok r' ∧ SameBut d d' l i k r r'

variable {r r' : Reported Compiled}

theorem sameBut_rebind (h : (d.rebind i k b).compile l map = .ok r)
    (h' : (d.rebind i k b').compile l map = .ok r') :
    SameBut (d.rebind i k b) (d.rebind i k b') l i k r r' := by
  obtain ⟨front, back, hreport⟩ := d.exists_warnings_compile_rebind l map i k
  have hw := hreport b r h
  have hw' := hreport b' r' h'
  obtain ⟨-, -, rfl⟩ := compile_eq_ok_iff.mp h
  obtain ⟨-, -, rfl⟩ := compile_eq_ok_iff.mp h'
  -- The goals without a name say how the two keymaps are made of their blocks.
  refine ⟨?fragments, ⟨?_, ?_⟩, ?blocks, ?cells, ?warnings, ?ignored⟩
  case fragments =>
    dsimp only
    rw [value_fragments, value_fragments, formatter_rebind, formatter_rebind, layerTable_rebind,
      layerTable_rebind]
    rfl
  case blocks =>
    intro layer hlayer
    rw [d.getElem?_blocks_rebind_of_ne l i k b hlayer,
      d.getElem?_blocks_rebind_of_ne l i k b' hlayer]
  case cells =>
    intro key hkey
    rw [d.cell?_rebind_of_ne l i k b hkey, d.cell?_rebind_of_ne l i k b' hkey]
  case warnings =>
    exact ⟨front, back, hw, hw', length_keyReport_le_one _ l i k, length_keyReport_le_one _ l i k⟩
  case ignored =>
    intro hpast
    rw [hw, hw', keyReport_eq_nil _ l i k hpast, keyReport_eq_nil _ l i k hpast]
  all_goals
    dsimp only
    rw [value_fragments, ← layerNodes_eq_blocks]
    exact Node.value_keymap_eq_source _ _ _

/-- **Isolation.**  Two documents that differ in the binding for a key of a layer compile alike, the
binding aside.  The one exception is a document that would compile but for the width of the cell,
if the cell can be padded with one of the bindings and cannot with the other. -/
theorem compile_rebind_alike_iff :
    EndAlike (d.rebind i k b) (d.rebind i k b') l map i k ↔
      (d.Sound l → (∀ layer key, ¬ (layer = i ∧ key = k) → d.FitsAt l layer key) →
        ((d.rebind i k b).FitsAt l i k ↔ (d.rebind i k b').FitsAt l i k)) := by
  by_cases hsound : d.Sound l
  · -- In a sound document the widths of the cells decide whether the compile succeeds.
    have succeeds : ∀ b, (∃ r, (d.rebind i k b).compile l map = .ok r)
        ↔ (d.rebind i k b).Narrow l := by
      intro b
      rw [exists_compile_eq_ok_iff, sound_rebind_iff, and_iff_right hsound]
    have breaks : ∀ b, (d.rebind i k b).compile l map = .error .unpaddable
        ↔ ¬ (d.rebind i k b).Narrow l := by
      intro b
      rw [compile_eq_unpaddable_iff, sound_rebind_iff, and_iff_right hsound]
    by_cases hothers : ∀ layer key, ¬ (layer = i ∧ key = k) → d.FitsAt l layer key
    · -- All other cells fit, so the key's own cell decides on its own.
      simp only [narrow_rebind_iff, and_iff_right hothers] at succeeds breaks
      constructor
      · rintro (⟨e, he, he'⟩ | ⟨r, r', hr, hr', -⟩) - -
        · refine iff_of_false (fun hfits => ?_) fun hfits => ?_
          · obtain ⟨r, hr⟩ := (succeeds b).mpr hfits
            exact absurd (he.symm.trans hr) (by simp)
          · obtain ⟨r, hr⟩ := (succeeds b').mpr hfits
            exact absurd (he'.symm.trans hr) (by simp)
        · exact iff_of_true ((succeeds b).mp ⟨r, hr⟩) ((succeeds b').mp ⟨r', hr'⟩)
      · intro h
        have same := h hsound hothers
        by_cases hfits : (d.rebind i k b).FitsAt l i k
        · obtain ⟨r, hr⟩ := (succeeds b).mpr hfits
          obtain ⟨r', hr'⟩ := (succeeds b').mpr (same.mp hfits)
          exact .inr ⟨r, r', hr, hr', d.sameBut_rebind l map i k b b' hr hr'⟩
        · exact .inl ⟨.unpaddable, (breaks b).mpr hfits, (breaks b').mpr (mt same.mpr hfits)⟩
    · -- Some other cell is too wide, so both compiles break off.
      have never : ∀ b, ¬ (d.rebind i k b).Narrow l := by
        intro b h
        exact hothers ((d.narrow_rebind_iff l i k b).mp h).1
      refine iff_of_true
        (.inl ⟨.unpaddable, (breaks b).mpr (never b), (breaks b').mpr (never b')⟩) ?_
      intro _ h
      exact absurd h hothers
  · -- A document that is not sound is refused with the same errors whatever the binding is.
    have refused : ∀ b,
        (d.rebind i k b).compile l map = .error (.malformed (check d l).errors) := by
      intro b
      rw [← d.check_rebind l i k b, compile_eq_malformed_iff_not_sound, sound_rebind_iff]
      exact hsound
    exact iff_of_true (.inl ⟨_, refused b, refused b'⟩) fun h => absurd h hsound

/-- A raw binding that is wider than a cell can be padded to. -/
def wideBinding : Binding :=
  ⟨rawName, [.str (String.ofList (List.replicate (Grid.maxPadded + 1) 'x'))]⟩

/-- Two bindings for one key, of which one lets the document compile and the other does not. -/
theorem exists_rebind_not_endAlike :
    ∃ b b' r, (wide.rebind 0 0 b).compile Layout.sample [] = .ok r ∧
      (wide.rebind 0 0 b').compile Layout.sample [] = .error .unpaddable ∧
      ¬ EndAlike (wide.rebind 0 0 b) (wide.rebind 0 0 b') Layout.sample [] 0 0 := by
  have hbreaks : (wide.rebind 0 0 wideBinding).compile Layout.sample [] = .error .unpaddable :=
    compile_wide
  have hok : (wide.rebind 0 0 Binding.none).compile Layout.sample [] = .ok _ :=
    compile_eq_ok_iff.mpr ⟨by decide +kernel, by decide +kernel, rfl⟩
  refine ⟨Binding.none, wideBinding, _, hok, hbreaks, ?_⟩
  rintro (⟨e, he, -⟩ | ⟨r, r', -, hr', -⟩)
  · exact absurd (hok.symm.trans he) (by simp)
  · exact absurd (hbreaks.symm.trans hr') (by simp)

end KeymapCompiler.Document
