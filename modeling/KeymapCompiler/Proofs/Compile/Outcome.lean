/-
KeymapCompiler/Proofs/Compile/Outcome.lean

When a document compiles.  There are three outcomes, and `compile_outcome` says
when each comes about:

* the document and the layout do not fit together, and the compile fails with the
  errors of the check;
* they fit, but a cell is too wide to be padded, and the compile breaks off;
* neither, and the compile succeeds.

All other faults of a document are reported and do not stop a compile.  Width is a
matter of the texts of single keys, so the second outcome means that a binding
alone can make a compile fail.
-/
import KeymapCompiler.Proofs.Compile.Clean
import KeymapCompiler.Proofs.Node.Keymap

namespace KeymapCompiler

open KeymapCompiler.Behavior

theorem Formatter.text_raw (f : Formatter) (s : String) (rest : List Param) :
    f.text ⟨rawName, .str s :: rest⟩ = s := by
  have name : canonical rawName = rawName := by decide +kernel
  have family : family? rawName = none := by decide +kernel
  have format : f.format ⟨rawName, .str s :: rest⟩ = .ok s := by
    unfold Formatter.format
    simp only [name, family]
    rw [if_neg (by decide), if_pos trivial]
    rfl
  rw [text, format]

/-- The key of a slot is a key of the layout. -/
theorem Layout.mem_keys_of_getElem? {l : Layout} {row : List Slot} {column key : Nat}
    (hrow : row ∈ l.rows) (hkey : row[column]? = some (.key key)) : key ∈ l.keys :=
  List.mem_filterMap.mpr
    ⟨.key key, List.mem_flatten.mpr ⟨row, hrow, List.mem_of_getElem? hkey⟩, rfl⟩

namespace Document

variable {d : Document} {l : Layout}

/-! ### Structure -/

/-- A document and a layout that fit together. -/
structure Sound (d : Document) (l : Layout) : Prop where
  /-- The keyboard has keys. -/
  keyCount : 0 < l.keyCount
  /-- The layout has a row with slots. -/
  rows : ∃ row ∈ l.rows, row ≠ []
  /-- The slots hold keys of the keyboard. -/
  keys : ∀ key ∈ l.keys, key < l.keyCount
  /-- The document has layers. -/
  layers : d.layers ≠ []
  /-- The document has no more names than layers. -/
  names : d.layerNames.length ≤ d.layers.length

theorem check_errors_eq_nil_iff_sound : (check d l).errors = [] ↔ d.Sound l := by
  have rows : l.rows.all List.isEmpty = false ↔ ∃ row ∈ l.rows, row ≠ [] := by
    simp [List.all_eq_false]
  rw [check, Findings.errors_append, List.append_eq_nil_iff, checkLayout_errors_eq_nil_iff,
    checkLayers_errors_eq_nil_iff, rows, ← Nat.pos_iff_ne_zero, ← Nat.pos_iff_ne_zero,
    List.length_pos_iff]
  constructor
  · rintro ⟨⟨hcount, hrows, hkeys⟩, hlayers, hnames⟩
    exact ⟨hcount, hrows, hkeys, hlayers, hnames⟩
  · rintro ⟨hcount, hrows, hkeys, hlayers, hnames⟩
    exact ⟨⟨hcount, hrows, hkeys⟩, hlayers, hnames⟩

/-! ### Widths -/

/-- No key outside the centred columns has a cell that is too wide to be padded. -/
def Narrow (d : Document) (l : Layout) : Prop :=
  ∀ bindings ∈ d.layers, ∀ row ∈ l.rows, ∀ column key : Nat,
    row[column]? = some (.key key) → l.style.alignment.forColumn column ≠ .center →
      (Node.cellText d.formatter bindings key).length ≤ Grid.maxPadded

/-- Narrow cells are those that can be padded, if the slots hold keys of the keyboard. -/
theorem isPaddable_iff_narrow (hkeys : ∀ key ∈ l.keys, key < l.keyCount) :
    Node.isPaddable d.formatter l d.layers = true ↔ d.Narrow l := by
  rw [Node.isPaddable, List.all_eq_true]
  refine forall₂_congr fun bindings _ => ?_
  rw [Grid.isPaddable_iff]
  -- Every key of a slot has one cell, so a bound on cells is a bound on the texts of keys.
  refine forall₂_congr fun row hrow => forall₂_congr fun column key => ?_
  constructor
  · intro h hkey
    have hlt := hkeys key (Layout.mem_keys_of_getElem? hrow hkey)
    exact h _ hkey (Node.getElem?_cellTexts d.formatter hlt bindings)
  · intro h text hkey htext
    have hlt := hkeys key (Layout.mem_keys_of_getElem? hrow hkey)
    rw [Node.getElem?_cellTexts d.formatter hlt bindings] at htext
    obtain rfl := Option.some.inj htext
    exact h hkey

/-! ### Outcomes -/

variable (d l) (map : Kconfig.Map)

theorem exists_compile_eq_ok_iff :
    (∃ r, d.compile l map = .ok r) ↔ d.Sound l ∧ d.Narrow l := by
  constructor
  · rintro ⟨r, hr⟩
    obtain ⟨herrors, hpaddable, -⟩ := compile_eq_ok_iff.mp hr
    have hsound := check_errors_eq_nil_iff_sound.mp herrors
    exact ⟨hsound, (isPaddable_iff_narrow hsound.keys).mp hpaddable⟩
  · rintro ⟨hsound, hnarrow⟩
    exact ⟨_, compile_eq_ok_iff.mpr ⟨check_errors_eq_nil_iff_sound.mpr hsound,
      (isPaddable_iff_narrow hsound.keys).mpr hnarrow, rfl⟩⟩

theorem compile_eq_malformed_iff_not_sound :
    d.compile l map = .error (.malformed (check d l).errors) ↔ ¬ d.Sound l := by
  rw [compile_eq_malformed_iff, and_iff_left rfl, ne_eq, check_errors_eq_nil_iff_sound]

theorem compile_eq_unpaddable_iff :
    d.compile l map = .error .unpaddable ↔ d.Sound l ∧ ¬ d.Narrow l := by
  by_cases hsound : d.Sound l
  · have valid : (check d l).isValid = true := by
      rw [Findings.isValid, check_errors_eq_nil_iff_sound.mpr hsound]
      rfl
    rw [and_iff_right hsound, ← isPaddable_iff_narrow hsound.keys]
    unfold compile
    dsimp only
    rw [if_pos valid]
    split <;> simp_all
  · rw [(compile_eq_malformed_iff_not_sound d l map).mpr hsound]
    simp [hsound]

/-- **Outcomes.**  A compile succeeds exactly when the document and the layout fit together and no
cell is too wide.  It fails with the errors of the check exactly when they do not fit, and breaks
off exactly when they do but a cell is too wide.  The errors are worded one after the other, with
semicolons between them. -/
theorem compile_outcome :
    ((∃ r, d.compile l map = .ok r) ↔ d.Sound l ∧ d.Narrow l) ∧
      (d.compile l map = .error (.malformed (check d l).errors) ↔ ¬ d.Sound l) ∧
      malformedMessage (check d l).errors
        = "; ".intercalate ((check d l).errors.map StructuralError.shown) ∧
      (d.compile l map = .error .unpaddable ↔ d.Sound l ∧ ¬ d.Narrow l) :=
  ⟨exists_compile_eq_ok_iff d l map, compile_eq_malformed_iff_not_sound d l map, rfl,
    compile_eq_unpaddable_iff d l map⟩

/-- A document with a raw binding that is wider than a cell can be padded to. -/
def wide : Document :=
  { sample with
    layerNames := ["Base"]
    layers := [[⟨rawName, [.str (String.ofList (List.replicate (Grid.maxPadded + 1) 'x'))]⟩]] }

theorem sound_wide : wide.Sound Layout.sample :=
  ⟨by decide, ⟨_, List.mem_cons_self, by decide⟩, by decide, by simp [wide], by simp [wide]⟩

theorem compile_wide : wide.compile Layout.sample [] = .error .unpaddable := by
  refine (compile_eq_unpaddable_iff _ _ _).mpr ⟨sound_wide, fun hnarrow => ?_⟩
  -- The binding is on the first key, whose column is aligned right.
  have width := hnarrow _ List.mem_cons_self _ List.mem_cons_self 0 0 rfl (by decide)
  rw [Node.cellText] at width
  simp only [List.getElem?_cons_zero, Formatter.text_raw, String.length_ofList,
    List.length_replicate] at width
  omega

/-- The text of a binding makes a compile fail, though the document fits the layout. -/
theorem exists_sound_compile_eq_error :
    wide.Sound Layout.sample ∧ wide.compile Layout.sample [] = .error .unpaddable :=
  ⟨sound_wide, compile_wide⟩

end Document

end KeymapCompiler
