/-
KeymapCompiler/Proofs/Binding/Families.lean

The parameters of built-in behaviors.  `Fits` says for each family which parameters it
takes, and gives for each parameter the field that stands for it.  It has one
constructor a family, and two for Bluetooth, where the command decides whether an index
follows.  The registry does not occur in it: what a built-in behavior takes is fixed.

`builtin_eq_ok_iff` says that a built-in behavior is written exactly when its parameters
fit, as its name and the fields in order.  It goes by the families as they are checked.
Six of them write one or two fields after the name (`written_one_iff`,
`written_two_iff`); the check that is left over refuses every other number of
parameters.
-/
import KeymapCompiler.Binding.Format
import KeymapCompiler.Proofs.Except

namespace KeymapCompiler

open KeymapCompiler.Behavior

/-! ### Fields -/

/-- The field of a layer: an index, the preprocessor symbol of a layer of that name, or any other
name as it is. -/
inductive LayerField (layers : LayerTable) : Param → String → Prop where
  /-- An index. -/
  | index {n : Int} : 0 ≤ n → LayerField layers (.int n) (toString n)
  /-- The name of a layer. -/
  | declared {name symbol : String} :
    layers.define? name = some symbol → LayerField layers (.str name) symbol
  /-- Any other name. -/
  | other {name : String} : layers.define? name = none → LayerField layers (.str name) name

/-- A text is a natural number of 32 bits in decimal digits, with or without a plus sign. -/
def IsIndexText (s : String) : Prop :=
  ∃ digits, (s.toList = digits ∨ s.toList = '+' :: digits) ∧ digits ≠ [] ∧
    (∀ c ∈ digits, c.isDigit = true) ∧ Text.ofDigits digits < Word.count 32

/-- The field of a profile index. -/
inductive IndexField : Param → String → Prop where
  /-- A number. -/
  | number {n : Int} : 0 ≤ n → IndexField (.int n) (toString n)
  /-- A number as a text. -/
  | text {s : String} : IsIndexText s → IndexField (.str s) s

/-- Parameters fit a family, and are written as fields. -/
inductive Fits (layers : LayerTable) : Family → List Param → List String → Prop where
  /-- No parameters. -/
  | plain : Fits layers .plain [] []
  /-- A key. -/
  | keyPress {p : Param} {key : String} : p.key 0 = .ok key → Fits layers .keyPress [p] [key]
  /-- A layer, then a key. -/
  | layerTap {p q : Param} {layer key : String} :
    LayerField layers p layer → q.key 0 = .ok key → Fits layers .layerTap [p, q] [layer, key]
  /-- A key, then another. -/
  | modTap {p q : Param} {modifier key : String} :
    p.key 0 = .ok modifier → q.key 0 = .ok key → Fits layers .modTap [p, q] [modifier, key]
  /-- A layer. -/
  | layer {p : Param} {layer : String} : LayerField layers p layer → Fits layers .layer [p] [layer]
  /-- A parameter written like a key. -/
  | single {p : Param} {key : String} : p.key 0 = .ok key → Fits layers .single [p] [key]
  /-- A Bluetooth command that takes no index. -/
  | command {name : String} :
    takesIndex? name = some false → Fits layers .bluetooth [.str name] [name]
  /-- A Bluetooth command that takes an index, then the index. -/
  | profile {name index : String} {p : Param} :
    takesIndex? name = some true → IndexField p index →
      Fits layers .bluetooth [.str name, p] [name, index]

/-- Each parameter has one field. -/
theorem Fits.length_eq {layers : LayerTable} {family : Family} {ps : List Param}
    {fields : List String} (h : Fits layers family ps fields) : fields.length = ps.length := by
  cases h with
  | plain => rfl
  | keyPress h => rfl
  | layerTap hlayer hkey => rfl
  | modTap hmodifier hkey => rfl
  | layer h => rfl
  | single h => rfl
  | command h => rfl
  | profile h hindex => rfl

/-! ### Layers and indices -/

theorem isProfileIndex_iff (s : String) : isProfileIndex s = true ↔ IsIndexText s := by
  have plus : '+'.isDigit = false := by decide
  unfold isProfileIndex IsIndexText
  split
  · rename_i rest hs
    simp only [hs, Bool.and_eq_true, Bool.not_eq_true', List.isEmpty_eq_false_iff,
      List.all_eq_true, decide_eq_true_eq, List.cons.injEq, true_and]
    constructor
    · rintro ⟨⟨hne, hdigits⟩, hlt⟩
      exact ⟨rest, .inr rfl, hne, hdigits, hlt⟩
    · rintro ⟨digits, rfl | rfl, hne, hdigits, hlt⟩
      · -- A plus sign is no digit, so the digits start behind it.
        rw [hdigits '+' List.mem_cons_self] at plus
        cases plus
      · exact ⟨⟨hne, hdigits⟩, hlt⟩
  · rename_i hs
    simp only [Bool.and_eq_true, Bool.not_eq_true', List.isEmpty_eq_false_iff,
      List.all_eq_true, decide_eq_true_eq]
    constructor
    · rintro ⟨⟨hne, hdigits⟩, hlt⟩
      exact ⟨s.toList, .inl rfl, hne, hdigits, hlt⟩
    · rintro ⟨digits, rfl | h, hne, hdigits, hlt⟩
      · exact ⟨⟨hne, hdigits⟩, hlt⟩
      · exact absurd h (hs digits)

theorem bluetoothIndex_eq_ok_iff {command index : String} {p : Param} :
    bluetoothIndex command p = .ok index ↔ IndexField p index := by
  constructor
  · intro h
    cases p with
    | int n =>
      rw [bluetoothIndex] at h
      split at h
      · rename_i hn
        exact Except.ok.inj h ▸ .number hn
      · cases h
    | str s =>
      rw [bluetoothIndex] at h
      split at h
      · rename_i hs
        exact Except.ok.inj h ▸ .text ((isProfileIndex_iff s).mp hs)
      · cases h
    | call function args => cases h
    | invalid text => cases h
  · intro h
    cases h with
    | number hn => rw [bluetoothIndex, if_pos hn]
    | text hs => rw [bluetoothIndex, if_pos ((isProfileIndex_iff _).mpr hs)]

theorem Formatter.layer_eq_ok_iff {f : Formatter} {p : Param} {field : String} :
    f.layer p = .ok field ↔ LayerField f.layers p field := by
  constructor
  · intro h
    cases p with
    | int n =>
      rw [layer] at h
      split at h
      · rename_i hn
        exact Except.ok.inj h ▸ .index hn
      · cases h
    | str name =>
      rw [layer] at h
      rcases hdefine : f.layers.define? name with - | symbol
      · rw [hdefine] at h
        exact Except.ok.inj h ▸ .other hdefine
      · rw [hdefine] at h
        exact Except.ok.inj h ▸ .declared hdefine
    | call function args => cases h
    | invalid text => cases h
  · intro h
    cases h with
    | index hn => rw [layer, if_pos hn]
    | declared hdefine => rw [layer, hdefine, Option.getD_some]
    | other hdefine => rw [layer, hdefine, Option.getD_none]

/-! ### Names with fields -/

theorem cells_one (name field : String) :
    Devicetree.cells [name, field] = name ++ " " ++ field := by
  simp [Devicetree.cells]

theorem cells_two (name first second : String) :
    Devicetree.cells [name, first, second] = name ++ " " ++ first ++ " " ++ second := by
  simp [Devicetree.cells, String.append_assoc]

section Written

variable {x y : Except FormatError String} {R : List String → Prop} {name text : String}

/-- One field is written after the name. -/
theorem written_one_iff (h : ∀ fields, R fields ↔ ∃ field, x = .ok field ∧ fields = [field]) :
    (do let field ← x; .ok (name ++ " " ++ field)) = (.ok text : Except FormatError String) ↔
      ∃ fields, R fields ∧ text = Devicetree.cells (name :: fields) := by
  rw [bind_eq_ok_iff]
  constructor
  · rintro ⟨field, hx, e⟩
    exact ⟨[field], (h _).mpr ⟨field, hx, rfl⟩, by rw [cells_one, Except.ok.inj e]⟩
  · rintro ⟨fields, hfields, rfl⟩
    obtain ⟨field, hx, rfl⟩ := (h fields).mp hfields
    exact ⟨field, hx, by rw [cells_one]⟩

/-- Two fields are written after the name, in order. -/
theorem written_two_iff
    (h : ∀ fields, R fields ↔ ∃ first second, x = .ok first ∧ y = .ok second ∧
      fields = [first, second]) :
    (do let first ← x; let second ← y; .ok (name ++ " " ++ first ++ " " ++ second))
        = (.ok text : Except FormatError String) ↔
      ∃ fields, R fields ∧ text = Devicetree.cells (name :: fields) := by
  simp only [bind_eq_ok_iff]
  constructor
  · rintro ⟨first, hx, second, hy, e⟩
    exact ⟨[first, second], (h _).mpr ⟨first, second, hx, hy, rfl⟩,
      by rw [cells_two, Except.ok.inj e]⟩
  · rintro ⟨fields, hfields, rfl⟩
    obtain ⟨first, second, hx, hy, rfl⟩ := (h fields).mp hfields
    exact ⟨first, hx, second, hy, by rw [cells_two]⟩

end Written

/-! ### Bluetooth -/

variable {layers : LayerTable} {name text : String} {ps : List Param}

/-- What follows a command is decided by the command. -/
theorem fits_command_iff {command : String} {fields : List String} :
    Fits layers .bluetooth (.str command :: ps) fields ↔
      (takesIndex? command = some false ∧ ps = [] ∧ fields = [command]) ∨
        takesIndex? command = some true ∧
          ∃ p index, ps = [p] ∧ IndexField p index ∧ fields = [command, index] := by
  constructor
  · intro h
    cases h with
    | command takes => exact .inl ⟨takes, rfl, rfl⟩
    | profile takes hindex => exact .inr ⟨takes, _, _, rfl, hindex, rfl⟩
  · rintro (⟨takes, rfl, rfl⟩ | ⟨takes, p, index, rfl, hindex, rfl⟩)
    · exact .command takes
    · exact .profile takes hindex

theorem bluetoothCommand_eq_ok_iff {p : Param} {index : Option Param} :
    bluetooth.bluetoothCommand name p index = .ok text ↔
      ∃ fields, Fits layers .bluetooth (p :: index.toList) fields ∧
        text = Devicetree.cells (name :: fields) := by
  fun_cases bluetooth.bluetoothCommand name p index with
  | case1 index command takes => simp [fits_command_iff, takes]
  -- A command with its index. It is written exactly when the index is.
  | case2 command p takes =>
    rw [map_eq_ok_iff]
    constructor
    · rintro ⟨index, hindex, rfl⟩
      exact ⟨[command, index], .profile takes (bluetoothIndex_eq_ok_iff.mp hindex),
        (cells_two name command index).symm⟩
    · rintro ⟨fields, h, rfl⟩
      obtain ⟨-, hp, -⟩ | ⟨-, q, index, hp, hindex, rfl⟩ := fits_command_iff.mp h
      · cases hp
      · cases hp
        exact ⟨index, bluetoothIndex_eq_ok_iff.mpr hindex, (cells_two name command index).symm⟩
  -- An index is missing, or there is one too many.
  | case3 command takes => simp [fits_command_iff, takes]
  | case4 command p takes => simp [fits_command_iff, takes]
  | case5 command takes =>
    constructor
    · intro h
      exact ⟨[command], .command takes, by rw [cells_one, Except.ok.inj h]⟩
    · rintro ⟨fields, h, rfl⟩
      obtain ⟨-, -, rfl⟩ | ⟨-, q, index, hp, -⟩ := fits_command_iff.mp h
      · rw [cells_one]
      · cases hp
  | case6 p index notName =>
    refine iff_of_false (fun h => nomatch h) ?_
    rintro ⟨fields, h, -⟩
    generalize index.toList = indices at h
    cases h with
    | command h => exact notName _ rfl
    | profile h hindex => exact notName _ rfl

theorem bluetooth_eq_ok_iff :
    bluetooth name ps = .ok text ↔
      ∃ fields, Fits layers .bluetooth ps fields ∧ text = Devicetree.cells (name :: fields) := by
  fun_cases bluetooth name ps with
  | case1 p => exact bluetoothCommand_eq_ok_iff
  | case2 p index => exact bluetoothCommand_eq_ok_iff
  | case3 ps one two =>
    refine iff_of_false (fun h => nomatch h) ?_
    rintro ⟨fields, h, -⟩
    cases h with
    | command h => exact one _ rfl
    | profile h hindex => exact two _ _ rfl

/-! ### All families -/

/-- A built-in behavior is written exactly when its parameters fit, as its name and the fields. -/
theorem Formatter.builtin_eq_ok_iff {f : Formatter} {family : Family} :
    f.builtin name family ps = .ok text ↔
      ∃ fields, Fits f.layers family ps fields ∧ text = Devicetree.cells (name :: fields) := by
  fun_cases Formatter.builtin f name family ps with
  | case1 =>
    constructor
    · intro h
      exact ⟨[], .plain, (Except.ok.inj h).symm⟩
    · rintro ⟨fields, h, rfl⟩
      cases h with
      | plain => rfl
  | case2 p =>
    refine written_one_iff fun fields => ⟨fun h => ?_, ?_⟩
    · cases h with
      | keyPress hkey => exact ⟨_, hkey, rfl⟩
    · rintro ⟨key, hkey, rfl⟩
      exact .keyPress hkey
  | case3 p =>
    refine written_one_iff fun fields => ⟨fun h => ?_, ?_⟩
    · cases h with
      | single hkey => exact ⟨_, hkey, rfl⟩
    · rintro ⟨key, hkey, rfl⟩
      exact .single hkey
  | case4 p q =>
    refine written_two_iff fun fields => ⟨fun h => ?_, ?_⟩
    · cases h with
      | layerTap hlayer hkey => exact ⟨_, _, layer_eq_ok_iff.mpr hlayer, hkey, rfl⟩
    · rintro ⟨layer, key, hlayer, hkey, rfl⟩
      exact .layerTap (layer_eq_ok_iff.mp hlayer) hkey
  | case5 p q =>
    refine written_two_iff fun fields => ⟨fun h => ?_, ?_⟩
    · cases h with
      | modTap hmodifier hkey => exact ⟨_, _, hmodifier, hkey, rfl⟩
    · rintro ⟨modifier, key, hmodifier, hkey, rfl⟩
      exact .modTap hmodifier hkey
  | case6 p =>
    refine written_one_iff fun fields => ⟨fun h => ?_, ?_⟩
    · cases h with
      | layer hlayer => exact ⟨_, layer_eq_ok_iff.mpr hlayer, rfl⟩
    · rintro ⟨layer, hlayer, rfl⟩
      exact .layer (layer_eq_ok_iff.mp hlayer)
  | case7 => exact bluetooth_eq_ok_iff
  -- Every family with its number of parameters has a case of its own above.
  | case8 family ps notPlain notKey notSingle notLayerTap notModTap =>
    rename_i notBluetooth notLayer
    refine iff_of_false (fun h => nomatch h) ?_
    rintro ⟨fields, h, -⟩
    cases h with
    | plain => exact notPlain rfl rfl
    | keyPress h => exact notKey _ rfl rfl
    | layerTap hlayer hkey => exact notLayerTap _ _ rfl rfl
    | modTap hmodifier hkey => exact notModTap _ _ rfl rfl
    | layer h => exact notLayer _ rfl rfl
    | single h => exact notSingle _ rfl rfl
    | command h => exact notBluetooth rfl
    | profile h hindex => exact notBluetooth rfl

end KeymapCompiler
