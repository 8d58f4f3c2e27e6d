/-
KeymapCompiler/Proofs/Binding/Dispatch.lean

What a binding is, decided by the canonical name of its behavior: a binding of a
built-in behavior, a raw binding, a call of a user behavior, or unknown (`Dispatched`).

A built-in behavior asks neither the registry nor anything but its own parameters, so
what is written is what `Fits` says (`Formatter.builtin_eq_ok_iff`).  That a behavior is
unknown is an error of its own, and no other step gives it: all errors of parameters are
of one kind, however deep they arise (`kind_of_key`, `kind_of_builtin`, `kind_of_call`).
-/
import KeymapCompiler.Proofs.Binding.Calls
import KeymapCompiler.Proofs.Binding.Families

namespace KeymapCompiler

open KeymapCompiler.Behavior

/-! ### Kinds of errors -/

/-- A traversal that fails does so at an item. -/
theorem exists_of_mapM_eq_error {α β ε : Type} {f : α → Except ε β} {xs : List α} {e : ε}
    (h : xs.mapM f = .error e) : ∃ x ∈ xs, f x = .error e := by
  induction xs with
  | nil => cases h
  | cons x rest ih =>
    rw [List.mapM_cons, bind_eq_error_iff] at h
    rcases h with h | ⟨y, -, h⟩
    · exact ⟨x, List.mem_cons_self, h⟩
    · rcases bind_eq_error_iff.mp h with h | ⟨ys, -, h⟩
      · obtain ⟨z, hz, e⟩ := ih h
        exact ⟨z, List.mem_cons_of_mem x hz, e⟩
      · cases h

theorem Param.kind_of_key : ∀ {p : Param} {depth : Nat} {e : FormatError},
    p.key depth = .error e → e.kind = .invalidParameterShape
  | .int n, depth, e, h => by
    rw [key] at h
    cases h
  | .str name, depth, e, h => by
    rw [key] at h
    split at h
    · cases h
      rfl
    · cases h
  -- The only case that passes on an error of another parameter.
  | .call function [p], depth, e, h => by
    rw [key] at h
    split at h
    · cases h
      rfl
    · split at h
      · exact kind_of_key (map_eq_error_iff.mp h)
      · cases h
        rfl
  | .call function [], depth, e, h => by
    rw [key] at h
    split at h
    · cases h
      rfl
    · split at h
      · cases h
        rfl
      · cases h
  | .call function (_ :: _ :: _), depth, e, h => by
    rw [key] at h
    split at h
    · cases h
      rfl
    · split at h
      · cases h
        rfl
      · cases h
        rfl
  | .invalid text, depth, e, h => by
    rw [key] at h
    cases h
    rfl

theorem kind_of_bluetoothIndex {command : String} {p : Param} {e : FormatError}
    (h : bluetoothIndex command p = .error e) : e.kind = .invalidParameterShape := by
  revert h
  fun_cases bluetoothIndex command p
  all_goals
    rintro ⟨⟩
  all_goals rfl

theorem kind_of_bluetoothCommand {name : String} {p : Param} {index : Option Param}
    {e : FormatError} (h : bluetooth.bluetoothCommand name p index = .error e) :
    e.kind = .invalidParameterShape := by
  revert h
  fun_cases bluetooth.bluetoothCommand name p index with
  | case2 command p takes => exact fun h => kind_of_bluetoothIndex (map_eq_error_iff.mp h)
  | case5 command takes => rintro ⟨⟩
  | _ =>
    rintro ⟨⟩
    rfl

theorem kind_of_bluetooth {name : String} {ps : List Param} {e : FormatError}
    (h : bluetooth name ps = .error e) : e.kind = .invalidParameterShape := by
  revert h
  fun_cases bluetooth name ps with
  | case1 p => exact kind_of_bluetoothCommand
  | case2 p index => exact kind_of_bluetoothCommand
  | case3 ps =>
    rintro ⟨⟩
    rfl

theorem Formatter.kind_of_layer {f : Formatter} {p : Param} {e : FormatError}
    (h : f.layer p = .error e) : e.kind = .invalidParameterShape := by
  revert h
  fun_cases Formatter.layer f p
  all_goals
    rintro ⟨⟩
  all_goals rfl

theorem Formatter.kind_of_builtin {f : Formatter} {name : String} {family : Family}
    {ps : List Param} {e : FormatError} (h : f.builtin name family ps = .error e) :
    e.kind = .invalidParameterShape := by
  revert h
  fun_cases Formatter.builtin f name family ps with
  | case1 => rintro ⟨⟩
  | case2 p | case3 p =>
    rw [bind_eq_error_iff]
    rintro (h | ⟨key, -, h⟩)
    · exact Param.kind_of_key h
    · cases h
  -- The layer is looked up first, so its error comes before that of the key.
  | case4 p q =>
    simp only [bind_eq_error_iff]
    rintro (h | ⟨layer, -, h | ⟨key, -, h⟩⟩)
    · exact kind_of_layer h
    · exact Param.kind_of_key h
    · cases h
  | case5 p q =>
    simp only [bind_eq_error_iff]
    rintro (h | ⟨modifier, -, h | ⟨key, -, h⟩⟩)
    · exact Param.kind_of_key h
    · exact Param.kind_of_key h
    · cases h
  | case6 p =>
    rw [bind_eq_error_iff]
    rintro (h | ⟨layer, -, h⟩)
    · exact kind_of_layer h
    · cases h
  | case7 => exact kind_of_bluetooth
  | case8 =>
    rintro ⟨⟩
    rfl

namespace Formatter

variable {f : Formatter} {b : Binding} {text : String}

theorem kind_of_call {name : String} {ps : List Param} {e : FormatError}
    (h : f.call name ps = .error e) : e.kind = .invalidParameterShape := by
  rw [call, bind_eq_error_iff] at h
  rcases h with h | ⟨texts, -, h⟩
  · obtain ⟨p, -, hp⟩ := exists_of_mapM_eq_error h
    exact Param.kind_of_key hp
  · cases h

theorem kind_of_raw {ps : List Param} {e : FormatError} (h : raw ps = .error e) :
    e.kind = .invalidParameterShape := by
  unfold raw at h
  split at h
  · cases h
  · cases h
    rfl

/-! ### What a name means -/

/-- The text of a literal parameter. -/
inductive LiteralText : Param → String → Prop where
  /-- An integer in decimal digits. -/
  | int (n : Int) : LiteralText (.int n) (toString n)
  /-- A text as it is. -/
  | str (s : String) : LiteralText (.str s) s

theorem literal?_eq_some_iff {p : Param} : p.literal? = some text ↔ LiteralText p text := by
  constructor
  · intro h
    cases p with
    | int n => exact Option.some.inj h ▸ .int n
    | str s => exact Option.some.inj h ▸ .str s
    | call function args => cases h
    | invalid raw => cases h
  · intro h
    cases h with
    | int n => rfl
    | str s => rfl

theorem raw_eq_ok_iff {ps : List Param} :
    raw ps = .ok text ↔ ∃ p rest, ps = p :: rest ∧ LiteralText p text := by
  unfold raw
  rcases ps with - | ⟨p, rest⟩
  · simp
  · simp only [← literal?_eq_some_iff, List.head?_cons, Option.bind_some]
    rcases hp : p.literal? with - | literal
    · simp [hp]
    · simp [hp]

theorem format_of_family? {family : Family} (h : family? (canonical b.behavior) = some family) :
    f.format b = f.builtin (canonical b.behavior) family b.params := by
  have named : canonical b.behavior ≠ "" := by
    have unnamed : family? "" = none := by decide +kernel
    intro e
    rw [e, unnamed] at h
    cases h
  unfold format
  simp only [h]
  rw [if_neg named]

theorem format_of_raw (h : canonical b.behavior = rawName) : f.format b = raw b.params := by
  unfold format
  simp only [h]
  rfl

/-- A behavior is unknown exactly when its name means nothing else. -/
theorem format_eq_unknownBehavior_iff {name : String} :
    f.format b = .error (.unknownBehavior name) ↔
      name = b.behavior ∧ canonical b.behavior ≠ "" ∧ family? (canonical b.behavior) = none ∧
        canonical b.behavior ≠ rawName ∧ isReference (canonical b.behavior) = false := by
  -- The errors of the steps are of another kind.
  have other : ∀ {x : Except FormatError String},
      (∀ e, x = .error e → e.kind = .invalidParameterShape) →
        x ≠ .error (.unknownBehavior name) := by
    intro x hx e
    have kind : WarningKind.unknownBehavior = .invalidParameterShape := hx _ e
    cases kind
  unfold format
  dsimp only
  by_cases hempty : canonical b.behavior = ""
  · rw [if_pos hempty]
    simp [hempty]
  rw [if_neg hempty]
  rcases hfamily : family? (canonical b.behavior) with - | family
  · by_cases hraw : canonical b.behavior = rawName
    · rw [if_pos hraw]
      exact iff_of_false (other fun _ => kind_of_raw) fun h => h.2.2.2.1 hraw
    · rw [if_neg hraw]
      rcases href : isReference (canonical b.behavior)
      · simp [hempty, hraw, eq_comm]
      · rw [if_pos rfl]
        exact iff_of_false (other fun _ => kind_of_call) fun h => nomatch h.2.2.2.2
  · refine iff_of_false (other fun _ => kind_of_builtin) fun h => nomatch h.2.2.1

/-- A binding that is written is one of a built-in behavior, a raw one or a call. -/
theorem format_eq_ok (h : f.format b = .ok text) :
    (∃ family, f.builtin (canonical b.behavior) family b.params = .ok text) ∨
      (canonical b.behavior = rawName ∧ raw b.params = .ok text) ∨
        f.call (canonical b.behavior) b.params = .ok text := by
  unfold format at h
  dsimp only at h
  split at h
  · cases h
  split at h
  · exact .inl ⟨_, h⟩
  split at h
  · next hraw => exact .inr (.inl ⟨hraw, h⟩)
  split at h
  · exact .inr (.inr h)
  · cases h

/-! ### Bindings -/

/-- What becomes of a binding. -/
structure Dispatched (f : Formatter) (b : Binding) : Prop where
  /-- A behavior is unknown when its name is not empty, not built in, not raw and no reference. -/
  unknown : f.format b = .error (.unknownBehavior b.behavior) ↔
    canonical b.behavior ≠ "" ∧ family? (canonical b.behavior) = none ∧
      canonical b.behavior ≠ rawName ∧ isReference (canonical b.behavior) = false
  /-- A built-in behavior is written as its name and one field for each parameter, in order,
  exactly when the parameters fit its family. -/
  builtin : ∀ family, family? (canonical b.behavior) = some family → ∀ text,
    f.format b = .ok text ↔
      ∃ fields, Fits f.layers family b.params fields ∧ fields.length = b.params.length ∧
        text = Devicetree.cells (canonical b.behavior :: fields)
  /-- What a built-in behavior is written as does not depend on the registry. -/
  registry : ∀ family, family? (canonical b.behavior) = some family → ∀ registry,
    format ⟨registry, f.layers⟩ b = f.format b
  /-- A raw binding is written as its first parameter, which must be a literal. -/
  raw : canonical b.behavior = rawName → ∀ text,
    f.format b = .ok text ↔ ∃ p rest, b.params = p :: rest ∧ LiteralText p text
  /-- The text is the same whether failures are reported or not. -/
  reported : ∀ context, (f.reported context b).value = f.text b
  /-- What can be written is the text, and is not reported. -/
  accepted : ∀ text, f.format b = .ok text →
    f.text b = text ∧ ∀ context, (f.reported context b).warnings = []
  /-- What cannot be written has an error token as its text, and one warning. -/
  refused : ∀ e, f.format b = .error e →
    f.text b = errorToken b e ∧ ∀ context,
      (f.reported context b).warnings = [⟨e.kind, context, b.shown ++ ": " ++ e.message⟩]

/-- **Dispatch.**  Every binding is taken for what the canonical name of its behavior says, and is
written or refused as its parameters deserve. -/
theorem format_dispatched (f : Formatter) (b : Binding) : Dispatched f b where
  unknown := by
    rw [format_eq_unknownBehavior_iff]
    exact and_iff_right rfl
  builtin family hfamily text := by
    rw [format_of_family? hfamily, builtin_eq_ok_iff]
    refine exists_congr fun fields => ?_
    constructor
    · rintro ⟨hfits, e⟩
      exact ⟨hfits, hfits.length_eq, e⟩
    · rintro ⟨hfits, -, e⟩
      exact ⟨hfits, e⟩
  -- A built-in behavior is written without a look at the registry.
  registry family hfamily registry := by
    rw [format_of_family? hfamily, format_of_family? hfamily]
    rfl
  raw hraw text := by
    rw [format_of_raw hraw, raw_eq_ok_iff]
  reported context := value_reported f context b
  accepted text h := by
    unfold Formatter.text Formatter.reported
    rw [h]
    exact ⟨rfl, fun _ => rfl⟩
  refused e h := by
    unfold Formatter.text Formatter.reported
    rw [h]
    exact ⟨rfl, fun _ => rfl⟩

end Formatter

end KeymapCompiler
