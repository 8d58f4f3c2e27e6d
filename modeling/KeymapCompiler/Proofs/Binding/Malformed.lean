/-
KeymapCompiler/Proofs/Binding/Malformed.lean

Malformed input is not written.  A value that is no parameter is read as a malformed one
and kept, and it stays in its place in the tree of parameters: inside of a call, or
after the last cell that a call of a user behavior has.

No way of writing a binding loses it.  A key is written only if there is none inside of it
(`not_occurs_of_key`), by induction on where it stands; a layer and a profile index are
literals; and every parameter that fits a family is one of these (`Fits.not_occurs`).
Only a raw binding leaves parameters unread, all but the first.
-/
import KeymapCompiler.Proofs.Binding.Dispatch
import KeymapCompiler.Proofs.Binding.Modifiers

namespace KeymapCompiler

open KeymapCompiler.Behavior KeymapCompiler.Json

/-! ### Trees of parameters -/

namespace Param

/-- A parameter stands somewhere in another, or is it. -/
inductive Occurs (p : Param) : Param → Prop where
  /-- It is the parameter itself. -/
  | here : Occurs p p
  /-- It stands in a parameter of a call. -/
  | inside {function : String} {args : List Param} {q : Param} :
    q ∈ args → Occurs p q → Occurs p (.call function args)

variable {p : Param} {raw text : String}

/-- A key is written only if nothing in it is malformed. -/
theorem not_occurs_of_key {depth : Nat} (h : p.key depth = .ok text) :
    ¬ Occurs (.invalid raw) p := by
  intro hoccurs
  induction hoccurs generalizing depth text with
  | here =>
    rw [key] at h
    cases h
  | @inside function args q hq hoccurs ih =>
    obtain ⟨-, ⟨modifier, arg, inner, -, rfl, harg, -⟩ | ⟨-, rfl, -⟩⟩ := key_call_eq_ok h
    · obtain rfl := List.mem_singleton.mp hq
      exact ih harg
    · exact absurd hq List.not_mem_nil

theorem not_occurs_int (n : Int) : ¬ Occurs (.invalid raw) (.int n) := by
  rintro ⟨⟩

theorem not_occurs_str (s : String) : ¬ Occurs (.invalid raw) (.str s) := by
  rintro ⟨⟩

end Param

open Param

/-! ### Bindings -/

variable {layers : LayerTable} {p : Param} {field raw : String}

theorem LayerField.not_occurs (h : LayerField layers p field) : ¬ Occurs (.invalid raw) p := by
  cases h with
  | index hn => exact not_occurs_int _
  | declared hname => exact not_occurs_str _
  | other hname => exact not_occurs_str _

theorem IndexField.not_occurs (h : IndexField p field) : ¬ Occurs (.invalid raw) p := by
  cases h with
  | number hn => exact not_occurs_int _
  | text hs => exact not_occurs_str _

/-- Parameters fit a family only if nothing in them is malformed. -/
theorem Fits.not_occurs {family : Family} {ps : List Param} {fields : List String}
    (h : Fits layers family ps fields) : ∀ p ∈ ps, ¬ Occurs (.invalid raw) p := by
  cases h with
  | plain => exact fun p hp => absurd hp List.not_mem_nil
  | keyPress hkey | single hkey => simpa using not_occurs_of_key hkey
  | layerTap hlayer hkey => simpa using ⟨hlayer.not_occurs, not_occurs_of_key hkey⟩
  | modTap hmodifier hkey => simpa using ⟨not_occurs_of_key hmodifier, not_occurs_of_key hkey⟩
  | layer hlayer => simpa using hlayer.not_occurs
  | command takes => simpa using not_occurs_str _
  | profile takes hindex => simpa using ⟨not_occurs_str _, hindex.not_occurs⟩

namespace Formatter

variable {f : Formatter} {b : Binding} {text : String}

/-- A raw binding that is written. -/
def IsRawLiteral (b : Binding) : Prop :=
  canonical b.behavior = rawName ∧ ∃ p rest text, b.params = p :: rest ∧ LiteralText p text

/-- A call is written only if nothing in its parameters is malformed, also in those past its last
cell. -/
theorem not_occurs_of_call {name : String} {ps : List Param} (h : f.call name ps = .ok text) :
    ∀ p ∈ ps, ¬ Occurs (.invalid raw) p := by
  obtain ⟨texts, htexts, -⟩ := bind_eq_ok_iff.mp h
  intro p hp
  obtain ⟨key, hkey⟩ := exists_forall₂_iff.mp ⟨texts, (mapM_eq_ok_iff _ _ _).mp htexts⟩ p hp
  exact not_occurs_of_key hkey

/-- A binding with malformed input in it is written only if it is raw. -/
theorem isRawLiteral_of_format (h : f.format b = .ok text) (hp : p ∈ b.params)
    (hoccurs : Occurs (.invalid raw) p) : IsRawLiteral b := by
  rcases format_eq_ok h with ⟨family, h⟩ | ⟨hraw, h⟩ | h
  · obtain ⟨fields, hfits, -⟩ := builtin_eq_ok_iff.mp h
    exact absurd hoccurs (hfits.not_occurs p hp)
  · obtain ⟨q, rest, hq, hliteral⟩ := raw_eq_ok_iff.mp h
    exact ⟨hraw, q, rest, text, hq, hliteral⟩
  · exact absurd hoccurs (not_occurs_of_call h p hp)

end Formatter

/-! ### Reading -/

/-- A value is a literal: a string, or an integer of 64 bits. -/
inductive IsLiteral : Value → Prop where
  /-- A string. -/
  | string (s : String) : IsLiteral (.string s)
  /-- An integer. -/
  | integer {n : Int} : Word.isSigned 64 n = true → IsLiteral (.number (.int n))

/-- A value is a node: an object with a literal as its `value`, and no `params` or none in them, or
one with a string as its `value` and some `params`. -/
inductive IsNode : Value → Prop where
  /-- A literal in an object. -/
  | literal {fields : Fields} {v : Value} :
    Fields.get? fields "value" = some v → IsLiteral v →
      (Fields.get? fields "params" = none ∨ Fields.get? fields "params" = some (.array [])) →
        IsNode (.object fields)
  /-- A call. -/
  | call {fields : Fields} {function : String} {item : Value} {items : List Value} :
    Fields.get? fields "value" = some (.string function) →
      Fields.get? fields "params" = some (.array (item :: items)) → IsNode (.object fields)

/-- A value has the form of a binding: a string, or an object whose behavior is a string and whose
`params`, if it has any, are an array. -/
inductive IsBindingForm : Value → Prop where
  /-- A behavior on its own. -/
  | string (behavior : String) : IsBindingForm (.string behavior)
  /-- A behavior with parameters. -/
  | object {fields : Fields} {behavior : String} :
    Binding.behaviorNames.findSome? (Fields.get? fields) = some (.string behavior) →
      (Fields.get? fields "params" = none ∨
        ∃ items, Fields.get? fields "params" = some (.array items)) →
        IsBindingForm (.object fields)

/-- The `params` field is the one of that name. -/
theorem ParamsField.ofFields_eq (fields : Fields) :
    ParamsField.ofFields fields
      = ((Fields.get? fields "params").map ParamsField.ofJson).getD .absent := by
  induction fields with
  | nil => rfl
  | cons field rest ih =>
    obtain ⟨name, v⟩ := field
    rw [ParamsField.ofFields, Fields.get?, List.lookup_cons]
    by_cases h : name = "params"
    · subst h
      simp
    · have other : ("params" == name) = false := by simpa using Ne.symm h
      rw [if_neg h, ih, other]
      rfl

theorem isLiteral_number_iff (n : Number) : IsLiteral (.number n) ↔ n.int64? ≠ none := by
  constructor
  · intro h
    cases h with
    | integer hn => simp [Number.int64?, hn]
  · intro h
    cases n with
    | int n =>
      by_cases hn : Word.isSigned 64 n = true
      · exact .integer hn
      · simp [Number.int64?, hn] at h
    | float x => exact absurd rfl h

/-- What is read in place of a literal is malformed exactly when it is none. -/
theorem getD_ofLiteral?_eq_invalid_iff (v : Value) (raw : String) :
    (∃ text, (Param.ofLiteral? v).getD (.invalid raw) = .invalid text) ↔ ¬ IsLiteral v := by
  cases v with
  | string s =>
    refine iff_of_false ?_ (not_not_intro (.string s))
    rintro ⟨text, h⟩
    cases h
  | number n =>
    rw [isLiteral_number_iff, not_not, Param.ofLiteral?]
    -- A number is a literal exactly when it is an integer of 64 bits.
    rcases n.int64? with - | k
    · exact iff_of_true ⟨raw, rfl⟩ rfl
    · refine iff_of_false ?_ (Option.some_ne_none k)
      rintro ⟨text, h⟩
      cases h
  | null | bool b | array items | object fields =>
    exact iff_of_true ⟨raw, rfl⟩ fun h => nomatch h

theorem isNode_object_iff (fields : Fields) :
    IsNode (.object fields) ↔
      (∃ v, Fields.get? fields "value" = some v ∧ IsLiteral v ∧
        (Fields.get? fields "params" = none ∨ Fields.get? fields "params" = some (.array []))) ∨
      ∃ function item items, Fields.get? fields "value" = some (.string function) ∧
        Fields.get? fields "params" = some (.array (item :: items)) := by
  constructor
  · intro h
    cases h with
    | literal hvalue hliteral hparams => exact .inl ⟨_, hvalue, hliteral, hparams⟩
    | call hvalue hparams => exact .inr ⟨_, _, _, hvalue, hparams⟩
  · rintro (⟨v, hvalue, hliteral, hparams⟩ | ⟨function, item, items, hvalue, hparams⟩)
    · exact .literal hvalue hliteral hparams
    · exact .call hvalue hparams

/-- A value is read as a malformed parameter exactly when it is neither a literal nor a node. -/
theorem ofJson_eq_invalid_iff (v : Value) :
    (∃ text, Param.ofJson v = .invalid text) ↔ ¬ IsLiteral v ∧ ¬ IsNode v := by
  cases v with
  | object fields =>
    have plain : ¬ IsLiteral (.object fields) := by
      rintro ⟨⟩
    rw [and_iff_right plain, isNode_object_iff, Param.ofJson, ParamsField.ofFields_eq]
    rcases Fields.get? fields "value" with - | v
    · simp
    -- With no `params`, or none in them, the value counts as a literal.
    have literal := getD_ofLiteral?_eq_invalid_iff v (Value.object fields).compact
    rcases Fields.get? fields "params" with - | (- | - | - | - | items | -)
    case none => simpa using literal
    case some.array =>
      rcases items with - | ⟨item, items⟩
      · simpa [ParamsField.ofJson, Param.listOfJson] using literal
      · rcases v with - | - | - | function | - | -
        all_goals simp [ParamsField.ofJson, Param.listOfJson]
    all_goals simp [ParamsField.ofJson]
  | string s =>
    have literal : IsLiteral (.string s) := .string s
    rw [Param.ofJson]
    simp [literal]
  | number n =>
    have node : ¬ IsNode (.number n) := by
      rintro ⟨⟩
    rw [and_iff_left node, ← getD_ofLiteral?_eq_invalid_iff, Param.ofJson, Param.ofLiteral?]
  | null | bool b | array items =>
    rw [Param.ofJson]
    refine iff_of_true ⟨_, rfl⟩ ⟨?_, ?_⟩
    · rintro ⟨⟩
    · rintro ⟨⟩

/-- A value of another form is read as a binding without behavior. -/
theorem ofJson_of_not_isBindingForm {v : Value} (h : ¬ IsBindingForm v) :
    Binding.ofJson v = Binding.malformed v := by
  cases v with
  | string s => exact absurd (.string s) h
  | object fields =>
    rw [Binding.ofJson, ParamsField.ofFields_eq]
    rcases hbehavior : Binding.behaviorNames.findSome? (Fields.get? fields) with - | id
    · rfl
    cases id with
    | string behavior =>
      -- With a name that is a text only the parameters can be at fault.
      rcases hparams : Fields.get? fields "params" with - | ps
      · exact absurd (.object hbehavior (.inl hparams)) h
      · cases ps with
        | array items => exact absurd (.object hbehavior (.inr ⟨items, hparams⟩)) h
        | null | bool b | number n | string s | object fields => rfl
    | null | bool b | number n | array items | object fields => rfl
  | null | bool b | number n | array items => rfl

/-! ### Malformed input -/

/-- **Malformed input.**  A binding in which malformed input stands anywhere is an error, unless it
is raw and its first parameter is a literal.  Malformed is every value that is neither a literal nor
a node, and a value that has not the form of a binding is an error as a whole. -/
theorem malformed_not_written (f : Formatter) :
    (∀ b : Binding, (∃ p ∈ b.params, ∃ raw, Occurs (.invalid raw) p) →
      ((∃ e, f.format b = .error e) ↔ ¬ Formatter.IsRawLiteral b)) ∧
    (∀ v, (∃ raw, Param.ofJson v = .invalid raw) ↔ ¬ IsLiteral v ∧ ¬ IsNode v) ∧
    ∀ v, ¬ IsBindingForm v →
      ∃ e, f.format (Binding.ofJson v) = .error e ∧ e.kind = .invalidParameterShape := by
  refine ⟨?_, ofJson_eq_invalid_iff, ?_⟩
  · rintro b ⟨p, hp, raw, hoccurs⟩
    rcases h : f.format b with e | text
    · refine iff_of_true ⟨e, rfl⟩ ?_
      rintro ⟨hraw, q, rest, text, hq, hliteral⟩
      rw [Formatter.format_of_raw hraw, Formatter.raw_eq_ok_iff.mpr ⟨q, rest, hq, hliteral⟩] at h
      cases h
    · -- What is written with such a parameter in it is a raw literal, which is not looked into.
      refine iff_of_false (fun ⟨e, he⟩ => nomatch he) (not_not_intro ?_)
      exact Formatter.isRawLiteral_of_format h hp hoccurs
  · intro v hform
    rw [ofJson_of_not_isBindingForm hform]
    -- What could not be read has an empty name.
    have unnamed : canonical "" = "" := by decide +kernel
    refine ⟨.noBehavior, ?_, rfl⟩
    unfold Formatter.format
    rw [Binding.malformed, unnamed]
    rfl

/-- A call takes two parameters, and the malformed input is inside of a third.  An array is no
binding. -/
theorem malformed_not_written_sample :
    let f : Formatter := ⟨Registry.withBuiltins.registerAll [⟨"&hm", 2, .holdTap⟩], []⟩
    let b : Binding := ⟨"&hm", [.str "A", .str "B", .call "LC" [.invalid "null"]]⟩
    (∃ p ∈ b.params, ∃ raw, Occurs (.invalid raw) p) ∧ (∃ e, f.format b = .error e) ∧
      ¬ IsBindingForm (.array []) ∧
      ∃ e, f.format (Binding.ofJson (.array [])) = .error e ∧ e.kind = .invalidParameterShape := by
  intro f b
  have hoccurs : ∃ p ∈ b.params, ∃ raw, Occurs (.invalid raw) p :=
    ⟨.call "LC" [.invalid "null"], by simp [b], "null", .inside (List.mem_singleton_self _) .here⟩
  have cooked : ¬ Formatter.IsRawLiteral b := by
    rintro ⟨hraw, -⟩
    exact absurd hraw (by decide +kernel)
  have hform : ¬ IsBindingForm (.array []) := fun h => nomatch h
  exact ⟨hoccurs, ((malformed_not_written f).1 b hoccurs).mpr cooked, hform,
    (malformed_not_written f).2.2 _ hform⟩

end KeymapCompiler
