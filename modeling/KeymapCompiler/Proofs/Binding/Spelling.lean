/-
KeymapCompiler/Proofs/Binding/Spelling.lean

Reading undoes writing.  A binding is written as an object with its behavior and an array
of parameters, and a parameter has several spellings:

    "A"    2                                a literal on its own
    value = "A"                             a literal in an object
    value = "A", params = []                the same, with no parameters
    value = "LC", params = [...]            a call

at every depth, and with any other fields in the objects.  `Spells v p` says that `v` is
one of the spellings of `p`.

Each spelling is read as the parameter it spells, by recursion on the parameter, and there
is one exception: a call without parameters is spelled like a literal, and read as one
(`ofJson_eq_iff`).  So the bindings that come back are those without such calls.
-/
import KeymapCompiler.Proofs.Binding.Malformed

namespace KeymapCompiler

open KeymapCompiler.Json

/-! ### Spellings -/

/-- The value of a literal parameter. -/
inductive LiteralValue : Param → Value → Prop where
  /-- An integer. -/
  | int (n : Int) : LiteralValue (.int n) (.number (.int n))
  /-- A string. -/
  | str (s : String) : LiteralValue (.str s) (.string s)

/-- A value stands for another: it is that value, or an object with it as its `value` and without
parameters. -/
inductive StandsFor (v : Value) : Value → Prop where
  /-- The value itself. -/
  | bare : StandsFor v v
  /-- An object without `params`. -/
  | node {fields : Fields} :
    Fields.get? fields "value" = some v → Fields.get? fields "params" = none →
      StandsFor v (.object fields)
  /-- An object with none in its `params`. -/
  | leaf {fields : Fields} :
    Fields.get? fields "value" = some v → Fields.get? fields "params" = some (.array []) →
      StandsFor v (.object fields)

mutual

/-- A value spells a parameter. -/
inductive Spells : Value → Param → Prop where
  /-- A literal. -/
  | literal {p : Param} {v w : Value} : LiteralValue p v → StandsFor v w → Spells w p
  /-- A call: an object with the function as its `value` and the parameters as its `params`. -/
  | call {fields : Fields} {function : String} {items : List Value} {args : List Param} :
    Fields.get? fields "value" = some (.string function) →
      Fields.get? fields "params" = some (.array items) → SpellsAll items args →
        Spells (.object fields) (.call function args)

/-- Values spell parameters, one each. -/
inductive SpellsAll : List Value → List Param → Prop where
  /-- None. -/
  | nil : SpellsAll [] []
  /-- The first and the rest. -/
  | cons {v : Value} {p : Param} {vs : List Value} {ps : List Param} :
    Spells v p → SpellsAll vs ps → SpellsAll (v :: vs) (p :: ps)

end

/-- A value spells a binding: an object with the behavior as its `value` and the parameters as its
`params`. -/
inductive SpellsBinding : Value → Binding → Prop where
  /-- The object. -/
  | object {fields : Fields} {behavior : String} {items : List Value} {params : List Param} :
    Fields.get? fields "value" = some (.string behavior) →
      Fields.get? fields "params" = some (.array items) → SpellsAll items params →
        SpellsBinding (.object fields) ⟨behavior, params⟩

/-! ### Parameters that come back -/

namespace Param

/-- A parameter that can be read: every call in it has parameters, and every integer has 64 bits. -/
structure IsReadable (p : Param) : Prop where
  /-- No call is empty. -/
  calls : ∀ function, ¬ Occurs (.call function []) p
  /-- No integer is out of range. -/
  integers : ∀ n, Occurs (.int n) p → Word.isSigned 64 n = true

/-- What occurs in a call is the call or occurs in one of its parameters. -/
theorem occurs_call_iff {q : Param} {function : String} {args : List Param} :
    Occurs q (.call function args) ↔ q = .call function args ∨ ∃ p ∈ args, Occurs q p := by
  constructor
  · intro h
    cases h with
    | here => exact .inl rfl
    | inside hp hoccurs => exact .inr ⟨_, hp, hoccurs⟩
  · rintro (rfl | ⟨p, hp, hoccurs⟩)
    · exact .here
    · exact .inside hp hoccurs

theorem isReadable_int_iff (n : Int) : IsReadable (.int n) ↔ Word.isSigned 64 n = true := by
  constructor
  · exact fun h => h.integers n .here
  · intro hn
    constructor
    · rintro function ⟨⟩
    · rintro m ⟨⟩
      exact hn

theorem isReadable_str (s : String) : IsReadable (.str s) := by
  constructor
  · rintro function ⟨⟩
  · rintro n ⟨⟩

theorem isReadable_call_iff {function : String} {args : List Param} :
    IsReadable (.call function args) ↔ args ≠ [] ∧ ∀ p ∈ args, IsReadable p := by
  constructor
  · intro h
    refine ⟨?_, fun p hp => ⟨fun g hg => h.calls g (.inside hp hg), fun n hn =>
      h.integers n (.inside hp hn)⟩⟩
    rintro rfl
    exact h.calls function .here
  · rintro ⟨hargs, hreadable⟩
    constructor
    · intro g hg
      -- The call itself has arguments, and all others are in one of these.
      rcases occurs_call_iff.mp hg with hself | ⟨p, hp, hoccurs⟩
      · cases hself
        exact hargs rfl
      · exact (hreadable p hp).calls g hoccurs
    · intro n hn
      rcases occurs_call_iff.mp hn with hself | ⟨p, hp, hoccurs⟩
      · cases hself
      · exact (hreadable p hp).integers n hoccurs

/-! ### Reading -/

variable {p : Param} {ps : List Param} {v w : Value} {vs : List Value}

/-- Whatever stands for a string or a number is read like it. -/
theorem exists_ofJson_eq_getD (hv : LiteralValue p v) (hw : StandsFor v w) :
    ∃ raw, ofJson w = (ofLiteral? v).getD (.invalid raw) := by
  cases hw with
  | bare =>
    cases hv with
    | int n => exact ⟨_, by rw [ofJson, ofLiteral?]⟩
    | str s => exact ⟨"", by rw [ofJson, ofLiteral?]; rfl⟩
  | @node fields hvalue hparams | @leaf fields hvalue hparams =>
    refine ⟨(Value.object fields).compact, ?_⟩
    rw [ofJson, ParamsField.ofFields_eq, hvalue, hparams]
    rfl

/-- A literal is read back if it is in range. -/
theorem getD_ofLiteral?_eq_iff (hv : LiteralValue p v) (raw : String) :
    (ofLiteral? v).getD (.invalid raw) = p ↔ p.IsReadable := by
  cases hv with
  | int n =>
    rw [isReadable_int_iff, ofLiteral?, Number.int64?]
    by_cases hn : Word.isSigned 64 n = true
    · simp [hn]
    · simp [hn]
  | str s => exact iff_of_true rfl (isReadable_str s)

/-- An object with some parameters is read as a call, and one with none as a literal. -/
theorem ofJson_object {fields : Fields} {function : String} {items : List Value}
    (hvalue : Fields.get? fields "value" = some (.string function))
    (hparams : Fields.get? fields "params" = some (.array items)) :
    ofJson (.object fields) =
      if items = [] then .str function else .call function (listOfJson items) := by
  rw [ofJson, ParamsField.ofFields_eq, hvalue, hparams]
  cases items with
  | nil => rfl
  | cons item rest => rfl

mutual

/-- A spelling is read as the parameter it spells, if that can be read at all. -/
theorem ofJson_eq_iff {v : Value} : ∀ {p : Param}, Spells v p → (ofJson v = p ↔ p.IsReadable)
  | p, .literal hv hw => by
    obtain ⟨raw, hread⟩ := exists_ofJson_eq_getD hv hw
    rw [hread, getD_ofLiteral?_eq_iff hv]
  | .call function args, .call hvalue hparams hargs => by
    have hread := listOfJson_eq_iff hargs
    rw [ofJson_object hvalue hparams, isReadable_call_iff, ← hread]
    -- Without parameters the name is read instead, which is no call.
    cases hargs with
    | nil => simp
    | cons => simp

/-- Spellings of parameters are read one by one. -/
theorem listOfJson_eq_iff {vs : List Value} : ∀ {ps : List Param}, SpellsAll vs ps →
    (listOfJson vs = ps ↔ ∀ p ∈ ps, p.IsReadable)
  | [], .nil => by simp [listOfJson]
  | p :: ps, .cons hp hps => by
    rw [listOfJson, List.cons.injEq, ofJson_eq_iff hp, listOfJson_eq_iff hps, List.forall_mem_cons]

end

/-- A call without parameters is read as the name of its function. -/
theorem ofJson_of_spells_nil {function : String} (h : Spells v (.call function [])) :
    ofJson v = .str function := by
  cases h with
  | literal hv hw => cases hv
  | call hvalue hparams hargs =>
    cases hargs
    rw [ofJson_object hvalue hparams, if_pos rfl]

/-! ### Which parameters have a spelling -/

mutual

/-- A parameter has a spelling if nothing in it is malformed. -/
theorem exists_spells_iff : ∀ p : Param, (∃ v, Spells v p) ↔ ∀ raw, ¬ Occurs (.invalid raw) p
  | .int n => iff_of_true ⟨_, .literal (.int n) .bare⟩ fun _ => not_occurs_int n
  | .str s => iff_of_true ⟨_, .literal (.str s) .bare⟩ fun _ => not_occurs_str s
  | .invalid raw => iff_of_false (fun ⟨_, .literal hv _⟩ => nomatch hv) fun h => h raw .here
  | .call function args => by
    constructor
    · rintro ⟨v, h⟩ raw hoccurs
      cases h with
      | literal hv hw => cases hv
      | call hvalue hparams hargs =>
        obtain hself | ⟨p, hp, hoccurs⟩ := occurs_call_iff.mp hoccurs
        · cases hself
        · exact (exists_spellsAll_iff args).mp ⟨_, hargs⟩ p hp raw hoccurs
    · intro h
      -- Of all spellings of a call the one without further fields is taken.
      obtain ⟨items, hitems⟩ := (exists_spellsAll_iff args).mpr fun p hp raw hoccurs =>
        h raw (.inside hp hoccurs)
      exact ⟨.object [("params", .array items), ("value", .string function)],
        .call rfl rfl hitems⟩

/-- Parameters have spellings if each has one. -/
theorem exists_spellsAll_iff : ∀ ps : List Param,
    (∃ vs, SpellsAll vs ps) ↔ ∀ p ∈ ps, ∀ raw, ¬ Occurs (.invalid raw) p
  | [] => iff_of_true ⟨[], .nil⟩ fun _ hp => absurd hp List.not_mem_nil
  | p :: ps => by
    rw [List.forall_mem_cons, ← exists_spells_iff p, ← exists_spellsAll_iff ps]
    constructor
    · rintro ⟨vs, h⟩
      cases h with
      | cons hp hps => exact ⟨⟨_, hp⟩, _, hps⟩
    · rintro ⟨⟨v, hp⟩, vs, hps⟩
      exact ⟨v :: vs, .cons hp hps⟩

end

end Param

open Param

/-! ### Bindings -/

namespace Binding

theorem ofJson_eq_iff_of_spells {v : Value} {b : Binding} (h : SpellsBinding v b) :
    ofJson v = b ↔ ∀ p ∈ b.params, p.IsReadable := by
  cases h with
  | @object fields behavior items params hvalue hparams hargs =>
    have hbehavior : behaviorNames.findSome? (Fields.get? fields) = some (.string behavior) := by
      rw [behaviorNames, List.findSome?_cons, hvalue]
    rw [ofJson, ParamsField.ofFields_eq, hbehavior, hparams, ← listOfJson_eq_iff hargs]
    show Binding.mk behavior (listOfJson items) = ⟨behavior, params⟩ ↔ _
    simp

theorem exists_spellsBinding_iff (b : Binding) :
    (∃ v, SpellsBinding v b) ↔ ∀ p ∈ b.params, ∀ raw, ¬ Occurs (.invalid raw) p := by
  rw [← exists_spellsAll_iff]
  constructor
  · rintro ⟨v, h⟩
    cases h with
    | object hvalue hparams hargs => exact ⟨_, hargs⟩
  · rintro ⟨items, hitems⟩
    exact ⟨.object [("params", .array items), ("value", .string b.behavior)],
      .object rfl rfl hitems⟩

end Binding

/-- **Reading undoes writing.**  The bindings that have spellings are those without malformed
parameters, and every spelling is read as the binding it spells, exactly if all its calls have
parameters and its integers are in range.  A call without parameters is read as the name of its
function. -/
theorem spellings_read_back :
    (∀ b : Binding, (∃ v, SpellsBinding v b) ↔ ∀ p ∈ b.params, ∀ raw, ¬ Occurs (.invalid raw) p) ∧
    (∀ v (b : Binding), SpellsBinding v b →
      (Binding.ofJson v = b ↔ ∀ p ∈ b.params, p.IsReadable)) ∧
    ∀ v function, Spells v (.call function []) → Param.ofJson v = .str function :=
  ⟨Binding.exists_spellsBinding_iff, fun _ _ => Binding.ofJson_eq_iff_of_spells,
    fun _ _ => ofJson_of_spells_nil⟩

/-- A literal of each spelling, inside of calls of both, among fields that mean nothing. -/
theorem spellings_read_back_sample :
    let b : Binding := ⟨"&mt", [.call "LC" [.call "LS" [.str "A"], .int 2], .str "B"]⟩
    let v : Value := .object [("icon", .null), ("params", .array [
      .object [("params", .array [
        .object [("params", .array [.string "A"]), ("value", .string "LS")],
        .object [("params", .array []), ("value", .number (.int 2))]]),
        ("title", .string "control"), ("value", .string "LC")],
      .object [("shown", .bool true), ("value", .string "B")]]), ("value", .string "&mt")]
    let empty : Value := .object [("params", .array []), ("value", .string "LC")]
    SpellsBinding v b ∧ Binding.ofJson v = b ∧
      Spells empty (.call "LC" []) ∧ Param.ofJson empty = .str "LC" := by
  intro b v empty
  have hv : SpellsBinding v b :=
    .object rfl rfl (.cons
      (.call rfl rfl (.cons
        (.call rfl rfl (.cons (.literal (.str "A") .bare) .nil))
        (.cons (.literal (.int 2) (.leaf rfl rfl)) .nil)))
      (.cons (.literal (.str "B") (.node rfl rfl)) .nil))
  have hempty : Spells empty (.call "LC" []) := .call rfl rfl .nil
  have two : Word.isSigned 64 2 = true := by decide
  -- Three calls and two integers occur in the parameters.
  have readable : ∀ p ∈ b.params, p.IsReadable := by
    simp [b, isReadable_call_iff, isReadable_int_iff, isReadable_str, two]
  exact ⟨hv, (spellings_read_back.2.1 v b hv).mpr readable, hempty,
    spellings_read_back.2.2 empty "LC" hempty⟩

end KeymapCompiler
