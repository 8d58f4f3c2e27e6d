/-
KeymapCompiler/Proofs/Binding/Modifiers.lean

Modifier expressions.  A parameter that stands for a key is a chain of modifier
functions, each with one parameter, around a leaf: an integer, a name that is a key
on its own, or a call without parameters.  `Expression` says which parameters these
are, and independently of how they are written.

The functions are counted from the outside, and so is a leaf that is itself a call.
Hence the number of functions that may stand around a leaf depends on the leaf, and
`Expression` keeps it as its limit.

An expression is written under the canonical names of its functions if there are no
more of them than the limit, and is too deep otherwise (`key_expression`).  Nothing
else is written at all (`exists_expression_of_key`).
-/
import KeymapCompiler.Binding.Format

namespace KeymapCompiler

/-! ### Names of modifier functions -/

namespace Keycode

variable {name function : String}

/-- A modifier function goes by its canonical name or by an alias of it. -/
def Names (name function : String) : Prop :=
  ∃ aliases, (function, aliases) ∈ modifiers ∧ (name = function ∨ name ∈ aliases)

theorem modifier?_eq_some_iff : modifier? name = some function ↔ Names name function := by
  constructor
  · intro h
    obtain ⟨⟨f, aliases⟩, hfind, rfl⟩ := Option.map_eq_some_iff.mp h
    have hname := List.find?_some hfind
    simp only [Bool.or_eq_true, beq_iff_eq, List.contains_iff_mem] at hname
    exact ⟨aliases, List.mem_of_find?_eq_some hfind, hname.imp_left Eq.symm⟩
  · rintro ⟨aliases, hmem, hname⟩
    -- No name stands for two functions.
    have table : ∀ m ∈ modifiers, ∀ name ∈ m.1 :: m.2, modifier? name = some m.1 := by
      decide +kernel
    exact table (function, aliases) hmem name (List.mem_cons.mpr hname)

theorem modifier?_eq_none_iff :
    modifier? name = none ↔ ∀ function, ¬ Names name function := by
  simp only [← modifier?_eq_some_iff, Option.eq_none_iff_forall_ne_some, ne_eq]

end Keycode

namespace Param

open Keycode

/-! ### Expressions -/

/-- A parameter is a chain of modifier functions, given by their canonical names from the outside,
around a leaf with a text. The last index is the number of functions that may stand around the
leaf. -/
inductive Expression : Param → List String → String → Nat → Prop where
  /-- An integer. -/
  | int (n : Int) : Expression (.int n) [] (toString n) maxModifierDepth
  /-- A name, but not the canonical name of a modifier function. -/
  | key {name : String} :
    name ∉ modifierNames → Expression (.str name) [] (resolve name) maxModifierDepth
  /-- A call of something else without parameters, which counts as a level itself. -/
  | bare {name : String} :
    (∀ function, ¬ Names name function) →
      Expression (.call name []) [] (resolve name) (maxModifierDepth - 1)
  /-- A modifier function around an expression. -/
  | call {name function leaf : String} {p : Param} {functions : List String} {limit : Nat} :
    Names name function → Expression p functions leaf limit →
      Expression (.call name [p]) (function :: functions) leaf limit

/-- A text inside calls of functions, the first of which is the outermost. -/
def wrapped (functions : List String) (leaf : String) : String :=
  functions.foldr (fun function inner => function ++ "(" ++ inner ++ ")") leaf

variable {p : Param} {functions : List String} {leaf text : String} {limit depth : Nat}

theorem Expression.limit_le (h : Expression p functions leaf limit) :
    limit ≤ maxModifierDepth := by
  induction h with
  | int n => exact Nat.le_refl _
  | key h => exact Nat.le_refl _
  | bare h => exact Nat.sub_le _ _
  | call hname h ih => exact ih

/-! ### One level -/

theorem key_call_of_names {name function : String} (hname : Names name function)
    (hdepth : depth < maxModifierDepth) :
    (Param.call name [p]).key depth
      = (p.key (depth + 1)).map fun text => function ++ "(" ++ text ++ ")" := by
  rw [key, if_neg (Nat.not_le.mpr hdepth), modifier?_eq_some_iff.mpr hname]
  rfl

theorem key_call_of_le (name : String) (args : List Param) (hdepth : maxModifierDepth ≤ depth) :
    (Param.call name args).key depth = .error .tooDeep := by
  rw [key, if_pos hdepth]

/-- A call that is written is one of a modifier function with one parameter, or one of something
else without parameters. -/
theorem key_call_eq_ok {name : String} {args : List Param}
    (h : (Param.call name args).key depth = .ok text) :
    depth < maxModifierDepth ∧
      ((∃ function p inner, Names name function ∧ args = [p] ∧ p.key (depth + 1) = .ok inner ∧
          text = wrapped [function] inner) ∨
        (∀ function, ¬ Names name function) ∧ args = [] ∧ text = resolve name) := by
  by_cases hdepth : maxModifierDepth ≤ depth
  · rw [key_call_of_le name args hdepth] at h
    cases h
  refine ⟨Nat.not_le.mp hdepth, ?_⟩
  rw [key, if_neg hdepth] at h
  -- A modifier takes one argument, and every other name none.
  rcases hmodifier : modifier? name with - | function
  · rw [hmodifier] at h
    cases args with
    | nil => exact .inr ⟨modifier?_eq_none_iff.mp hmodifier, rfl, (Except.ok.inj h).symm⟩
    | cons p rest => cases h
  · rw [hmodifier] at h
    match args, h with
    | [p], h =>
      change (p.key (depth + 1)).map _ = _ at h
      rcases hp : p.key (depth + 1) with cause | inner
      · rw [hp] at h
        cases h
      · rw [hp] at h
        exact .inl ⟨function, p, inner, modifier?_eq_some_iff.mp hmodifier, rfl, hp,
          (Except.ok.inj h).symm⟩
    | [], h => cases h
    | _ :: _ :: _, h => cases h

/-! ### Whole expressions -/

/-- An expression inside some levels is written if they and its functions keep to the limit. -/
theorem key_expression (h : Expression p functions leaf limit) (hdepth : depth ≤ maxModifierDepth) :
    p.key depth
      = if depth + functions.length ≤ limit then .ok (wrapped functions leaf)
        else .error .tooDeep := by
  induction h generalizing depth with
  | int n =>
    rw [key, List.length_nil, Nat.add_zero, if_pos hdepth]
    rfl
  | @key name hkey =>
    have written : (Param.str name).key depth = .ok (resolve name) := by
      rw [key, if_neg (by simpa [isModifier] using hkey)]
    rw [written, List.length_nil, Nat.add_zero, if_pos hdepth]
    rfl
  | @bare name hbare =>
    by_cases hlast : maxModifierDepth ≤ depth
    · -- A call checks the depth even if it has no arguments, so its limit is one less.
      rw [key_call_of_le name [] hlast, List.length_nil, Nat.add_zero, if_neg]
      rw [maxModifierDepth] at hlast ⊢
      omega
    · have written : (Param.call name []).key depth = .ok (resolve name) := by
        rw [key, if_neg hlast, modifier?_eq_none_iff.mpr hbare]
        rfl
      rw [written, List.length_nil, Nat.add_zero, if_pos (by omega)]
      rfl
  | @call name function leaf p functions limit hname h ih =>
    by_cases hlast : maxModifierDepth ≤ depth
    · -- At the last depth no call fits any more, and the limit says so as well.
      have hlimit := h.limit_le
      rw [key_call_of_le name [p] hlast, if_neg]
      simp only [List.length_cons]
      omega
    · have hlt := Nat.not_le.mp hlast
      rw [key_call_of_names hname hlt, ih hlt, List.length_cons, Nat.add_right_comm depth 1,
        ← Nat.add_assoc]
      split
      · rfl
      · rfl

/-- What is written is an expression that keeps to its limit. -/
theorem exists_expression_of_key :
    ∀ {p : Param} {depth : Nat} {text : String}, depth ≤ maxModifierDepth →
      p.key depth = .ok text →
        ∃ functions leaf limit, Expression p functions leaf limit ∧
          depth + functions.length ≤ limit ∧ text = wrapped functions leaf
  | .int n, depth, text, hdepth, h => by
    rw [key] at h
    exact ⟨[], toString n, _, .int n, hdepth, (Except.ok.inj h).symm⟩
  | .str name, depth, text, hdepth, h => by
    rw [key] at h
    split at h
    · cases h
    · next hname =>
      have hkey : name ∉ modifierNames := by simpa [isModifier] using hname
      exact ⟨[], resolve name, _, .key hkey, hdepth, (Except.ok.inj h).symm⟩
  | .call name args, depth, text, hdepth, h => by
    obtain ⟨hlt, ⟨function, p, inner, hname, rfl, hp, rfl⟩ | ⟨hbare, rfl, rfl⟩⟩ :=
      key_call_eq_ok h
    · -- The argument is written one level deeper, and its chain is the rest of this one.
      obtain ⟨functions, leaf, limit, hexpression, hle, rfl⟩ := exists_expression_of_key hlt hp
      refine ⟨function :: functions, leaf, limit, .call hname hexpression, ?_, rfl⟩
      rw [List.length_cons]
      omega
    · refine ⟨[], resolve name, _, .bare hbare, ?_, rfl⟩
      simp only [List.length_nil]
      omega
  | .invalid _, _, _, _, h => by
    rw [key] at h
    cases h

/-- **Modifier expressions.**  A parameter is written as a key exactly when it is an expression with
no more functions than its leaf allows, and then as the leaf inside the canonical names of the
functions.  An expression with more functions is too deep, and every other parameter is an error. -/
theorem key_eq_ok_iff_expression (p : Param) :
    (∀ text, p.key 0 = .ok text ↔
      ∃ functions leaf limit, Expression p functions leaf limit ∧ functions.length ≤ limit ∧
        text = wrapped functions leaf) ∧
      (∀ functions leaf limit, Expression p functions leaf limit → limit < functions.length →
        p.key 0 = .error .tooDeep) ∧
      ((¬ ∃ functions leaf limit, Expression p functions leaf limit ∧ functions.length ≤ limit) →
        ∃ cause, p.key 0 = .error cause) := by
  have written : ∀ text, p.key 0 = .ok text ↔
      ∃ functions leaf limit, Expression p functions leaf limit ∧ functions.length ≤ limit ∧
        text = wrapped functions leaf := by
    intro text
    constructor
    · intro h
      simpa only [Nat.zero_add] using exists_expression_of_key (Nat.zero_le _) h
    · rintro ⟨functions, leaf, limit, h, hle, rfl⟩
      rw [key_expression h (Nat.zero_le _), if_pos (by rwa [Nat.zero_add])]
  refine ⟨written, ?_, ?_⟩
  · intro functions leaf limit h hlt
    rw [key_expression h (Nat.zero_le _), if_neg (by omega)]
  · intro hnone
    -- What is written is an expression within its limit, so there is an error if there is none.
    rcases hkey : p.key 0 with cause | text
    · exact ⟨cause, rfl⟩
    · obtain ⟨functions, leaf, limit, h, hle, -⟩ := (written text).mp hkey
      exact absurd ⟨functions, leaf, limit, h, hle⟩ hnone

/-- A parameter inside a number of calls of `LC`. -/
def controlled (p : Param) : Nat → Param
  | 0 => p
  | n + 1 => .call "LC" [controlled p n]

theorem Expression.controlled (h : Expression p functions leaf limit) (n : Nat) :
    Expression (p.controlled n) (List.replicate n "LC" ++ functions) leaf limit := by
  have control : Names "LC" "LC" := modifier?_eq_some_iff.mp (by decide +kernel)
  induction n with
  | zero => exact h
  | succ n ih => exact .call control ih

/-- An alias is written under the canonical name. Of a name seventeen levels are too deep, and of a
call without parameters sixteen are. -/
theorem key_sample :
    (Param.call "LCTL" [.call "LS" [.str "A"]]).key 0 = .ok "LC(LS(A))" ∧
      ((Param.str "A").controlled 17).key 0 = .error .tooDeep ∧
      ((Param.call "A" []).controlled 16).key 0 = .error .tooDeep := by
  have name : Expression (.str "A") [] "A" maxModifierDepth := .key (by decide +kernel)
  have bare : Expression (.call "A" []) [] "A" (maxModifierDepth - 1) :=
    .bare (modifier?_eq_none_iff.mp (by decide +kernel))
  have shift : Names "LS" "LS" := modifier?_eq_some_iff.mp (by decide +kernel)
  have control : Names "LCTL" "LC" := modifier?_eq_some_iff.mp (by decide +kernel)
  refine ⟨?_, ?_, ?_⟩
  · exact ((key_eq_ok_iff_expression _).1 _).mpr
      ⟨["LC", "LS"], "A", _, .call control (.call shift name), by decide, by decide +kernel⟩
  · exact (key_eq_ok_iff_expression _).2.1 _ _ _ (name.controlled 17) (by decide)
  · exact (key_eq_ok_iff_expression _).2.1 _ _ _ (bare.controlled 16) (by decide)

end Param

end KeymapCompiler
