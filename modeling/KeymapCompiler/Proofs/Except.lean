/-
KeymapCompiler/Proofs/Except.lean

Steps that may fail, judged by their outcomes: what two steps in a row, a step that is
carried on by a function, and a traversal succeed or fail with.
-/
import Mathlib.Data.List.Forall2

namespace KeymapCompiler

section

variable {α β ε : Type} {x : Except ε α} {b : β} {e : ε}

/-- A step and what depends on it succeed together. -/
theorem bind_eq_ok_iff {g : α → Except ε β} :
    (x >>= g) = .ok b ↔ ∃ a, x = .ok a ∧ g a = .ok b := by
  rcases x with e' | a
  · exact iff_of_false (fun h => nomatch h) fun ⟨a, h, _⟩ => nomatch h
  · show g a = .ok b ↔ _
    simp

/-- The first of two steps that fails gives the error. -/
theorem bind_eq_error_iff {g : α → Except ε β} :
    (x >>= g) = .error e ↔ x = .error e ∨ ∃ a, x = .ok a ∧ g a = .error e := by
  rcases x with e' | a
  · show Except.error e' = Except.error e ↔ _
    simp
  · show g a = .error e ↔ _
    simp

theorem map_eq_ok_iff {g : α → β} : x.map g = .ok b ↔ ∃ a, x = .ok a ∧ g a = b := by
  rcases x with e' | a
  · simp [Except.map]
  · simp [Except.map]

theorem map_eq_error_iff {g : α → β} : x.map g = .error e ↔ x = .error e := by
  rcases x with e' | a
  · simp [Except.map]
  · simp [Except.map]

end

/-- A traversal that succeeds does so item by item. -/
theorem mapM_eq_ok_iff {α β ε : Type} (f : α → Except ε β) (xs : List α) (ys : List β) :
    xs.mapM f = .ok ys ↔ List.Forall₂ (fun x y => f x = .ok y) xs ys := by
  induction xs generalizing ys with
  | nil =>
    rw [List.mapM_nil, List.forall₂_nil_left_iff]
    exact ⟨fun e => (Except.ok.inj e).symm, fun e => e ▸ rfl⟩
  | cons x rest ih =>
    simp only [List.mapM_cons, List.forall₂_cons_left_iff, bind_eq_ok_iff, ih]
    constructor
    · rintro ⟨y, hx, others, hr, e⟩
      exact ⟨y, others, hx, hr, (Except.ok.inj e).symm⟩
    · rintro ⟨y, others, hx, hr, rfl⟩
      exact ⟨y, hx, others, hr, rfl⟩

end KeymapCompiler
