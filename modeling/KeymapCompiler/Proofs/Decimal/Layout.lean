/-
KeymapCompiler/Proofs/Decimal/Layout.lean

The characters of numbers.  Whichever way a number of a document is laid out, its text has
digits, a point, signs and the letter of the exponent, and nothing else.
-/
import KeymapCompiler.Json.Value
import KeymapCompiler.Proofs.Decimal.Rounding

namespace KeymapCompiler.Decimal

/-- The characters that numbers of a document are written with. -/
def isNumberChar (c : Char) : Bool :=
  c.isDigit || c == '.' || c == 'e' || c == '-' || c == '+'

theorem isNumberChar_of_mem_toDigits (n : Nat) :
    ∀ c ∈ Nat.toDigits 10 n, isNumberChar c = true := by
  intro c hc
  have hdigit : c.isDigit = true := Nat.isDigit_of_mem_toDigits (by decide) (by decide) hc
  simp [isNumberChar, hdigit]

theorem isNumberChar_of_mem_toString (n : Int) :
    ∀ c ∈ (toString n).toList, isNumberChar c = true := by
  intro c hc
  rcases mem_toString hc with rfl | hdigit
  · decide
  · simp [isNumberChar, hdigit]

theorem isNumberChar_of_mem_positional (d : Digits) :
    ∀ c ∈ positional d, isNumberChar c = true := by
  have digits := isNumberChar_of_mem_toDigits d.digits
  have zeros : ∀ k, ∀ c ∈ List.replicate k '0', isNumberChar c = true := by
    intro k c hc
    rw [List.eq_of_mem_replicate hc]
    decide
  unfold positional
  dsimp only
  -- The point stands before the digits, behind them or between them.
  split
  · simp only [List.forall_mem_append]
    exact ⟨⟨List.all_eq_true.mp rfl, zeros _⟩, digits⟩
  · split
    · simp only [List.forall_mem_append]
      exact ⟨⟨digits, zeros _⟩, List.all_eq_true.mp rfl⟩
    · simp only [List.forall_mem_append]
      exact ⟨⟨fun c hc => digits c (List.mem_of_mem_take hc), List.all_eq_true.mp rfl⟩,
        fun c hc => digits c (List.mem_of_mem_drop hc)⟩

theorem isNumberChar_of_mem_scientific (d : Digits) :
    ∀ c ∈ scientific documentStyle d, isNumberChar c = true := by
  have digits := isNumberChar_of_mem_toDigits d.digits
  have exponent : ∀ c ∈ (if d.point - 1 < 0 then (toString (d.point - 1)).toList
      else documentStyle.plus.toList ++ (toString (d.point - 1)).toList),
      isNumberChar c = true := by
    split
    · exact isNumberChar_of_mem_toString _
    · rw [List.forall_mem_append]
      exact ⟨List.all_eq_true.mp rfl, isNumberChar_of_mem_toString _⟩
  unfold scientific
  dsimp only
  split
  · -- One digit has no point behind it.
    next x hdigits =>
    rw [hdigits, List.forall_mem_singleton] at digits
    simp only [List.forall_mem_append, List.forall_mem_cons]
    exact ⟨⟨digits, by decide, by simp⟩, exponent⟩
  · next x rest _ hdigits =>
    rw [hdigits, List.forall_mem_cons] at digits
    simp only [List.forall_mem_append, List.forall_mem_cons]
    exact ⟨⟨⟨⟨digits.1, by decide, by simp⟩, digits.2⟩, by decide, by simp⟩, exponent⟩
  · simp

theorem isNumberChar_of_mem_text (n : Json.Number) :
    ∀ c ∈ n.text.toList, isNumberChar c = true := by
  cases n with
  | int n => exact isNumberChar_of_mem_toString n
  | float x =>
    have sign : ∀ c ∈ (if x.negative then ['-'] else []), isNumberChar c = true := by
      split
      · exact List.forall_mem_singleton.mpr rfl
      · exact List.forall_mem_nil _
    show ∀ c ∈ (x.text documentStyle).toList, _
    unfold Binary64.text
    dsimp only
    -- A zero is written on its own.
    split
    · rw [String.toList_ofList, List.forall_mem_append]
      exact ⟨sign, List.all_eq_true.mp rfl⟩
    · rw [String.toList_ofList, List.forall_mem_append]
      refine ⟨sign, ?_⟩
      split
      · exact isNumberChar_of_mem_positional _
      · exact isNumberChar_of_mem_scientific _

end KeymapCompiler.Decimal
