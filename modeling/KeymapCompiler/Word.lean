/-
KeymapCompiler/Word.lean

Integers that fit in a number of bits, with a sign or without one.
-/

namespace KeymapCompiler.Word

/-- The number of values that a number of bits can take. -/
def count (bits : Nat) : Nat :=
  Nat.pow 2 bits

/-- Whether an integer fits in a number of bits without a sign. -/
def isUnsigned (bits : Nat) (n : Int) : Bool :=
  decide (0 ≤ n) && decide (n < count bits)

/-- Whether an integer fits in a number of bits one of which is the sign. -/
def isSigned (bits : Nat) (n : Int) : Bool :=
  decide (-(count (bits - 1) : Int) ≤ n) && decide (n < count (bits - 1))

/-- The integers with a sign lie around zero. -/
theorem isSigned_iff (bits : Nat) (n : Int) :
    isSigned bits n = true ↔ -(count (bits - 1) : Int) ≤ n ∧ n < count (bits - 1) := by
  simp [isSigned]

end KeymapCompiler.Word
