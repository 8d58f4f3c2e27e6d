/-
KeymapCompiler/Position.lean

Positions of keys as documents give them: integers, of which only those that are
the index of a key count.
-/

namespace KeymapCompiler.Position

/-- Whether a position is the index of one of `keyCount` keys. -/
def isInside (keyCount : Nat) (position : Int) : Bool :=
  decide (0 ≤ position) && decide (position < keyCount)

/-- The keys among positions, in order. -/
def inside (keyCount : Nat) (positions : List Int) : List Nat :=
  (positions.filter (isInside keyCount)).map Int.toNat

/-- The positions without a key, in order. -/
def outside (keyCount : Nat) (positions : List Int) : List Int :=
  positions.filter fun p => !isInside keyCount p

/-- Items in brackets, with commas between them, as diagnostics list them. -/
def bracketed (items : List String) : String :=
  "[" ++ ", ".intercalate items ++ "]"

/-- Positions as a diagnostic lists them. -/
def shown (positions : List Int) : String :=
  bracketed (positions.map toString)

/-- The two bounds are one condition. -/
theorem isInside_eq_decide (keyCount : Nat) (position : Int) :
    isInside keyCount position = decide (0 ≤ position ∧ position < keyCount) := by
  rw [isInside, Bool.decide_and]

theorem outside_eq_filter (keyCount : Nat) (positions : List Int) :
    outside keyCount positions
      = positions.filter fun p : Int => ¬ (0 ≤ p ∧ p < keyCount) := by
  refine List.filter_congr fun p _ => ?_
  rw [isInside_eq_decide, decide_not]

end KeymapCompiler.Position
