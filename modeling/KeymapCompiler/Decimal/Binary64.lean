/-
KeymapCompiler/Decimal/Binary64.lean

Binary floating point with 53 significant bits, in exact integer arithmetic.

A finite number is `± mantissa · 2 ^ exponent`.  Numbers are kept in their
canonical form: the mantissa has 53 bits, or the exponent is the least one and
the mantissa has fewer (zero and the subnormal numbers).  `nearest` rounds a
quotient of natural numbers to the nearest such number, a half going to the even
mantissa, and answers nothing when the quotient is too large to have one.
-/

namespace KeymapCompiler.Decimal

/-- A finite number `± mantissa · 2 ^ exponent`. -/
structure Binary64 where
  /-- Whether the sign is minus; zero has two signs. -/
  negative : Bool
  /-- The significant bits. -/
  mantissa : Nat
  /-- The power of two. -/
  exponent : Int
deriving DecidableEq, Repr, Inhabited

/-- The power of two of zero and of the subnormal numbers. -/
def leastExponent : Int := -1074

/-- The power of two of the largest numbers. -/
def greatestExponent : Int := 971

/-- A quotient rounded to the nearest integer, a half to the even one. -/
def divHalfEven (num den : Nat) : Nat :=
  let q := num / den
  let r := num % den
  if 2 * r < den then q
  else if den < 2 * r then q + 1
  else if q % 2 = 0 then q else q + 1

/-- A quotient over a power of two, as numerator and denominator. -/
def scaled (num den : Nat) (q : Int) : Nat × Nat :=
  if 0 ≤ q then (num, den * Nat.pow 2 q.toNat) else (num * Nat.pow 2 (-q).toNat, den)

/-- The position of the leading bit of a positive quotient: the `e` with
`2 ^ e ≤ num / den < 2 ^ (e + 1)`. -/
def leadingBit (num den : Nat) : Int :=
  let e : Int := (Nat.log2 num : Int) - Nat.log2 den
  let s := scaled num den e
  if s.1 < s.2 then e - 1 else e

/-- The canonical form of a rounded mantissa, which may have grown by one bit; nothing when the
power of two is out of range. -/
def settle (negative : Bool) (m : Nat) (q : Int) : Option Binary64 :=
  let m' := if m = Nat.pow 2 53 then Nat.pow 2 52 else m
  let q' := if m = Nat.pow 2 53 then q + 1 else q
  if greatestExponent < q' then none else some ⟨negative, m', q'⟩

/-- The number nearest to `± num / den`; nothing when it is too large. -/
def nearest (negative : Bool) (num den : Nat) : Option Binary64 :=
  if num = 0 then some ⟨negative, 0, leastExponent⟩
  else
    let q := max (leadingBit num den - 52) leastExponent
    let s := scaled num den q
    settle negative (divHalfEven s.1 s.2) q

namespace Binary64

/-- The zero of a sign. -/
def zero (negative : Bool) : Binary64 := ⟨negative, 0, leastExponent⟩

/-- Whether a number is zero, of either sign. -/
def isZero (x : Binary64) : Bool := x.mantissa == 0

/-- The magnitude of a number as numerator and denominator. -/
def ratio (x : Binary64) : Nat × Nat :=
  if 0 ≤ x.exponent then (x.mantissa * Nat.pow 2 x.exponent.toNat, 1)
  else (x.mantissa, Nat.pow 2 (-x.exponent).toNat)

/-- The integer part of a number, cut toward zero. -/
def truncate (x : Binary64) : Int :=
  let n : Int := x.ratio.1 / x.ratio.2
  if x.negative then -n else n

/-- The rounded product of two numbers. -/
def mul (x y : Binary64) : Option Binary64 :=
  nearest (x.negative != y.negative) (x.ratio.1 * y.ratio.1) (x.ratio.2 * y.ratio.2)

/-- The rounded quotient of two numbers, the second not zero. -/
def div (x y : Binary64) : Option Binary64 :=
  nearest (x.negative != y.negative) (x.ratio.1 * y.ratio.2) (x.ratio.2 * y.ratio.1)

end Binary64

example : nearest false 1 2 = some ⟨false, Nat.pow 2 52, -53⟩ := by decide +kernel
example : nearest false (Nat.pow 2 53 + 1) 1 = some ⟨false, Nat.pow 2 52, 1⟩ := by decide +kernel
example : nearest false (Nat.pow 2 1024) 1 = none := by decide +kernel

end KeymapCompiler.Decimal
