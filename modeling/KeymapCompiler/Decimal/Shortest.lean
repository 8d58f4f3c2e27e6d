/-
KeymapCompiler/Decimal/Shortest.lean

The shortest decimal that reads back.  The reals that round to a given number
form an interval around it; of the decimals in that interval the ones with the
fewest digits are candidates, and of those the one nearest to the number is
chosen, the even one of two equally near.

On the grid of decimals with a given last place, only the two neighbours of the
number can be chosen: if any point of the grid lies in the interval, one of the
neighbours does.  So the search tries one digit, two digits, and so on up to
seventeen, which always suffice, and looks at the two neighbours each time.
-/
import KeymapCompiler.Decimal.Binary64

namespace KeymapCompiler.Decimal

/-- A decimal `0.d₁d₂… · 10 ^ (point)`: its digits as one number without trailing zeros, and
where the point stands relative to the first digit. -/
structure Digits where
  /-- The digits, read as one number. -/
  digits : Nat
  /-- How many digits stand before the point. -/
  point : Int
deriving DecidableEq, Repr

/-- The reals that round to a number, in units of `1 / den`. -/
structure RoundingInterval where
  /-- Lower end. -/
  low : Nat
  /-- The number itself. -/
  value : Nat
  /-- Upper end. -/
  high : Nat
  /-- The unit's denominator. -/
  den : Nat
  /-- Whether the ends belong to the interval. -/
  closed : Bool

/-- The interval of a number: half a step to each side, a quarter below a power of two. The ends
round to it when its mantissa is even. -/
def roundingInterval (x : Binary64) : RoundingInterval :=
  -- Quarters of a step: below a power of two the next number is half as far away.
  let below := if x.mantissa = Nat.pow 2 52 && leastExponent < x.exponent then 1 else 2
  let s := if 0 ≤ x.exponent then Nat.pow 2 x.exponent.toNat else 1
  let d := if 0 ≤ x.exponent then 1 else Nat.pow 2 (-x.exponent).toNat
  { low := (4 * x.mantissa - below) * s, value := 4 * x.mantissa * s,
    high := (4 * x.mantissa + 2) * s, den := 4 * d, closed := x.mantissa % 2 == 0 }

/-- Whether `n · 10 ^ place` lies in an interval. -/
def RoundingInterval.holds (i : RoundingInterval) (n : Nat) (place : Int) : Bool :=
  let v := if 0 ≤ place then n * Nat.pow 10 place.toNat * i.den else n * i.den
  let k := if 0 ≤ place then 1 else Nat.pow 10 (-place).toNat
  if i.closed then i.low * k ≤ v && v ≤ i.high * k else i.low * k < v && v < i.high * k

/-- The number of digits of the integer part of `num / den`, or for a number below one minus the
count of zeros after its point. -/
def pointOf (num den : Nat) : Int :=
  if den ≤ num then ((Nat.toDigits 10 (num / den)).length : Int)
  else
    match (List.range 400).find? fun j => den ≤ num * Nat.pow 10 (j + 1) with
    | some zeros => -(zeros : Int)
    | none => 0

/-- A decimal without the zeros at its end. -/
def stripZeros : Nat → Nat → Nat
  | 0, n => n
  | fuel + 1, n => if n % 10 = 0 then stripZeros fuel (n / 10) else n

/-- The decimal `n · 10 ^ place` as digits and point. -/
def Digits.ofScaled (n : Nat) (place : Int) : Digits :=
  ⟨stripZeros 20 n, (Nat.toDigits 10 n).length + place⟩

/-- The neighbour of the number on the grid of a last place that lies in the interval, the nearer
one of two. -/
def onGrid (i : RoundingInterval) (place : Int) : Option Digits :=
  let num := if 0 ≤ place then i.value else i.value * Nat.pow 10 (-place).toNat
  let den := if 0 ≤ place then i.den * Nat.pow 10 place.toNat else i.den
  -- `n` and `n + 1` are the neighbours; the number lies `r / den` above `n`.
  let n := num / den
  let r := num % den
  let up : Bool := decide (den < 2 * r) || (decide (2 * r = den) && n % 2 == 1)
  let first := if up then n + 1 else n
  let second := if up then n else n + 1
  if i.holds first place then some (.ofScaled first place)
  else if i.holds second place then some (.ofScaled second place)
  else none

/-- The shortest decimal that rounds to a number other than zero. -/
def shortest (x : Binary64) : Digits :=
  let i := roundingInterval x
  let point := pointOf i.value i.den
  match (List.range 17).findSome? fun n => onGrid i (point - (n + 1 : Nat)) with
  | some d => d
  | none => ⟨0, 0⟩

end KeymapCompiler.Decimal
