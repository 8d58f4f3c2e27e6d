/-
KeymapCompiler/Decimal/Numeral.lean

Decimal numerals and the numbers they are read as.

A numeral is kept as it is written: sign, digits before the point, digits after
it, exponent.  It can be read in two ways.

* `Numeral.nearest` is the number nearest to what is written.
* `Numeral.scanned` is what a left-to-right reader with a 64-bit significand
  makes of it: digits are collected while they fit, the rest only move the
  point, and the significand is then multiplied or divided by the power of ten,
  with rounding after each of these steps.  Documents are read this way, so the
  last digit of a long numeral can differ from the nearest number's.

`Numeral.ofChars?` reads a numeral that stands alone, as the value of a build
setting does.
-/
import KeymapCompiler.Text.Digits
import KeymapCompiler.Decimal.Binary64

namespace KeymapCompiler.Decimal

open KeymapCompiler.Text

/-- The exponent part of a numeral. -/
structure Exponent where
  /-- Whether its sign is minus. -/
  negative : Bool
  /-- Its digits. -/
  digits : List Char
deriving DecidableEq, Repr

/-- The value of an exponent part. -/
def Exponent.value (e : Exponent) : Int :=
  if e.negative then -(ofDigits e.digits : Int) else ofDigits e.digits

/-- A decimal numeral as it is written. -/
structure Numeral where
  /-- Whether its sign is minus. -/
  negative : Bool
  /-- The digits before the point. -/
  whole : List Char
  /-- The digits after the point, if there is a point. -/
  fraction : Option (List Char)
  /-- The exponent part, if there is one. -/
  exponent : Option Exponent
deriving DecidableEq, Repr

namespace Numeral

/-- Whether a numeral has neither point nor exponent. -/
def isInteger (n : Numeral) : Bool :=
  n.fraction.isNone && n.exponent.isNone

/-- All digits of a numeral, without the point. -/
def digits (n : Numeral) : List Char :=
  n.whole ++ n.fraction.getD []

/-- The power of ten that the last digit counts. -/
def lastPlace (n : Numeral) : Int :=
  (n.exponent.map Exponent.value).getD 0 - (n.fraction.getD []).length

/-! ### The nearest number -/

/-- The number nearest to a numeral; nothing when it is too large. A numeral far outside the
range is settled by its count of digits, without computing the power of ten. -/
def nearest (n : Numeral) : Option Binary64 :=
  let d := ofDigits n.digits
  -- The number is below `10 ^ size` and, unless it is zero, not far below.
  let size : Int := (Nat.toDigits 10 d).length + n.lastPlace
  if d = 0 then some (.zero n.negative)
  else if 400 < size then none
  else if size < -400 then some (.zero n.negative)
  else if 0 ≤ n.lastPlace then Decimal.nearest n.negative (d * Nat.pow 10 n.lastPlace.toNat) 1
  else Decimal.nearest n.negative d (Nat.pow 10 (-n.lastPlace).toNat)

/-! ### The scanned number -/

/-- Collects digits into a significand while it stays below `2 ^ 64`; also answers how many
digits were left out. -/
def collect (significand : Nat) : List Char → Nat × Nat
  | [] => (significand, 0)
  | c :: rest =>
    let next := 10 * significand + digitValue c
    if next < Nat.pow 2 64 then collect next rest else (significand, rest.length + 1)

/-- The number nearest to a power of ten; the largest finite one past the range. -/
def powerOfTen (k : Nat) : Binary64 :=
  (Decimal.nearest false (Nat.pow 10 k) 1).getD ⟨false, Nat.pow 2 53 - 1, greatestExponent⟩

/-- Divides by a power of ten in steps of `10 ^ 308`, rounding after each. -/
def divideSteps : Nat → Binary64 → Nat → Binary64
  | 0, x, _ => .zero x.negative
  | fuel + 1, x, k =>
    if k ≤ 308 then (x.div (powerOfTen k)).getD x
    else if x.isZero then x
    else divideSteps fuel ((x.div (powerOfTen 308)).getD x) (k - 308)

/-- A significand times a power of ten; nothing when it is too large. -/
def scale (negative : Bool) (significand : Nat) (exponent : Int) : Option Binary64 := do
  let x ← Decimal.nearest negative significand 1
  if exponent < 0 then some (divideSteps 5 x (-exponent).toNat)
  else if exponent ≤ 308 then x.mul (powerOfTen exponent.toNat)
  else if x.isZero then some x
  else none

/-- The significand of a numeral as a left-to-right reader collects it, and the power of ten that
its last digit counts before the exponent part is applied. -/
def significand (n : Numeral) : Nat × Int :=
  let w := collect 0 n.whole
  let f := collect w.1 (n.fraction.getD [])
  (f.1, (w.2 : Int) - ((n.fraction.getD []).length - f.2 : Nat))

/-- The number that a left-to-right reader makes of a numeral; nothing when it is too large. An
exponent beyond 31 bits means zero or too large. -/
def scanned (n : Numeral) : Option Binary64 :=
  let s := n.significand
  match n.exponent with
  | none => scale n.negative s.1 s.2
  | some e =>
    if Nat.pow 2 31 ≤ ofDigits e.digits then
      if s.1 = 0 || e.negative then some (.zero n.negative) else none
    else scale n.negative s.1 (s.2 + e.value)

/-! ### A numeral that stands alone -/

/-- Splits off a sign; no sign is plus. -/
def splitSign : List Char → Bool × List Char
  | '-' :: rest => (true, rest)
  | '+' :: rest => (false, rest)
  | cs => (false, cs)

/-- Splits off the digits that a text starts with. -/
def splitDigits (cs : List Char) : List Char × List Char :=
  (cs.takeWhile Char.isDigit, cs.dropWhile Char.isDigit)

/-- Splits off a point and the digits after it, if there is a point. -/
def splitFraction : List Char → Option (List Char) × List Char
  | '.' :: rest => (some (splitDigits rest).1, (splitDigits rest).2)
  | cs => (none, cs)

/-- Splits off an exponent part, if there is one; nothing when it has no digits. -/
def splitExponent : List Char → Option (Option Exponent × List Char)
  | c :: rest =>
    if c = 'e' || c = 'E' then
      let signed := splitSign rest
      let ds := splitDigits signed.2
      if ds.1.isEmpty then none else some (some ⟨signed.1, ds.1⟩, ds.2)
    else some (none, c :: rest)
  | [] => some (none, [])

/-- Reads a whole text as a numeral: an optional sign, digits with an optional point anywhere
among them, an optional exponent. -/
def ofChars? (cs : List Char) : Option Numeral := do
  let signed := splitSign cs
  let w := splitDigits signed.2
  let f := splitFraction w.2
  if w.1.isEmpty && (f.1.getD []).isEmpty then none
  let e ← splitExponent f.2
  if e.2.isEmpty then some ⟨signed.1, w.1, f.1, e.1⟩ else none

end Numeral

example : (Numeral.ofChars? "-12.5e3".toList).bind Numeral.nearest
    = nearest true 12500 1 := by decide +kernel

end KeymapCompiler.Decimal
