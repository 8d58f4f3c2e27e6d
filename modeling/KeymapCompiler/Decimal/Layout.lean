/-
KeymapCompiler/Decimal/Layout.lean

How a floating-point number is written: the digits of the shortest decimal that
reads back, laid out with a point or with an exponent as a `NumberStyle` says.
-/
import KeymapCompiler.Decimal.Shortest

namespace KeymapCompiler.Decimal

/-- The decisions of one way to write numbers. -/
structure NumberStyle where
  /-- The least decimal exponent written without an exponent part, if there is one. -/
  least : Option Int
  /-- The decimal exponent from which on the exponent part is written, if there is one. -/
  greatest : Option Int
  /-- What stands before a positive exponent. -/
  plus : String

/-- Numbers in documents: positional from `0.00001` up to below `10 ^ 16`, and with a signed
exponent outside. -/
def documentStyle : NumberStyle := ⟨some (-5), some 16, "+"⟩

/-- Numbers in diagnostics of hand-written layout files: always positional. -/
def positionalStyle : NumberStyle := ⟨none, none, "+"⟩

/-- Whether a decimal exponent is written positionally. -/
def NumberStyle.isPositional (style : NumberStyle) (exponent : Int) : Bool :=
  style.least.all (· ≤ exponent) && style.greatest.all (exponent < ·)

/-- Digits with a point; an integer ends in `.0`. -/
def positional (d : Digits) : List Char :=
  let ds := Nat.toDigits 10 d.digits
  if d.point ≤ 0 then ['0', '.'] ++ List.replicate (-d.point).toNat '0' ++ ds
  else if (ds.length : Int) ≤ d.point then
    ds ++ List.replicate (d.point.toNat - ds.length) '0' ++ ['.', '0']
  else ds.take d.point.toNat ++ ['.'] ++ ds.drop d.point.toNat

/-- Digits with an exponent: one digit before the point, and no point after a single digit. -/
def scientific (style : NumberStyle) (d : Digits) : List Char :=
  let ds := Nat.toDigits 10 d.digits
  let e := d.point - 1
  let exponent := if e < 0 then (toString e).toList else style.plus.toList ++ (toString e).toList
  match ds with
  | [x] => [x, 'e'] ++ exponent
  | x :: rest => [x, '.'] ++ rest ++ ['e'] ++ exponent
  | [] => []

/-- The text of a number in a style. -/
def Binary64.text (style : NumberStyle) (x : Binary64) : String :=
  let sign := if x.negative then ['-'] else []
  if x.isZero then String.ofList (sign ++ ['0', '.', '0'])
  else
    let d := shortest x
    let body := if style.isPositional (d.point - 1) then positional d else scientific style d
    String.ofList (sign ++ body)

example : ((nearest false 1 10).map (·.text documentStyle)) = some "0.1" := by decide +kernel
example : ((nearest true (Nat.pow 10 16) 1).map (·.text documentStyle)) = some "-1e+16" := by
  decide +kernel
example : ((nearest false 1 1000000).map (·.text documentStyle)) = some "1e-6" := by decide +kernel
example : ((nearest false 15 10).map (·.text positionalStyle)) = some "1.5" := by decide +kernel

end KeymapCompiler.Decimal
