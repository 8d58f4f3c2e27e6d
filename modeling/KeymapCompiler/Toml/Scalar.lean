/-
KeymapCompiler/Toml/Scalar.lean

The forms of numbers, truth values and dates in TOML.  The settings are strings,
so these values are only recognised, and numbers checked for their size.
-/
import KeymapCompiler.Decimal.Numeral
import KeymapCompiler.Word

namespace KeymapCompiler.Toml

open KeymapCompiler.Text KeymapCompiler.Decimal

/-- Whether a text is a run of digits, with single underscores between them. -/
def isRun (isDigit : Char → Bool) : List Char → Bool
  | [] => false
  | [c] => isDigit c
  | c :: '_' :: rest => isDigit c && isRun isDigit rest
  | c :: rest => isDigit c && isRun isDigit rest

/-- A text without its sign. -/
def unsigned : List Char → List Char
  | '+' :: rest => rest
  | '-' :: rest => rest
  | cs => cs

/-- Whether a text is a decimal integer without sign: a zero, or a run that starts with none. -/
def isWhole (cs : List Char) : Bool :=
  cs == ['0'] || (cs.head? != some '0' && isRun Char.isDigit cs)

/-- Whether a text is an integer, decimal or of another base. -/
def isInteger : List Char → Bool
  | '0' :: 'x' :: rest => isRun isHexDigit rest
  | '0' :: 'o' :: rest => isRun (fun c => '0' ≤ c && c ≤ '7') rest
  | '0' :: 'b' :: rest => isRun (fun c => c == '0' || c == '1') rest
  | cs => isWhole (unsigned cs)

/-- Whether a text is an exponent after its mark. -/
def isExponent (cs : List Char) : Bool :=
  isRun Char.isDigit (unsigned cs)

/-- Whether a character marks an exponent. -/
def isExponentMark (c : Char) : Bool :=
  c == 'e' || c == 'E'

/-- Whether a text is a floating-point number. -/
def isFloat (cs : List Char) : Bool :=
  let body := unsigned cs
  if body == "inf".toList || body == "nan".toList then true
  else
    let whole := body.takeWhile fun c => c != '.' && !isExponentMark c
    isWhole whole &&
      match body.drop whole.length with
      | '.' :: rest =>
        let fraction := rest.takeWhile fun c => !isExponentMark c
        isRun Char.isDigit fraction &&
          match rest.drop fraction.length with
          | [] => true
          | _ :: exponent => isExponent exponent
      | _ :: exponent => isExponent exponent
      | [] => false

/-! ### Sizes -/

/-- The magnitude of an integer without underscores. -/
def magnitude : List Char → Nat
  | '0' :: 'x' :: rest => ofHexDigits rest
  | '0' :: 'o' :: rest => rest.foldl (fun n c => 8 * n + digitValue c) 0
  | '0' :: 'b' :: rest => rest.foldl (fun n c => 2 * n + digitValue c) 0
  | cs => ofDigits (unsigned cs)

/-- Whether 128 bits hold an integer without underscores, with a sign or without one. -/
def isIntegerInRange (cs : List Char) : Bool :=
  if cs.head? == some '-' then magnitude cs ≤ Word.count 127 else magnitude cs < Word.count 128

/-- Whether a floating-point number without underscores is not too large. -/
def isFloatInRange (cs : List Char) : Bool :=
  match Numeral.ofChars? cs with
  | some n => n.nearest.isSome
  -- The words for infinity and for what is no number are in range.
  | none => true

/-- Whether a value is in range if it is a number. -/
def isInRange (cs : List Char) : Bool :=
  let plain := cs.filter (· != '_')
  if isInteger cs then isIntegerInRange plain
  else if isFloat cs then isFloatInRange plain
  else true

/-! ### Dates -/

/-- The number that a fixed number of digits stands for. -/
def fixedDigits? (count : Nat) (cs : List Char) : Option (Nat × List Char) :=
  let ds := cs.take count
  if ds.length = count && ds.all Char.isDigit then some (ofDigits ds, cs.drop count) else none

/-- The number of days of a month. -/
def daysOf (year month : Nat) : Nat :=
  if month = 2 then
    if year % 4 = 0 && (year % 100 != 0 || year % 400 = 0) then 29 else 28
  else if [4, 6, 9, 11].contains month then 30
  else 31

/-- Splits off a date. -/
def splitDate (cs : List Char) : Option (List Char) := do
  let (year, cs) ← fixedDigits? 4 cs
  let '-' :: cs := cs | none
  let (month, cs) ← fixedDigits? 2 cs
  let '-' :: cs := cs | none
  let (day, cs) ← fixedDigits? 2 cs
  if 1 ≤ month && month ≤ 12 && 1 ≤ day && day ≤ daysOf year month then some cs else none

/-- Splits off the part of a second after its point, if there is one. -/
def splitSubsecond : List Char → Option (List Char)
  | '.' :: rest =>
    if rest.head?.any Char.isDigit then some (rest.dropWhile Char.isDigit) else none
  | cs => some cs

/-- Splits off a time of the day; the seconds may be left out. -/
def splitTime (cs : List Char) : Option (List Char) := do
  let (hour, cs) ← fixedDigits? 2 cs
  let ':' :: cs := cs | none
  let (minute, cs) ← fixedDigits? 2 cs
  if 23 < hour || 59 < minute then none
  else
    match cs with
    | ':' :: cs => do
      let (second, cs) ← fixedDigits? 2 cs
      if second ≤ 60 then splitSubsecond cs else none
    | _ => some cs

/-- Whether a text is empty or an offset from universal time. -/
def isOffset : List Char → Bool
  | [] => true
  | ['Z'] | ['z'] => true
  | c :: rest =>
    (c == '+' || c == '-') &&
      match fixedDigits? 2 rest with
      | some (hour, ':' :: minutes) =>
        hour ≤ 23 &&
          match fixedDigits? 2 minutes with
          | some (minute, []) => minute ≤ 59
          | _ => false
      | _ => false

/-- Whether a text is a date, a time, or both with an optional offset. -/
def isDate (cs : List Char) : Bool :=
  match splitDate cs with
  | some [] => true
  | some (c :: rest) =>
    (c == 'T' || c == 't' || c == ' ') &&
      match splitTime rest with
      | some offset => isOffset offset
      | none => false
  | none =>
    match splitTime cs with
    | some [] => true
    | _ => false

/-- Whether a text is a number, a truth value or a date. -/
def isScalar (cs : List Char) : Bool :=
  cs == "true".toList || cs == "false".toList || isInteger cs || isFloat cs || isDate cs

/-- The characters of these values. -/
def isScalarChar (c : Char) : Bool :=
  c.isAlphanum || c == '+' || c == '-' || c == '_' || c == '.' || c == ':'

/-- Splits off a number, a truth value or a date. A date may be followed by a space and a time. -/
def splitScalar (cs : List Char) : Option (String × List Char) :=
  let token := cs.takeWhile isScalarChar
  let rest := cs.drop token.length
  let more := (rest.drop 1).takeWhile isScalarChar
  -- A space after a date belongs to the value only if a time follows.
  let long := splitDate token == some [] && rest.head? == some ' '
    && more.head?.any Char.isDigit
  let whole := if long then token ++ ' ' :: more else token
  if isScalar whole then some (String.ofList whole, cs.drop whole.length) else none

end KeymapCompiler.Toml
