/-
KeymapCompiler/Kconfig/Setting.lean

Values of settings as they are written in the build's configuration.  A value in
the document is a string, a number or a truth value; its text is then written as
the type of the symbol demands, or refused.
-/
import KeymapCompiler.Decimal.Numeral
import KeymapCompiler.Document
import KeymapCompiler.Kconfig.Map
import KeymapCompiler.Report
import KeymapCompiler.Text.Blank
import KeymapCompiler.Word

namespace KeymapCompiler.Kconfig

open KeymapCompiler.Text KeymapCompiler.Decimal

/-- Why a parameter sets nothing. -/
inductive SkipCause where
  /-- The parameter is no symbol and not in the map. -/
  | noMapping
  /-- An earlier parameter has set the symbol. -/
  | alreadySet (symbol : String)
  /-- Neither the document nor the map gives a value. -/
  | noValue
  /-- An array or an object. -/
  | unsupported (value : Json.Value)
  /-- No truth value. -/
  | notBoolean (text : String)
  /-- No number. -/
  | notNumber (text : String)
  /-- A number that 64 bits do not hold. -/
  | tooLarge (text : String)

/-- The kind of warning that a cause is reported as. -/
def SkipCause.kind : SkipCause → WarningKind
  | .noMapping => .configMappingMiss
  | _ => .skippedEntry

/-- The wording of a cause. -/
def SkipCause.message : SkipCause → String
  | .noMapping => "no Kconfig mapping for this parameter"
  | .alreadySet symbol => symbol ++ " is already set by an earlier parameter"
  | .noValue => "no value and no default"
  | .unsupported value => "unsupported value " ++ value.compact
  | .notBoolean text => "'" ++ text ++ "' is not a boolean"
  | .notNumber text => "'" ++ text ++ "' is not a number"
  | .tooLarge text => "'" ++ text ++ "' does not fit a 64-bit integer"

/-! ### Values -/

/-- The text of a value. -/
def valueText : Json.Value → Except SkipCause String
  | .string s => .ok s
  | .bool b => .ok (if b then "y" else "n")
  | .number n => .ok n.text
  | .null => .error .noValue
  | v => .error (.unsupported v)

/-- The value in force: the document's, or the map's if the document gives `null`. -/
def effective (value : Json.Value) (fallback : Option Json.Value) : Json.Value :=
  match value with
  | .null => fallback.getD .null
  | v => v

/-- The digits of a hexadecimal literal, after its mark. -/
def hexDigits? : List Char → Option (List Char)
  | '0' :: 'x' :: rest => some rest
  | '0' :: 'X' :: rest => some rest
  | _ => none

/-- Whether a text is a hexadecimal number with an optional sign that 64 bits hold. -/
def isHexNumber (cs : List Char) : Bool :=
  let signed := Numeral.splitSign cs
  let n : Int := ofHexDigits signed.2
  !signed.2.isEmpty && signed.2.all isHexDigit && Word.isSigned 64 (if signed.1 then -n else n)

/-- A text as a truth value. -/
def renderBool (text : String) : Except SkipCause String :=
  let word := lowered (trimmed text)
  if ["y", "true", "1"].contains word then .ok "y"
  else if ["n", "false", "0"].contains word then .ok "n"
  else .error (.notBoolean text)

/-- A text as an integer: a hexadecimal literal as it is, and a decimal number without the part
after its point. -/
def renderInt (text : String) : Except SkipCause String :=
  let cs := trim text.toList
  match hexDigits? cs with
  | some ds => if isHexNumber ds then .ok (String.ofList cs) else .error (.notNumber text)
  | none =>
    match (Numeral.ofChars? cs).bind Numeral.nearest with
    | some x =>
      let n := x.truncate
      if Word.isSigned 64 n then .ok (toString n) else .error (.tooLarge text)
    | none => .error (.notNumber text)

/-- A text with a backslash before every quote and backslash. -/
def escaped : List Char → List Char
  | [] => []
  | c :: rest =>
    if c = '\\' ∨ c = '\x22' then '\\' :: c :: escaped rest else c :: escaped rest

/-- A text in quotes. -/
def renderString (text : String) : String :=
  String.ofList ('\x22' :: escaped text.toList ++ ['\x22'])

/-- A text as a value of a type. -/
def SymbolType.render (type : SymbolType) (text : String) : Except SkipCause String :=
  match type with
  | .bool => renderBool text
  | .int => renderInt text
  | .string => .ok (renderString text)
  | .unknown _ => .ok (trimmed text)

/-! ### Settings -/

/-- A symbol with its value, and the parameter that set it. -/
structure Setting where
  /-- The symbol. -/
  symbol : String
  /-- The value as it is written. -/
  value : String
  /-- The name of the parameter. -/
  parameter : String
  /-- What is said about it in a comment. -/
  description : Option String

namespace Setting

/-- A description on one line; nothing for a blank one. -/
def remark (description : Option String) : Option String :=
  match description.map fun d => trim d.toList with
  | none | some [] => none
  | some text => some (String.ofList (text.map fun c => if c = '\n' then ' ' else c))

/-- The line that sets the symbol. -/
def assignment (s : Setting) : String :=
  s.symbol ++ "=" ++ s.value

/-- The comment that says where the setting comes from. -/
def origin (s : Setting) : String :=
  let lead := "\x23 from config parameter '" ++ s.parameter ++ "'"
  match remark s.description with
  | some text => lead ++ ": " ++ text
  | none => lead

/-- The lines of a setting. -/
def text (s : Setting) : String :=
  s.assignment ++ "\n" ++ s.origin ++ "\n"

end Setting

end KeymapCompiler.Kconfig
