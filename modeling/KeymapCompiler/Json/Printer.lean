/-
KeymapCompiler/Json/Printer.lean

The text of a JSON value, on one line without blanks or spread over indented
lines.  Strings escape the quote, the backslash and the control characters, and
nothing else.
-/
import KeymapCompiler.Json.Value

namespace KeymapCompiler.Json

/-- A character as it stands in a string: a letter escape where there is one, four hexadecimal
digits for the other control characters. -/
def escapeStringChar (c : Char) : List Char :=
  if c = '\x22' then ['\\', '\x22']
  else if c = '\\' then ['\\', '\\']
  else if c = '\n' then ['\\', 'n']
  else if c = '\r' then ['\\', 'r']
  else if c = '\t' then ['\\', 't']
  else if c.toNat = 8 then ['\\', 'b']
  else if c.toNat = 12 then ['\\', 'f']
  else if c.toNat < 16 then ['\\', 'u', '0', '0', '0'] ++ Nat.toDigits 16 c.toNat
  else if c.toNat < 32 then ['\\', 'u', '0', '0'] ++ Nat.toDigits 16 c.toNat
  else [c]

/-- The text of a string. -/
def stringText (s : String) : List Char :=
  '\x22' :: s.toList.flatMap escapeStringChar ++ ['\x22']

/-! ### Compact text -/

mutual

/-- The compact text of a value. -/
def Value.compactChars : Value → List Char
  | .null => "null".toList
  | .bool true => "true".toList
  | .bool false => "false".toList
  | .number n => n.text.toList
  | .string s => stringText s
  | .array items => '[' :: compactItems items ++ [']']
  | .object fields => '\x7b' :: compactFields fields ++ ['\x7d']

/-- Items with commas between them. -/
def compactItems : List Value → List Char
  | [] => []
  | [v] => v.compactChars
  | v :: rest => v.compactChars ++ ',' :: compactItems rest

/-- Fields with commas between them. -/
def compactFields : List (String × Value) → List Char
  | [] => []
  | [(k, v)] => stringText k ++ ':' :: v.compactChars
  | (k, v) :: rest => stringText k ++ ':' :: v.compactChars ++ ',' :: compactFields rest

end

/-- The compact text of a value as a string. -/
def Value.compact (v : Value) : String :=
  String.ofList v.compactChars

/-! ### Indented text -/

/-- A line break and the indentation of a depth, two spaces each. -/
def breakLine (depth : Nat) : List Char :=
  '\n' :: List.replicate (2 * depth) ' '

mutual

/-- The indented text of a value at a depth. An empty array or object stays on its line. -/
def Value.indentedChars (depth : Nat) : Value → List Char
  | .array [] => ['[', ']']
  | .array (v :: rest) =>
    '[' :: breakLine (depth + 1) ++ v.indentedChars (depth + 1)
      ++ indentedItems depth rest ++ breakLine depth ++ [']']
  | .object [] => ['\x7b', '\x7d']
  | .object ((k, v) :: rest) =>
    '\x7b' :: breakLine (depth + 1) ++ stringText k ++ [':', ' '] ++ v.indentedChars (depth + 1)
      ++ indentedFields depth rest ++ breakLine depth ++ ['\x7d']
  | .null => "null".toList
  | .bool true => "true".toList
  | .bool false => "false".toList
  | .number n => n.text.toList
  | .string s => stringText s

/-- The items after the first, each on a line of its own. -/
def indentedItems (depth : Nat) : List Value → List Char
  | [] => []
  | v :: rest =>
    ',' :: breakLine (depth + 1) ++ v.indentedChars (depth + 1) ++ indentedItems depth rest

/-- The fields after the first, each on a line of its own. -/
def indentedFields (depth : Nat) : List (String × Value) → List Char
  | [] => []
  | (k, v) :: rest =>
    ',' :: breakLine (depth + 1) ++ stringText k ++ [':', ' '] ++ v.indentedChars (depth + 1)
      ++ indentedFields depth rest

end

/-- The indented text of a value as a string. -/
def Value.indented (v : Value) : String :=
  String.ofList (v.indentedChars 0)

end KeymapCompiler.Json
