/-
KeymapCompiler/Json/Record.lean

Reading JSON values into types.  A `Reader` turns a value into a member of a type
or says why it does not fit.  A record is read from an object, or from an array
with the values of its fields in order of declaration.

`JsonRecord.ofTree?` reads text whose ignored parts need not have a value, and
`readText` decides what a fault means for the whole text: a fault in the shape
counts only if the text is well formed.
-/
import KeymapCompiler.Json.Tree
import KeymapCompiler.Record
import KeymapCompiler.Text.Quoted
import KeymapCompiler.Word

namespace KeymapCompiler.Json

open KeymapCompiler.Text KeymapCompiler.Decimal

/-- Why a value does not fit. -/
inductive Mismatch where
  /-- A value of another kind than the expected one. -/
  | kind (found : Value) (expected : String)
  /-- An integer out of range. -/
  | range (found : Int) (expected : String)
  /-- A field that must be given is not. -/
  | missing (name : String)
  /-- A field is given twice. -/
  | repeated (name : String)
  /-- An array ends before a field that must be given. -/
  | short (position : Nat) (record : String) (size : Nat)
  /-- An array has more items than the record has fields. -/
  | surplus (length : Nat)
  /-- An object that should have exactly one field. -/
  | severalFields
  /-- A value that is neither an index nor a name of a layer. -/
  | layerReference

/-- A value as a diagnostic shows it: scalars with their text, others by their kind. -/
def Value.shown : Value → String
  | .null => "null"
  | .bool true => "boolean `true`"
  | .bool false => "boolean `false`"
  | .number (.int n) => s!"integer `{n}`"
  | .number (.float x) => "floating point `" ++ x.text documentStyle ++ "`"
  | .string s => "string " ++ quoted s
  | .array _ => "sequence"
  | .object _ => "map"

/-- Where a value was read from; it decides how surplus items are reported. -/
inductive Source where
  /-- The text of a whole input. -/
  | text
  /-- A value inside an input. -/
  | value

/-- The wording of a mismatch. -/
def Mismatch.message (source : Source) : Mismatch → String
  | .kind found expected => s!"invalid type: {found.shown}, expected {expected}"
  | .range found expected => s!"invalid value: integer `{found}`, expected {expected}"
  | .missing field => s!"missing field `{field}`"
  | .repeated field => s!"duplicate field `{field}`"
  | .short position record size =>
    s!"invalid length {position}, expected struct {record} with {size} elements"
  | .surplus length =>
    match source with
    | .text => "trailing characters"
    | .value => s!"invalid length {length}, expected fewer elements in array"
  | .severalFields => "invalid value: map, expected map with a single key"
  | .layerReference => "data did not match any variant of untagged enum LayerRef"

/-- A way to read a value. -/
abbrev Reader (α : Type) := Value → Except Mismatch α

namespace Reader

/-- Reads a string. -/
def string : Reader String
  | .string s => .ok s
  | v => .error (.kind v "a string")

/-- Reads a truth value. -/
def boolean : Reader Bool
  | .bool b => .ok b
  | v => .error (.kind v "a boolean")

/-- Reads an integer from `0` to below `2 ^ 32`. -/
def natural32 : Reader Nat
  | .number (.int n) =>
    if Word.isUnsigned 32 n then .ok n.toNat else .error (.range n "u32")
  | v => .error (.kind v "u32")

/-- Reads an integer of 64 bits with a sign. -/
def integer64 : Reader Int
  | .number (.int n) => if Word.isSigned 64 n then .ok n else .error (.range n "i64")
  | v => .error (.kind v "i64")

/-- Reads any value. -/
def any : Reader Value := .ok

/-- Reads `null` as nothing and all else by another reader. -/
def optional {α : Type} (read : Reader α) : Reader (Option α)
  | .null => .ok none
  | v => (read v).map some

/-- Reads items one after the other; the first that does not fit decides. -/
def items {α : Type} (read : Reader α) : List Value → Except Mismatch (List α)
  | [] => .ok []
  | v :: rest => do
    let x ← read v
    let xs ← items read rest
    .ok (x :: xs)

/-- Reads an array. -/
def list {α : Type} (read : Reader α) : Reader (List α)
  | .array vs => items read vs
  | v => .error (.kind v "a sequence")

end Reader

/-! ### Records -/

/-- A record read from JSON values. -/
abbrev JsonRecord (α : Type) := Record Value Mismatch α

namespace JsonRecord

/-- A field that may be left out or be `null`. -/
def optional {α : Type} (name : String) (aliases : List String) (read : Reader α) :
    JsonRecord (Option α) :=
  Record.defaulted name aliases none (Reader.optional read)

/-- A field that holds a list, empty when left out. -/
def list {α : Type} (name : String) (aliases : List String) (read : Reader α) :
    JsonRecord (List α) :=
  Record.defaulted name aliases [] (Reader.list read)

/-- Reads named values in their order. -/
def ofNamed {α : Type} (r : JsonRecord α) (values : List (String × Value)) : Except Mismatch α :=
  r.ofFields .repeated .missing values

/-- Reads an array that holds the values of a record of a name, with none to spare. -/
def ofArray {α : Type} (r : JsonRecord α) (name : String) (length : Nat) (values : List Value) :
    Except Mismatch α := do
  let x ← r.ofItems (fun i => .short i name r.fields.length) values
  if r.fields.length < length then .error (.surplus length) else .ok x

/-- Reads an object or an array as a record of a name. -/
def read {α : Type} (r : JsonRecord α) (name : String) : Reader α
  | .object values => r.ofNamed values
  | .array values => r.ofArray name values.length values
  | v => .error (.kind v s!"struct {name}")

/-- The fields of an object that a record knows, in the order of the text; nothing when one of
them, or some field's name, stands for nothing. -/
def knownFields? (known : List (Field Value Mismatch)) (depth : Nat) :
    List (Option String × Tree) → Option (List (String × Value))
  | [] => some []
  | (name, t) :: rest => do
    let k ← name
    let vs ← knownFields? known depth rest
    if known.any (·.accepts k) then
      let v ← t.value? depth
      some ((k, v) :: vs)
    else some vs

/-- Reads text as a record of a name, with `depth` levels of nesting allowed; nothing when a part
that is read stands for nothing. -/
def ofTree? {α : Type} (r : JsonRecord α) (name : String) (depth : Nat) :
    Tree → Option (Except Mismatch α)
  | .object values => (knownFields? r.fields (depth - 1) values).map r.ofNamed
  | .array values =>
    (itemValues? (depth - 1) (values.take r.fields.length)).map
      (r.ofArray name values.length)
  | t => (t.value? depth).map (r.read name)

/-- Reads the items of an array as records of a name; the first that does not fit decides. -/
def itemsOfTrees? {α : Type} (r : JsonRecord α) (name : String) (depth : Nat) :
    List Tree → Option (Except Mismatch (List α))
  | [] => some (.ok [])
  | t :: rest => do
    match ← r.ofTree? name depth t with
    | .ok x => (itemsOfTrees? r name depth rest).map fun xs => xs.map (x :: ·)
    | .error cause => some (.error cause)

/-- Reads an array of records of a name. -/
def listOfTree? {α : Type} (r : JsonRecord α) (name : String) (depth : Nat) :
    Tree → Option (Except Mismatch (List α))
  | .array items => itemsOfTrees? r name (depth - 1) items
  | t => (t.value? depth).map fun v => .error (.kind v "a sequence")

end JsonRecord

/-! ### Reading whole texts -/

/-- Reads a text by way of its tree. A fault in the shape counts only if the whole text is well
formed. -/
def readText {α : Type} (read : Tree → Option (Except Mismatch α)) (text : String) :
    Except (ReadFailure Mismatch) α :=
  match Tree.ofString? text with
  | none => .error .malformed
  | some t =>
    match read t with
    | some (.ok x) => .ok x
    | some (.error cause) =>
      if (t.value? maxDepth).isSome then .error (.mismatch cause) else .error .malformed
    | none => .error .malformed

/-- Reads a text by way of its value. -/
def readValue {α : Type} (read : Reader α) (text : String) : Except (ReadFailure Mismatch) α :=
  readText (fun t => (t.value? maxDepth).map read) text

end KeymapCompiler.Json
