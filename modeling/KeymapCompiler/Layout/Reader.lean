/-
KeymapCompiler/Layout/Reader.lean

Reading a layout from JSON5 text.

A field can be given under several names, and most have a default.  The rules of
columns and the names of key positions are objects whose field names are numerals
themselves, so `"0x1"` and `"1"` are the same column; of two fields for one
number the later counts.
-/
import KeymapCompiler.Json5.Tree
import KeymapCompiler.Layout
import KeymapCompiler.Record
import KeymapCompiler.Word

namespace KeymapCompiler.Layout

open KeymapCompiler.Decimal

/-- Why a tree is no layout. -/
inductive Fault where
  /-- Something else stands where a form is expected. -/
  | expected (form : String)
  /-- A number of another kind than the expected type. -/
  | kind (found : Json5.Number) (type : String)
  /-- An integer out of the range of a type. -/
  | range (found : Int) (type : String)
  /-- A name that is no alignment. -/
  | noAlignment (name : String)
  /-- A field that must be given is not. -/
  | missing (name : String)
  /-- A field is given twice. -/
  | repeated (name : String)
  /-- The name of a field should be a numeral. -/
  | numeral (cause : Json5.NumeralFault)
  /-- The name of a field is a numeral with something after it. -/
  | trailing
  /-- There is no comment in the name of a field where one should be. -/
  | comment (cause : Json5.GapFault)

/-- A number as a diagnostic shows it. -/
def shownNumber : Json5.Number → String
  | .int n =>
    if Word.isUnsigned 64 n || Word.isSigned 64 n then s!"integer `{n}`"
    else if 0 ≤ n then s!"integer `{n}` as u128"
    else s!"integer `{n}` as i128"
  | .float x => "floating point `" ++ x.text positionalStyle ++ "`"
  | .infinite negative => if negative then "floating point `-inf`" else "floating point `inf`"
  | .nan => "floating point `NaN`"

/-- The wording of a fault in a numeral. -/
def numeralMessage : Json5.NumeralFault → String
  | .noNumeral => "expected number"
  | .ended => "EOF parsing number"
  | .leadingZero => "leading zero"
  | .disordered => "invalid float literal"
  | .overflow => "overflow parsing number"
  | .tooLarge => "number too large to fit in target type"

/-- The wording of a fault in a comment. -/
def commentMessage : Json5.GapFault → String
  | .ended => "EOF parsing comment"
  | .noComment => "expected comment"

/-- The wording of a fault. -/
def Fault.message : Fault → String
  | .expected form => s!"expected {form}"
  | .kind found type => s!"invalid type: {shownNumber found}, expected {type}"
  | .range found type => s!"invalid value: integer `{found}`, expected {type}"
  | .noAlignment name =>
    let choices := ", ".intercalate (Alignment.all.map fun a => s!"`{a.name}`")
    s!"unknown variant `{name}`, expected one of {choices}"
  | .missing field => s!"missing field `{field}`"
  | .repeated field => s!"duplicate field `{field}`"
  | .numeral cause => numeralMessage cause
  | .trailing => "trailing characters"
  | .comment cause => commentMessage cause

/-! ### Values -/

/-- A way to read a tree. -/
abbrev TreeReader (α : Type) := Json5.Tree → Except Fault α

/-- Reads a string. -/
def text : TreeReader String
  | .string s => .ok s
  | _ => .error (.expected "string")

/-- Reads an array item by item; the first that does not fit decides. -/
def list {α : Type} (read : TreeReader α) : TreeReader (List α)
  | .array items => items.mapM read
  | _ => .error (.expected "opening bracket")

/-- A number as a natural number of 64 bits; `type` is what a diagnostic calls it. -/
def natural (type : String) : Json5.Number → Except Fault Nat
  | .int n =>
    if Word.isUnsigned 64 n then .ok n.toNat
    else if Word.isSigned 64 n then .error (.range n type)
    else .error (.kind (.int n) type)
  | x => .error (.kind x type)

/-- Reads a natural number of 64 bits. -/
def size : TreeReader Nat
  | .number x => natural "usize" x
  | _ => .error (.expected "number")

/-- Reads a slot of a row: an integer of 64 bits with a sign. -/
def slot : TreeReader Slot
  | .number (.int n) =>
    if Word.isSigned 64 n then .ok (Slot.ofInt n)
    else if Word.isUnsigned 64 n then .error (.range n "i64")
    else .error (.kind (.int n) "i64")
  | .number x => .error (.kind x "i64")
  | _ => .error (.expected "number")

/-- An alignment by its name. -/
def alignmentOfName (name : String) : Except Fault Alignment :=
  match Alignment.ofName? name with
  | some a => .ok a
  | none => .error (.noAlignment name)

/-- Reads an alignment: its name, or an object with that name as its only field and `null` as the
value. -/
def alignment : TreeReader Alignment
  | .string name => alignmentOfName name
  | .object [] => .error (.expected "identifier")
  | .object ((name, v) :: rest) => do
    let a ← alignmentOfName name
    match v, rest with
    | .null, [] => .ok a
    | .null, _ => .error (.expected "closing brace")
    | _, _ => .error (.expected "null")
  | _ => .error (.expected "string or object")

/-- Reads the name of a field as a natural number. What follows the numeral is looked at last. -/
def index (name : String) : Except Fault Nat := do
  let start ← (Json5.skipGap name.toList).mapError .comment
  let (x, rest) ← (Json5.splitNumeral start).mapError .numeral
  let i ← natural "u64" x
  let after ← (Json5.skipGap rest).mapError .comment
  if after.isEmpty then .ok i else .error .trailing

/-- Reads the fields of an object whose names are numerals, the last first. -/
def numberedFields {α : Type} (read : TreeReader α) :
    List (String × Json5.Tree) → Except Fault (List (Nat × α))
  | [] => .ok []
  | (name, t) :: rest => do
    -- The name is read before the value, so its fault comes first.
    let i ← index name
    let x ← read t
    let others ← numberedFields read rest
    .ok (others ++ [(i, x)])

/-- Reads an object whose field names are numerals; of two fields for one number the later comes
first. -/
def numbered {α : Type} (read : TreeReader α) : TreeReader (List (Nat × α))
  | .object fields => numberedFields read fields
  | _ => .error (.expected "opening brace")

/-! ### Records -/

/-- A record read from JSON5. -/
abbrev TreeRecord (α : Type) := Record Json5.Tree Fault α

/-- Reads an object as a record. -/
def record {α : Type} (r : TreeRecord α) : TreeReader α
  | .object fields => r.ofFields .repeated .missing fields
  | _ => .error (.expected "opening brace")

/-- The alignment of columns. -/
def alignmentRules : TreeRecord AlignmentRules :=
  AlignmentRules.mk
    <$> Record.defaulted "default" [] .right alignment
    <*> Record.defaulted "columns" [] [] (numbered alignment)

/-- The style of rows. -/
def rowStyle : TreeRecord RowStyle :=
  let s := RowStyle.standard
  RowStyle.mk
    <$> Record.defaulted "baseIndent" ["base_indent"] s.indent text
    <*> Record.defaulted "keyGap" ["key_gap"] s.gap text
    <*> Record.defaulted "defaultKeyWidth" ["default_key_width"] s.keyWidth size
    <*> Record.defaulted "alignmentRules" ["alignment_rules"] s.alignment (record alignmentRules)

/-- A layout. -/
def layout : TreeRecord Layout :=
  Layout.mk
    <$> Record.required "keyboardName" ["keyboard_name", "keyboard"] text
    <*> Record.required "totalKeys" ["total_keys"] size
    <*> Record.required "rows" [] (list (list slot))
    <*> Record.defaulted "formatting" [] RowStyle.standard (record rowStyle)
    <*> Record.defaulted "keyPositionNames" ["key_position_names"] [] (numbered text)

/-- Reads a layout from text. -/
def ofString (s : String) : Except (ReadFailure Fault) Layout :=
  match Json5.Tree.ofString? s with
  | none => .error .malformed
  | some t => (record layout t).mapError .mismatch

end KeymapCompiler.Layout
