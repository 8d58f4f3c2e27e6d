/-
KeymapCompiler/Kconfig/Map.lean

The map from build parameters to settings of the firmware's build: for each
parameter the symbol it sets, the type of the symbol, a value to use when the
document gives none, and a description.
-/
import KeymapCompiler.Json.Record

namespace KeymapCompiler.Kconfig

open KeymapCompiler.Json

/-- The type of a symbol. -/
inductive SymbolType where
  /-- `y` or `n`. -/
  | bool
  /-- An integer. -/
  | int
  /-- A text in quotes. -/
  | string
  /-- Anything, written as it is; holds the name of the type if it is not recognized. -/
  | unknown (name : Option String)
deriving DecidableEq, Repr

/-- A text with its ASCII letters in lower case. -/
def lowered (s : String) : String :=
  String.ofList (s.toList.map Char.toLower)

/-- The names of the types. -/
def SymbolType.named : List (String × SymbolType) :=
  [("bool", .bool), ("boolean", .bool), ("int", .int), ("integer", .int), ("hex", .int),
   ("string", .string), ("str", .string), ("unknown", .unknown none)]

/-- The type of a name in any case. -/
def SymbolType.ofName : Option String → SymbolType
  | none => .unknown none
  | some name => (named.lookup (lowered name)).getD (.unknown (some (lowered name)))

/-- What a parameter sets. -/
structure Entry where
  /-- The symbol. -/
  symbol : String
  /-- The name of its type. -/
  typeName : Option String
  /-- The value to use when the document gives none. -/
  fallback : Option Value
  /-- What is said about it in a comment. -/
  description : Option String

/-- The type of the symbol. -/
def Entry.type (e : Entry) : SymbolType :=
  SymbolType.ofName e.typeName

/-- The fields of an entry. -/
def Entry.record : JsonRecord Entry :=
  Entry.mk
    <$> Record.required "kconfigName" ["kconfig_name"] Reader.string
    <*> JsonRecord.optional "type" [] Reader.string
    <*> JsonRecord.optional "default" [] Reader.any
    <*> JsonRecord.optional "description" [] Reader.string

/-- Entries by the name of the parameter, each name once. -/
abbrev Map := List (String × Entry)

namespace Map

/-- The entry of a parameter. -/
def get? (m : Map) (name : String) : Option Entry :=
  List.lookup name m

/-- Gives a parameter an entry in place of the one it had. -/
def insert (m : Map) (name : String) (e : Entry) : Map :=
  (m.filter (·.1 != name)) ++ [(name, e)]

/-- Reads the fields of an object in order into a map; a name given twice has its last entry. -/
def addFields? (m : Map) : List (Option String × Tree) → Option (Except Mismatch Map)
  | [] => some (.ok m)
  | (name, t) :: rest => do
    let k ← name
    match ← Entry.record.ofTree? "KconfigMapEntry" (maxDepth - 1) t with
    | .ok e => addFields? (m.insert k e) rest
    | .error cause => some (.error cause)

/-- Reads a map. -/
def ofTree? : Tree → Option (Except Mismatch Map)
  | .object fields => addFields? [] fields
  | t => (t.value? maxDepth).map fun v => .error (.kind v "a map")

/-- Reads a map from text. -/
def ofString (s : String) : Except (ReadFailure Mismatch) Map :=
  readText ofTree? s

end Map

end KeymapCompiler.Kconfig
