/-
KeymapCompiler/Toml/Item.lean

TOML documents as trees of items, and how a document grows line by line.

A table can be spread over a document, but not defined twice: a header opens a
table that is new or was only passed through by a longer header, and a dotted key
adds to tables that were made by dotted keys.  What is written in one piece, an
array or an inline table, is complete and cannot be extended.

A number may be of any size in a document, but only one in range has a value.
-/
import KeymapCompiler.Toml.Scalar

namespace KeymapCompiler.Toml

/-- How a table came about. -/
inductive TableKind where
  /-- A longer header passed through it. -/
  | implicit
  /-- A header opened it. -/
  | explicit
  /-- A dotted key made it. -/
  | dotted
  /-- It was written in one piece. -/
  | inline
deriving DecidableEq, Repr

/-- An item of a document. -/
inductive Item where
  /-- A string. -/
  | string (s : String)
  /-- A number, truth value or date, as it is written. -/
  | scalar (text : String)
  /-- An array written in one piece. -/
  | array (items : List Item)
  /-- A table and its entries in order. -/
  | table (kind : TableKind) (entries : List (String × Item))
  /-- Tables opened one after the other by headers of the same name. -/
  | tables (elements : List (List (String × Item)))
deriving Inhabited, Repr

mutual

/-- Whether all numbers of an item are in range. -/
def Item.isInRange : Item → Bool
  | .string _ => true
  | .scalar text => Toml.isInRange text.toList
  | .array items => areItemsInRange items
  | .table _ entries => areEntriesInRange entries
  | .tables elements => areTablesInRange elements

/-- Whether all numbers of items are in range. -/
def areItemsInRange : List Item → Bool
  | [] => true
  | item :: rest => item.isInRange && areItemsInRange rest

/-- Whether all numbers of entries are in range. -/
def areEntriesInRange : List (String × Item) → Bool
  | [] => true
  | (_, item) :: rest => item.isInRange && areEntriesInRange rest

/-- Whether all numbers of tables are in range. -/
def areTablesInRange : List (List (String × Item)) → Bool
  | [] => true
  | entries :: rest => areEntriesInRange entries && areTablesInRange rest

end

/-- The entries of a table. -/
abbrev Entries := List (String × Item)

namespace Entries

/-- The item of a key. -/
def get? (es : Entries) (key : String) : Option Item :=
  List.lookup key es

/-- Gives a key another item, at its place. -/
def set (es : Entries) (key : String) (item : Item) : Entries :=
  es.map fun e => if e.1 = key then (key, item) else e

/-- Adds an item at the end. -/
def add (es : Entries) (key : String) (item : Item) : Entries :=
  es ++ [(key, item)]

/-- Goes down a path of keys and changes the entries of the table at its end. Tables that are
missing are made. With `dotted` the path is that of a dotted key, which may not lead into a table
that a header opened as the only one of its name. The step also sees how the table at the end came
about. -/
def enter (dotted : Bool) (step : TableKind → Entries → Option Entries) (kind : TableKind) :
    List String → Entries → Option Entries
  | [], es => step kind es
  | key :: path, es =>
    match es.get? key with
    | none =>
      let made := if dotted then .dotted else .implicit
      (enter dotted step made path []).map fun inner => es.add key (.table made inner)
    | some (.table .inline _) => none
    | some (.table k inner) =>
      if dotted && k == .explicit then none
      else (enter dotted step k path inner).map fun inner' => es.set key (.table k inner')
    | some (.tables elements) =>
      -- Of several tables, the one that was opened last is meant.
      match elements.getLast? with
      | some last =>
        (enter dotted step .explicit path last).map fun last' =>
          es.set key (.tables (elements.dropLast ++ [last']))
      | none => none
    | some _ => none

/-- Splits a path of keys into all but the last and the last. -/
def splitPath (path : List String) : Option (List String × String) :=
  path.getLast?.map fun last => (path.dropLast, last)

/-- Gives the key at the end of a dotted path an item. -/
def assign (es : Entries) (path : List String) (item : Item) : Option Entries := do
  let (front, key) ← splitPath path
  let step (kind : TableKind) (inner : Entries) : Option Entries :=
    if (inner.get? key).isSome then none
    -- A dotted key may not add to a table that a header passed through.
    else if !front.isEmpty && kind != .dotted then none
    else some (inner.add key item)
  enter true step .explicit front es

/-- Opens the table at a path. -/
def openTable (es : Entries) (path : List String) : Option Entries := do
  let (front, key) ← splitPath path
  let step (_ : TableKind) (inner : Entries) : Option Entries :=
    match inner.get? key with
    | none => some (inner.add key (.table .explicit []))
    | some (.table .implicit es) => some (inner.set key (.table .explicit es))
    | some _ => none
  enter false step .explicit front es

/-- Opens another table of those at a path. -/
def openElement (es : Entries) (path : List String) : Option Entries := do
  let (front, key) ← splitPath path
  let step (_ : TableKind) (inner : Entries) : Option Entries :=
    match inner.get? key with
    | none => some (inner.add key (.tables [[]]))
    | some (.tables elements) => some (inner.set key (.tables (elements ++ [[]])))
    | some _ => none
  enter false step .explicit front es

/-- Gives the key at the end of a dotted path an item, in the table that was opened last. -/
def assignIn (es : Entries) (table path : List String) (item : Item) : Option Entries :=
  enter false (fun _ inner => inner.assign path item) .explicit table es

end Entries

end KeymapCompiler.Toml
