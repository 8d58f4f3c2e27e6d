/-
KeymapCompiler/Validation.lean

Checking that a document and a layout fit together.  Errors make a compile
impossible: a keyboard without keys, a layout without rows or with an index that
is no key, a document without layers or with more names than layers.  Other
findings are notes: keys that are placed twice or not at all, and layers without
a name.
-/
import KeymapCompiler.Document
import KeymapCompiler.Layout
import KeymapCompiler.Position
import KeymapCompiler.Report

namespace KeymapCompiler

/-- What is wrong with a document or a layout. -/
inductive StructuralError where
  /-- The layout declares no keys. -/
  | noKeys (keyboard : String)
  /-- The layout has no rows, or only empty ones. -/
  | emptyGrid (keyboard : String)
  /-- A slot in a row holds an index that is no key. -/
  | keyOutOfBounds (key keyCount row : Nat)
  /-- The document has no layers. -/
  | missingLayers
  /-- The document has more names than layers. -/
  | mismatchedLayerCount (names layers : Nat)
deriving DecidableEq, Repr

namespace StructuralError

/-- The title of an error. -/
def title : StructuralError → String
  | .noKeys _ => "No Keys"
  | .emptyGrid _ => "Empty Grid"
  | .keyOutOfBounds _ _ _ => "Key Out of Bounds"
  | .missingLayers => "Missing Layers"
  | .mismatchedLayerCount _ _ => "Mismatched Layer Count"

/-- The row of the layout in which an error is. -/
def row? : StructuralError → Option Nat
  | .keyOutOfBounds _ _ row => some row
  | _ => none

/-- The wording of an error. -/
def message : StructuralError → String
  | .noKeys keyboard => s!"Layout '{keyboard}' declares 0 keys"
  | .emptyGrid keyboard => s!"Layout '{keyboard}' has no grid rows"
  | .keyOutOfBounds key keyCount _ => s!"Key index {key} is outside 0..{keyCount}"
  | .missingLayers => "Document has no layers"
  | .mismatchedLayerCount names layers => s!"{names} layer names but only {layers} layers"

/-- What can be done about an error. -/
def suggestion? : StructuralError → Option String
  | .noKeys _ => some "Set totalKeys to the number of keys on the keyboard"
  | .emptyGrid _ => some "Add rows of key indices, -1 for gaps"
  | .missingLayers => some "Add at least one layer of bindings"
  | _ => none

/-- An error with its place and suggestion. -/
def shown (e : StructuralError) : String :=
  let place := match e.row? with
    | some row => s!"[Row {row}] "
    | none => ""
  let advice := match e.suggestion? with
    | some text => "\n    → " ++ text
    | none => ""
  place ++ e.title ++ ": " ++ e.message ++ advice

end StructuralError

/-- What a check found. -/
structure Findings where
  /-- The errors. -/
  errors : List StructuralError
  /-- The notes on input that compiles but may not be meant. -/
  notes : List String

namespace Findings

/-- Findings one after the other. -/
def append (x y : Findings) : Findings :=
  ⟨x.errors ++ y.errors, x.notes ++ y.notes⟩

instance : Append Findings := ⟨append⟩

@[simp] theorem errors_append (x y : Findings) : (x ++ y).errors = x.errors ++ y.errors := rfl

@[simp] theorem notes_append (x y : Findings) : (x ++ y).notes = x.notes ++ y.notes := rfl

/-- Whether nothing makes a compile impossible. -/
def isValid (x : Findings) : Bool := x.errors.isEmpty

/-- The findings for a terminal. -/
def message (x : Findings) : String :=
  let errors :=
    if x.errors.isEmpty then ""
    else s!"❌ {x.errors.length} validation errors:\n"
      ++ Report.numbered (x.errors.map StructuralError.shown)
  let notes :=
    if x.notes.isEmpty then ""
    else s!"\n⚠️  {x.notes.length} warnings:\n" ++ Report.numbered x.notes
  errors ++ notes

end Findings

/-! ### Layouts -/

/-- The keys of a layout with the numbers of their rows, row by row. -/
def Layout.placements (l : Layout) : List (Nat × Nat) :=
  (l.rows.mapIdx fun row slots => (slots.filterMap Slot.index?).map (·, row)).flatten

/-- Checks the slots that hold a key; `placed` holds the keys met so far. -/
def checkSlots (keyCount : Nat) (placed : List Nat) : List (Nat × Nat) → Findings
  | [] => ⟨[], []⟩
  | (key, row) :: rest =>
    if keyCount ≤ key then
      ⟨[.keyOutOfBounds key keyCount row], []⟩ ++ checkSlots keyCount placed rest
    else if placed.contains key then
      ⟨[], [s!"Key {key} appears more than once in the grid (row {row})"]⟩
        ++ checkSlots keyCount placed rest
    else checkSlots keyCount (key :: placed) rest

/-- The keys that have no slot. -/
def Layout.unplaced (l : Layout) : List Nat :=
  let keys := l.keys
  (List.range l.keyCount).filter fun key => !keys.contains key

/-- Checks a layout. -/
def checkLayout (l : Layout) : Findings :=
  let keys : Findings := ⟨if l.keyCount = 0 then [.noKeys l.keyboard] else [], []⟩
  if l.rows.all List.isEmpty then keys ++ ⟨[.emptyGrid l.keyboard], []⟩
  else
    let found := keys ++ checkSlots l.keyCount [] l.placements
    -- With an index out of range it is not known which keys are meant to be missing.
    let missing := if found.isValid then l.unplaced else []
    if missing.isEmpty then found
    else
      let listed := Position.bracketed (missing.map toString)
      found ++ ⟨[], [s!"Keys {listed} are not placed in the grid and will not be rendered"]⟩

/-! ### Documents -/

/-- Checks the layers of a document: how many there are and how many have names. -/
def checkLayers (names layers : Nat) : Findings :=
  if layers = 0 then ⟨[.missingLayers], []⟩
  else if layers < names then ⟨[.mismatchedLayerCount names layers], []⟩
  else if names < layers then
    ⟨[], [s!"{layers - names} layers have no name and will be named by index"]⟩
  else ⟨[], []⟩

/-- Checks a document and a layout. -/
def check (d : Document) (l : Layout) : Findings :=
  checkLayout l ++ checkLayers d.layerNames.length d.layers.length

end KeymapCompiler
