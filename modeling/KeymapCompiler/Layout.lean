/-
KeymapCompiler/Layout.lean

The physical layout of a keyboard: how many keys it has and how they are arranged
in rows.  A slot of a row holds the index of a key, or is blank where the
keyboard has no key.  The layout also says how the rows are written in a keymap
and what the positions of keys are called in combos.
-/

namespace KeymapCompiler

/-- A slot of a row: a key, or none. -/
inductive Slot where
  /-- The key of an index. -/
  | key (index : Nat)
  /-- No key. -/
  | blank
deriving DecidableEq, Repr

namespace Slot

/-- A slot given by an integer; a negative one is blank. -/
def ofInt (n : Int) : Slot :=
  if 0 ≤ n then .key n.toNat else .blank

/-- The key of a slot. -/
def index? : Slot → Option Nat
  | .key i => some i
  | .blank => none

end Slot

/-- How the cells of a column are aligned. -/
inductive Alignment where
  /-- Blanks before the cell. -/
  | right
  /-- Blanks after the cell. -/
  | left
  /-- Blanks on both sides, an odd one before the cell. -/
  | center
deriving DecidableEq, Repr

/-- The name of an alignment. -/
def Alignment.name : Alignment → String
  | .right => "right"
  | .left => "left"
  | .center => "center"

/-- Alignments in the order in which they are listed to the user. -/
def Alignment.all : List Alignment := [.right, .left, .center]

/-- The alignment of a name. -/
def Alignment.ofName? (name : String) : Option Alignment :=
  Alignment.all.find? (·.name == name)

/-- The alignment of the columns. -/
structure AlignmentRules where
  /-- The alignment of columns that have no rule of their own. -/
  fallback : Alignment
  /-- The rules of single columns; of two for one column the first counts. -/
  columns : List (Nat × Alignment)
deriving Repr

/-- The alignment of a column. -/
def AlignmentRules.forColumn (r : AlignmentRules) (column : Nat) : Alignment :=
  (r.columns.lookup column).getD r.fallback

/-- How rows are written. -/
structure RowStyle where
  /-- What every line starts with. -/
  indent : String
  /-- What stands between cells. -/
  gap : String
  /-- The width that a cell is expected to have. -/
  keyWidth : Nat
  /-- The alignment of the columns. -/
  alignment : AlignmentRules
deriving Repr

/-- The style of layouts that give none. -/
def RowStyle.standard : RowStyle where
  indent := "            "
  gap := "  "
  keyWidth := 8
  alignment := ⟨.right, []⟩

/-- A keyboard's layout. -/
structure Layout where
  /-- The name of the keyboard. -/
  keyboard : String
  /-- The number of keys of every layer. -/
  keyCount : Nat
  /-- The rows. -/
  rows : List (List Slot)
  /-- How rows are written. -/
  style : RowStyle
  /-- What the positions of keys are called; of two names for one key the first counts. -/
  positionNames : List (Nat × String)
deriving Repr

namespace Layout

/-- The number of columns: the length of the longest row. -/
def columnCount (l : Layout) : Nat :=
  (l.rows.map List.length).foldl max 0

/-- What the position of a key is called: its name, or its index. -/
def positionName (l : Layout) (key : Nat) : String :=
  (l.positionNames.lookup key).getD (toString key)

/-- The keys of the rows, row by row. -/
def keys (l : Layout) : List Nat :=
  l.rows.flatten.filterMap Slot.index?

/-- The greatest of some numbers is within a bound exactly when all of them are. -/
theorem foldl_max_le_iff (xs : List Nat) (a n : Nat) :
    xs.foldl max a ≤ n ↔ a ≤ n ∧ ∀ x ∈ xs, x ≤ n := by
  induction xs generalizing a with
  | nil => simp
  | cons x rest ih => rw [List.foldl_cons, ih, List.forall_mem_cons, Nat.max_le, and_assoc]

/-- No row is longer than the number of columns. -/
theorem length_le_columnCount {l : Layout} {row : List Slot} (h : row ∈ l.rows) :
    row.length ≤ l.columnCount :=
  ((foldl_max_le_iff _ 0 l.columnCount).mp (Nat.le_refl _)).2 _ (List.mem_map_of_mem h)

end Layout

end KeymapCompiler
