/-
KeymapCompiler/Grid.lean

A layer's cells in the rows of a layout.  Every column is as wide as its widest
cell, narrower cells are padded to that width as the column is aligned, and the
gap stands between the columns.  A slot without a key, a slot past the end of a
row and a key without a cell are blank.

Widths count code points.  On a single side a cell can be padded to a limited
width only, so a layer can have a column that cannot be written (`isPaddable`).
-/
import KeymapCompiler.Layout

namespace KeymapCompiler.Grid

/-- Spaces. -/
def spaces (n : Nat) : String :=
  String.ofList (List.replicate n ' ')

/-- The cell of a slot, if it has one. -/
def cell? (cells : List String) : Slot → Option String
  | .key i => cells[i]?
  | .blank => none

/-- A row's cells, one entry for each of `columns` columns. -/
def placed (cells : List String) (columns : Nat) (row : List Slot) : List (Option String) :=
  (List.range columns).map fun c => row[c]?.bind (cell? cells)

/-- The width of a column: that of the widest cell in it. -/
def columnWidth (rows : List (List (Option String))) (column : Nat) : Nat :=
  (rows.map fun row => ((row[column]?.join).map String.length).getD 0).foldl max 0

/-- A cell padded to a width. -/
def pad (alignment : Alignment) (width : Nat) (text : String) : String :=
  let room := width - text.length
  match alignment with
  | .right => spaces room ++ text
  | .left => text ++ spaces room
  | .center => spaces (room - room / 2) ++ text ++ spaces (room / 2)

/-- The greatest width to which a cell can be padded on a single side. -/
def maxPadded : Nat := 65535

/-- Whether the cells of a column can be padded to a width. -/
def canPad (alignment : Alignment) (width : Nat) : Bool :=
  match alignment with
  | .right | .left => decide (width ≤ maxPadded)
  | .center => true

/-- A row as a line: the indentation and the padded cells with the gap between them. -/
def line (style : RowStyle) (widths : List Nat) (row : List (Option String)) : String :=
  let fields := (row.zip widths).mapIdx fun column field =>
    pad (style.alignment.forColumn column) field.2 (field.1.getD "")
  style.indent ++ style.gap.intercalate fields

/-- Whether all columns of a layer can be padded. -/
def isPaddable (layout : Layout) (cells : List String) : Bool :=
  let rows := layout.rows.map (placed cells layout.columnCount)
  (List.range layout.columnCount).all fun column =>
    canPad (layout.style.alignment.forColumn column) (columnWidth rows column)

/-- The lines of a layer whose columns can be padded. -/
def lines (layout : Layout) (cells : List String) : List String :=
  let rows := layout.rows.map (placed cells layout.columnCount)
  let widths := (List.range layout.columnCount).map (columnWidth rows)
  rows.map (line layout.style widths)

/-- A padded cell has the width of the column if the cell itself is not wider. -/
theorem length_pad (alignment : Alignment) {width : Nat} {text : String}
    (h : text.length ≤ width) : (pad alignment width text).length = width := by
  cases alignment <;> simp [pad, spaces] <;> omega

end KeymapCompiler.Grid
