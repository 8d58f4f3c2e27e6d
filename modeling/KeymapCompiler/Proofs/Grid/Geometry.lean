/-
KeymapCompiler/Proofs/Grid/Geometry.lean

The geometry of a layer's lines.  A line is cut into fields, one for each column, and
a field is as wide as the widest cell in its column, whatever row it belongs to.  So
all lines have the same length, and a column starts at the same place in each of them
(`offset`).

`lines_geometry` says this of every layer, and which layers can be written at all: a
column that is not centred has a greatest width.
-/
import KeymapCompiler.Proofs.Grid
import Mathlib.Data.List.Forall2
import Mathlib.Algebra.GroupWithZero.Nat

namespace KeymapCompiler.Grid

/-! ### Parts of a joined list -/

section Intercalate

variable {α : Type} (gap : List α)

/-- A part stands behind the parts before it and the gaps that follow these. -/
theorem take_drop_intercalate {parts : List (List α)} {i : Nat} {part : List α}
    (h : parts[i]? = some part) :
    ((gap.intercalate parts).drop ((parts.take i).map fun p => p.length + gap.length).sum).take
      part.length = part := by
  induction parts generalizing i with
  | nil => cases h
  | cons first rest ih =>
    cases i with
    | zero =>
      -- The first part starts at the beginning, with a gap behind it or nothing.
      obtain rfl := Option.some.inj h
      rcases rest with - | ⟨next, others⟩
      · simp
      · simp [List.intercalate_cons_cons]
    | succ i =>
      rcases rest with - | ⟨next, others⟩
      · cases h
      · -- The first part and its gap are dropped, and the offset is counted from there.
        rw [List.intercalate_cons_cons, List.take_succ_cons, List.map_cons, List.sum_cons,
          ← List.length_append, List.drop_append, List.drop_eq_nil_of_le (Nat.le_add_right _ _),
          List.nil_append, Nat.add_sub_cancel_left]
        exact ih h

theorem length_intercalate (parts : List (List α)) :
    (gap.intercalate parts).length
      = (parts.map List.length).sum + gap.length * (parts.length - 1) := by
  induction parts with
  | nil => rfl
  | cons first rest ih =>
    rcases rest with - | ⟨next, others⟩
    · simp
    · rw [List.intercalate_cons_cons, List.length_append, List.length_append, ih]
      simp only [List.map_cons, List.sum_cons, List.length_cons, Nat.add_sub_cancel]
      rw [Nat.mul_add_one]
      omega

end Intercalate

/-! ### Padding -/

/-- A field holds a text and otherwise spaces: before the text if it is aligned right, after it if
it is aligned left, and of a centred text half of them, rounded down, after it. -/
def Holds (alignment : Alignment) (width : Nat) (text field : String) : Prop :=
  ∃ front back : Nat, field = spaces front ++ text ++ spaces back ∧
    front + text.length + back = width ∧
    match alignment with
    | .right => back = 0
    | .left => front = 0
    | .center => back = (front + back) / 2

theorem holds_pad (alignment : Alignment) {width : Nat} {text : String}
    (h : text.length ≤ width) : Holds alignment width text (pad alignment width text) := by
  have none : spaces 0 = "" := rfl
  cases alignment with
  | right => exact ⟨width - text.length, 0, by simp [pad, none], by omega, rfl⟩
  | left => exact ⟨0, width - text.length, by simp [pad, none], by omega, rfl⟩
  | center =>
    refine ⟨width - text.length - (width - text.length) / 2, (width - text.length) / 2, rfl, ?_, ?_⟩
    · omega
    · show _ = _
      omega

theorem pad_empty (alignment : Alignment) (width : Nat) :
    pad alignment width "" = spaces width := by
  apply String.toList_inj.mp
  cases alignment with
  | right => simp [pad, spaces]
  | left => simp [pad, spaces]
  | center =>
    simp only [pad, spaces, String.length_empty, Nat.sub_zero, String.append_empty,
      String.toList_append, String.toList_ofList, List.replicate_append_replicate]
    congr 1
    omega

/-! ### Columns -/

/-- The cell that a row has in a column; there is none in a blank slot, past the end of the row, and
for a key without a cell. -/
def cellAt (cells : List String) (row : List Slot) (column : Nat) : Option String :=
  row[column]?.bind (cell? cells)

variable (layout : Layout) (cells : List String)

/-- The cells in a column. -/
def columnCells (column : Nat) : List String :=
  layout.rows.filterMap fun row => cellAt cells row column

/-- The width of the widest cell in a column, zero if there is none. -/
def width (column : Nat) : Nat :=
  ((columnCells layout cells column).map String.length).max?.getD 0

theorem width_le_iff (column n : Nat) :
    width layout cells column ≤ n ↔ ∀ text ∈ columnCells layout cells column, text.length ≤ n := by
  rw [width, ← List.forall_mem_map (f := String.length) (P := (· ≤ n))]
  rcases hmax : ((columnCells layout cells column).map String.length).max? with - | w
  · rw [List.max?_eq_none_iff.mp hmax]
    simp
  · exact List.max?_le_iff hmax

theorem getElem?_placed {row : List Slot} {columns column : Nat} (h : column < columns) :
    (placed cells columns row)[column]? = some (cellAt cells row column) := by
  simp [placed, h, cellAt]

variable {layout cells} in
theorem length_le_width {row : List Slot} (hrow : row ∈ layout.rows) {column : Nat} {text : String}
    (h : cellAt cells row column = some text) : text.length ≤ width layout cells column :=
  (width_le_iff layout cells column _).mp (Nat.le_refl _) text
    (List.mem_filterMap.mpr ⟨row, hrow, h⟩)

theorem columnWidth_placed {column : Nat} (h : column < layout.columnCount) :
    columnWidth (layout.rows.map (placed cells layout.columnCount)) column
      = width layout cells column := by
  have same : ∀ n, columnWidth (layout.rows.map (placed cells layout.columnCount)) column ≤ n
      ↔ width layout cells column ≤ n := by
    intro n
    rw [columnWidth_le_iff, width_le_iff, List.forall_mem_map]
    simp only [getElem?_placed cells h, columnCells, List.mem_filterMap, Option.some.injEq]
    constructor
    · rintro hle text ⟨row, hrow, htext⟩
      exact hle row hrow text htext
    · intro hle row hrow text htext
      exact hle text ⟨row, hrow, htext⟩
  exact Nat.le_antisymm ((same _).mpr (Nat.le_refl _)) ((same _).mp (Nat.le_refl _))

/-! ### Lines -/

/-- The fields of a row, one for each column. -/
def fields (row : List Slot) : List String :=
  (List.range layout.columnCount).map fun column =>
    pad (layout.style.alignment.forColumn column) (width layout cells column)
      ((cellAt cells row column).getD "")

/-- Where a column starts in a line: behind the indentation, the columns before it and the gaps
that follow these. -/
def offset (column : Nat) : Nat :=
  layout.style.indent.length
    + ((List.range column).map fun c => width layout cells c + layout.style.gap.length).sum

/-- The length of the lines. -/
def lineLength : Nat :=
  layout.style.indent.length
    + (((List.range layout.columnCount).map (width layout cells)).sum
      + layout.style.gap.length * (layout.columnCount - 1))

/-- A line of a row is cut into fields. -/
structure IsLine (row : List Slot) (text : String) (fields : List String) : Prop where
  /-- There is a field for each column. -/
  count : fields.length = layout.columnCount
  /-- The fields stand behind the indentation with gaps between them. -/
  joined : text = layout.style.indent ++ layout.style.gap.intercalate fields
  /-- The line is as long as all others. -/
  length : text.length = lineLength layout cells
  /-- A field is as wide as its column. -/
  fieldLength : ∀ (column : Nat) field, fields[column]? = some field →
    field.length = width layout cells column
  /-- The field of a cell holds the cell. -/
  filled : ∀ (column : Nat) field cell, fields[column]? = some field →
    cellAt cells row column = some cell →
      Holds (layout.style.alignment.forColumn column) (width layout cells column) cell field
  /-- All other fields are blank. -/
  blank : ∀ (column : Nat) field, fields[column]? = some field →
    cellAt cells row column = none → field = spaces (width layout cells column)
  /-- A field is what stands in the line where its column starts. -/
  slice : ∀ (column : Nat) field, fields[column]? = some field →
    (text.toList.drop (offset layout cells column)).take (width layout cells column) = field.toList

theorem getElem?_fields_eq_some {row : List Slot} {column : Nat} {field : String}
    (h : (fields layout cells row)[column]? = some field) :
    column < layout.columnCount ∧
      pad (layout.style.alignment.forColumn column) (width layout cells column)
        ((cellAt cells row column).getD "") = field := by
  rw [fields, List.getElem?_map, Option.map_eq_some_iff] at h
  obtain ⟨c, hc, rfl⟩ := h
  obtain ⟨hlt, rfl⟩ := List.getElem?_eq_some_iff.mp hc
  rw [List.getElem_range]
  exact ⟨by simpa using hlt, rfl⟩

variable {layout} in
theorem length_field {row : List Slot} (hrow : row ∈ layout.rows) (column : Nat) :
    (pad (layout.style.alignment.forColumn column) (width layout cells column)
      ((cellAt cells row column).getD "")).length = width layout cells column := by
  apply length_pad
  cases hcell : cellAt cells row column with
  | none => exact Nat.zero_le _
  | some text => exact length_le_width hrow hcell

theorem line_placed (row : List Slot) :
    line layout.style
        ((List.range layout.columnCount).map
          (columnWidth (layout.rows.map (placed cells layout.columnCount))))
        (placed cells layout.columnCount row)
      = layout.style.indent ++ layout.style.gap.intercalate (fields layout cells row) := by
  rw [line, fields]
  congr 2
  refine List.ext_getElem (by simp [placed]) ?_
  intro column hline hfields
  have hlt : column < layout.columnCount := by simpa using hfields
  simp [placed, cellAt, columnWidth_placed layout cells hlt]

variable {layout} in
theorem isLine_fields {row : List Slot} (hrow : row ∈ layout.rows) :
    IsLine layout cells row
      (layout.style.indent ++ layout.style.gap.intercalate (fields layout cells row))
      (fields layout cells row) := by
  have widths : ∀ columns : List Nat,
      columns.map (String.length ∘ fun column =>
        pad (layout.style.alignment.forColumn column) (width layout cells column)
          ((cellAt cells row column).getD "")) = columns.map (width layout cells) :=
    fun columns => List.map_congr_left fun column _ => length_field cells hrow column
  refine ⟨by simp [fields], rfl, ?_, ?_, ?_, ?_, ?_⟩
  · have joined : (layout.style.gap.intercalate (fields layout cells row)).length
        = (layout.style.gap.toList.intercalate
            ((fields layout cells row).map String.toList)).length := by
      rw [← String.toList_intercalate, String.length_toList]
    rw [String.length_append, joined, length_intercalate, List.map_map, List.length_map,
      String.length_toList, lineLength]
    simp only [fields, List.length_map, List.length_range, List.map_map]
    congr 3
    exact widths _
  · intro column field h
    obtain ⟨-, rfl⟩ := getElem?_fields_eq_some layout cells h
    exact length_field cells hrow column
  · intro column field cell h hcell
    obtain ⟨-, rfl⟩ := getElem?_fields_eq_some layout cells h
    rw [hcell]
    exact holds_pad _ (length_le_width hrow hcell)
  · intro column field h hcell
    obtain ⟨-, rfl⟩ := getElem?_fields_eq_some layout cells h
    rw [hcell]
    exact pad_empty _ _
  · intro column field h
    obtain ⟨hlt, hfield⟩ := getElem?_fields_eq_some layout cells h
    have part : ((fields layout cells row).map String.toList)[column]? = some field.toList := by
      rw [List.getElem?_map, h]
      rfl
    -- The offset is the indentation and the room that the parts before take.
    have before : ((((fields layout cells row).map String.toList).take column).map
        fun p => p.length + layout.style.gap.toList.length).sum
        = ((List.range column).map fun c =>
            width layout cells c + layout.style.gap.length).sum := by
      rw [← List.map_take, fields, ← List.map_take, List.take_range, Nat.min_eq_left (by omega)]
      simp only [List.map_map]
      congr 1
      refine List.map_congr_left fun c _ => ?_
      simp only [Function.comp_apply, String.length_toList, length_field cells hrow c]
    have slice := take_drop_intercalate layout.style.gap.toList part
    rw [before, String.length_toList, ← hfield, length_field cells hrow column, hfield] at slice
    rw [String.toList_append, offset, List.drop_append,
      List.drop_eq_nil_of_le (by rw [String.length_toList]; omega), List.nil_append,
      String.length_toList, Nat.add_sub_cancel_left, String.toList_intercalate]
    exact slice

theorem isPaddable_iff_width_le :
    isPaddable layout cells = true ↔
      ∀ column < layout.columnCount, layout.style.alignment.forColumn column ≠ .center →
        width layout cells column ≤ maxPadded := by
  rw [isPaddable, List.all_eq_true]
  simp only [canPad_iff, List.mem_range]
  refine forall₂_congr fun column hlt => ?_
  rw [columnWidth_placed layout cells hlt]

/-- **Geometry.**  A layer can be written exactly when every column that is not centred is narrow
enough, and then there is one line for each row.  A line is cut into fields as wide as their
columns, each of which holds the cell that the row has there, or is blank. -/
theorem lines_geometry :
    (isPaddable layout cells = true ↔
      ∀ column < layout.columnCount, layout.style.alignment.forColumn column ≠ .center →
        width layout cells column ≤ maxPadded) ∧
      List.Forall₂ (fun row text => ∃ fields, IsLine layout cells row text fields)
        layout.rows (lines layout cells) := by
  refine ⟨isPaddable_iff_width_le layout cells, ?_⟩
  rw [lines, List.map_map, List.forall₂_map_right_iff]
  refine List.forall₂_same.mpr fun row hrow => ?_
  rw [Function.comp_apply, line_placed]
  exact ⟨_, isLine_fields cells hrow⟩

/-- A layout with a single key. -/
def oneKey : Layout where
  keyboard := "k"
  keyCount := 1
  rows := [[.key 0]]
  style := .standard
  positionNames := []

/-- Not every layer can be written. -/
theorem isPaddable_oneKey_eq_false :
    isPaddable oneKey [String.ofList (List.replicate (maxPadded + 1) 'x')] = false := by
  refine Bool.eq_false_iff.mpr fun h => ?_
  -- The only column is aligned right.
  have narrow := (isPaddable_iff_width_le oneKey _).mp h 0 (by decide) (by decide)
  have le := (width_le_iff oneKey _ 0 _).mp narrow _ List.mem_cons_self
  rw [String.length_ofList, List.length_replicate] at le
  omega

end KeymapCompiler.Grid
