/-
KeymapCompiler/Proofs/Grid.lean

What the lines of a layer hold, and when they can be written.

Blanks are all that a layout adds to the cells: the padding, and the indentation
and the gap if these are blank.  So the lines are compared with the cells by their
ink, the text that is left without blanks.  A row is filled up with empty cells to
the number of columns (`placed_eq`), and the ink of all lines together is the ink of
the cells in the order of the keys in the rows (`ink_lines`).

A column can be written when it is centred or no cell in it is wider than a cell
can be padded to (`isPaddable_iff`).
-/
import KeymapCompiler.Grid
import KeymapCompiler.Text.Blank
import Mathlib.Data.List.Basic

namespace KeymapCompiler

open KeymapCompiler.Text

/-! ### Ink -/

namespace Text

/-- What is left of a text without its blanks. -/
def ink (cs : List Char) : List Char :=
  cs.filter fun c => !isBlank c

@[simp] theorem ink_nil : ink [] = [] := rfl

@[simp] theorem ink_append (a b : List Char) : ink (a ++ b) = ink a ++ ink b :=
  List.filter_append a b

theorem ink_eq_nil_iff (cs : List Char) : ink cs = [] ↔ cs.all isBlank = true := by
  simp [ink]

/-- Blanks between texts leave their ink as it is. -/
theorem ink_intercalate {gap : List Char} (h : ink gap = []) (parts : List (List Char)) :
    ink (gap.intercalate parts) = parts.flatMap ink := by
  induction parts with
  | nil => rfl
  | cons part rest ih =>
    rcases rest with - | ⟨next, others⟩
    · simp
    · rw [List.intercalate_cons_cons, ink_append, ink_append, h, ih, List.append_nil,
        ← List.flatMap_cons]

/-- Blanks at the end hold no ink. -/
theorem ink_trimEnd (cs : List Char) : ink (trimEnd cs) = ink cs := by
  have blank : (cs.reverse.takeWhile isBlank).filter (fun c => !isBlank c) = [] := by
    refine List.filter_eq_nil_iff.mpr fun c hc => ?_
    simp [List.all_eq_true.mp List.all_takeWhile c hc]
  -- The end is trimmed as the front of the reversed text.
  have ends : (cs.reverse.dropWhile isBlank).filter (fun c => !isBlank c)
      = cs.reverse.filter fun c => !isBlank c := by
    conv_rhs => rw [← List.takeWhile_append_dropWhile (p := isBlank) (l := cs.reverse)]
    rw [List.filter_append, blank, List.nil_append]
  rw [trimEnd, ink, List.filter_reverse, ends, List.filter_reverse, List.reverse_reverse, ink]

end Text

namespace Grid

/-! ### Rows -/

/-- A row is filled up with empty cells. -/
theorem placed_eq (cells : List String) {columns : Nat} {row : List Slot}
    (h : row.length ≤ columns) :
    placed cells columns row
      = row.map (cell? cells) ++ List.replicate (columns - row.length) none := by
  refine List.ext_getElem (by simp [placed]; omega) ?_
  intro i hi _
  have hi : i < columns := by simpa [placed] using hi
  by_cases hrow : i < row.length
  · rw [List.getElem_append_left (by simpa using hrow)]
    simp [placed, hrow]
  · rw [List.getElem_append_right (by simpa using hrow)]
    simp [placed, hrow]

theorem ink_spaces (n : Nat) : ink (spaces n).toList = [] := by
  have blank : isBlank ' ' = true := by decide
  rw [ink_eq_nil_iff, spaces, String.toList_ofList]
  simp [blank]

theorem ink_pad (alignment : Alignment) (width : Nat) (text : String) :
    ink (pad alignment width text).toList = ink text.toList := by
  cases alignment <;> simp [pad, ink_spaces]

/-- A line has the ink of its cells. -/
theorem ink_line {style : RowStyle} (hindent : isAllBlank style.indent = true)
    (hgap : isAllBlank style.gap = true) {widths : List Nat} {row : List (Option String)}
    (h : row.length ≤ widths.length) :
    ink (line style widths row).toList = row.flatMap fun cell => ink (cell.getD "").toList := by
  -- There is a width for each cell, so pairing them with their widths and columns loses none.
  have cells : row = (row.zip widths).zipIdx.map fun field => field.1.1 := by
    rw [← Function.comp_def Prod.fst Prod.fst, ← List.map_map, List.zipIdx_map_fst,
      List.map_fst_zip h]
  have indent := (ink_eq_nil_iff _).mpr hindent
  have gap := (ink_eq_nil_iff _).mpr hgap
  rw [line, String.toList_append, ink_append, indent, List.nil_append, String.toList_intercalate,
    ink_intercalate gap, List.mapIdx_eq_zipIdx_map, List.flatMap_map, List.flatMap_map]
  simp only [ink_pad]
  conv_rhs => rw [cells, List.flatMap_map]

/-- The ink of slots is that of their keys' cells. -/
theorem ink_slots (cells : List String) (slots : List Slot) :
    (slots.flatMap fun slot => ink ((cell? cells slot).getD "").toList)
      = (slots.filterMap Slot.index?).flatMap fun key => ink (cells[key]?.getD "").toList := by
  induction slots with
  | nil => rfl
  | cons slot rest ih =>
    rw [List.flatMap_cons, ih]
    cases slot <;> rfl

/-- **Lines of a layer.**  The lines hold the cells of the keys, row by row, and nothing else but
blanks. -/
theorem ink_lines {layout : Layout} (hindent : isAllBlank layout.style.indent = true)
    (hgap : isAllBlank layout.style.gap = true) (cells : List String) :
    ((lines layout cells).flatMap fun text => ink text.toList)
      = layout.keys.flatMap fun key => ink (cells[key]?.getD "").toList := by
  have row : ∀ slots ∈ layout.rows,
      ink (line layout.style ((List.range layout.columnCount).map
          (columnWidth (layout.rows.map (placed cells layout.columnCount))))
        (placed cells layout.columnCount slots)).toList
      = slots.flatMap fun slot => ink ((cell? cells slot).getD "").toList := by
    intro slots hslots
    -- The empty cells that a row is filled up with hold no ink.
    have hle := Layout.length_le_columnCount hslots
    rw [ink_line hindent hgap (by simp [placed]), placed_eq cells hle, List.flatMap_append,
      List.flatMap_map]
    simp
  rw [lines, List.flatMap_map, List.flatMap_map, List.flatMap_congr row, Layout.keys, ← ink_slots,
    List.flatten_eq_flatMap, List.flatMap_assoc]
  rfl

/-! ### Widths -/

theorem canPad_iff (alignment : Alignment) (width : Nat) :
    canPad alignment width = true ↔ (alignment ≠ .center → width ≤ maxPadded) := by
  cases alignment <;> simp [canPad]

theorem columnWidth_le_iff (rows : List (List (Option String))) (column n : Nat) :
    columnWidth rows column ≤ n
      ↔ ∀ row ∈ rows, ∀ text, row[column]? = some (some text) → text.length ≤ n := by
  rw [columnWidth, Layout.foldl_max_le_iff, and_iff_right (Nat.zero_le n), List.forall_mem_map]
  refine forall₂_congr fun row _ => ?_
  rcases row[column]? with - | - | text <;> simp

/-- A layer can be written exactly when no cell outside the centred columns is too wide. -/
theorem isPaddable_iff (layout : Layout) (cells : List String) :
    isPaddable layout cells = true ↔
      ∀ row ∈ layout.rows, ∀ (column key : Nat) (text : String),
        row[column]? = some (.key key) → cells[key]? = some text →
          layout.style.alignment.forColumn column ≠ .center → text.length ≤ maxPadded := by
  rw [isPaddable, List.all_eq_true]
  simp only [canPad_iff, columnWidth_le_iff, List.forall_mem_map, List.mem_range]
  constructor
  · intro h row hrow column key text hkey htext hside
    -- A slot of a row lies in one of the columns.
    have hlt : column < layout.columnCount :=
      Nat.lt_of_lt_of_le (List.getElem?_eq_some_iff.mp hkey).1 (Layout.length_le_columnCount hrow)
    refine h column hlt hside row hrow text ?_
    simp [placed, hlt, hkey, cell?, htext]
  · intro h column hlt hside row hrow text htext
    have hcell : row[column]?.bind (cell? cells) = some text := by
      simpa [placed, hlt] using htext
    obtain ⟨slot, hslot, htext⟩ := Option.bind_eq_some_iff.mp hcell
    cases slot with
    | key key => exact h row hrow column key text hslot htext hside
    | blank => cases htext

end Grid

end KeymapCompiler
