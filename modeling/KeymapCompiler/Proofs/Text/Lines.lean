/-
KeymapCompiler/Proofs/Text/Lines.lean

The lines of a generated text, read back from its characters.  A line is closed
by a line end, so a text that is written line by line has exactly the lines that
were written, provided none of them holds a line end of its own
(`lines_flatMap_closed`).

A text that holds line ends goes over several lines.  When it stands inside a `#`
comment, `forall_mem_splitLines_isRemark_append` says whether all of them are
comments: what stands before the text belongs to its first line, and what stands
after it cannot start a line.
-/
import KeymapCompiler.Devicetree

namespace KeymapCompiler.Text

open KeymapCompiler.Devicetree

/-- The lines of a text.  What follows the last line end is no line. -/
def lines (cs : List Char) : List (List Char) :=
  (splitLines cs).dropLast

/-- Whether a line is a `#` comment. -/
def isRemark (line : List Char) : Bool :=
  line.head? == some '#'

/-! ### Splitting -/

theorem splitLines_append_newline (a b : List Char) :
    splitLines (a ++ '\n' :: b) = splitLines a ++ splitLines b :=
  List.splitOn_append_cons_self a b

theorem splitLines_of_not_mem {cs : List Char} (h : '\n' ∉ cs) : splitLines cs = [cs] :=
  List.splitOn_eq_singleton h

theorem splitLines_newline_cons (cs : List Char) :
    splitLines ('\n' :: cs) = [] :: splitLines cs :=
  splitLines_append_newline [] cs

theorem splitLines_cons {c : Char} (h : c ≠ '\n') (cs : List Char) :
    splitLines (c :: cs) = (splitLines cs).modifyHead (c :: ·) := by
  unfold splitLines
  rw [List.splitOn_cons_eq_if_modifyHead]
  simp [h]

/-- No line holds a line end. -/
theorem not_mem_of_mem_splitLines {cs line : List Char} (h : line ∈ splitLines cs) :
    '\n' ∉ line := by
  induction cs generalizing line with
  | nil =>
    obtain rfl : line = [] := by simpa [splitLines] using h
    simp
  | cons c rest ih =>
    by_cases hc : c = '\n'
    · subst hc
      rw [splitLines_newline_cons] at h
      rcases List.mem_cons.mp h with rfl | h
      · simp
      · exact ih h
    · rw [splitLines_cons hc] at h
      -- The character joins the first line of the rest.
      obtain ⟨first, others, e⟩ := List.exists_cons_of_ne_nil (List.splitOn_ne_nil '\n' rest)
      have e : splitLines rest = first :: others := e
      rw [e, List.modifyHead_cons] at h
      rcases List.mem_cons.mp h with rfl | h
      · have hfirst : '\n' ∉ first := ih (e ▸ List.mem_cons_self)
        intro hm
        rcases List.mem_cons.mp hm with hm | hm
        · exact hc hm.symm
        · exact hfirst hm
      · exact ih (e ▸ List.mem_cons_of_mem _ h)

/-! ### Texts that are written line by line -/

theorem splitLines_flatMap_closed (pieces : List (List Char)) :
    splitLines (pieces.flatMap (· ++ ['\n'])) = pieces.flatMap splitLines ++ [[]] := by
  induction pieces with
  | nil => rfl
  | cons piece rest ih =>
    have assoc : (piece :: rest).flatMap (· ++ ['\n'])
        = piece ++ '\n' :: rest.flatMap (· ++ ['\n']) := by simp
    rw [assoc, splitLines_append_newline, ih, List.flatMap_cons, List.append_assoc]

/-- Pieces that are closed by line ends have the lines of the pieces. -/
theorem lines_flatMap_closed (pieces : List (List Char)) :
    lines (pieces.flatMap (· ++ ['\n'])) = pieces.flatMap splitLines := by
  rw [lines, splitLines_flatMap_closed, List.dropLast_concat]

/-- Closed pieces without a line end of their own are the lines. -/
theorem lines_flatMap_closed_of_not_mem {pieces : List (List Char)}
    (h : ∀ piece ∈ pieces, '\n' ∉ piece) : lines (pieces.flatMap (· ++ ['\n'])) = pieces := by
  rw [lines_flatMap_closed]
  induction pieces with
  | nil => rfl
  | cons piece rest ih =>
    rw [List.flatMap_cons, splitLines_of_not_mem (h piece List.mem_cons_self),
      ih fun p hp => h p (List.mem_cons_of_mem _ hp)]
    rfl

/-! ### Texts over several lines -/

/-- What stands before a text without a line end is part of its first line. -/
theorem tail_splitLines_append {a : List Char} (ha : '\n' ∉ a) (cs : List Char) :
    (splitLines (a ++ cs)).tail = (splitLines cs).tail := by
  induction a with
  | nil => rfl
  | cons c rest ih =>
    have hc : c ≠ '\n' := fun e => ha (e ▸ List.mem_cons_self)
    rw [List.cons_append, splitLines_cons hc, List.tail_modifyHead]
    exact ih fun h => ha (List.mem_cons_of_mem _ h)

/-- The first line starts as the text does. -/
theorem forall_mem_splitLines_isRemark (cs : List Char) :
    (∀ line ∈ splitLines cs, isRemark line = true)
      ↔ cs.head? = some '#' ∧ ∀ line ∈ (splitLines cs).tail, isRemark line = true := by
  cases cs with
  | nil => simp [splitLines, isRemark]
  | cons c rest =>
    by_cases hc : c = '\n'
    · subst hc
      rw [splitLines_newline_cons]
      simp [isRemark]
    · rw [splitLines_cons hc]
      obtain ⟨first, others, e⟩ := List.exists_cons_of_ne_nil (List.splitOn_ne_nil '\n' rest)
      have e : splitLines rest = first :: others := e
      rw [e, List.modifyHead_cons]
      simp [isRemark]

/-- Text after the last line changes nothing about which lines are comments, if it starts none
itself. -/
theorem forall_mem_tail_splitLines_append {b : List Char} (hb : '\n' ∉ b)
    (hstart : b.head? ≠ some '#') (cs : List Char) :
    (∀ line ∈ (splitLines (cs ++ b)).tail, isRemark line = true)
      ↔ ∀ line ∈ (splitLines cs).tail, isRemark line = true := by
  induction cs with
  | nil =>
    rw [List.nil_append, splitLines_of_not_mem hb]
    simp [splitLines]
  | cons c rest ih =>
    by_cases hc : c = '\n'
    · subst hc
      -- The added text can start a line only behind an empty rest, and it starts with no mark.
      have head : (rest ++ b).head? = some '#' ↔ rest.head? = some '#' := by
        cases rest with
        | nil => simp [hstart]
        | cons d ds => simp
      rw [List.cons_append, splitLines_newline_cons, splitLines_newline_cons, List.tail_cons,
        List.tail_cons, forall_mem_splitLines_isRemark, forall_mem_splitLines_isRemark, head, ih]
    · rw [List.cons_append, splitLines_cons hc, splitLines_cons hc, List.tail_modifyHead,
        List.tail_modifyHead, ih]

/-- A text inside a `#` comment makes only comments exactly when its own lines but the first
are comments. -/
theorem forall_mem_splitLines_isRemark_append {a b : List Char} (ha : '\n' ∉ a)
    (hlead : a.head? = some '#') (hb : '\n' ∉ b) (hstart : b.head? ≠ some '#')
    (cs : List Char) :
    (∀ line ∈ splitLines (a ++ (cs ++ b)), isRemark line = true)
      ↔ ∀ line ∈ (splitLines cs).tail, isRemark line = true := by
  have head : (a ++ (cs ++ b)).head? = some '#' := by
    rw [List.head?_append, hlead]
    rfl
  rw [forall_mem_splitLines_isRemark, tail_splitLines_append ha,
    forall_mem_tail_splitLines_append hb hstart]
  simp [head]

end KeymapCompiler.Text
