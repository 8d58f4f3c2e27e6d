/-
KeymapCompiler/Proofs/Devicetree/Description.lean

Descriptions as comments, and what the preprocessor makes of them.  Each line of the
trimmed description is a line comment (`toList_comment`), and none of its text is ever
source: a comment goes on to the end of its line at least.

It may go on further.  A line of the description can end in a backslash, and then the
next line is part of the comment as well.  If that is another line of the description,
nothing is lost.  So only the last line decides where the comment ends
(`vanishes_comment`), by induction on the lines with the mode of the reader before each,
which is in source or in the comment of the line before.
-/
import KeymapCompiler.Proofs.Preprocessor
import KeymapCompiler.Proofs.Text.Lines

namespace KeymapCompiler

open KeymapCompiler.Devicetree KeymapCompiler.Text KeymapCompiler.Preprocessor

/-! ### Ends of texts -/

namespace Text

theorem isBlank_getLast?_trimEnd (cs : List Char) :
    ∀ c ∈ (trimEnd cs).getLast?, isBlank c = false := by
  intro c hc
  have stop := List.head?_dropWhile_not isBlank cs.reverse
  rw [trimEnd, List.getLast?_reverse] at hc
  rw [Option.mem_def.mp hc] at stop
  exact stop

theorem trimEnd_of_getLast? {cs : List Char} {c : Char} (h : cs.getLast? = some c)
    (hblank : isBlank c = false) : trimEnd cs = cs := by
  obtain ⟨front, rfl⟩ := List.getLast?_eq_some_iff.mp h
  exact trimEnd_append_of_not_blank front hblank

theorem getLast?_flatMap_closed (pieces : List (List Char)) :
    ∀ c ∈ (pieces.flatMap (· ++ ['\n'])).getLast?, c = '\n' := by
  intro c hc
  rcases pieces.eq_nil_or_concat with rfl | ⟨front, last, rfl⟩
  · cases hc
  · simpa using hc.symm

/-- A text is closed lines and a last one. -/
theorem exists_splitLines_concat (cs : List Char) :
    ∃ front last, splitLines cs = front ++ [last] ∧
      cs = front.flatMap (· ++ ['\n']) ++ last := by
  induction cs with
  | nil => exact ⟨[], [], rfl, rfl⟩
  | cons c rest ih =>
    obtain ⟨front, last, hsplit, hrest⟩ := ih
    by_cases hc : c = '\n'
    · subst hc
      refine ⟨[] :: front, last, ?_, ?_⟩
      · rw [splitLines_newline_cons, hsplit, List.cons_append]
      · rw [List.flatMap_cons, List.nil_append, List.append_assoc, ← hrest]
        rfl
    · rw [splitLines_cons hc, hsplit]
      -- The character is put in front of the first line, which may be the last as well.
      rcases front with - | ⟨first, front⟩
      · exact ⟨[], c :: last, rfl, congrArg (c :: ·) hrest⟩
      · exact ⟨(c :: first) :: front, last, rfl, congrArg (c :: ·) hrest⟩

/-- The last line of a text ends as the text does, unless that is a line end. -/
theorem exists_getLast?_splitLines {cs : List Char} {c : Char} (hc : cs.getLast? = some c)
    (hne : c ≠ '\n') :
    ∃ last, (splitLines cs).getLast? = some last ∧ last.getLast? = some c := by
  obtain ⟨front, last, hsplit, htext⟩ := exists_splitLines_concat cs
  refine ⟨last, by rw [hsplit, List.getLast?_concat], ?_⟩
  rw [htext, List.getLast?_append] at hc
  rcases hlast : last.getLast? with - | d
  · rw [hlast, Option.none_or] at hc
    exact absurd (getLast?_flatMap_closed front c hc) hne
  · rwa [hlast, Option.some_or] at hc

end Text

namespace Devicetree

/-! ### Comments line by line -/

/-- The text of a description, which is empty if there is none. -/
def described (description : Option String) : List Char :=
  (description.map fun d => trim d.toList).getD []

/-- The lines of a description; a blank one has none. -/
def descriptionLines (description : Option String) : List (List Char) :=
  if described description = [] then [] else splitLines (described description)

/-- The text of a line behind the two slashes. -/
def commentText (line : List Char) : List Char :=
  if trimEnd line = [] then [] else ' ' :: trimEnd line

/-- A line of a description as a comment, without a line end. -/
def commentLine (depth : Nat) (line : List Char) : List Char :=
  List.replicate (4 * depth) ' ' ++ '/' :: '/' :: commentText line

theorem toList_lineComment (depth : Nat) (cs : List Char) :
    (lineComment depth cs).toList = commentLine depth cs ++ ['\n'] := by
  have newline : "\n".toList = ['\n'] := by decide
  have slashes : "//".toList = ['/', '/'] := by decide +kernel
  have spaced : "// ".toList = ['/', '/', ' '] := by decide +kernel
  unfold lineComment commentLine commentText
  dsimp only
  by_cases h : trimEnd cs = []
  · rw [if_pos (by simpa using h), if_pos h, line, indent]
    simp only [String.toList_append, String.toList_ofList, newline, slashes, List.append_assoc]
  · rw [if_neg (by simpa using h), if_neg h, line, indent]
    simp only [String.toList_append, String.toList_ofList, newline, spaced, List.append_assoc,
      List.cons_append, List.nil_append]

/-- The comment of a description is one closed line for each line of it. -/
theorem toList_comment (depth : Nat) (description : Option String) :
    (comment depth description).toList
      = (descriptionLines description).flatMap fun line => commentLine depth line ++ ['\n'] := by
  unfold comment descriptionLines described
  rcases description with - | d
  · rfl
  · rw [Option.map_some, Option.getD_some]
    rcases trim d.toList with - | ⟨c, rest⟩
    · rfl
    · rw [if_neg (List.cons_ne_nil c rest)]
      dsimp only
      rw [String.toList_join, List.flatMap_map]
      simp only [toList_lineComment]

theorem not_mem_of_mem_descriptionLines {description : Option String} {line : List Char}
    (h : line ∈ descriptionLines description) : '\n' ∉ line := by
  unfold descriptionLines at h
  split at h
  · cases h
  · exact not_mem_of_mem_splitLines h

theorem newline_not_mem_commentText {line : List Char} (h : '\n' ∉ line) :
    '\n' ∉ commentText line := by
  unfold commentText
  split
  · simp
  · intro hm
    rcases List.mem_cons.mp hm with hm | hm
    · cases hm
    · have hm := (List.dropWhile_sublist isBlank).mem (List.mem_reverse.mp hm)
      exact h (List.mem_reverse.mp hm)

theorem newline_not_mem_commentLine (depth : Nat) {line : List Char} (h : '\n' ∉ line) :
    '\n' ∉ commentLine depth line := by
  intro hm
  rcases List.mem_append.mp hm with hm | hm
  · exact absurd (List.eq_of_mem_replicate hm) (by decide)
  · rcases List.mem_cons.mp hm with hm | hm
    · cases hm
    · rcases List.mem_cons.mp hm with hm | hm
      · cases hm
      · exact newline_not_mem_commentText h hm

/-- The lines of the comment are those of the description. -/
theorem lines_comment (depth : Nat) (description : Option String) :
    lines (comment depth description).toList
      = (descriptionLines description).map (commentLine depth) := by
  have pieces : (comment depth description).toList
      = ((descriptionLines description).map (commentLine depth)).flatMap (· ++ ['\n']) := by
    rw [toList_comment, List.flatMap_map]
  rw [pieces, lines_flatMap_closed_of_not_mem]
  intro piece hpiece
  obtain ⟨line, hline, rfl⟩ := List.mem_map.mp hpiece
  exact newline_not_mem_commentLine depth (not_mem_of_mem_descriptionLines hline)

/-! ### Backslashes at the ends of lines -/

theorem endsInBackslash_commentText_iff (line : List Char) :
    EndsInBackslash (commentText line) ↔ EndsInBackslash (trimEnd line) := by
  unfold commentText
  rcases trimEnd line with - | ⟨c, rest⟩
  · exact Iff.rfl
  · rw [if_neg (List.cons_ne_nil c rest), endsInBackslash_cons_cons_iff]

/-- A line of the comment ends as the line of the description does. -/
theorem endsInBackslash_commentLine_iff (depth : Nat) (line : List Char) :
    EndsInBackslash (commentLine depth line) ↔ EndsInBackslash (trimEnd line) := by
  rw [← endsInBackslash_commentText_iff]
  unfold EndsInBackslash commentLine
  rw [List.getLast?_append]
  rcases commentText line with - | ⟨c, rest⟩
  · exact iff_of_false (fun e => nomatch Option.some.inj e) (by decide)
  · rw [List.getLast?_cons_cons, List.getLast?_cons_cons, List.getLast?_cons]
    exact Iff.rfl

theorem behind_commentLine (depth : Nat) (line : List Char) :
    Mode.behind (commentLine depth line) = .behind (trimEnd line) :=
  Mode.behind_congr (endsInBackslash_commentLine_iff depth line)

/-! ### Comments as the preprocessor reads them -/

theorem vanishes_replicate (n : Nat) : Vanishes .source (List.replicate n ' ') .source := by
  induction n with
  | zero => exact .nil .source
  | succ n ih =>
    have one : Vanishes .source [' '] .source :=
      ⟨[' '], List.forall_mem_singleton.mpr (by decide), reads_char (by decide) .source⟩
    exact one.append ih

theorem vanishes_slashes : Vanishes .source ['/', '/'] .line :=
  ⟨[' '], List.forall_mem_singleton.mpr (by decide),
    (reads_char (by decide) .source).append (reads_char (by decide) .slash)⟩

/-- A line of the comment leaves nothing, in source and behind a line that it is joined to. -/
theorem vanishes_commentLine (depth : Nat) {line : List Char} (h : '\n' ∉ line) {m : Mode}
    (hm : m = .source ∨ m = .line) :
    Vanishes m (commentLine depth line ++ ['\n']) (.behind (trimEnd line)) := by
  rcases hm with rfl | rfl
  · have behind : Mode.behind (commentText line) = .behind (trimEnd line) :=
      Mode.behind_congr (endsInBackslash_commentText_iff line)
    have opened := (vanishes_replicate (4 * depth)).append vanishes_slashes
    have whole := opened.append (vanishes_line (newline_not_mem_commentText h))
    rw [behind] at whole
    simpa [commentLine] using whole
  · rw [← behind_commentLine depth]
    exact vanishes_line (newline_not_mem_commentLine depth h)

/-- Lines leave nothing one after the other, and the last one decides how it goes on. -/
theorem vanishes_commentLines (depth : Nat) {ls : List (List Char)} (h : ∀ l ∈ ls, '\n' ∉ l)
    {m : Mode} (hm : m = .source ∨ m = .line) :
    Vanishes m (ls.flatMap fun l => commentLine depth l ++ ['\n'])
      (ls.getLast?.elim m fun l => .behind (trimEnd l)) := by
  induction ls generalizing m with
  | nil => exact .nil m
  | cons l rest ih =>
    have first := vanishes_commentLine depth (h l List.mem_cons_self) hm
    have others := ih (fun l hl => h l (List.mem_cons_of_mem _ hl)) (Mode.behind_eq (trimEnd l))
    -- The mode behind all lines is the mode behind the last, with the first as a default.
    have last : (l :: rest).getLast?.elim m (fun l => Mode.behind (trimEnd l))
        = rest.getLast?.elim (.behind (trimEnd l)) fun l => .behind (trimEnd l) := by
      rw [List.getLast?_cons]
      cases rest.getLast? with
      | none => rfl
      | some _ => rfl
    rw [last]
    exact first.append others

/-- The last line of a description ends as its text does. -/
theorem behind_descriptionLines (description : Option String) :
    (descriptionLines description).getLast?.elim .source (fun l => .behind (trimEnd l))
      = Mode.behind (described description) := by
  have ends : ∀ c ∈ (described description).getLast?, isBlank c = false := by
    unfold described
    rcases description with - | d
    · simp
    · exact isBlank_getLast?_trimEnd _
  unfold descriptionLines
  by_cases hempty : described description = []
  · rw [if_pos hempty, hempty]
    rfl
  · rw [if_neg hempty]
    obtain ⟨c, hc⟩ := Option.ne_none_iff_exists'.mp (mt List.getLast?_eq_none_iff.mp hempty)
    have hblank : isBlank c = false := ends c hc
    -- The trimmed text ends in no blank, so its last line is not empty.
    have hne : c ≠ '\n' := by
      rintro rfl
      cases hblank
    obtain ⟨last, hsplit, hlast⟩ := exists_getLast?_splitLines hc hne
    rw [hsplit, Option.elim_some, trimEnd_of_getLast? hlast hblank]
    refine Mode.behind_congr ?_
    rw [EndsInBackslash, EndsInBackslash, hlast, hc]

/-- The comment of a description leaves nothing, and what follows it is read in the comment if the
description ends in a backslash. -/
theorem vanishes_comment (depth : Nat) (description : Option String) :
    Vanishes .source (comment depth description).toList (.behind (described description)) := by
  rw [toList_comment, ← behind_descriptionLines]
  exact vanishes_commentLines depth (fun _ => not_mem_of_mem_descriptionLines) (.inl rfl)

/-- What follows the comment is read as source exactly when the description does not end in a
backslash. -/
theorem vanishes_comment_source_iff (depth : Nat) (description : Option String) :
    Vanishes .source (comment depth description).toList .source
      ↔ ¬ EndsInBackslash (described description) := by
  obtain ⟨kept, hkept, reads⟩ := vanishes_comment depth description
  constructor
  · rintro ⟨kept', -, reads'⟩ hends
    rw [Mode.behind, if_pos hends] at reads
    -- A character behind the comment is left in source, but not in the comment.
    have nothing : kept' ++ [] = kept ++ [] := (reads' []).symm.trans (reads [])
    have none : kept' = kept := List.append_cancel_right nothing
    have one := (reads' ['x']).symm.trans (reads ['x'])
    rw [none, List.append_cancel_left_eq] at one
    exact absurd one (by decide)
  · intro hends
    rw [Mode.behind, if_neg hends] at reads
    exact ⟨kept, hkept, reads⟩

end Devicetree

end KeymapCompiler
