/-
KeymapCompiler/Proofs/Preprocessor.lean

How the preprocessor reads source.  First it joins lines: a backslash at the end of a
line is dropped together with the line end (`spliced`).  Then it takes the comments out,
each of which leaves a space (`uncommented`).  So a comment that ends with its line goes
on in the next line if there is a backslash between them.

This is how ISO C has it, with a newline character at the end of a line.  Some
preprocessors go further: they join lines with blanks between the backslash and the line
end as well, and take a lone carriage return for a line end.  Neither is described here.

The reader of the joined lines goes character by character and is in one of a few modes.
What a text does to it is stated for any text behind (`Reads`):

    uncommented m (spliced (cs ++ back)) = kept ++ uncommented m' (spliced back)

Texts that are put together are then read one after the other (`Reads.append`), and it
does not matter that a line may be joined to what stands behind it.
-/
import KeymapCompiler.Text.Blank
import Mathlib.Data.List.Basic

namespace KeymapCompiler.Preprocessor

open KeymapCompiler.Text

/-! ### Joined lines -/

/-- Drops the line ends that a backslash stands before, and these backslashes. -/
def spliced : List Char → List Char
  | '\\' :: '\n' :: rest => spliced rest
  | c :: rest => c :: spliced rest
  | [] => []

theorem spliced_cons {c : Char} {rest : List Char} (h : c = '\\' → rest.head? ≠ some '\n') :
    spliced (c :: rest) = c :: spliced rest := by
  rw [spliced]
  rintro after rfl rfl
  exact h rfl rfl

theorem spliced_cons_of_ne {c : Char} (h : c ≠ '\\') (rest : List Char) :
    spliced (c :: rest) = c :: spliced rest :=
  spliced_cons fun e => absurd e h

/-- Texts are joined one by one, unless a backslash may stand before a line end at the seam. -/
theorem spliced_append {a b : List Char} (h : b.head? ≠ some '\n') :
    spliced (a ++ b) = spliced a ++ spliced b := by
  fun_induction spliced a with
  | case1 rest ih => exact ih
  | case2 c rest other ih =>
    rw [List.cons_append, spliced_cons, ih, List.cons_append]
    rintro rfl e
    rcases rest with - | ⟨d, rest⟩
    · exact h e
    · exact other rest rfl (by rw [Option.some.inj e])
  | case3 => rfl

/-- A line end is joined away together with a backslash before it, or it stays. -/
theorem spliced_append_newline (cs : List Char) :
    spliced (cs ++ ['\n']) = spliced cs ++ ['\n'] ∨
      spliced cs = spliced (cs ++ ['\n']) ++ ['\\'] := by
  fun_induction spliced cs with
  | case1 rest ih => exact ih
  | case2 c rest other ih =>
    -- Only a backslash that comes last takes the added line end with it.
    rcases rest with - | ⟨d, rest⟩
    · by_cases hslash : c = '\\'
      · subst hslash
        exact .inr rfl
      · left
        rw [List.singleton_append, spliced_cons_of_ne hslash]
        rfl
    · have next : spliced (c :: (d :: rest ++ ['\n'])) = c :: spliced (d :: rest ++ ['\n']) := by
        refine spliced_cons ?_
        rintro rfl e
        exact other rest rfl (by rw [Option.some.inj e])
      rw [List.cons_append, next]
      rcases ih with ih | ih
      · exact .inl (congrArg (c :: ·) ih)
      · exact .inr (congrArg (c :: ·) ih)
  | case3 => exact .inl rfl

/-- A line that ends in a backslash is joined to the next. -/
def EndsInBackslash (line : List Char) : Prop :=
  line.getLast? = some '\\'

instance : DecidablePred EndsInBackslash := fun line =>
  inferInstanceAs (Decidable (line.getLast? = some '\\'))

theorem endsInBackslash_singleton_iff (c : Char) : EndsInBackslash [c] ↔ c = '\\' :=
  Option.some_inj

theorem endsInBackslash_cons_cons_iff (c d : Char) (rest : List Char) :
    EndsInBackslash (c :: d :: rest) ↔ EndsInBackslash (d :: rest) := by
  rw [EndsInBackslash, List.getLast?_cons_cons, EndsInBackslash]

/-! ### Source without comments -/

/-- Where the reader is. -/
inductive Mode where
  /-- In source. -/
  | source
  /-- Behind a slash that may open a comment. -/
  | slash
  /-- In a comment that ends with its line. -/
  | line
  /-- In a comment that has an end of its own. -/
  | block
  /-- In such a comment, behind a star. -/
  | star
  /-- In a text in quotes. -/
  | quoted (quote : Char)
  /-- In such a text, behind a backslash. -/
  | escaped (quote : Char)
deriving DecidableEq

/-- The mode behind a character of source. -/
def Mode.ofSource (c : Char) : Mode :=
  if c = '/' then .slash
  else if c = '\x22' ∨ c = '\x27' then .quoted c
  else .source

/-- The mode behind a character.  A text in quotes ends with its line if it does not end before. -/
def Mode.next : Mode → Char → Mode
  | .source, c => .ofSource c
  | .slash, c => if c = '/' then .line else if c = '*' then .block else .ofSource c
  | .line, c => if c = '\n' then .source else .line
  | .block, c => if c = '*' then .star else .block
  | .star, c => if c = '/' then .source else if c = '*' then .star else .block
  | .quoted quote, c =>
    if c = '\\' then .escaped quote
    else if c = quote ∨ c = '\n' then .source
    else .quoted quote
  | .escaped quote, c => if c = '\n' then .source else .quoted quote

/-- What is left of a character.  A slash is held back until it is clear that it opens no
comment. -/
def Mode.kept : Mode → Char → List Char
  | .source, c => if c = '/' then [] else [c]
  | .slash, c => if c = '/' ∨ c = '*' then [' '] else ['/', c]
  | .line, c => if c = '\n' then [c] else []
  | .block, _ | .star, _ => []
  | .quoted _, c | .escaped _, c => [c]

/-- What is left without comments of a text that is read in a mode. -/
def uncommented : Mode → List Char → List Char
  | .slash, [] => ['/']
  | _, [] => []
  | m, c :: rest => m.kept c ++ uncommented (m.next c) rest

/-- What the preprocessor leaves of a text. -/
def preprocessed (cs : List Char) : List Char :=
  uncommented .source (spliced cs)

/-! ### Texts one after the other -/

/-- A text that is read in a mode leaves some of its characters, and what follows it is read in
another mode. -/
def Reads (m : Mode) (cs kept : List Char) (m' : Mode) : Prop :=
  ∀ back, uncommented m (spliced (cs ++ back)) = kept ++ uncommented m' (spliced back)

/-- Behind a text the next one is read as it is on its own. -/
theorem reads_append_iff {m m' m'' : Mode} {a b kept kept' : List Char} (ha : Reads m a kept m') :
    Reads m (a ++ b) (kept ++ kept') m'' ↔ Reads m' b kept' m'' := by
  refine forall_congr' fun back => ?_
  rw [List.append_assoc, ha, List.append_assoc, List.append_cancel_left_eq]

theorem Reads.append {m m' m'' : Mode} {a b kept kept' : List Char} (ha : Reads m a kept m')
    (hb : Reads m' b kept' m'') : Reads m (a ++ b) (kept ++ kept') m'' :=
  (reads_append_iff ha).mpr hb

/-- A character is read on its own if it cannot join lines. -/
theorem reads_char {c : Char} (h : c ≠ '\\') (m : Mode) : Reads m [c] (m.kept c) (m.next c) := by
  intro back
  rw [List.singleton_append, spliced_cons_of_ne h]
  cases m with
  | _ => rfl

/-- The mode behind a line, if the line is read in a comment that ends with it. -/
def Mode.behind (line : List Char) : Mode :=
  if EndsInBackslash line then .line else .source

theorem Mode.behind_congr {a b : List Char} (h : EndsInBackslash a ↔ EndsInBackslash b) :
    behind a = behind b :=
  if_congr h rfl rfl

theorem Mode.behind_eq (line : List Char) : behind line = .source ∨ behind line = .line := by
  unfold behind
  split
  · exact .inr rfl
  · exact .inl rfl

/-- A comment goes on to the end of its line, and to the next line behind a backslash. -/
theorem reads_line {line : List Char} (h : '\n' ∉ line) :
    Reads .line (line ++ ['\n']) (if EndsInBackslash line then [] else ['\n']) (.behind line) := by
  intro back
  induction line with
  | nil => exact reads_char (by decide) .line back
  | cons c rest ih =>
    have hc : c ≠ '\n' := fun e => h (e ▸ List.mem_cons_self)
    have hrest : '\n' ∉ rest := fun e => h (List.mem_cons_of_mem _ e)
    rcases rest with - | ⟨d, rest⟩
    · by_cases hslash : c = '\\'
      · -- The backslash is the last character and takes the line end with it.
        subst hslash
        rfl
      · have last : ¬ EndsInBackslash [c] := (endsInBackslash_singleton_iff c).not.mpr hslash
        have one := reads_char hslash .line ('\n' :: back)
        rw [Mode.kept, Mode.next, if_neg hc, if_neg hc] at one
        rw [if_neg last, Mode.behind, if_neg last]
        exact one.trans (reads_char (by decide) .line back)
    · have hd : d ≠ '\n' := fun e => hrest (e ▸ List.mem_cons_self)
      -- Elsewhere a character of the comment is skipped and the rest is read the same way.
      have next : spliced (c :: (d :: rest ++ ['\n'] ++ back))
          = c :: spliced (d :: rest ++ ['\n'] ++ back) :=
        spliced_cons fun _ e => hd (Option.some.inj e)
      have skipped : ∀ cs, uncommented .line (c :: cs) = uncommented .line cs := by
        intro cs
        rw [uncommented, Mode.kept, Mode.next, if_neg hc, if_neg hc, List.nil_append]
      have last := endsInBackslash_cons_cons_iff c d rest
      rw [List.cons_append, List.cons_append, next, skipped, ih hrest, Mode.behind_congr last,
        if_congr last rfl rfl]

/-- The second line is joined to the comment, the third is not. -/
example : preprocessed ['a', '/', '/', 'b', '\\', '\n', 'c', '\n', 'd'] = ['a', ' ', '\n', 'd'] :=
  rfl

/-- A text leaves nothing but blanks. -/
def Vanishes (m : Mode) (cs : List Char) (m' : Mode) : Prop :=
  ∃ kept, (∀ c ∈ kept, isBlank c = true) ∧ Reads m cs kept m'

theorem Vanishes.nil (m : Mode) : Vanishes m [] m :=
  ⟨[], List.forall_mem_nil _, fun _ => rfl⟩

theorem Vanishes.append {m m' m'' : Mode} {a b : List Char} (ha : Vanishes m a m')
    (hb : Vanishes m' b m'') : Vanishes m (a ++ b) m'' := by
  obtain ⟨kept, hkept, ha⟩ := ha
  obtain ⟨kept', hkept', hb⟩ := hb
  exact ⟨kept ++ kept', List.forall_mem_append.mpr ⟨hkept, hkept'⟩, ha.append hb⟩

theorem vanishes_line {line : List Char} (h : '\n' ∉ line) :
    Vanishes .line (line ++ ['\n']) (.behind line) := by
  refine ⟨_, ?_, reads_line h⟩
  split
  · exact List.forall_mem_nil _
  · exact List.forall_mem_singleton.mpr (by decide)

/-- A text that is read in source and in which no comment is open at the end. -/
def AtSource (front : List Char) : Prop :=
  Reads .source front (preprocessed front) .source

end KeymapCompiler.Preprocessor
