/-
KeymapCompiler/Proofs/Devicetree/Comment.lean

Where a block comment ends.  `EndsAt` says at which positions of a text the two
characters stand that end a comment.

No end reaches across a character that is neither of the two, so the ends of two texts
with such a character between them are those of the texts (`endsAt_separated_iff`).  This
is all that is needed about the seams of a block comment, which has a space on either side
of its text.

The preprocessor looks for the end in joined lines.  A comment goes to its first end there
(`uncommented_block_of_firstEnd`), so it is read as it is meant exactly when its text has
no end with its lines joined (`reads_block_iff`).  Such an end stands in the text as it is
written, or over several lines of it:

    brokenEnd n    a star, `n` backslashes with a line end each, and a slash

Inside, `guardComment` leaves no end as it is written (`not_endsAt_guardComment`): an end
that is left would start with a star that was kept, and such a star has no slash after it.
It does not look for those over several lines, and leaves every one of them
(`hasEnd_spliced_guardComment_iff`).
-/
import KeymapCompiler.Devicetree
import KeymapCompiler.Proofs.Preprocessor
import Mathlib.Data.Nat.Find

namespace KeymapCompiler

open KeymapCompiler.Preprocessor

namespace Devicetree

/-! ### Ends -/

/-- The two characters that end a comment stand at a position. -/
def EndsAt (cs : List Char) (i : Nat) : Prop :=
  cs[i]? = some '*' ∧ cs[i + 1]? = some '/'

instance (cs : List Char) : DecidablePred (EndsAt cs) := fun i =>
  inferInstanceAs (Decidable (cs[i]? = some '*' ∧ cs[i + 1]? = some '/'))

theorem not_endsAt_nil (i : Nat) : ¬ EndsAt [] i := by
  rintro ⟨star, -⟩
  cases star

theorem endsAt_cons_zero (c : Char) (cs : List Char) :
    EndsAt (c :: cs) 0 ↔ c = '*' ∧ cs.head? = some '/' := by
  rw [EndsAt, List.getElem?_cons_zero, List.getElem?_cons_succ, List.head?_eq_getElem?,
    Option.some_inj]

theorem endsAt_cons_succ (c : Char) (cs : List Char) (i : Nat) :
    EndsAt (c :: cs) (i + 1) ↔ EndsAt cs i := by
  rw [EndsAt, List.getElem?_cons_succ, List.getElem?_cons_succ, EndsAt]

/-- No end reaches across a character that is neither of the two. -/
theorem endsAt_separated_iff {c : Char} (hstar : c ≠ '*') (hslash : c ≠ '/')
    (front back : List Char) (i : Nat) :
    EndsAt (front ++ c :: back) i ↔
      EndsAt front i ∨ ∃ j, i = front.length + 1 + j ∧ EndsAt back j := by
  induction front generalizing i with
  | nil =>
    rcases i with - | i
    · refine iff_of_false ?_ ?_
      · rw [List.nil_append, endsAt_cons_zero]
        exact fun e => hstar e.1
      · rintro (h | ⟨j, e, -⟩)
        · exact not_endsAt_nil 0 h
        · omega
    · rw [List.nil_append, endsAt_cons_succ]
      simp [not_endsAt_nil, Nat.add_comm 1]
  | cons d front ih =>
    rcases i with - | i
    · have later : ¬ ∃ j, 0 = (d :: front).length + 1 + j ∧ EndsAt back j := by
        rintro ⟨j, e, -⟩
        omega
      rw [or_iff_left later, List.cons_append, endsAt_cons_zero, endsAt_cons_zero]
      -- The last character of the front has the separator behind it, which is no slash.
      rcases front with - | ⟨e, front⟩
      · simp [hslash]
      · rfl
    · rw [List.cons_append, endsAt_cons_succ, endsAt_cons_succ, ih, List.length_cons]
      refine or_congr_right (exists_congr fun j => and_congr_left fun _ => ?_)
      omega

theorem endsAt_space_iff (front back : List Char) (i : Nat) :
    EndsAt (front ++ ' ' :: back) i ↔
      EndsAt front i ∨ ∃ j, i = front.length + 1 + j ∧ EndsAt back j :=
  endsAt_separated_iff (by decide) (by decide) front back i

/-- A text has the end of a comment in it. -/
def HasEnd (cs : List Char) : Prop :=
  ∃ i, EndsAt cs i

/-- The end of a comment at a position is the first one. -/
def FirstEnd (cs : List Char) (i : Nat) : Prop :=
  EndsAt cs i ∧ ∀ j < i, ¬ EndsAt cs j

theorem EndsAt.succ_lt_length {cs : List Char} {i : Nat} (h : EndsAt cs i) : i + 1 < cs.length :=
  (List.getElem?_eq_some_iff.mp h.2).1

instance : DecidablePred HasEnd := fun cs =>
  decidable_of_iff (∃ i < cs.length, EndsAt cs i)
    ⟨fun ⟨i, _, h⟩ => ⟨i, h⟩, fun ⟨i, h⟩ => ⟨i, Nat.lt_of_succ_lt h.succ_lt_length, h⟩⟩

theorem hasEnd_cons_iff (c : Char) (cs : List Char) :
    HasEnd (c :: cs) ↔ (c = '*' ∧ cs.head? = some '/') ∨ HasEnd cs := by
  constructor
  · rintro ⟨- | i, hi⟩
    · exact .inl ((endsAt_cons_zero c cs).mp hi)
    · exact .inr ⟨i, (endsAt_cons_succ c cs i).mp hi⟩
  · rintro (hi | ⟨i, hi⟩)
    · exact ⟨0, (endsAt_cons_zero c cs).mpr hi⟩
    · exact ⟨i + 1, (endsAt_cons_succ c cs i).mpr hi⟩

theorem hasEnd_separated_iff {c : Char} (hstar : c ≠ '*') (hslash : c ≠ '/')
    (front back : List Char) : HasEnd (front ++ c :: back) ↔ HasEnd front ∨ HasEnd back := by
  simp only [HasEnd, endsAt_separated_iff hstar hslash]
  constructor
  · rintro ⟨i, h | ⟨j, -, h⟩⟩
    · exact .inl ⟨i, h⟩
    · exact .inr ⟨j, h⟩
  · rintro (⟨i, h⟩ | ⟨j, h⟩)
    · exact ⟨i, .inl h⟩
    · exact ⟨_, .inr ⟨j, rfl, h⟩⟩

/-- An end behind a space is the first one if there is none before it. -/
theorem firstEnd_space_iff (front rest : List Char) :
    FirstEnd (front ++ ' ' :: '*' :: '/' :: rest) (front.length + 1) ↔ ¬ HasEnd front := by
  have here : EndsAt (front ++ ' ' :: '*' :: '/' :: rest) (front.length + 1) :=
    (endsAt_space_iff _ _ _).mpr (.inr ⟨0, rfl, rfl, rfl⟩)
  rw [FirstEnd, and_iff_right here]
  constructor
  · rintro h ⟨i, hi⟩
    exact h i (Nat.lt_of_succ_lt (Nat.lt_succ_of_lt hi.succ_lt_length))
      ((endsAt_space_iff _ _ _).mpr (.inl hi))
  · intro h j hj hend
    rcases (endsAt_space_iff _ _ _).mp hend with hfront | ⟨k, e, -⟩
    · exact h ⟨j, hfront⟩
    · omega

theorem exists_firstEnd {cs : List Char} (h : HasEnd cs) : ∃ i, FirstEnd cs i :=
  ⟨Nat.find h, Nat.find_spec h, fun _ => Nat.find_min h⟩

theorem firstEnd_cons_succ_iff (c : Char) (cs : List Char) (i : Nat) :
    FirstEnd (c :: cs) (i + 1) ↔ ¬ (c = '*' ∧ cs.head? = some '/') ∧ FirstEnd cs i := by
  rw [FirstEnd, FirstEnd, Nat.forall_lt_succ_left, endsAt_cons_succ, endsAt_cons_zero]
  simp only [endsAt_cons_succ]
  exact and_left_comm

/-- The first end of a text does not depend on what stands behind the text. -/
theorem FirstEnd.append {front : List Char} {i : Nat} (h : FirstEnd front i) (back : List Char) :
    FirstEnd (front ++ back) i := by
  have hi := h.1.succ_lt_length
  have same : ∀ j ≤ i, (EndsAt (front ++ back) j ↔ EndsAt front j) := by
    intro j hj
    rw [EndsAt, EndsAt, List.getElem?_append_left (by omega), List.getElem?_append_left (by omega)]
  exact ⟨(same i (Nat.le_refl i)).mpr h.1,
    fun j hj hend => h.2 j hj ((same j (Nat.le_of_lt hj)).mp hend)⟩

/-! ### Ends over several lines -/

/-- A number of backslashes, each at the end of a line. -/
def lineJoins : Nat → List Char
  | 0 => []
  | n + 1 => '\\' :: '\n' :: lineJoins n

/-- The two characters that end a comment, with a number of joined lines between them. -/
def brokenEnd (n : Nat) : List Char :=
  '*' :: (lineJoins n ++ ['/'])

/-- A text has the end of a comment over two lines or more. -/
def HasBrokenEnd (cs : List Char) : Prop :=
  ∃ n, brokenEnd (n + 1) <:+: cs

theorem head?_spliced_eq_some_iff {c : Char} (h : c ≠ '\\') (cs : List Char) :
    (spliced cs).head? = some c ↔ ∃ n, lineJoins n ++ [c] <+: cs := by
  fun_induction spliced cs with
  | case1 rest ih =>
    rw [ih]
    constructor
    · rintro ⟨n, hn⟩
      refine ⟨n + 1, ?_⟩
      rw [lineJoins, List.cons_append, List.cons_append, List.cons_prefix_cons,
        List.cons_prefix_cons]
      exact ⟨rfl, rfl, hn⟩
    · rintro ⟨- | n, hn⟩
      · exact absurd (List.cons_prefix_cons.mp hn).1 h
      · exact ⟨n, (List.cons_prefix_cons.mp (List.cons_prefix_cons.mp hn).2).2⟩
  | case2 d rest other =>
    rw [List.head?_cons, Option.some_inj]
    constructor
    · rintro rfl
      exact ⟨0, List.cons_prefix_cons.mpr ⟨rfl, List.nil_prefix⟩⟩
    · rintro ⟨- | n, hn⟩
      · exact (List.cons_prefix_cons.mp hn).1.symm
      -- A backslash at the end of its line would have been joined away.
      · obtain ⟨hslash, hn⟩ := List.cons_prefix_cons.mp hn
        obtain ⟨after, rfl⟩ := hn
        exact absurd rfl (other _ hslash.symm)
  | case3 =>
    refine iff_of_false (Option.some_ne_none c).symm ?_
    rintro ⟨n, hn⟩
    exact absurd (List.prefix_nil.mp hn) (by simp)

/-- With its lines joined a text has the ends that it has over any number of lines. -/
theorem hasEnd_spliced_iff (cs : List Char) :
    HasEnd (spliced cs) ↔ ∃ n, brokenEnd n <:+: cs := by
  fun_induction spliced cs with
  | case1 rest ih =>
    rw [ih]
    refine exists_congr fun n => ?_
    -- No end starts at a backslash or at a line end.
    rw [List.infix_cons_iff, List.infix_cons_iff, brokenEnd, List.cons_prefix_cons,
      List.cons_prefix_cons]
    simp
  | case2 c rest other ih =>
    rw [hasEnd_cons_iff, ih, head?_spliced_eq_some_iff (by decide)]
    simp only [List.infix_cons_iff, brokenEnd, List.cons_prefix_cons, exists_or, exists_and_left,
      eq_comm]
  | case3 =>
    refine iff_of_false (by decide) ?_
    rintro ⟨n, hn⟩
    exact absurd (List.infix_nil.mp hn) (List.cons_ne_nil _ _)

theorem hasEnd_spliced_separated_iff {c : Char} (h : c ∉ ['*', '/', '\n', '\\'])
    (front back : List Char) :
    HasEnd (spliced (front ++ c :: back)) ↔ HasEnd (spliced front) ∨ HasEnd (spliced back) := by
  simp only [List.mem_cons, List.not_mem_nil, or_false, not_or] at h
  obtain ⟨hstar, hslash, hnewline, hbackslash⟩ := h
  have joined : spliced (front ++ c :: back) = spliced front ++ spliced (c :: back) :=
    spliced_append fun e => hnewline (Option.some.inj e)
  rw [joined, spliced_cons_of_ne hbackslash, hasEnd_separated_iff hstar hslash]

theorem hasEnd_spliced_newline_iff (cs : List Char) :
    HasEnd (spliced (cs ++ ['\n'])) ↔ HasEnd (spliced cs) := by
  have nothing : ¬ HasEnd [] := by decide
  rcases spliced_append_newline cs with e | e
  · rw [e, hasEnd_separated_iff (by decide) (by decide), or_iff_left nothing]
  · rw [e, hasEnd_separated_iff (by decide) (by decide), or_iff_left nothing]

/-! ### Comments as the preprocessor reads them -/

/-- A comment goes to its first end, and nothing of it is left. -/
theorem uncommented_block_of_firstEnd {cs : List Char} {i : Nat} (h : FirstEnd cs i) :
    uncommented .block cs = uncommented .source (cs.drop (i + 2)) := by
  -- Behind a star the next character must not be a slash.
  suffices inside : ∀ m, m = .block ∨ (m = .star ∧ cs.head? ≠ some '/') →
      uncommented m cs = uncommented .source (cs.drop (i + 2)) from inside .block (.inl rfl)
  induction cs generalizing i with
  | nil => exact absurd h.1 (not_endsAt_nil i)
  | cons c rest ih =>
    cases i with
    | zero =>
      obtain ⟨rfl, hslash⟩ := (endsAt_cons_zero c rest).mp h.1
      obtain ⟨after, rfl⟩ := List.head?_eq_some_iff.mp hslash
      rintro m (rfl | ⟨rfl, -⟩)
      · rfl
      · rfl
    | succ i =>
      obtain ⟨hstar, hrest⟩ := (firstEnd_cons_succ_iff c rest i).mp h
      have next : ∀ m, m = .block ∨ (m = .star ∧ (c :: rest).head? ≠ some '/') →
          uncommented m (c :: rest) = uncommented (if c = '*' then .star else .block) rest := by
        rintro m (rfl | ⟨rfl, hslash⟩)
        · rfl
        · have hne : c ≠ '/' := fun e => hslash (congrArg some e)
          show uncommented (if c = '/' then .source else if c = '*' then .star else .block) rest = _
          rw [if_neg hne]
      intro m hm
      rw [next m hm, List.drop_succ_cons]
      apply ih hrest
      by_cases hc : c = '*'
      · exact .inr ⟨if_pos hc, not_and.mp hstar hc⟩
      · exact .inl (if_neg hc)

/-- Of source that is not empty something is left. -/
theorem uncommented_source_ne_nil {cs : List Char} (h : cs ≠ []) : uncommented .source cs ≠ [] := by
  obtain ⟨c, rest, rfl⟩ := List.exists_cons_of_ne_nil h
  by_cases hc : c = '/'
  · -- The slash is held back, and given out with the next character or at the end.
    subst hc
    rcases rest with - | ⟨d, rest⟩
    · exact List.cons_ne_nil _ _
    · show Mode.kept .slash d ++ uncommented (Mode.next .slash d) rest ≠ []
      rw [Mode.kept]
      split
      · exact List.cons_ne_nil _ _
      · exact List.cons_ne_nil _ _
  · show Mode.kept .source c ++ uncommented (Mode.next .source c) rest ≠ []
    rw [Mode.kept, if_neg hc]
    exact List.cons_ne_nil _ _

/-- A comment leaves a space, and what follows it is source, exactly when there is no end in it with
its lines joined. -/
theorem reads_block_iff (inside : List Char) :
    Reads .source ('/' :: '*' :: (inside ++ [' ', '*', '/'])) [' '] .source ↔
      ¬ HasEnd (spliced inside) := by
  have opened : ∀ back,
      uncommented .source (spliced (('/' :: '*' :: (inside ++ [' ', '*', '/'])) ++ back))
        = ' ' :: uncommented .block (spliced inside ++ ' ' :: '*' :: '/' :: spliced back) := by
    intro back
    have joined : spliced (inside ++ ' ' :: '*' :: '/' :: back)
        = spliced inside ++ spliced (' ' :: '*' :: '/' :: back) :=
      spliced_append (by simp)
    rw [List.cons_append, List.cons_append, List.append_assoc, spliced_cons_of_ne (by decide),
      spliced_cons_of_ne (by decide)]
    show ' ' :: uncommented .block (spliced (inside ++ ' ' :: '*' :: '/' :: back)) = _
    rw [joined, spliced_cons_of_ne (by decide), spliced_cons_of_ne (by decide),
      spliced_cons_of_ne (by decide)]
  constructor
  · intro hreads hend
    obtain ⟨i, hi⟩ := exists_firstEnd hend
    have here := hi.1.succ_lt_length
    -- Behind the early end the end that was meant is source.
    have left := hreads []
    rw [opened, uncommented_block_of_firstEnd (hi.append _)] at left
    refine uncommented_source_ne_nil ?_ (List.cons.inj left).2
    intro e
    have := congrArg List.length e
    simp only [List.length_drop, List.length_append, List.length_cons, List.length_nil] at this
    omega
  · intro hend back
    rw [opened, uncommented_block_of_firstEnd ((firstEnd_space_iff _ _).mpr hend)]
    have behind : (spliced inside ++ ' ' :: '*' :: '/' :: spliced back).drop
        ((spliced inside).length + 1 + 2) = spliced back := by
      rw [Nat.add_assoc, List.drop_length_add_append]
      rfl
    rw [behind]
    rfl

/-! ### Guarded texts -/

/-- A guarded text starts with the same character as the text. -/
theorem head?_guardComment (cs : List Char) : (guardComment cs).head? = cs.head? := by
  fun_cases guardComment cs with
  | case1 rest => rfl
  | case2 c rest other => rfl
  | case3 => rfl

theorem not_endsAt_guardComment (cs : List Char) (i : Nat) : ¬ EndsAt (guardComment cs) i := by
  fun_induction guardComment cs generalizing i with
  | case1 rest ih =>
    -- Neither the star, nor the space, nor the slash that is put behind them starts an end.
    rcases i with - | - | - | i
    · rw [endsAt_cons_zero]
      simp
    · rw [endsAt_cons_succ, endsAt_cons_zero]
      simp
    · rw [endsAt_cons_succ, endsAt_cons_succ, endsAt_cons_zero]
      simp
    · rw [endsAt_cons_succ, endsAt_cons_succ, endsAt_cons_succ]
      exact ih i
  | case2 c rest other ih =>
    rcases i with - | i
    · rw [endsAt_cons_zero, head?_guardComment]
      rintro ⟨rfl, slash⟩
      obtain ⟨after, rfl⟩ := List.head?_eq_some_iff.mp slash
      exact other after rfl rfl
    · rw [endsAt_cons_succ]
      exact ih i
  | case3 => exact not_endsAt_nil i

/-- Only the star right before the slash is kept away from it, and a last star is left alone. -/
example : guardComment "**//*/*".toList = "** //* /*".toList := by
  decide +kernel

theorem prefix_guardComment_iff {front : List Char} (h : '*' ∉ front) (cs : List Char) :
    front <+: guardComment cs ↔ front <+: cs := by
  induction front generalizing cs with
  | nil => exact iff_of_true List.nil_prefix List.nil_prefix
  | cons d front ih =>
    obtain ⟨hd, hfront⟩ := not_or.mp (List.mem_cons.not.mp h)
    fun_cases guardComment cs with
    | case1 rest =>
      rw [List.cons_prefix_cons, List.cons_prefix_cons]
      exact iff_of_false (fun e => hd e.1.symm) fun e => hd e.1.symm
    | case2 c rest other => rw [List.cons_prefix_cons, List.cons_prefix_cons, ih hfront]
    | case3 => exact Iff.rfl

theorem star_not_mem_lineJoins (n : Nat) : '*' ∉ lineJoins n ++ ['/'] := by
  induction n with
  | zero => decide
  | succ n ih => simpa [lineJoins] using ih

/-- An end over several lines is left where it is. -/
theorem brokenEnd_infix_guardComment_iff (n : Nat) (cs : List Char) :
    brokenEnd (n + 1) <:+: guardComment cs ↔ brokenEnd (n + 1) <:+: cs := by
  fun_induction guardComment cs with
  | case1 rest ih =>
    -- The three characters that are written for an end, and the two they are written for, start
    -- none.
    have stops : ∀ c tail, c ≠ '\\' → ¬ brokenEnd (n + 1) <+: '*' :: c :: tail := by
      intro c tail hc e
      exact hc (List.cons_prefix_cons.mp (List.cons_prefix_cons.mp e).2).1.symm
    have starts : ∀ c tail, c ≠ '*' → ¬ brokenEnd (n + 1) <+: c :: tail := by
      intro c tail hc e
      exact hc (List.cons_prefix_cons.mp e).1.symm
    simp only [List.infix_cons_iff, ih, stops _ _ (show ' ' ≠ '\\' by decide),
      stops _ _ (show '/' ≠ '\\' by decide), starts _ _ (show ' ' ≠ '*' by decide),
      starts _ _ (show '/' ≠ '*' by decide), false_or]
  | case2 c rest other ih =>
    rw [List.infix_cons_iff, List.infix_cons_iff, ih, brokenEnd, List.cons_prefix_cons,
      List.cons_prefix_cons, prefix_guardComment_iff (star_not_mem_lineJoins _)]
  | case3 => exact Iff.rfl

/-- With its lines joined a guarded text has no ends but those that the text has over several
lines. -/
theorem hasEnd_spliced_guardComment_iff (cs : List Char) :
    HasEnd (spliced (guardComment cs)) ↔ HasBrokenEnd cs := by
  have whole : ¬ brokenEnd 0 <:+: guardComment cs := by
    rintro ⟨front, back, e⟩
    refine not_endsAt_guardComment cs front.length ?_
    rw [← e]
    simp [EndsAt, brokenEnd, lineJoins]
  rw [hasEnd_spliced_iff]
  constructor
  · rintro ⟨- | n, hn⟩
    · exact absurd hn whole
    · exact ⟨n, (brokenEnd_infix_guardComment_iff n cs).mp hn⟩
  · rintro ⟨n, hn⟩
    exact ⟨n + 1, (brokenEnd_infix_guardComment_iff n cs).mpr hn⟩

/-! ### Block comments -/

theorem toList_blockComment (text : String) :
    (blockComment text).toList
      = '/' :: '*' :: ((' ' :: guardComment text.toList) ++ [' ', '*', '/']) := by
  simp [blockComment]

/-- After a lead without ends a block comment has one end, in its last two characters. -/
theorem endsAt_blockComment_iff {lead : List Char} (hlead : ∀ i, ¬ EndsAt (lead ++ ['/', '*']) i)
    (text : String) (i : Nat) :
    EndsAt (lead ++ (blockComment text).toList) i
      ↔ i + 2 = lead.length + (blockComment text).toList.length := by
  -- The lead, the guarded text and the sign at the end have a space between them.
  have spaced : lead ++ (blockComment text).toList
      = (lead ++ ['/', '*']) ++ ' ' :: (guardComment text.toList ++ ' ' :: ['*', '/']) := by
    simp [toList_blockComment]
  have last : ∀ j, EndsAt ['*', '/'] j ↔ j = 0 := by
    rintro (- | - | j)
    · exact iff_of_true ⟨rfl, rfl⟩ rfl
    · simp [EndsAt]
    · simp [EndsAt]
  rw [← List.length_append, spaced, endsAt_space_iff]
  simp only [endsAt_space_iff, hlead, not_endsAt_guardComment, last, false_or, exists_eq_right,
    List.length_cons, List.length_append, List.length_nil]
  omega

/-- A block comment is read as one exactly when its text has no end over several lines. -/
theorem reads_blockComment_iff (text : String) :
    Reads .source (blockComment text).toList [' '] .source ↔ ¬ HasBrokenEnd text.toList := by
  rw [toList_blockComment, reads_block_iff, spliced_cons_of_ne (by decide), hasEnd_cons_iff,
    hasEnd_spliced_guardComment_iff, or_iff_right (fun e => absurd e.1 (by decide))]

end Devicetree

end KeymapCompiler
