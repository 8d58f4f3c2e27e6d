/-
KeymapCompiler/Proofs/Path.lean

How the paths that are derived from a path are followed.  A path is followed by its
parts between slashes, and a text that is cut at a slash has the parts of both
pieces (`parts_append`).  A path with a file name falls into a front, the name and
a tail of slashes and points (`exists_beside`):

* the path beside it, with another extension, has the same front and a name of its
  own;
* its parent is the front, up to slashes and points.

So both are followed through the same directory as the path itself.
-/
import KeymapCompiler.Path
import Mathlib.Tactic.SplitIfs

namespace KeymapCompiler.Path

variable {cs : List Char} {path : String}

/-! ### Parts -/

/-- The parts of a text between its slashes. -/
def parts (cs : List Char) : List String :=
  ((cs.splitOn '/').filter fun part => !part.isEmpty).map String.ofList

theorem steps_eq (path : String) :
    steps path = parts path.toList ++ if path.toList.getLast? = some '/' then ["."] else [] := by
  rw [steps, parts, List.map_append]
  split_ifs <;> rfl

theorem parts_nil : parts [] = [] := rfl

theorem parts_append_slash (a b : List Char) : parts (a ++ '/' :: b) = parts a ++ parts b := by
  rw [parts, List.splitOn, List.splitOnP_append_cons _ _ (by simp), List.filter_append,
    List.map_append]
  rfl

theorem parts_cons_slash (cs : List Char) : parts ('/' :: cs) = parts cs :=
  parts_append_slash [] cs

theorem parts_of_not_mem (h : '/' ∉ cs) (hne : cs ≠ []) : parts cs = [String.ofList cs] := by
  have hsplit : cs.splitOn '/' = [cs] := by
    apply List.splitOnP_eq_singleton
    intro c hc
    exact beq_eq_false_iff_ne.mpr fun heq => h (heq ▸ hc)
  simp [parts, hsplit, hne]

/-- Two pieces of a path meet at a slash, or one is empty. -/
def Cut (a b : List Char) : Prop :=
  a = [] ∨ b = [] ∨ a.getLast? = some '/' ∨ b.head? = some '/'

theorem parts_append {a b : List Char} (h : Cut a b) : parts (a ++ b) = parts a ++ parts b := by
  rcases h with rfl | rfl | h | h
  · rfl
  · rw [List.append_nil, parts_nil, List.append_nil]
  · obtain ⟨front, rfl⟩ := List.getLast?_eq_some_iff.mp h
    rw [List.append_assoc, List.singleton_append, parts_append_slash, parts_append_slash, parts_nil,
      List.append_nil]
  · obtain ⟨tail, rfl⟩ := List.head?_eq_some_iff.mp h
    rw [parts_append_slash, parts_cons_slash]

/-- A text of slashes and points. -/
def IsTrail (cs : List Char) : Prop :=
  ∀ part ∈ parts cs, part = "."

/-! ### Trails -/

theorem isTrail_nil : IsTrail [] := by
  intro part hpart
  cases hpart

theorem isTrail_append_slash (h : IsTrail cs) : IsTrail (cs ++ ['/']) := by
  rw [IsTrail, parts_append_slash, parts_nil, List.append_nil]
  exact h

theorem isTrail_append_point (h : IsTrail cs) : IsTrail (cs ++ ['/', '.']) := by
  intro part hpart
  rw [parts_append_slash, List.mem_append] at hpart
  rcases hpart with hpart | hpart
  · exact h part hpart
  · exact List.mem_singleton.mp hpart

/-- What is skipped of a reversed text is a trail, and it is cut off at a slash. -/
theorem exists_skipTrail (cs : List Char) :
    ∃ skipped, cs = skipped ++ skipTrail cs ∧ IsTrail skipped.reverse ∧
      (skipTrail cs = [] ∨ skipped = [] ∨ skipped.getLast? = some '/') := by
  -- One case a way to go on: a slash, a last point, a point and a slash, or a name.
  fun_induction skipTrail cs with
  | case1 rest ih =>
    obtain ⟨skipped, hrest, htrail, hcut⟩ := ih
    refine ⟨'/' :: skipped, congrArg _ hrest, ?_, ?_⟩
    · rw [List.reverse_cons]
      exact isTrail_append_slash htrail
    · rcases hcut with h | rfl | h
      · exact .inl h
      · exact .inr (.inr rfl)
      · exact .inr (.inr (by simp [List.getLast?_cons, h]))
  | case2 =>
    refine ⟨['.'], rfl, ?_, .inl rfl⟩
    exact fun part hpart => List.mem_singleton.mp hpart
  | case3 rest ih =>
    obtain ⟨skipped, hrest, htrail, hcut⟩ := ih
    refine ⟨'.' :: '/' :: skipped, congrArg (fun cs => '.' :: '/' :: cs) hrest, ?_, ?_⟩
    · rw [List.reverse_cons, List.reverse_cons, List.append_assoc]
      exact isTrail_append_point htrail
    · rcases hcut with h | rfl | h
      · exact .inl h
      · exact .inr (.inr rfl)
      · exact .inr (.inr (by simp [List.getLast?_cons, h]))
  | case4 cs => exact ⟨[], rfl, isTrail_nil, .inr (.inl rfl)⟩

/-- Nothing more can be skipped. -/
theorem skipTrail_ne (cs : List Char) :
    (∀ rest, skipTrail cs ≠ '/' :: rest) ∧ skipTrail cs ≠ ['.'] ∧
      ∀ rest, skipTrail cs ≠ '.' :: '/' :: rest := by
  fun_induction skipTrail cs with
  | case1 rest ih => exact ih
  | case2 => simp
  | case3 rest ih => exact ih
  | case4 cs h1 h2 h3 => exact ⟨h1, h2, h3⟩

/-! ### Names -/

/-- A name as it stands in a path. -/
structure IsName (name : List Char) : Prop where
  nonempty : name ≠ []
  noSlash : '/' ∉ name
  ne_point : name ≠ ['.']

theorem ofList_ne_point {name : List Char} (h : IsName name) : String.ofList name ≠ "." :=
  fun heq => h.ne_point (String.ofList_injective heq)

theorem ofList_ne_up {name : List Char} (h : name ≠ ['.', '.']) : String.ofList name ≠ ".." :=
  fun heq => h (String.ofList_injective heq)

theorem IsName.head?_append {name : List Char} (h : IsName name) (cs : List Char) :
    (name ++ cs).head? ≠ some '/' := by
  obtain ⟨c, more, rfl⟩ := List.exists_cons_of_ne_nil h.nonempty
  intro heq
  exact h.noSlash (Option.some.inj heq ▸ List.mem_cons_self)

theorem isName_takeWhile {rest : List Char} (hne : rest ≠ []) (hslash : ∀ more, rest ≠ '/' :: more)
    (hpoint : rest ≠ ['.']) (hpath : ∀ more, rest ≠ '.' :: '/' :: more) :
    IsName (rest.takeWhile (· != '/')).reverse := by
  have hmem : '/' ∉ rest.takeWhile (· != '/') := by
    intro hmem
    have := List.all_eq_true.mp List.all_takeWhile _ hmem
    simp at this
  refine ⟨?_, by simpa using hmem, ?_⟩
  · cases rest with
    | nil => exact absurd rfl hne
    | cons c more =>
      have hc : c ≠ '/' := fun heq => hslash more (heq ▸ rfl)
      simp [hc]
  · intro heq
    have heq : rest.takeWhile (· != '/') = ['.'] := by simpa using congrArg List.reverse heq
    have hsplit := List.takeWhile_append_dropWhile (p := (· != '/')) (l := rest)
    rw [heq] at hsplit
    cases hdrop : rest.dropWhile (· != '/') with
    | nil => exact hpoint (by rw [← hsplit, hdrop]; rfl)
    | cons c more =>
      -- What the name is cut off at is a slash.
      have hc : c = '/' := by
        have := List.head?_dropWhile_not (p := (· != '/')) (l := rest)
        simpa [hdrop] using this
      exact hpath more (by rw [← hsplit, hdrop, hc]; rfl)

/-- A text that ends in a name: a front that ends at a slash, the name and a trail. The front is
what stands before the name, and another trail. -/
structure Ends (text above front name tail : List Char) : Prop where
  text_eq : text = front ++ (name ++ tail)
  isName : IsName name
  front_cut : front = [] ∨ front.getLast? = some '/'
  tail_cut : tail = [] ∨ tail.head? = some '/'
  isTrail : IsTrail tail
  above_eq : ∃ trail, front = above ++ trail ∧ IsTrail trail ∧ Cut above trail

theorem ends_of_splitLast {body before name : List Char}
    (h : splitLast body.reverse = some (name, before)) :
    before.head? ≠ some '/' ∧
      ∃ tail, Ends body before.reverse ((skipTrail body.reverse).dropWhile (· != '/')).reverse name
        tail := by
  obtain ⟨skipped, hskipped, htrail, hcut⟩ := exists_skipTrail body.reverse
  obtain ⟨hslash, hpoint, hpath⟩ := skipTrail_ne body.reverse
  unfold splitLast at h
  generalize skipTrail body.reverse = rest at *
  split at h
  · cases h
  next hne =>
  obtain ⟨rfl, rfl⟩ := Prod.mk.inj (Option.some.inj h)
  -- In front of the name a second trail is skipped, the one between it and its parent.
  obtain ⟨second, hsecond, hsecondTrail, hsecondCut⟩ :=
    exists_skipTrail (rest.dropWhile (· != '/'))
  refine ⟨?_, skipped.reverse, ?_, isName_takeWhile hne hslash hpoint hpath, ?_, ?_, htrail,
    second.reverse, ?_, hsecondTrail, ?_⟩
  · intro heq
    obtain ⟨more, hmore⟩ := List.head?_eq_some_iff.mp heq
    exact (skipTrail_ne _).1 more hmore
  · rw [← List.reverse_append, ← List.reverse_append, List.append_assoc,
      List.takeWhile_append_dropWhile, ← hskipped, List.reverse_reverse]
  · rw [List.getLast?_reverse, List.reverse_eq_nil_iff]
    have := List.head?_dropWhile_not (p := (· != '/')) (l := rest)
    cases hdrop : rest.dropWhile (· != '/') with
    | nil => exact .inl rfl
    | cons c more => exact .inr (by simpa [hdrop] using this)
  · rw [List.head?_reverse, List.reverse_eq_nil_iff]
    exact hcut.resolve_left hne
  · rw [← List.reverse_append, ← hsecond]
  · rcases hsecondCut with h | h | h
    · exact .inl (by rw [h]; rfl)
    · exact .inr (.inl (by rw [h]; rfl))
    · exact .inr (.inr (.inr (by rw [List.head?_reverse]; exact h)))

/-- What stands in front of the components of a path. -/
theorem splitRoot_spec (cs : List Char) :
    cs = (splitRoot cs).1 ++ (splitRoot cs).2 ∧
      ((splitRoot cs).1 = ['/'] ∨ (splitRoot cs).1 = [] ∧ cs.head? ≠ some '/' ∨
        (splitRoot cs).1 = ['.'] ∧
          ((splitRoot cs).2 = [] ∨ (splitRoot cs).2.head? = some '/')) := by
  unfold splitRoot
  split
  · exact ⟨rfl, .inl rfl⟩
  · exact ⟨rfl, .inr (.inr ⟨rfl, .inl rfl⟩)⟩
  · exact ⟨rfl, .inr (.inr ⟨rfl, .inr rfl⟩)⟩
  · next h1 h2 h3 =>
    refine ⟨rfl, .inr (.inl ⟨rfl, fun h => ?_⟩)⟩
    obtain ⟨rest, rfl⟩ := List.head?_eq_some_iff.mp h
    exact h1 rest rfl

/-- A text that ends in a name starts with a slash only if its front does. -/
theorem Ends.head?_front {text above front name tail : List Char}
    (h : Ends text above front name tail) (htext : text = [] ∨ text.head? = some '/') :
    front.head? = some '/' := by
  cases front with
  | nil =>
    rw [h.text_eq, List.nil_append] at htext
    rcases htext with hnil | hhead
    · exact absurd (List.append_eq_nil_iff.mp hnil).1 h.isName.nonempty
    · exact absurd hhead (h.isName.head?_append tail)
  | cons c more =>
    rw [h.text_eq] at htext
    simpa using htext

/-- A root in front of a text keeps the name that it ends in. -/
theorem Ends.root {above front name tail : List Char}
    (h : Ends (splitRoot cs).2 above front name tail) (habove : above.getLast? ≠ some '/') :
    Ends cs ((splitRoot cs).1 ++ above) ((splitRoot cs).1 ++ front) name tail := by
  obtain ⟨hcs, hroot⟩ := splitRoot_spec cs
  have hpoint := h.head?_front
  obtain ⟨trail, hfront, htrail, hcut⟩ := h.above_eq
  refine ⟨?_, h.isName, ?_, h.tail_cut, h.isTrail, trail, ?_, htrail, ?_⟩
  · rw [List.append_assoc, ← h.text_eq]
    exact hcs
  · rcases h.front_cut with rfl | hlast
    · rcases hroot with hroot | ⟨hroot, -⟩ | ⟨-, hbody⟩
      · exact .inr (by rw [hroot]; rfl)
      · exact .inl (by rw [hroot]; rfl)
      · cases hpoint hbody
    · exact .inr (by rw [List.getLast?_append, hlast]; rfl)
  · rw [hfront, List.append_assoc]
  · rcases hcut with rfl | htrail | hlast | hhead
    · rcases hroot with hroot | ⟨hroot, -⟩ | ⟨-, hbody⟩
      · exact .inr (.inr (.inl (by rw [hroot]; rfl)))
      · exact .inl (by rw [hroot]; rfl)
      · -- The trail is the whole front, which starts with a slash.
        exact .inr (.inr (.inr (by rw [← hpoint hbody, hfront]; rfl)))
    · exact .inr (.inl htrail)
    · exact absurd hlast habove
    · exact .inr (.inr (.inr hhead))

/-! ### Parents -/

/-- A path that is cut out of the front of another one. -/
structure Leads (front path : String) : Prop where
  toList_eq : ∃ back, path.toList = front.toList ++ back ∧ Cut front.toList back
  isAbsolute_eq : isAbsolute front = isAbsolute path
  slash : front.toList.getLast? = some '/' → front.toList = ['/']

theorem leads_of_parent? {above : String} (h : parent? path = some above) : Leads above path := by
  obtain ⟨hcs, hroot⟩ := splitRoot_spec path.toList
  simp only [parent?] at h
  split at h
  · next last before hlast =>
    obtain rfl := Option.some.inj h
    obtain ⟨hbefore, tail, hends⟩ := ends_of_splitLast hlast
    have hlastAbove : before.reverse.getLast? ≠ some '/' := by rwa [List.getLast?_reverse]
    have hends := hends.root hlastAbove
    obtain ⟨trail, hfront, -, hcut⟩ := hends.above_eq
    refine ⟨⟨trail ++ (last ++ tail), ?_, ?_⟩, ?_, ?_⟩
    · rw [String.toList_ofList, ← List.append_assoc, ← hfront]
      exact hends.text_eq
    · rw [String.toList_ofList]
      rcases hcut with h | rfl | h | h
      · exact .inl h
      · rw [List.append_nil] at hfront
        rcases hends.front_cut with hnil | hslash
        · exact .inl (hfront ▸ hnil)
        · exact .inr (.inr (.inl (hfront ▸ hslash)))
      · exact .inr (.inr (.inl h))
      · exact .inr (.inr (.inr (by rw [List.head?_append, h]; rfl)))
    · rw [isAbsolute, isAbsolute, String.toList_ofList]
      cases habove : (splitRoot path.toList).1 ++ before.reverse with
      | nil =>
        -- Without a root the path is not absolute.
        rw [(List.append_eq_nil_iff.mp habove).1] at hroot
        obtain h | ⟨-, hhead⟩ | ⟨h, -⟩ := hroot
        · cases h
        · exact (beq_eq_false_iff_ne.mpr hhead).symm
        · cases h
      | cons c more =>
        rw [hends.text_eq, hfront, habove]
        rfl
    · rw [String.toList_ofList]
      intro hslash
      cases before with
      | nil =>
        rw [List.reverse_nil, List.append_nil] at hslash ⊢
        obtain h | ⟨h, -⟩ | ⟨h, -⟩ := hroot
        · exact h
        · rw [h] at hslash
          cases hslash
        · rw [h] at hslash
          cases hslash
      | cons c more =>
        rw [List.getLast?_append, List.getLast?_reverse] at hslash
        exact absurd hslash hbefore
  · split_ifs at h with hpoint
    obtain rfl := Option.some.inj h
    refine ⟨⟨path.toList, rfl, .inl rfl⟩, ?_, fun hlast => by cases hlast⟩
    -- A path that starts with a point is not absolute.
    rw [isAbsolute, isAbsolute, hcs, hpoint]
    rfl

/-! ### Names with another extension -/

theorem exists_stem (name : List Char) :
    ∃ ext, name = stem name ++ ext ∧ (ext = [] ∨ ∃ e, ext = '.' :: e ∧ '.' ∉ e) := by
  have hsplit := List.takeWhile_append_dropWhile (p := (· != '.')) (l := name.reverse)
  unfold stem
  split
  · exact ⟨[], (List.append_nil _).symm, .inl rfl⟩
  · next c before hdrop =>
    have hc : c = '.' := by
      have := List.head?_dropWhile_not (p := (· != '.')) (l := name.reverse)
      simpa [hdrop] using this
    subst hc
    split_ifs with hempty
    · exact ⟨[], (List.append_nil _).symm, .inl rfl⟩
    · -- The extension is what stands behind the last point, read from the end.
      refine ⟨'.' :: (name.reverse.takeWhile (· != '.')).reverse, ?_, .inr ⟨_, rfl, ?_⟩⟩
      · rw [hdrop] at hsplit
        simpa using (congrArg List.reverse hsplit).symm
      · intro hmem
        have := List.all_eq_true.mp List.all_takeWhile _ (List.mem_reverse.mp hmem)
        simp at this

/-- With an extension that has points of its own, a name becomes another one. -/
theorem isName_stem_append {name ext : List Char} (hname : IsName name) (hslash : '/' ∉ ext)
    (hpoint : '.' ∈ ext) :
    IsName (stem name ++ '.' :: ext) ∧ stem name ++ '.' :: ext ≠ name := by
  obtain ⟨own, hown, hcases⟩ := exists_stem name
  refine ⟨⟨by simp, ?_, ?_⟩, ?_⟩
  · have hstem : '/' ∉ stem name :=
      fun hmem => hname.noSlash (by rw [hown]; exact List.mem_append_left _ hmem)
    simp [hstem, hslash]
  · intro heq
    have hlength := congrArg List.length heq
    have hext := List.length_pos_of_mem hpoint
    simp only [List.length_append, List.length_cons, List.length_nil] at hlength
    omega
  · intro heq
    -- A point in the new extension is one that the old could not have.
    have htail : '.' :: ext = own := List.append_cancel_left (heq.trans hown)
    rcases hcases with rfl | ⟨e, rfl, he⟩
    · cases htail
    · exact he ((List.cons.inj htail).2 ▸ hpoint)

/-- With such an extension, a path with a file name is beside the path, and not the path itself. -/
theorem exists_beside {ext : String} (hname : fileName? path ≠ none) (hslash : '/' ∉ ext.toList)
    (hpoint : '.' ∈ ext.toList) :
    ∃ above front name tail other, parent? path = some (String.ofList above) ∧
      Ends path.toList above front name tail ∧ name ≠ ['.', '.'] ∧
      withExtension path ext = String.ofList (front ++ other) ∧ IsName other ∧ other ≠ name := by
  simp only [fileName?] at hname
  cases hlast : splitLast (splitRoot path.toList).2.reverse with
  | none => simp [hlast] at hname
  | some last =>
    obtain ⟨name, before⟩ := last
    obtain ⟨hbefore, tail, hends⟩ := ends_of_splitLast hlast
    have hlastAbove : before.reverse.getLast? ≠ some '/' := by rwa [List.getLast?_reverse]
    have hends := hends.root hlastAbove
    have hup : name ≠ ['.', '.'] := by
      rintro rfl
      simp [hlast] at hname
    have hparent : parent? path
        = some (String.ofList ((splitRoot path.toList).1 ++ before.reverse)) := by
      simp only [parent?, hlast]
    by_cases hbare : stem name = ['.'] ∧
        skipTrail (splitRoot path.toList).2.reverse = (splitRoot path.toList).2.reverse
    · -- The name is two points and an extension, which is taken off.
      refine ⟨_, _, name, tail, ['.', '.'], hparent, hends, hup, ?_, ?_, fun heq => hup heq.symm⟩
      · simp [withExtension, hlast, hup, hbare]
      · exact ⟨by decide, by decide, by decide⟩
    · obtain ⟨hisName, hne⟩ := isName_stem_append hends.isName hslash hpoint
      refine ⟨_, _, name, tail, _, hparent, hends, hup, ?_, hisName, hne⟩
      simp [withExtension, hlast, hup, hbare, String.append_assoc]

/-! ### How paths are followed -/

variable {above front name tail other : List Char}

theorem Ends.cut_front {text : List Char} (h : Ends text above front name tail) (rest : List Char) :
    Cut front rest := by
  rcases h.front_cut with hnil | hslash
  · exact .inl hnil
  · exact .inr (.inr (.inl hslash))

/-- A path with a name is followed through its front, by its name, and stays there. -/
theorem Ends.exists_steps (h : Ends path.toList above front name tail) :
    ∃ stay, steps path = parts front ++ String.ofList name :: stay ∧ ∀ step ∈ stay, step = "." := by
  have htail : Cut name tail := by
    rcases h.tail_cut with hnil | hslash
    · exact .inr (.inl hnil)
    · exact .inr (.inr (.inr hslash))
  -- The cuts are at slashes, so the parts of the whole are those of the pieces.
  have hparts : parts path.toList = parts front ++ String.ofList name :: parts tail := by
    rw [h.text_eq, parts_append (h.cut_front _), parts_append htail,
      parts_of_not_mem h.isName.noSlash h.isName.nonempty]
    rfl
  refine ⟨parts tail ++ if path.toList.getLast? = some '/' then ["."] else [], ?_, ?_⟩
  · rw [steps_eq, hparts, List.append_assoc, List.cons_append]
  · intro step hstep
    rcases List.mem_append.mp hstep with hstep | hstep
    · exact h.isTrail step hstep
    · split_ifs at hstep
      · exact List.mem_singleton.mp hstep
      · cases hstep

/-- A path with another name is followed through the same front, by the other name. -/
theorem Ends.steps_beside (h : Ends path.toList above front name tail) (hother : IsName other) :
    steps (String.ofList (front ++ other)) = parts front ++ [String.ofList other] := by
  have hlast : (front ++ other).getLast? ≠ some '/' := by
    intro hlast
    have hmem := List.mem_of_getLast? (by
      rwa [List.getLast?_append, Option.or_of_isSome] at hlast
      simpa using hother.nonempty)
    exact hother.noSlash hmem
  rw [steps_eq, String.toList_ofList, if_neg hlast, List.append_nil,
    parts_append (h.cut_front other), parts_of_not_mem hother.noSlash hother.nonempty]

theorem Ends.isAbsolute_beside (h : Ends path.toList above front name tail)
    (hother : IsName other) :
    isAbsolute (String.ofList (front ++ other)) = isAbsolute path := by
  rw [isAbsolute, isAbsolute, h.text_eq, String.toList_ofList]
  cases front with
  | nil =>
    rw [List.nil_append, List.nil_append, beq_eq_false_iff_ne.mpr (h.isName.head?_append tail),
      ← List.append_nil other, beq_eq_false_iff_ne.mpr (hother.head?_append [])]
  | cons c more => rfl

/-- The front of a path is followed through what stands above the name, and stays there. -/
theorem Ends.exists_parts_front (h : Ends path.toList above front name tail) :
    ∃ stay, parts front = parts above ++ stay ∧ ∀ step ∈ stay, step = "." := by
  obtain ⟨trail, hfront, htrail, hcut⟩ := h.above_eq
  refine ⟨parts trail, ?_, htrail⟩
  rw [hfront, parts_append hcut]

theorem Leads.exists_parts {front : String} (h : Leads front path) :
    ∃ back, parts path.toList = parts front.toList ++ back := by
  obtain ⟨back, hpath, hcut⟩ := h.toList_eq
  exact ⟨parts back, by rw [hpath, parts_append hcut]⟩

end KeymapCompiler.Path
