/-
KeymapCompiler/Proofs/FileSystem/Growth.lean

What making directories does to the paths of files.

Directories that are made are new entries; nothing else changes (`Grown`).  That
holds for one directory, and by induction for all directories above a path
(`grown_makeAll`).  A path can still lead elsewhere afterwards, because `..` behind
a missing directory leads nowhere before the directory is made.  For a path
without `..` each step goes down, so that all directories above it are shorter
than its location, and what it leads to is the same (`look?_of_grown`).
-/
import KeymapCompiler.Proofs.FileSystem
import KeymapCompiler.Proofs.Path
import Mathlib.Data.List.Induction

namespace KeymapCompiler.FileSystem

variable {fs fs' fs'' : FileSystem} {path : String} {location : Location}

/-! ### Following -/

theorem follow_append (fs : FileSystem) (from_ : Location) (front back : List String) :
    fs.follow from_ (front ++ back) = (fs.follow from_ front).bind fun l => fs.follow l back := by
  induction front generalizing from_ with
  | nil => rfl
  | cons name rest ih =>
    rw [List.cons_append, follow, follow]
    cases fs.content? from_ with
    | none => rfl
    | some c =>
      cases c with
      | text s => rfl
      | bytes data => rfl
      | directory =>
        dsimp only
        -- A point stays, two points go up, a name that is too long fails, and any other goes down.
        split_ifs with hpoint hup hlong
        · exact ih _
        · exact ih _
        · rfl
        · exact ih _

theorem follow_append_eq_ok_iff {from_ : Location} {front back : List String} :
    fs.follow from_ (front ++ back) = .ok location ↔
      ∃ between, fs.follow from_ front = .ok between ∧ fs.follow between back = .ok location := by
  rw [follow_append]
  cases fs.follow from_ front with
  | error cause => exact iff_of_false (by simp [Except.bind]) (by simp)
  | ok between => simp [Except.bind]

theorem content?_of_follow_cons {from_ : Location} {name : String} {rest : List String}
    (h : fs.follow from_ (name :: rest) = .ok location) :
    fs.content? from_ = some .directory := by
  rw [follow] at h
  cases e : fs.content? from_ with
  | none => simp [e] at h
  | some c =>
    cases c with
    | directory => rfl
    | text s => simp [e] at h
    | bytes data => simp [e] at h

/-- A first step that is none of the special ones goes down. -/
theorem follow_of_follow_cons {from_ : Location} {name : String} {rest : List String}
    (hpoint : name ≠ ".") (hup : name ≠ "..") (h : fs.follow from_ (name :: rest) = .ok location) :
    fs.follow (from_ ++ [name]) rest = .ok location := by
  have hdirectory := content?_of_follow_cons h
  rw [follow, hdirectory] at h
  dsimp only at h
  rw [if_neg hpoint, if_neg hup] at h
  split_ifs at h
  exact h

theorem follow_point {from_ : Location} (hdirectory : fs.content? from_ = some .directory)
    (rest : List String) : fs.follow from_ ("." :: rest) = fs.follow from_ rest := by
  rw [follow, hdirectory]
  rfl

/-- Points stay where they are. -/
theorem eq_of_follow_stay {from_ : Location} {stay : List String}
    (hstay : ∀ step ∈ stay, step = ".") (h : fs.follow from_ stay = .ok location) :
    location = from_ := by
  induction stay with
  | nil => exact (Except.ok.inj h).symm
  | cons step stay ih =>
    obtain rfl := hstay step List.mem_cons_self
    rw [follow_point (content?_of_follow_cons h)] at h
    exact ih (fun step hstep => hstay step (List.mem_cons_of_mem _ hstep)) h

theorem follow_stay {from_ : Location} {stay : List String}
    (hdirectory : fs.content? from_ = some .directory) (hstay : ∀ step ∈ stay, step = ".") :
    fs.follow from_ stay = .ok from_ := by
  induction stay with
  | nil => rfl
  | cons step stay ih =>
    obtain rfl := hstay step List.mem_cons_self
    rw [follow_point hdirectory]
    exact ih fun step hstep => hstay step (List.mem_cons_of_mem _ hstep)

/-- The steps of a path that are no points. -/
def proper (names : List String) : List String :=
  names.filter (· != ".")

/-- Without `..` each proper step goes down. -/
theorem eq_append_of_follow {from_ : Location} {names : List String} (hup : ".." ∉ names)
    (h : fs.follow from_ names = .ok location) : location = from_ ++ proper names := by
  induction names generalizing from_ with
  | nil => simpa [proper] using (Except.ok.inj h).symm
  | cons name rest ih =>
    rw [List.mem_cons, not_or] at hup
    by_cases hpoint : name = "."
    · subst hpoint
      rw [follow_point (content?_of_follow_cons h)] at h
      exact ih hup.2 h
    · have hnext := ih hup.2 (follow_of_follow_cons hpoint (Ne.symm hup.1) h)
      simpa [proper, hpoint] using hnext

/-! ### Paths that lead somewhere -/

/-- The location from which a path is followed. -/
def origin (fs : FileSystem) (path : String) : Location :=
  if Path.isAbsolute path then [] else fs.start

/-- Text that can be the text of a path. -/
structure IsPathText (path : String) : Prop where
  nonempty : path.isEmpty = false
  noNul : '\x00' ∉ path.toList
  short : path.utf8ByteSize ≤ pathLimit

theorem locate_eq_ok_iff :
    fs.locate path = .ok location ↔
      IsPathText path ∧ fs.follow (fs.origin path) (Path.steps path) = .ok location := by
  rw [locate, origin]
  constructor
  · intro h
    split_ifs at h with hempty hnul hlong habsolute
    all_goals
      refine ⟨⟨by simpa using hempty, by simpa using hnul, Nat.le_of_not_lt hlong⟩, ?_⟩
      simpa [habsolute] using h
  · rintro ⟨⟨hempty, hnul, hshort⟩, h⟩
    rw [if_neg (by simp [hempty]), if_neg (by simpa using hnul), if_neg (Nat.not_lt.mpr hshort)]
    exact h

theorem look?_eq_some_iff {c : Content} :
    fs.look? path = some c ↔ ∃ location, fs.locate path = .ok location ∧
      fs.content? location = some c := by
  rw [look?]
  cases h : fs.locate path with
  | ok location => simp
  | error e => simp

theorem isDirectory_iff : fs.isDirectory path = true ↔ fs.look? path = some .directory := by
  rw [isDirectory, beq_iff_eq]

/-! ### File systems that grow -/

/-- Directories are new at allowed locations, and all else is as it was. -/
structure Grown (allowed : Location → Prop) (fs fs' : FileSystem) : Prop where
  start : fs'.start = fs.start
  isProtected : fs'.isProtected = fs.isProtected
  content : ∀ location, fs'.content? location = fs.content? location ∨
    fs.content? location = none ∧ allowed location ∧ fs'.content? location = some .directory

variable {allowed : Location → Prop}

theorem Grown.refl (allowed : Location → Prop) (fs : FileSystem) : Grown allowed fs fs :=
  ⟨rfl, rfl, fun _ => .inl rfl⟩

theorem Grown.trans (h : Grown allowed fs fs') (h' : Grown allowed fs' fs'') :
    Grown allowed fs fs'' where
  start := h'.start.trans h.start
  isProtected := h'.isProtected.trans h.isProtected
  content location := by
    rcases h.content location with heq | ⟨hnone, hallowed, hnew⟩
    · rw [← heq]
      exact h'.content location
    · rcases h'.content location with heq' | ⟨hnone', -, -⟩
      · exact .inr ⟨hnone, hallowed, heq'.trans hnew⟩
      · rw [hnew] at hnone'
        cases hnone'

theorem makeDirectory_eq_ok_iff :
    fs.makeDirectory path = .ok fs' ↔
      ∃ location, fs.locate (withoutSlashes path) = .ok location ∧ fs.content? location = none ∧
        fs.checkPlace location = .ok () ∧ fs.put location .directory = fs' := by
  constructor
  · intro h
    simp only [makeDirectory, bind, Except.bind] at h
    split at h
    · cases h
    next location hlocated =>
    split at h
    · cases h
    next habsent =>
    split at h
    · cases h
    next hallowed =>
    exact ⟨location, hlocated, by simpa using habsent, hallowed, Except.ok.inj h⟩
  · rintro ⟨location, hlocated, habsent, hallowed, rfl⟩
    simp [makeDirectory, bind, Except.bind, hlocated, habsent, hallowed]

theorem grown_put_directory (hnone : fs.content? location = none) (hallowed : allowed location) :
    Grown allowed fs (fs.put location .directory) := by
  refine ⟨rfl, rfl, fun other => ?_⟩
  by_cases h : other = location
  · subst h
    have hne : other ≠ [] := by
      rintro rfl
      cases hnone
    exact .inr ⟨hnone, hallowed, content?_put_self fs hne _⟩
  · exact .inl (content?_put_of_ne fs h _)

/-! ### Directories above a path -/

theorem makeDirectory_apply (path : String) (fs : FileSystem) :
    (Files.makeDirectory path : StateM FileSystem _) fs
      = change (fun fs => fs.makeDirectory path) fs :=
  rfl

theorem isDirectory_apply (path : String) (fs : FileSystem) :
    (Files.isDirectory path : StateM FileSystem _) fs = (fs.isDirectory path, fs) :=
  rfl

/-- Making a directory either makes it or leaves all as it is, and then it is there already or the
error is answered. -/
theorem ensureDirectory_cases (path : String) (fs : FileSystem) :
    (∃ fs', fs.makeDirectory path = .ok fs' ∧
      (Files.ensureDirectory path : StateM FileSystem _) fs = (.ok (), fs')) ∨
    ∃ cause, fs.makeDirectory path = .error cause ∧
      (Files.ensureDirectory path : StateM FileSystem _) fs
        = (if fs.isDirectory path then .ok () else .error cause, fs) := by
  rw [Files.ensureDirectory, bind_apply, makeDirectory_apply, change]
  cases h : fs.makeDirectory path with
  | ok fs' => exact .inl ⟨fs', rfl, rfl⟩
  | error cause =>
    refine .inr ⟨cause, rfl, ?_⟩
    dsimp only
    rw [bind_apply, isDirectory_apply]
    split_ifs <;> rfl

section Induction

variable {holds : FileSystem → Prop} {covers : String → Prop}

theorem holds_ensureDirectory
    (hstep : ∀ path fs fs', covers path → holds fs → fs.makeDirectory path = .ok fs' → holds fs')
    (hcovers : covers path) (h : holds fs) :
    holds ((Files.ensureDirectory path : StateM FileSystem _) fs).2 := by
  rcases ensureDirectory_cases path fs with ⟨fs', hmake, heq⟩ | ⟨cause, -, heq⟩
  · rw [heq]
    exact hstep path fs fs' hcovers h hmake
  · rw [heq]
    exact h

/-- What holds and is kept by every directory that is made holds when all directories above a path
are made. -/
theorem holds_makeAll
    (hparent : ∀ path above, covers path → Path.parent? path = some above → covers above)
    (hstep : ∀ path fs fs', covers path → holds fs → fs.makeDirectory path = .ok fs' → holds fs')
    (fuel : Nat) (hcovers : covers path) (h : holds fs) :
    holds ((Files.makeAll fuel path : StateM FileSystem _) fs).2 := by
  induction fuel generalizing path fs with
  | zero => exact h
  | succ fuel ih =>
    rw [Files.makeAll]
    split_ifs with hempty
    · exact h
    · -- The directory itself is tried first, then the one above, then the directory once more.
      rw [bind_apply]
      have hfirst := holds_ensureDirectory hstep hcovers h
      generalize (Files.ensureDirectory path : StateM FileSystem _) fs = first at hfirst ⊢
      obtain ⟨result, fs₁⟩ := first
      dsimp only at hfirst ⊢
      split
      · -- The directory above is missing.
        cases habove : Path.parent? path with
        | none => exact hfirst
        | some above =>
          have hsecond := ih (hparent path above hcovers habove) hfirst
          dsimp only
          rw [bind_apply]
          generalize (Files.makeAll fuel above : StateM FileSystem _) fs₁ = second at hsecond ⊢
          obtain ⟨result, fs₂⟩ := second
          cases result with
          | ok done => exact holds_ensureDirectory hstep hcovers hsecond
          | error cause => exact hsecond
      · exact hfirst

end Induction

/-! ### Trees -/

variable {start : Location} {n : Nat}

/-- Whatever there is stands in a directory. -/
def IsTree (fs : FileSystem) : Prop :=
  ∀ location c, fs.content? location = some c → fs.content? location.dropLast = some .directory

theorem IsTree.content?_front (htree : fs.IsTree) {front back : Location} {c : Content}
    (hback : back ≠ []) (h : fs.content? (front ++ back) = some c) :
    fs.content? front = some .directory := by
  induction back using List.reverseRecOn generalizing c with
  | nil => exact absurd rfl hback
  | append_singleton back name ih =>
    have habove := htree _ _ h
    rw [← List.append_assoc, List.dropLast_concat] at habove
    cases back with
    | nil => simpa using habove
    | cons d back => exact ih (by simp) habove

/-- Putting something into a directory keeps a tree, unless it takes the place of a directory. -/
theorem IsTree.put (htree : fs.IsTree) {c : Content} (hplace : fs.checkPlace location = .ok ())
    (hfree : fs.content? location = some .directory → c = .directory) :
    (fs.put location c).IsTree := by
  obtain ⟨habove, -⟩ := checkPlace_eq_ok_iff.mp hplace
  -- What stands in a directory still stands in one.
  have hkeep : ∀ other, fs.content? other = some .directory →
      (fs.put location c).content? other = some .directory := by
    intro other hother
    by_cases heq : other = location
    · subst heq
      rw [hfree hother]
      by_cases hroot : other = []
      · subst hroot
        rfl
      · exact content?_put_self fs hroot _
    · rw [content?_put_of_ne fs heq]
      exact hother
  intro other d hother
  apply hkeep
  by_cases heq : other = location
  · rw [heq]
    exact habove
  · rw [content?_put_of_ne fs heq] at hother
    exact htree other d hother

theorem content?_empty_eq_some_iff {c : Content} :
    (empty start).content? location = some c ↔ location <+: start ∧ c = .directory := by
  have hentries : ∀ entry ∈ (empty start).entries, entry.2 = .directory ∧ entry.1 <+: start := by
    intro entry hentry
    obtain ⟨n, -, rfl⟩ := List.mem_map.mp hentry
    exact ⟨rfl, List.take_prefix _ _⟩
  -- An entry that is found is one of the starting directory and those above.
  have hfound : ∀ {c}, (empty start).content? location = some c →
      location <+: start ∧ c = .directory := by
    intro c h
    rw [content?] at h
    split_ifs at h with hroot
    · exact ⟨hroot ▸ List.nil_prefix, (Option.some.inj h).symm⟩
    · obtain ⟨before, after, heq, -⟩ := List.lookup_eq_some_iff.mp h
      have hmem : (location, c) ∈ (empty start).entries := by
        rw [heq]
        exact List.mem_append_right _ List.mem_cons_self
      exact ⟨(hentries _ hmem).2, (hentries _ hmem).1⟩
  refine ⟨hfound, ?_⟩
  rintro ⟨⟨back, rfl⟩, rfl⟩
  cases h : (empty (location ++ back)).content? location with
  | some c => rw [(hfound h).2]
  | none =>
    rw [content?] at h
    split_ifs at h with hroot
    -- All prefixes but the empty one have entries; the empty one is the root.
    have hpos := List.length_pos_iff.mpr hroot
    have hmem : (location, Content.directory) ∈ (empty (location ++ back)).entries := by
      refine List.mem_map.mpr ⟨location.length - 1, List.mem_range.mpr ?_, ?_⟩
      · rw [List.length_append]
        omega
      · rw [Nat.sub_add_cancel hpos, List.take_left]
    have := List.lookup_eq_none_iff.mp h _ hmem
    simp at this

theorem isTree_empty (start : Location) : (empty start).IsTree := by
  intro location c h
  rw [content?_empty_eq_some_iff] at h ⊢
  exact ⟨(List.dropLast_prefix location).trans h.1, rfl⟩

theorem isTree_makeDirectories (htree : fs.IsTree) (path : String) :
    ((Files.makeDirectories path : StateM FileSystem _) fs).2.IsTree := by
  refine @holds_makeAll fs path IsTree (fun _ => True) (fun _ _ _ _ => trivial) ?_ _ trivial htree
  intro path fs₁ fs₂ _ htree hmake
  obtain ⟨location, -, hnone, hallowed, rfl⟩ := makeDirectory_eq_ok_iff.mp hmake
  exact htree.put hallowed fun _ => rfl

/-! ### Paths without `..` -/

theorem proper_steps (path : String) :
    proper (Path.steps path) = proper (Path.parts path.toList) := by
  rw [Path.steps_eq, proper, List.filter_append]
  split_ifs
  · exact List.append_nil _
  · exact List.append_nil _

theorem not_mem_steps (h : ".." ∉ Path.parts path.toList) : ".." ∉ Path.steps path := by
  rw [Path.steps_eq, List.mem_append, not_or]
  refine ⟨h, ?_⟩
  split_ifs <;> simp

/-- A path without `..` that leads to no location of more than some number of names. -/
structure Descends (start : Location) (n : Nat) (path : String) : Prop where
  noUp : ".." ∉ Path.parts path.toList
  slash : path.toList.getLast? = some '/' → path.toList = ['/']
  length_le : (if Path.isAbsolute path then [] else start).length
    + (proper (Path.parts path.toList)).length ≤ n

theorem withoutSlashes_eq_self (h : path.toList.getLast? = some '/' → path.toList = ['/']) :
    withoutSlashes path = path := by
  by_cases hlast : path.toList.getLast? = some '/'
  · rw [withoutSlashes, h hlast]
    rfl
  · -- From the end of the text there is no slash to drop.
    have hkeep : path.toList.reverse.dropWhile (· == '/') = path.toList.reverse := by
      rw [← List.head?_reverse] at hlast
      cases hrev : path.toList.reverse with
      | nil => rfl
      | cons c more =>
        rw [hrev] at hlast
        have hc : c ≠ '/' := by simpa using hlast
        simp [hc]
    rw [withoutSlashes, hkeep, List.reverse_reverse]
    split_ifs
    · rfl
    · exact String.ofList_toList

theorem Descends.parent {above : String} (h : Descends start n path)
    (habove : Path.parent? path = some above) : Descends start n above := by
  have hleads := Path.leads_of_parent? habove
  obtain ⟨back, hparts⟩ := hleads.exists_parts
  refine ⟨fun hup => h.noUp ?_, hleads.slash, Nat.le_trans ?_ h.length_le⟩
  · rw [hparts]
    exact List.mem_append_left _ hup
  · rw [hleads.isAbsolute_eq, hparts, proper, proper, List.filter_append, List.length_append]
    omega

theorem Descends.length_location_le (h : Descends start n path) (hstart : fs.start = start)
    (hlocate : fs.locate path = .ok location) : location.length ≤ n := by
  obtain ⟨-, hfollow⟩ := locate_eq_ok_iff.mp hlocate
  have heq := eq_append_of_follow (not_mem_steps h.noUp) hfollow
  rw [heq, proper_steps, List.length_append, origin, hstart]
  exact h.length_le

/-- The directories above such a path are new at locations that are no longer. -/
theorem grown_makeAll (h : Descends fs.start n path) (fuel : Nat) :
    Grown (·.length ≤ n) fs ((Files.makeAll fuel path : StateM FileSystem _) fs).2 := by
  refine @holds_makeAll fs path (Grown (·.length ≤ n) fs) (Descends fs.start n)
    (fun _ _ hpath habove => hpath.parent habove) ?_ fuel h (Grown.refl _ fs)
  intro path fs₁ fs₂ hpath hgrown hmake
  obtain ⟨location, hlocate, hnone, -, rfl⟩ := makeDirectory_eq_ok_iff.mp hmake
  rw [withoutSlashes_eq_self hpath.slash] at hlocate
  exact hgrown.trans (grown_put_directory hnone (hpath.length_location_le hgrown.start hlocate))

theorem follow_of_directories {from_ : Location} {names : List String} (hup : ".." ∉ names)
    (h : fs'.follow from_ names = .ok location)
    (hdirectories : ∀ front back, location = front ++ back →
      fs'.content? front = some .directory → fs.content? front = some .directory) :
    fs.follow from_ names = .ok location := by
  induction names generalizing from_ with
  | nil => exact h
  | cons name rest ih =>
    -- Without going up, every directory on the way is a prefix of the location.
    have hlocation := eq_append_of_follow hup h
    have hfrom := hdirectories _ _ hlocation (content?_of_follow_cons h)
    rw [List.mem_cons, not_or] at hup
    rw [follow, content?_of_follow_cons h] at h
    rw [follow, hfrom]
    dsimp only at h ⊢
    split_ifs at h ⊢ with hpoint hlong
    · exact ih hup.2 h
    · exact absurd (Eq.symm ‹name = ".."›) hup.1
    · exact ih hup.2 h

/-- A path without `..` that leads somewhere beyond the new directories led there before. -/
theorem look?_of_grown (htree : fs.IsTree) (hgrown : Grown (·.length ≤ n) fs fs')
    (hup : ".." ∉ Path.steps path)
    (hlong : n < (fs.origin path).length + (proper (Path.steps path)).length) {c : Content}
    (h : fs'.look? path = some c) : fs.look? path = some c := by
  obtain ⟨location, hlocate, hc⟩ := look?_eq_some_iff.mp h
  obtain ⟨htext, hfollow⟩ := locate_eq_ok_iff.mp hlocate
  have hlocation := eq_append_of_follow hup hfollow
  have horigin : fs'.origin path = fs.origin path := by rw [origin, origin, hgrown.start]
  -- The location itself is not new.
  have hsame : fs'.content? location = fs.content? location := by
    refine (hgrown.content location).resolve_right fun hnew => ?_
    have hle := hnew.2.1
    rw [hlocation, List.length_append, horigin] at hle
    omega
  refine look?_eq_some_iff.mpr ⟨location, locate_eq_ok_iff.mpr ⟨htext, ?_⟩, hsame ▸ hc⟩
  rw [← horigin]
  refine follow_of_directories hup hfollow fun front back heq hdirectory => ?_
  by_cases hback : back = []
  · rw [hback, List.append_nil] at heq
    rw [← heq] at hdirectory ⊢
    exact hsame ▸ hdirectory
  · exact htree.content?_front hback (heq ▸ hsame ▸ hc)

/-! ### Directories that are there -/

theorem makeDirectories_of_isDirectory
    (hslash : path.toList.getLast? = some '/' → path.toList = ['/'])
    (h : fs.isDirectory path = true) :
    (Files.makeDirectories path : StateM FileSystem _) fs = (.ok (), fs) := by
  obtain ⟨location, hlocate, hcontent⟩ := look?_eq_some_iff.mp (isDirectory_iff.mp h)
  have hnonempty := (locate_eq_ok_iff.mp hlocate).1.nonempty
  rw [Files.makeDirectories, Files.makeAll, if_neg (by simp [hnonempty]), bind_apply]
  rcases ensureDirectory_cases path fs with ⟨fs', hmake, -⟩ | ⟨cause, -, heq⟩
  · -- Where there is something, no directory is made.
    obtain ⟨other, hother, hnone, -⟩ := makeDirectory_eq_ok_iff.mp hmake
    rw [withoutSlashes_eq_self hslash, hlocate] at hother
    rw [← Except.ok.inj hother, hcontent] at hnone
    cases hnone
  · rw [heq, if_pos h]
    rfl

section Parent

variable {above front name tail : List Char}

theorem IsPathText.of_front {whole piece : String} {back : List Char} (h : IsPathText whole)
    (heq : whole.toList = piece.toList ++ back) (hne : piece.isEmpty = false) :
    IsPathText piece where
  nonempty := hne
  noNul hmem := h.noNul (by rw [heq]; exact List.mem_append_left _ hmem)
  short := by
    have hwhole : whole = piece ++ String.ofList back := by
      rw [← String.toList_inj, heq, String.toList_append, String.toList_ofList]
    have hshort := h.short
    rw [hwhole, String.utf8ByteSize_append] at hshort
    omega

/-- A path that leads somewhere is in a directory that is there. -/
theorem isDirectory_of_look? (hends : Path.Ends path.toList above front name tail)
    (hparent : Path.parent? path = some (String.ofList above)) {c : Content}
    (h : fs.look? path = some c) :
    above = [] ∨ fs.isDirectory (String.ofList above) = true := by
  obtain ⟨location, hlocate, -⟩ := look?_eq_some_iff.mp h
  obtain ⟨htext, hfollow⟩ := locate_eq_ok_iff.mp hlocate
  obtain ⟨stay, hsteps, hstay⟩ := hends.exists_steps
  obtain ⟨between, hfront, hbetween⟩ := hends.exists_parts_front
  obtain ⟨⟨back, hback, -⟩, habsolute, -⟩ := Path.leads_of_parent? hparent
  by_cases hempty : above = []
  · exact .inl hempty
  right
  -- The path is followed to the directory above, which is where its name is looked up.
  rw [hsteps, hfront, List.append_assoc, follow_append_eq_ok_iff] at hfollow
  obtain ⟨directory, hdirectory, hrest⟩ := hfollow
  rw [follow_append_eq_ok_iff] at hrest
  obtain ⟨same, hsame, hname⟩ := hrest
  rw [eq_of_follow_stay hbetween hsame] at hname
  have hcontent := content?_of_follow_cons hname
  have habove : IsPathText (String.ofList above) := htext.of_front hback (by simpa using hempty)
  refine isDirectory_iff.mpr (look?_eq_some_iff.mpr ⟨directory, ?_, hcontent⟩)
  refine locate_eq_ok_iff.mpr ⟨habove, ?_⟩
  rw [origin, habsolute, Path.steps_eq, String.toList_ofList, follow_append_eq_ok_iff]
  refine ⟨directory, hdirectory, follow_stay hcontent ?_⟩
  intro step hstep
  split_ifs at hstep
  · exact List.mem_singleton.mp hstep
  · cases hstep

theorem descends_above (hends : Path.Ends path.toList above front name tail)
    (hleads : Path.Leads (String.ofList above) path) (hup : ".." ∉ Path.steps path) :
    Descends fs.start ((fs.origin path).length + (proper (Path.parts front)).length)
      (String.ofList above) := by
  obtain ⟨stay, hsteps, -⟩ := hends.exists_steps
  obtain ⟨between, hfront, -⟩ := hends.exists_parts_front
  refine ⟨?_, hleads.slash, ?_⟩
  · rw [String.toList_ofList]
    intro hmem
    apply hup
    rw [hsteps, hfront, List.append_assoc]
    exact List.mem_append_left _ hmem
  · rw [String.toList_ofList, hleads.isAbsolute_eq, hfront, proper, proper, List.filter_append,
      List.length_append, origin]
    omega

theorem lt_length_proper_steps (hends : Path.Ends path.toList above front name tail) :
    (proper (Path.parts front)).length < (proper (Path.steps path)).length := by
  obtain ⟨stay, hsteps, -⟩ := hends.exists_steps
  have hname : proper (String.ofList name :: stay) = String.ofList name :: proper stay :=
    List.filter_cons_of_pos (by simpa using Path.ofList_ne_point hends.isName)
  rw [hsteps, proper, proper, List.filter_append, List.length_append, ← proper, ← proper, hname,
    List.length_cons]
  omega

/-- Making the directory that a path is in does not change what the path leads to, unless the path
goes up from a directory that is missing. -/
theorem look?_makeDirectories_above (htree : fs.IsTree)
    (hends : Path.Ends path.toList above front name tail)
    (hparent : Path.parent? path = some (String.ofList above))
    (hpath : (fs.look? path).isSome ∨ ".." ∉ Path.steps path ∨
      fs.isDirectory (String.ofList above) = true) :
    ((Files.makeDirectories (String.ofList above) : StateM FileSystem _) fs).2.look? path
      = fs.look? path := by
  have hleads := Path.leads_of_parent? hparent
  by_cases hthere : above = [] ∨ fs.isDirectory (String.ofList above) = true
  · rcases hthere with rfl | hdirectory
    · rfl
    · rw [makeDirectories_of_isDirectory hleads.slash hdirectory]
  · -- The directory is missing: the path leads nowhere, and neither does it when it has been made.
    have hnone : fs.look? path = none := by
      cases h : fs.look? path with
      | none => rfl
      | some c => exact absurd (isDirectory_of_look? hends hparent h) hthere
    have hup : ".." ∉ Path.steps path := by
      rcases hpath with hsome | hup | hdirectory
      · rw [hnone] at hsome
        cases hsome
      · exact hup
      · exact absurd (.inr hdirectory) hthere
    rw [hnone, ← Option.not_isSome_iff_eq_none, Option.isSome_iff_exists]
    rintro ⟨c, hafter⟩
    have hdescends : Descends fs.start _ _ := descends_above hends hleads hup
    have hgrown := grown_makeAll hdescends ((String.ofList above).length + 1)
    -- What has been made is shorter than what the path asks for.
    have hlong := Nat.add_lt_add_left (lt_length_proper_steps hends) (fs.origin path).length
    have hbefore := look?_of_grown htree hgrown hup hlong hafter
    rw [hnone] at hbefore
    cases hbefore

end Parent

end KeymapCompiler.FileSystem
