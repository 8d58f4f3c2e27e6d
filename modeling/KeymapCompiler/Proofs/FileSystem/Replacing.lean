/-
KeymapCompiler/Proofs/FileSystem/Replacing.lean

Replacing a file by way of another one beside it.  A text is written to the file
beside a path, and that file is moved to the path.

* What is written beside a path does not change what the path leads to
  (`look?_of_write_beside`).
* After the move the path leads to the text, and nothing is left beside it
  (`look?_of_rename`, `look?_source_of_rename`).

Both steps put files where no directory is, so the directories stay as they are
and all paths are followed as before.  For the same reason a tree stays a tree.
-/
import KeymapCompiler.Proofs.FileSystem.Growth

namespace KeymapCompiler.FileSystem

variable {fs fs' : FileSystem} {path source target : String} {location place : Location}

/-! ### File systems with the same directories -/

theorem SameDirectories.symm (h : SameDirectories fs fs') : SameDirectories fs' fs where
  directory location := (h.directory location).symm
  start := h.start.symm
  isProtected := h.isProtected.symm

theorem SameDirectories.trans {fs'' : FileSystem} (h : SameDirectories fs fs')
    (h' : SameDirectories fs' fs'') : SameDirectories fs fs'' where
  directory location := (h.directory location).trans (h'.directory location)
  start := h.start.trans h'.start
  isProtected := h.isProtected.trans h'.isProtected

/-- Paths lead to the same where the directories are the same, unless they lead to a place that has
changed. -/
theorem look?_of_sameDirectories (h : SameDirectories fs fs')
    (hsame : ∀ location, fs.locate path = .ok location →
      fs'.content? location = fs.content? location) :
    fs'.look? path = fs.look? path := by
  rw [look?, look?]
  cases hlocate : fs.locate path with
  | ok location =>
    rw [locate_of_sameDirectories h hlocate]
    exact hsame location hlocate
  | error cause =>
    cases hlocate' : fs'.locate path with
    | error cause' => rfl
    | ok location =>
      rw [locate_of_sameDirectories h.symm hlocate'] at hlocate
      cases hlocate

/-- A text that is written is there. -/
theorem look?_of_write {text : String} (h : fs.write path text = .ok fs') :
    fs'.look? path = some (.text text) := by
  have hdirectories := sameDirectories_write h
  obtain ⟨location, hplace, rfl⟩ := write_eq_ok_iff.mp h
  rw [look?, locate_of_sameDirectories hdirectories hplace.located]
  exact content?_put_self fs (ne_nil_of_content?_ne hplace.free) _

theorem IsTree.write (htree : fs.IsTree) {text : String} (h : fs.write path text = .ok fs') :
    fs'.IsTree := by
  obtain ⟨location, hplace, rfl⟩ := write_eq_ok_iff.mp h
  exact htree.put hplace.allowed fun hdirectory => absurd hdirectory hplace.free

theorem read_of_look? {text : String} (h : fs.look? path = some (.text text)) :
    fs.read path = .ok text := by
  obtain ⟨location, hlocate, hcontent⟩ := look?_eq_some_iff.mp h
  simp only [read, hlocate, hcontent, bind, Except.bind]

/-! ### Files beside each other -/

section Beside

variable {above front name tail other : List Char}

/-- Paths with other names lead to other locations. -/
theorem locate_beside_ne (hends : Path.Ends path.toList above front name tail)
    (hup : name ≠ ['.', '.']) (hother : Path.IsName other) (hne : other ≠ name)
    (hlocate : fs.locate path = .ok location)
    (hbeside : fs.locate (String.ofList (front ++ other)) = .ok place) : location ≠ place := by
  obtain ⟨stay, hsteps, hstay⟩ := hends.exists_steps
  obtain ⟨-, hfollow⟩ := locate_eq_ok_iff.mp hlocate
  obtain ⟨-, hfollow'⟩ := locate_eq_ok_iff.mp hbeside
  rw [hsteps, follow_append_eq_ok_iff] at hfollow
  rw [origin, hends.isAbsolute_beside hother, hends.steps_beside hother,
    follow_append_eq_ok_iff] at hfollow'
  -- Both are followed through the same directory.
  obtain ⟨directory, hdirectory, hname⟩ := hfollow
  obtain ⟨same, hsame, hotherName⟩ := hfollow'
  obtain rfl : directory = same := Except.ok.inj (hdirectory.symm.trans hsame)
  have hdown :=
    follow_of_follow_cons (Path.ofList_ne_point hends.isName) (Path.ofList_ne_up hup) hname
  rw [eq_of_follow_stay hstay hdown]
  by_cases hotherUp : other = ['.', '.']
  · -- The other name leads up, to a location with fewer names.
    subst hotherUp
    rw [follow, content?_of_follow_cons hname] at hotherName
    have hplace : directory.dropLast = place := Except.ok.inj hotherName
    intro heq
    have hlength := congrArg List.length (heq.trans hplace.symm)
    rw [List.length_append, List.length_dropLast] at hlength
    simp at hlength
    omega
  · have hplace :=
      follow_of_follow_cons (Path.ofList_ne_point hother) (Path.ofList_ne_up hotherUp) hotherName
    rw [← Except.ok.inj hplace]
    intro heq
    have hnames := List.append_cancel_left heq
    exact hne (String.ofList_injective (List.cons.inj hnames).1).symm

/-- What is written beside a path does not change what the path leads to. -/
theorem look?_of_write_beside (hends : Path.Ends path.toList above front name tail)
    (hup : name ≠ ['.', '.']) (hother : Path.IsName other) (hne : other ≠ name) {text : String}
    (hwrite : fs.write (String.ofList (front ++ other)) text = .ok fs') :
    fs'.look? path = fs.look? path := by
  apply look?_of_sameDirectories (sameDirectories_write hwrite)
  intro location hlocate
  obtain ⟨place, hplace, rfl⟩ := write_eq_ok_iff.mp hwrite
  exact content?_put_of_ne fs
    (locate_beside_ne hends hup hother hne hlocate hplace.located) _

end Beside

/-! ### Moving a file -/

theorem rename_eq_ok_iff :
    fs.rename source target = .ok fs' ↔
      ∃ place location c, fs.locate source = .ok place ∧ fs.Place target location ∧
        fs.content? place = some c ∧ c ≠ .directory ∧ fs.isProtected place = false ∧
        (fs.remove place).put location c = fs' := by
  constructor
  · intro h
    simp only [rename, bind, Except.bind] at h
    -- The source, the target and what is allowed there are checked one after the other.
    split at h
    · cases h
    next place hplace =>
    split at h
    · cases h
    next location hlocated =>
    split at h
    · cases h
    · cases h
    next c hc hcontent =>
    split at h
    · cases h
    next hfree =>
    split at h
    · cases h
    next hallowed =>
    split at h
    · cases h
    next hunprotected =>
    exact ⟨place, location, c, hplace, ⟨hlocated, hfree, hallowed⟩, hcontent, hc,
      by simpa using hunprotected, Except.ok.inj h⟩
  · rintro ⟨place, location, c, hplace, htarget, hcontent, hc, hunprotected, rfl⟩
    obtain ⟨hlocated, hfree, hallowed⟩ := htarget
    simp only [rename, hplace, hlocated, hcontent, hallowed, hunprotected, bind, Except.bind,
      if_neg hfree]
    simp

theorem content?_remove_self (hroot : location ≠ []) :
    (fs.remove location).content? location = none := by
  rw [content?, if_neg hroot]
  apply List.lookup_eq_none_iff.mpr
  intro entry hentry
  have hkey : entry.1 ≠ location := by simpa using (List.mem_filter.mp hentry).2
  exact bne_iff_ne.mpr hkey.symm

/-- What is left was there before. -/
theorem content?_of_content?_remove {other : Location} {d : Content}
    (h : (fs.remove location).content? other = some d) : fs.content? other = some d := by
  by_cases heq : other = location
  · subst heq
    by_cases hroot : other = []
    · subst hroot
      exact h
    · rw [content?_remove_self hroot] at h
      cases h
  · rwa [content?_remove_of_ne fs heq] at h

theorem sameDirectories_remove (hfile : fs.content? location ≠ some .directory) :
    SameDirectories fs (fs.remove location) where
  directory other := by
    refine ⟨fun h => ?_, content?_of_content?_remove⟩
    rw [content?_remove_of_ne fs ?_]
    · exact h
    · rintro rfl
      exact hfile h
  start := rfl
  isProtected := rfl

theorem IsTree.remove (htree : fs.IsTree) (hfile : fs.content? location ≠ some .directory) :
    (fs.remove location).IsTree := by
  intro other d hother
  apply ((sameDirectories_remove hfile).directory _).mp
  exact htree other d (content?_of_content?_remove hother)

/-- A file is moved in two steps: it is taken away, and then it is put at its new place. -/
theorem exists_of_rename (h : fs.rename source target = .ok fs') :
    ∃ place location c, fs.locate source = .ok place ∧ fs.content? place = some c ∧
      c ≠ .directory ∧ fs.content? place ≠ some .directory ∧
      (fs.remove place).Place target location ∧ (fs.remove place).put location c = fs' := by
  obtain ⟨place, location, c, hplace, htarget, hcontent, hc, -, hfs⟩ := rename_eq_ok_iff.mp h
  have hfile : fs.content? place ≠ some .directory := by simpa [hcontent] using hc
  exact ⟨place, location, c, hplace, hcontent, hc, hfile,
    htarget.of_sameDirectories (sameDirectories_remove hfile), hfs⟩

theorem sameDirectories_rename (h : fs.rename source target = .ok fs') :
    SameDirectories fs fs' := by
  obtain ⟨place, location, c, -, -, hc, hfile, htarget, rfl⟩ := exists_of_rename h
  exact (sameDirectories_remove hfile).trans (sameDirectories_put htarget.free hc)

theorem IsTree.rename (htree : fs.IsTree) (h : fs.rename source target = .ok fs') : fs'.IsTree := by
  obtain ⟨place, location, c, -, -, -, hfile, htarget, rfl⟩ := exists_of_rename h
  exact (htree.remove hfile).put htarget.allowed fun hdirectory => absurd hdirectory htarget.free

/-- The target of a move leads to what the source led to. -/
theorem look?_of_rename (h : fs.rename source target = .ok fs') :
    fs'.look? target = fs.look? source := by
  obtain ⟨place, location, c, hplace, hcontent, hc, -, htarget, rfl⟩ := exists_of_rename h
  have hdirectories := sameDirectories_put htarget.free hc
  rw [look?, look?, locate_of_sameDirectories hdirectories htarget.located, hplace]
  dsimp only
  rw [content?_put_self _ (ne_nil_of_content?_ne htarget.free), hcontent]

/-- Nothing is left at the source of a move, unless it was the target. -/
theorem look?_source_of_rename (h : fs.rename source target = .ok fs')
    (hne : ∀ location place, fs.locate target = .ok location → fs.locate source = .ok place →
      location ≠ place) : fs'.look? source = none := by
  have hdirectories := sameDirectories_rename h
  obtain ⟨place, location, c, hplace, -, -, hfile, htarget, rfl⟩ := exists_of_rename h
  have hlocation : fs.locate target = .ok location :=
    locate_of_sameDirectories (sameDirectories_remove hfile).symm htarget.located
  rw [look?, locate_of_sameDirectories hdirectories hplace]
  dsimp only
  rw [content?_put_of_ne _ (hne location place hlocation hplace).symm,
    content?_remove_self (ne_nil_of_content?_ne hfile)]

end KeymapCompiler.FileSystem
