/-
KeymapCompiler/Proofs/FileSystem.lean

Which files can be written.  A path is followed through directories, and a file is
put in a directory, so whether a file can be written depends on the directories
alone, and not on the files beside it:

* file systems with the same directories follow a path to the same location
  (`follow_of_sameDirectories`);
* a file that is written leaves the directories as they are
  (`sameDirectories_write`).

Hence a file that could be written before another one was can still be written
after it (`CanWrite.of_write`).
-/
import KeymapCompiler.FileSystem
import Mathlib.Tactic.SplitIfs

namespace KeymapCompiler.FileSystem

variable {fs fs' : FileSystem} {path : String} {location : Location}

/-! ### File systems with the same directories -/

/-- The directories stand at the same locations, and so does what is protected. -/
structure SameDirectories (fs fs' : FileSystem) : Prop where
  /-- A location holds a directory in both, or in neither. -/
  directory : ∀ location,
    fs.content? location = some .directory ↔ fs'.content? location = some .directory
  /-- Relative paths start from the same directory. -/
  start : fs.start = fs'.start
  /-- The same locations are protected. -/
  isProtected : fs.isProtected = fs'.isProtected

/-- The root is a directory. -/
theorem ne_nil_of_content?_ne (h : fs.content? location ≠ some .directory) : location ≠ [] := by
  rintro rfl
  exact h (if_pos rfl)

theorem sameDirectories_put {c : Content} (hlocation : fs.content? location ≠ some .directory)
    (hc : c ≠ .directory) : SameDirectories fs (fs.put location c) where
  directory other := by
    by_cases h : other = location
    · -- Neither the old content nor the new one is a directory.
      subst h
      rw [content?_put_self fs (ne_nil_of_content?_ne hlocation)]
      exact iff_of_false hlocation (by simpa using hc)
    · rw [content?_put_of_ne fs h]
  start := rfl
  isProtected := rfl

/-- A path is followed through directories only. -/
theorem follow_of_sameDirectories (h : SameDirectories fs fs') {names : List String}
    {from_ : Location} (hfollow : fs.follow from_ names = .ok location) :
    fs'.follow from_ names = .ok location := by
  induction names generalizing from_ with
  | nil => exact hfollow
  | cons name rest ih =>
    rw [follow] at hfollow ⊢
    -- A first name is only looked up in a directory.
    cases e : fs.content? from_ with
    | none => simp [e] at hfollow
    | some c =>
      cases c with
      | text s => simp [e] at hfollow
      | bytes data => simp [e] at hfollow
      | directory =>
        rw [e] at hfollow
        rw [(h.directory from_).mp e]
        dsimp only at hfollow ⊢
        split_ifs at hfollow ⊢ with hdot hup hlong
        · exact ih hfollow
        · exact ih hfollow
        · exact ih hfollow

theorem locate_of_sameDirectories (h : SameDirectories fs fs')
    (hlocate : fs.locate path = .ok location) : fs'.locate path = .ok location := by
  rw [locate] at hlocate ⊢
  rw [← h.start]
  split_ifs at hlocate ⊢ with hempty hnul hlong
  · exact follow_of_sameDirectories h hlocate
  · exact follow_of_sameDirectories h hlocate

theorem checkPlace_eq_ok_iff :
    fs.checkPlace location = .ok () ↔
      fs.content? location.dropLast = some .directory ∧ fs.isProtected location = false := by
  rw [checkPlace]
  split
  · next h =>
    rw [and_iff_right h]
    split <;> simp_all
  · next c hc h =>
    rw [h]
    exact iff_of_false (by simp) fun hand => hc (Option.some.inj hand.1)
  · next h => simp [h]

/-! ### Files that can be written -/

/-- Any text can be written to a path. -/
def CanWrite (fs : FileSystem) (path : String) : Prop :=
  ∀ text, ∃ fs', fs.write path text = .ok fs'

/-- A location where the file of a path is written. -/
structure Place (fs : FileSystem) (path : String) (location : Location) : Prop where
  /-- The path leads there. -/
  located : fs.locate path = .ok location
  /-- No directory is in the way. -/
  free : fs.content? location ≠ some .directory
  /-- A file may be put there. -/
  allowed : fs.checkPlace location = .ok ()

theorem write_eq_ok_iff {text : String} :
    fs.write path text = .ok fs' ↔
      ∃ location, fs.Place path location ∧ fs.put location (.text text) = fs' := by
  constructor
  · intro h
    simp only [write, bind, Except.bind] at h
    -- A write makes three checks, and each one that fails is an error.
    split at h
    · simp at h
    next location hlocated =>
    split at h
    · simp at h
    next hfree =>
    split at h
    · simp at h
    next hallowed =>
    exact ⟨location, ⟨hlocated, hfree, hallowed⟩, Except.ok.inj h⟩
  · rintro ⟨location, ⟨hlocated, hfree, hallowed⟩, rfl⟩
    simp only [write, hlocated, hfree, hallowed, bind, Except.bind, if_false]

/-- Whether a file can be written is a matter of its place, and not of the text. -/
theorem canWrite_iff_exists_place : fs.CanWrite path ↔ ∃ location, fs.Place path location := by
  constructor
  · intro h
    obtain ⟨fs', hwrite⟩ := h ""
    obtain ⟨location, hplace, -⟩ := write_eq_ok_iff.mp hwrite
    exact ⟨location, hplace⟩
  · rintro ⟨location, hplace⟩ text
    exact ⟨_, write_eq_ok_iff.mpr ⟨location, hplace, rfl⟩⟩

theorem Place.of_sameDirectories (h : SameDirectories fs fs') (hplace : fs.Place path location) :
    fs'.Place path location where
  located := locate_of_sameDirectories h hplace.located
  free hdirectory := hplace.free ((h.directory location).mpr hdirectory)
  allowed := by
    obtain ⟨habove, hunprotected⟩ := checkPlace_eq_ok_iff.mp hplace.allowed
    apply checkPlace_eq_ok_iff.mpr
    exact ⟨(h.directory _).mp habove, h.isProtected ▸ hunprotected⟩

theorem CanWrite.of_sameDirectories (h : SameDirectories fs fs') (hwrite : fs.CanWrite path) :
    fs'.CanWrite path := by
  obtain ⟨location, hplace⟩ := canWrite_iff_exists_place.mp hwrite
  exact canWrite_iff_exists_place.mpr ⟨location, hplace.of_sameDirectories h⟩

/-- A file that is written leaves the directories as they are. -/
theorem sameDirectories_write {text : String} (h : fs.write path text = .ok fs') :
    SameDirectories fs fs' := by
  obtain ⟨location, hplace, rfl⟩ := write_eq_ok_iff.mp h
  exact sameDirectories_put hplace.free (by simp)

/-- A file that can be written can still be written after another one. -/
theorem CanWrite.of_write {other text : String} (hwrite : fs.CanWrite path)
    (h : fs.write other text = .ok fs') : fs'.CanWrite path :=
  hwrite.of_sameDirectories (sameDirectories_write h)

/-! ### Operations of a command -/

section Operations

variable {α β : Type}

theorem bind_apply (x : StateM FileSystem α) (f : α → StateM FileSystem β) (fs : FileSystem) :
    (x >>= f) fs = f (x fs).1 (x fs).2 :=
  rfl

theorem pure_apply (a : α) (fs : FileSystem) : (pure a : StateM FileSystem α) fs = (a, fs) :=
  rfl

theorem read_apply (path : String) (fs : FileSystem) :
    (Files.read path : StateM FileSystem _) fs = (fs.read path, fs) :=
  rfl

theorem isPresent_apply (path : String) (fs : FileSystem) :
    (Files.isPresent path : StateM FileSystem _) fs = ((fs.look? path).isSome, fs) :=
  rfl

theorem write_apply_of_eq_ok {text : String} (h : fs.write path text = .ok fs') :
    (Files.write path text : StateM FileSystem _) fs = (.ok (), fs') := by
  show change (fun fs => fs.write path text) fs = _
  rw [change, h]

end Operations

/-! ### Files that are not there -/

/-- Where there is nothing, there is nothing to read. -/
theorem toOption_read_of_look?_eq_none (h : fs.look? path = none) :
    (fs.read path).toOption = none := by
  simp only [look?] at h
  simp only [read, bind, Except.bind]
  split
  · rfl
  next location hlocated =>
  rw [hlocated] at h
  dsimp only at h
  rw [h]
  rfl

end KeymapCompiler.FileSystem
