/-
KeymapCompiler/Proofs/Config/Saving.lean

Saving a configuration.  A save checks the inputs, makes the directory of the
target, writes the text beside the target and moves it there; each step can fail
(`SaveRun` lists the ways a save can go).

* When all steps succeed, the configuration is loaded again as it was, and nothing
  is left beside the target: the text that was written is moved as it is, and a
  configuration is read back from its text (`ofText?_text`).
* When a step fails, the target has not been touched.  What was written before is
  beside it, and the directories that were made are above it.

The one way in which a failed save can still be seen at its target is a path with
`..` behind a missing directory: once that directory is made, the path may lead
somewhere.
-/
import KeymapCompiler.Proofs.Command.Reading
import KeymapCompiler.Proofs.Config.Text
import KeymapCompiler.Proofs.FileSystem.Replacing

namespace KeymapCompiler

open FileSystem

/-- A path leads to a file. -/
def FileSystem.HoldsFile (fs : FileSystem) (path : String) : Prop :=
  ∃ c, fs.look? path = some c ∧ c ≠ .directory

/-- The directory that a path is in is there. -/
def FileSystem.HasParent (fs : FileSystem) (path : String) : Prop :=
  ∃ above, Path.parent? path = some above ∧ fs.isDirectory above = true

namespace Config

variable {c : Config} {path : String} {fs fs' : FileSystem}

/-! ### Steps of a save -/

theorem isFile_apply (path : String) (fs : FileSystem) :
    ∃ found : Bool, (Files.isFile path : StateM FileSystem _) fs = (found, fs) ∧
      (found = true ↔ fs.HoldsFile path) := by
  refine ⟨_, rfl, ?_⟩
  rw [HoldsFile]
  cases fs.look? path with
  | none => simp
  | some c => cases c <;> simp

/-- The configured inputs are files. -/
def InputsStand (inputs : List (String × Option String)) (fs : FileSystem) : Prop :=
  ∀ what file, (what, some file) ∈ inputs → fs.HoldsFile file

theorem inputsStand_cons_none_iff {what : String} {rest : List (String × Option String)} :
    InputsStand ((what, none) :: rest) fs ↔ InputsStand rest fs := by
  simp [InputsStand]

theorem inputsStand_cons_some_iff {what file : String} {rest : List (String × Option String)} :
    InputsStand ((what, some file) :: rest) fs ↔ fs.HoldsFile file ∧ InputsStand rest fs := by
  constructor
  · intro h
    exact ⟨h what file List.mem_cons_self, fun w f hmem => h w f (List.mem_cons_of_mem _ hmem)⟩
  · rintro ⟨hfile, hrest⟩ w f hmem
    rcases List.mem_cons.mp hmem with heq | hmem
    · obtain ⟨-, rfl⟩ : w = what ∧ f = file := by simpa using heq
      exact hfile
    · exact hrest w f hmem

/-- The check of the inputs changes nothing, and it passes when they are files. -/
theorem exists_checkInputs (inputs : List (String × Option String)) (fs : FileSystem) :
    ∃ answer, (checkInputs inputs : StateM FileSystem _) fs = (answer, fs) ∧
      (answer = .ok () ↔ InputsStand inputs fs) := by
  induction inputs with
  | nil => exact ⟨.ok (), rfl, iff_of_true rfl fun _ _ h => by cases h⟩
  | cons input rest ih =>
    obtain ⟨what, file⟩ := input
    cases file with
    | none =>
      rw [inputsStand_cons_none_iff]
      exact ih
    | some file =>
      obtain ⟨found, hfound, hiff⟩ := isFile_apply file fs
      rw [inputsStand_cons_some_iff, ← hiff, checkInputs, bind_apply, hfound]
      cases found with
      -- The check stops at the first input that is no file.
      | false => exact ⟨_, rfl, iff_of_false (by simp) (by simp)⟩
      | true =>
        rw [and_iff_right rfl]
        exact ih

/-- The file system when the directory of a path has been made, as far as that went. -/
def withParent (path : String) (fs : FileSystem) : FileSystem :=
  ((makeParent path : StateM FileSystem _) fs).2

theorem makeParent_cases (path : String) (fs : FileSystem) :
    (makeParent path : StateM FileSystem _) fs = (.ok (), withParent path fs) ∨
      ∃ directory, (makeParent path : StateM FileSystem _) fs
        = (.error (.directoryFailed directory), withParent path fs) := by
  rw [withParent, makeParent]
  cases Path.parent? path with
  | none => exact .inl rfl
  | some directory =>
    dsimp only
    rw [bind_apply]
    obtain ⟨result, fs'⟩ := (Files.makeDirectories directory : StateM FileSystem _) fs
    cases result with
    | ok done => exact .inl rfl
    | error cause => exact .inr ⟨directory, rfl⟩

theorem withParent_eq {above : String} (h : Path.parent? path = some above) :
    withParent path fs = ((Files.makeDirectories above : StateM FileSystem _) fs).2 := by
  rw [withParent, makeParent, h]
  dsimp only
  rw [bind_apply]
  obtain ⟨result, fs'⟩ := (Files.makeDirectories above : StateM FileSystem _) fs
  cases result with
  | ok done => rfl
  | error cause => rfl

/-- The ways a save can go. -/
inductive SaveRun (c : Config) (path : String) (fs : FileSystem) :
    Except ConfigError Unit → FileSystem → Prop
  /-- An input is no file. -/
  | unchecked {cause : ConfigError}
      (hcheck : ((c.validate : StateM FileSystem _) fs).1 = .error cause) :
      SaveRun c path fs (.error cause) fs
  /-- The directory cannot be made. -/
  | noDirectory (hcheck : ((c.validate : StateM FileSystem _) fs).1 = .ok ()) (directory : String) :
      SaveRun c path fs (.error (.directoryFailed directory)) (withParent path fs)
  /-- The text cannot be written. -/
  | unwritten (hcheck : ((c.validate : StateM FileSystem _) fs).1 = .ok ()) :
      SaveRun c path fs (.error (.writeFailed (temporaryFile path))) (withParent path fs)
  /-- The text is written, but cannot be moved. -/
  | unmoved {written : FileSystem}
      (hcheck : ((c.validate : StateM FileSystem _) fs).1 = .ok ())
      (hwrite : (withParent path fs).write (temporaryFile path) c.text = .ok written) :
      SaveRun c path fs (.error (.renameFailed path)) written
  /-- The text is written and moved. -/
  | saved {written moved : FileSystem}
      (hcheck : ((c.validate : StateM FileSystem _) fs).1 = .ok ())
      (hwrite : (withParent path fs).write (temporaryFile path) c.text = .ok written)
      (hmove : written.rename (temporaryFile path) path = .ok moved) :
      SaveRun c path fs (.ok ()) moved

theorem write_apply (path text : String) (fs : FileSystem) :
    (Files.write path text : StateM FileSystem _) fs = change (fun fs => fs.write path text) fs :=
  rfl

theorem rename_apply (source target : String) (fs : FileSystem) :
    (Files.rename source target : StateM FileSystem _) fs
      = change (fun fs => fs.rename source target) fs :=
  rfl

theorem saveRun (c : Config) (path : String) (fs : FileSystem) :
    SaveRun c path fs ((c.saveTo path : StateM FileSystem _) fs).1
      ((c.saveTo path : StateM FileSystem _) fs).2 := by
  obtain ⟨answer, hanswer, -⟩ := exists_checkInputs c.inputs fs
  have hanswer : (c.validate : StateM FileSystem _) fs = (answer, fs) := hanswer
  have hcheck := congrArg Prod.fst hanswer
  rw [saveTo, bind_apply, hanswer]
  cases answer with
  | error cause => exact .unchecked hcheck
  | ok done =>
    dsimp only
    rw [bind_apply]
    -- Each step that fails ends the save with what the steps before it have left.
    rcases makeParent_cases path fs with hmade | ⟨directory, hmade⟩
    · rw [hmade]
      dsimp only
      rw [replace, bind_apply, write_apply, change]
      cases hwrite : (withParent path fs).write (temporaryFile path) c.text with
      | error cause => exact .unwritten hcheck
      | ok written =>
        dsimp only
        rw [bind_apply, rename_apply, change]
        cases hmove : written.rename (temporaryFile path) path with
        | error cause => exact .unmoved hcheck hwrite
        | ok moved => exact .saved hcheck hwrite hmove
    · rw [hmade]
      exact .noDirectory hcheck directory

/-- A save that does not stop at the check has passed it. -/
theorem SaveRun.checked {result : Except ConfigError Unit} (h : SaveRun c path fs result fs') :
    (∃ cause, ((c.validate : StateM FileSystem _) fs).1 = .error cause ∧
        result = .error cause ∧ fs' = fs) ∨
      ((c.validate : StateM FileSystem _) fs).1 = .ok () := by
  cases h with
  | unchecked hcheck => exact .inl ⟨_, hcheck, rfl, rfl⟩
  | noDirectory hcheck directory => exact .inr hcheck
  | unwritten hcheck => exact .inr hcheck
  | unmoved hcheck hwrite => exact .inr hcheck
  | saved hcheck hwrite hmove => exact .inr hcheck

/-- **Trees.**  Every step of a save keeps a tree, and so does the save, however it ends.  So after
one save the next can be judged in the same way. -/
theorem isTree_saveTo (c : Config) (path : String) (htree : fs.IsTree) :
    ((c.saveTo path : StateM FileSystem _) fs).2.IsTree := by
  have hparent : (withParent path fs).IsTree := by
    cases hdirectory : Path.parent? path with
    | none => rwa [withParent, makeParent, hdirectory]
    | some directory =>
      rw [withParent_eq hdirectory]
      exact isTree_makeDirectories htree directory
  -- What is left is named by the step that the save comes to.
  have hrun := saveRun c path fs
  generalize (c.saveTo path : StateM FileSystem _) fs = run at hrun
  obtain ⟨result, fs'⟩ := run
  cases hrun with
  | unchecked hcheck => exact htree
  | noDirectory hcheck directory => exact hparent
  | unwritten hcheck => exact hparent
  | unmoved hcheck hwrite => exact hparent.write hwrite
  | saved hcheck hwrite hmove => exact (hparent.write hwrite).rename hmove

/-! ### What a save leaves at its target -/

/-- The temporary file of a path is beside it. -/
theorem exists_temporaryFile (hname : Path.fileName? path ≠ none) :
    ∃ above front name tail other, Path.parent? path = some (String.ofList above) ∧
      Path.Ends path.toList above front name tail ∧ name ≠ ['.', '.'] ∧
      temporaryFile path = String.ofList (front ++ other) ∧ Path.IsName other ∧ other ≠ name :=
  Path.exists_beside hname (by decide) (by decide)

theorem look?_withParent (htree : fs.IsTree) (hname : Path.fileName? path ≠ none)
    (hpath : (fs.look? path).isSome ∨ ".." ∉ Path.steps path ∨ fs.HasParent path) :
    (withParent path fs).look? path = fs.look? path := by
  obtain ⟨above, front, name, tail, other, hparent, hends, -⟩ := exists_temporaryFile hname
  rw [withParent_eq hparent]
  refine look?_makeDirectories_above htree hends hparent ?_
  rcases hpath with hsome | hup | ⟨directory, hdirectory, hthere⟩
  · exact .inl hsome
  · exact .inr (.inl hup)
  · obtain rfl := Option.some.inj (hparent.symm.trans hdirectory)
    exact .inr (.inr hthere)

theorem look?_of_write_temporaryFile (hname : Path.fileName? path ≠ none) {text : String}
    (hwrite : fs.write (temporaryFile path) text = .ok fs') : fs'.look? path = fs.look? path := by
  obtain ⟨above, front, name, tail, other, -, hends, hup, htemporary, hother, hne⟩ :=
    exists_temporaryFile hname
  rw [htemporary] at hwrite
  exact look?_of_write_beside hends hup hother hne hwrite

/-- What a finished save leaves: the configuration at its target, and nothing beside it. -/
theorem loadFrom_of_saved (e : Environment) (hname : Path.fileName? path ≠ none)
    {written moved : FileSystem} (hwrite : fs.write (temporaryFile path) c.text = .ok written)
    (hmove : written.rename (temporaryFile path) path = .ok moved) :
    (loadFrom e path : StateM FileSystem _) moved = (.ok c, moved) ∧
      moved.look? (temporaryFile path) = none := by
  obtain ⟨above, front, name, tail, other, -, hends, hup, htemporary, hother, hne⟩ :=
    exists_temporaryFile hname
  constructor
  · -- The text is written beside the target and moved onto it as it is.
    have hthere : moved.look? path = some (.text c.text) :=
      (look?_of_rename hmove).trans (look?_of_write hwrite)
    rw [loadFrom_apply, loadedFrom, hthere, Option.isSome_some, if_pos rfl, read_of_look? hthere]
    dsimp only
    rw [ofText?_text]
  · refine look?_source_of_rename hmove fun location place hlocation hplace => ?_
    rw [htemporary] at hplace
    exact locate_beside_ne hends hup hother hne hlocation hplace

/-- **A configuration is saved as a whole or not at all.** After a save that succeeds it is loaded
again as it was, and nothing is left of the temporary file. A save that fails leaves its target as
it was, unless that goes up from a directory that is missing; and if an input is no file, a save
leaves everything as it was. -/
theorem saveTo_atomic (e : Environment) (htree : fs.IsTree) (hname : Path.fileName? path ≠ none)
    {result : Except ConfigError Unit}
    (hsave : (c.saveTo path : StateM FileSystem _) fs = (result, fs')) :
    (result = .ok () →
        (loadFrom e path : StateM FileSystem _) fs' = (.ok c, fs') ∧
          fs'.look? (temporaryFile path) = none) ∧
      (∀ cause, result = .error cause →
        (fs.look? path).isSome ∨ ".." ∉ Path.steps path ∨ fs.HasParent path →
          fs'.look? path = fs.look? path) ∧
      (∀ cause, ((c.validate : StateM FileSystem _) fs).1 = .error cause →
        result = .error cause ∧ fs' = fs) ∧
      (((c.validate : StateM FileSystem _) fs).1 = .ok () ↔ InputsStand c.inputs fs) := by
  have hrun := saveRun c path fs
  rw [hsave] at hrun
  refine ⟨?loaded, ?kept, ?refused, ?checked⟩
  case loaded =>
    rintro rfl
    cases hrun with
    | saved hcheck hwrite hmove => exact loadFrom_of_saved e hname hwrite hmove
  case kept =>
    rintro cause rfl hpath
    cases hrun with
    -- No step but the last touches the target, and a save that gets so far has succeeded.
    | unchecked hcheck => rfl
    | noDirectory hcheck directory => exact look?_withParent htree hname hpath
    | unwritten hcheck => exact look?_withParent htree hname hpath
    | unmoved hcheck hwrite =>
      rw [look?_of_write_temporaryFile hname hwrite]
      exact look?_withParent htree hname hpath
  case refused =>
    intro cause hcause
    rcases hrun.checked with ⟨other, hcheck, hresult, hsame⟩ | hcheck
    · obtain rfl := Except.error.inj (hcheck.symm.trans hcause)
      exact ⟨hresult, hsame⟩
    · rw [hcheck] at hcause
      cases hcause
  case checked =>
    obtain ⟨answer, hanswer, hiff⟩ := exists_checkInputs c.inputs fs
    rw [validate, hanswer]
    exact hiff

theorem saveTo_atomic_sample :
    ((FileSystem.empty []).put ["é.json"] (.text "")).IsTree ∧ Path.fileName? "a/c.toml" ≠ none ∧
      ∃ fs', (saveTo ⟨some "é.json", none, none, "out"⟩ "a/c.toml" : StateM FileSystem _)
          ((FileSystem.empty []).put ["é.json"] (.text "")) = (.ok (), fs') ∧
        (loadFrom ⟨none, none⟩ "a/c.toml" : StateM FileSystem _) fs'
          = (.ok ⟨some "é.json", none, none, "out"⟩, fs') ∧
        fs'.look? (temporaryFile "a/c.toml") = none := by
  have htree : ((FileSystem.empty []).put ["é.json"] (.text "")).IsTree :=
    (isTree_empty []).put rfl fun hdirectory => by cases hdirectory
  have hname : Path.fileName? "a/c.toml" ≠ none := by decide +kernel
  -- A directory is made on the way, and one of the inputs is not ASCII.
  have hfinished : ((saveTo ⟨some "é.json", none, none, "out"⟩ "a/c.toml" : StateM FileSystem _)
      ((FileSystem.empty []).put ["é.json"] (.text ""))).1 = .ok () := by rfl
  obtain ⟨result, fs', hsave⟩ : ∃ result fs',
      (saveTo ⟨some "é.json", none, none, "out"⟩ "a/c.toml" : StateM FileSystem _)
        ((FileSystem.empty []).put ["é.json"] (.text "")) = (result, fs') := ⟨_, _, rfl⟩
  obtain rfl : result = .ok () := (congrArg Prod.fst hsave).symm.trans hfinished
  exact ⟨htree, hname, fs', hsave, (saveTo_atomic ⟨none, none⟩ htree hname hsave).1 rfl⟩

/-- A failed save can be seen at a path that goes up from a missing directory: that directory is
made, and then the path leads to it. -/
theorem saveTo_makes_directory_at_target :
    let before := FileSystem.empty []
    let saved := (saveTo ⟨none, none, none, "out"⟩ "x/../x" : StateM FileSystem _) before
    before.IsTree ∧ Path.fileName? "x/../x" = some "x" ∧
      saved.1 = .error (.renameFailed "x/../x") ∧
      before.look? "x/../x" = none ∧ saved.2.look? "x/../x" = some .directory := by
  refine ⟨isTree_empty [], ?_, ?_, ?_, ?_⟩
  · decide +kernel
  · rfl
  · rfl
  · rfl

end Config

end KeymapCompiler
