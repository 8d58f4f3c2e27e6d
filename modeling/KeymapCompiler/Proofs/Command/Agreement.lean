/-
KeymapCompiler/Proofs/Command/Agreement.lean

`generate` and `validate` agree (`generate_agrees_with_validate`).  The two commands
find the same inputs, and both exit with a code that depends only on what these
compile to (`exitOn`):

* `validate` always does (`exit_validateOn`);
* `generate` does if the template can be read and the output can be written
  (`exit_generateOn`).

A keymap that cannot be laid out breaks both commands off, so they agree there too.
Until its compile has succeeded, `generate` has only read, so a failure up to then
leaves the files as they were.
-/
import KeymapCompiler.Proofs.Command.Reading

namespace KeymapCompiler.Command

open KeymapCompiler.Json FileSystem

variable {e : Environment} {fs : FileSystem}

/-! ### Exit codes -/

/-- The exit code for what inputs compile to. -/
def exitOn (strict : Bool) : Except Failure (Reported Compiled) → Nat
  | .ok r => if strict = true ∧ r.warnings ≠ [] then 1 else 0
  | .error failure => failure.exit

theorem Failure.exit_ne_zero (failure : Failure) : failure.exit ≠ 0 := by
  cases failure <;> simp [Failure.exit]

theorem exit_ofFailure_strictFailure (stdout : String) (strict : Bool) (r : Report) :
    (Outcome.ofFailure stdout (strictFailure strict r)).exit
      = if strict = true ∧ r ≠ [] then 1 else 0 := by
  cases strict with
  | false => rfl
  | true => cases r <;> rfl

/-- Why inputs are not found. -/
inductive NotFound : Failure → Prop where
  /-- No layout is given or configured. -/
  | noLayout : NotFound .noLayout
  /-- An input cannot be read. -/
  | unreadable (input : Input) (path : String) (cause : FileError) :
    NotFound (.unreadable input path cause)
  /-- The text of an input does not fit. -/
  | unparsable (input : Input) (path : String) (message : Option String) :
    NotFound (.unparsable input path message)

section NotFound

variable {E α β : Type}

/-- Inputs that can only be missing. -/
def OrNotFound (r : Except Failure α) : Prop :=
  ∀ failure, r = .error failure → NotFound failure

theorem orNotFound_ok (a : α) : OrNotFound (.ok a) := by
  intro failure h
  cases h

theorem OrNotFound.bind {r : Except Failure α} {f : α → Except Failure β} (hr : OrNotFound r)
    (hf : ∀ a, OrNotFound (f a)) : OrNotFound (r >>= f) := by
  intro failure h
  cases r with
  | error cause =>
    obtain rfl := Except.error.inj h
    exact hr cause rfl
  | ok a => exact hf a failure h

theorem orNotFound_resolvePaths (document : String) (layout kconfigMap : Option String)
    (c : Config) : OrNotFound (resolvePaths document layout kconfigMap c) := by
  rw [resolvePaths]
  cases layout.or c.layoutTable with
  | some layout => exact orNotFound_ok _
  | none =>
    rintro _ ⟨⟩
    exact .noLayout

theorem orNotFound_loaded (input : Input) (parse : String → Except (ReadFailure E) α)
    (wording : E → String) (path : String) : OrNotFound (loaded input parse wording path fs) := by
  rw [loaded]
  cases fs.read path with
  | error cause =>
    rintro _ ⟨⟩
    exact .unreadable input path cause
  | ok text =>
    dsimp only [parsed]
    cases parse text with
    | ok x => exact orNotFound_ok x
    | error cause =>
      rintro _ ⟨⟩
      exact .unparsable input path _

theorem orNotFound_loadedMap (path : Option String) : OrNotFound (loadedMap path fs) := by
  cases path with
  | none => exact orNotFound_ok []
  | some path => exact orNotFound_loaded _ _ _ path

theorem orNotFound_found (document : String) (layout kconfigMap : Option String) :
    OrNotFound (found e document layout kconfigMap fs) := by
  apply (orNotFound_resolvePaths document layout kconfigMap _).bind
  intro paths
  apply (orNotFound_loaded _ _ _ paths.document).bind
  intro document
  apply (orNotFound_loaded _ _ _ paths.layout).bind
  intro layout
  apply (orNotFound_loadedMap paths.kconfigMap).bind
  intro kconfigMap
  exact orNotFound_ok _

end NotFound

/-- What each exit code says about the inputs. -/
structure ExitsAs (strict : Bool) (inputs : Except Failure Inputs) (exit : Nat) : Prop where
  /-- Success: the inputs compile, without warnings if these count as errors. -/
  success : exit = 0 ↔
    ∃ i r, inputs = .ok i ∧ i.compile = .ok r ∧ (strict = true → r.warnings = [])
  /-- There is no layout, an input is not parsable, the document and the layout do not fit
  together, or there are warnings, which count as errors. -/
  invalid : exit = 1 ↔
    inputs = .error .noLayout ∨
      (∃ input path message, inputs = .error (.unparsable input path message)) ∨
      (∃ i errors, inputs = .ok i ∧ i.compile = .error (.malformed errors)) ∨
      ∃ i r, inputs = .ok i ∧ i.compile = .ok r ∧ strict = true ∧ r.warnings ≠ []
  /-- An input cannot be read. -/
  unreadable : exit = 2 ↔
    ∃ input path cause, inputs = .error (.unreadable input path cause)
  /-- The keymap cannot be laid out.  This is not a code that the commands give: the padding panics
  on a column that is too wide for it, and 101 is how the process ends then.  As both commands
  compile, both end alike. -/
  unpaddable : exit = 101 ↔ ∃ i, inputs = .ok i ∧ i.compile = .error .unpaddable
  /-- There are no other codes. -/
  code : exit = 0 ∨ exit = 1 ∨ exit = 2 ∨ exit = 101

theorem exitsAs_exitOn (strict : Bool) {inputs : Except Failure Inputs} (h : OrNotFound inputs) :
    ExitsAs strict inputs (exitOn strict (inputs >>= compiled)) := by
  cases inputs with
  | error failure =>
    show ExitsAs strict (.error failure) failure.exit
    -- Of the failures of a command these three can come up before something is compiled.
    cases h failure rfl with
    | noLayout => constructor <;> simp [Failure.exit]
    | unreadable input path cause => constructor <;> simp [Failure.exit]
    | unparsable input path message => constructor <;> simp [Failure.exit]
  | ok i =>
    show ExitsAs strict (.ok i) (exitOn strict (compiled i))
    rw [compiled]
    cases hcompile : i.compile with
    | error failure =>
      cases failure with
      | malformed errors => constructor <;> simp [exitOn, Failure.exit, hcompile]
      | unpaddable => constructor <;> simp [exitOn, Failure.exit, hcompile]
    | ok r =>
      -- Warnings matter only if they count as errors.
      cases strict with
      | false => constructor <;> simp [exitOn, hcompile]
      | true =>
        by_cases hclean : r.warnings = []
        · constructor <;> simp [exitOn, hcompile, hclean]
        · constructor <;> simp [exitOn, hcompile, hclean]

/-! ### `validate` -/

theorem exit_validateOn (o : ValidateOptions) :
    (validateOn e o fs).1.exit
      = exitOn o.strict (found e o.keymap o.layout o.kconfigMap fs >>= compiled) := by
  rw [validateOn_eq, verdictIn]
  cases found e o.keymap o.layout o.kconfigMap fs with
  | error failure => rfl
  | ok i =>
    show (validated o (Verdict.ofInputs i)).exit = exitOn o.strict (compiled i)
    rw [Verdict.ofInputs, compiled]
    cases i.compile with
    | ok r => exact exit_ofFailure_strictFailure _ o.strict r.warnings
    | error failure =>
      cases failure with
      | malformed errors => rfl
      | unpaddable => rfl

/-! ### `generate` -/

/-- The template in force, if there is one, can be read. -/
def TemplateReadable (e : Environment) (o : GenerateOptions) (fs : FileSystem) : Prop :=
  ∀ path, templateInForce e o fs = some path → ∃ text, fs.read path = .ok text

/-- The directory for output can be made, and there both files can be written. -/
def OutputWritable (e : Environment) (o : GenerateOptions) (fs : FileSystem) : Prop :=
  ∃ fs',
    (Files.makeDirectories (directoryInForce e o fs) : StateM FileSystem _) fs = (.ok (), fs') ∧
    fs'.CanWrite (Path.join (directoryInForce e o fs) (outputName o ++ ".keymap")) ∧
    fs'.CanWrite (Path.join (directoryInForce e o fs) (outputName o ++ ".conf"))

/-- The inputs and the template are there, and the document compiles. -/
def Compiles (e : Environment) (o : GenerateOptions) (fs : FileSystem) : Prop :=
  ∃ i template r, found e o.keymap o.layout o.kconfigMap fs = .ok i ∧
    loadedTemplate (templateInForce e o fs) fs = .ok template ∧ i.compile = .ok r

variable {o : GenerateOptions}

theorem TemplateReadable.exists_eq_ok (h : TemplateReadable e o fs) :
    ∃ text, loadedTemplate (templateInForce e o fs) fs = .ok text := by
  cases htemplate : templateInForce e o fs with
  | none => exact ⟨_, rfl⟩
  | some path =>
    obtain ⟨text, hread⟩ := h path htemplate
    refine ⟨text, ?_⟩
    rw [loadedTemplate, hread]
    rfl

section Writing

variable {directory name text : String} {fs' : FileSystem}

theorem makeOutputDirectory_of_made
    (h : (Files.makeDirectories directory : StateM FileSystem _) fs = (.ok (), fs')) :
    (makeOutputDirectory directory : Action Unit).run fs = (.ok (), fs') := by
  rw [makeOutputDirectory, run_bind_of_ok _ (run_liftM h)]
  rfl

theorem writeOutput_of_write (h : fs.write (Path.join directory name) text = .ok fs') :
    (writeOutput directory name text : Action Unit).run fs = (.ok (), fs') := by
  rw [writeOutput, run_bind_of_ok _ (run_liftM (write_apply_of_eq_ok h))]
  rfl

end Writing

theorem OutputWritable.exists_eq_ok (h : OutputWritable e o fs) (r : Reported Compiled)
    (keymap : String) :
    ∃ fs', (writeProduct (outputName o) ⟨r, keymap, directoryInForce e o fs⟩ : Action Unit).run fs
      = (.ok (), fs') := by
  obtain ⟨fs₁, hmade, hkeymap, hconf⟩ := h
  obtain ⟨fs₂, hwritten⟩ := hkeymap keymap
  -- The directories are those of before the first file was written.
  obtain ⟨fs₃, hlast⟩ := hconf.of_write hwritten r.value.kconfig.text
  refine ⟨fs₃, ?_⟩
  rw [writeProduct, run_bind_of_ok _ (makeOutputDirectory_of_made hmade),
    run_bind_of_ok _ (writeOutput_of_write hwritten)]
  exact writeOutput_of_write hlast

/-- Given a template, what is made depends on what the inputs compile to. -/
theorem productIn_eq_map_compiled {template : String}
    (htemplate : loadedTemplate (templateInForce e o fs) fs = .ok template) :
    productIn e o fs =
      (found e o.keymap o.layout o.kconfigMap fs >>= compiled).map fun r =>
        ⟨r, r.value.render template, directoryInForce e o fs⟩ := by
  rw [productIn, htemplate]
  cases found e o.keymap o.layout o.kconfigMap fs with
  | error failure => rfl
  | ok i =>
    show (compiled i >>= _) = (compiled i).map _
    cases compiled i with
    | error failure => rfl
    | ok r => rfl

theorem compiles_of_productIn_eq_ok {p : Product} (h : productIn e o fs = .ok p) :
    Compiles e o fs := by
  rw [productIn] at h
  -- Three steps come before the product is written, and each one that fails ends the run.
  cases hfound : found e o.keymap o.layout o.kconfigMap fs with
  | error failure =>
    rw [hfound] at h
    cases h
  | ok i =>
    cases htemplate : loadedTemplate (templateInForce e o fs) fs with
    | error failure =>
      rw [hfound, htemplate] at h
      cases h
    | ok template =>
      rw [hfound, htemplate] at h
      change (compiled i >>= _) = _ at h
      rw [compiled] at h
      cases hcompile : i.compile with
      | ok r => exact ⟨i, template, r, hfound, htemplate, hcompile⟩
      | error failure =>
        rw [hcompile] at h
        cases failure with
        | malformed errors => cases h
        | unpaddable => cases h

theorem exit_generateOn (htemplate : TemplateReadable e o fs) (houtput : OutputWritable e o fs) :
    (generateOn e o fs).1.exit
      = exitOn o.strict (found e o.keymap o.layout o.kconfigMap fs >>= compiled) := by
  obtain ⟨template, htemplate⟩ := htemplate.exists_eq_ok
  have made := productIn_eq_map_compiled htemplate
  cases hcompiled : found e o.keymap o.layout o.kconfigMap fs >>= compiled with
  | error failure =>
    rw [hcompiled] at made
    rw [generateOn_of_productIn_eq_error made]
    rfl
  | ok r =>
    rw [hcompiled] at made
    obtain ⟨fs', hwritten⟩ := houtput.exists_eq_ok r (r.value.render template)
    rw [generateOn_of_written made hwritten]
    exact exit_ofFailure_strictFailure _ o.strict r.warnings

/-! ### Agreement -/

/-- The options of a `validate` with the same inputs. -/
def GenerateOptions.checked (o : GenerateOptions) (json : Bool) : ValidateOptions :=
  ⟨o.keymap, o.layout, o.kconfigMap, json, o.strict⟩

/-- **Agreement.**  If the template in force can be read and the output can be written, `generate`
and `validate` exit with the same code, which says what the inputs are like.  As long as the compile
of a `generate` has not succeeded, it fails and leaves all files and directories as they were. -/
theorem generate_agrees_with_validate (e : Environment) (o : GenerateOptions) (json : Bool)
    (fs : FileSystem) :
    (TemplateReadable e o fs → OutputWritable e o fs →
      (generateOn e o fs).1.exit = (validateOn e (o.checked json) fs).1.exit ∧
        ExitsAs o.strict (found e o.keymap o.layout o.kconfigMap fs)
          (generateOn e o fs).1.exit) ∧
      (¬ Compiles e o fs → (generateOn e o fs).1.exit ≠ 0 ∧ (generateOn e o fs).2 = fs) := by
  constructor
  · -- With nothing in the way of the template and the output, only the inputs decide.
    intro htemplate houtput
    rw [exit_generateOn htemplate houtput]
    exact ⟨(exit_validateOn (o.checked json)).symm,
      exitsAs_exitOn o.strict (orNotFound_found o.keymap o.layout o.kconfigMap)⟩
  · -- Files are written after the compile only, so a run that fails before it leaves them alone.
    intro hcompiles
    cases hproduct : productIn e o fs with
    | ok p => exact absurd (compiles_of_productIn_eq_ok hproduct) hcompiles
    | error failure =>
      rw [generateOn_of_productIn_eq_error hproduct]
      exact ⟨failure.exit_ne_zero, rfl⟩

/-- An environment without a configuration. -/
def bareEnvironment : Environment := ⟨none, none⟩

/-- The files of a document with one layer and of a layout with one key. -/
def sampleFiles : FileSystem where
  entries :=
    [(["desk"], .directory),
     (["desk", "one.json"],
      .text "\x7b\"layer_names\":[\"A\"],\"layers\":[[\"&trans\"]]\x7d"),
     (["desk", "board.json"],
      .text "\x7b\"keyboardName\":\"b\",\"totalKeys\":1,\"rows\":[[0]]\x7d")]
  start := ["desk"]
  isProtected := fun _ => false

/-- A `generate` of these files. -/
def sampleOptions : GenerateOptions :=
  ⟨"one.json", some "board.json", none, none, some "out", none, true⟩

theorem outputWritable_sample : OutputWritable bareEnvironment sampleOptions sampleFiles := by
  refine ⟨_, Prod.ext rfl rfl, ?_, ?_⟩
  · apply canWrite_iff_exists_place.mpr
    exact ⟨["desk", "out", "one.keymap"], rfl, by decide +kernel, rfl⟩
  · apply canWrite_iff_exists_place.mpr
    exact ⟨["desk", "out", "one.conf"], rfl, by decide +kernel, rfl⟩

/-- The sample is generated and is valid.  Without its layout it fails, and nothing is written. -/
theorem generate_agrees_with_validate_sample :
    (generateOn bareEnvironment sampleOptions sampleFiles).1.exit = 0 ∧
      (validateOn bareEnvironment (sampleOptions.checked true) sampleFiles).1.exit = 0 ∧
      (generateOn bareEnvironment { sampleOptions with layout := none } sampleFiles).1.exit ≠ 0 ∧
      (generateOn bareEnvironment { sampleOptions with layout := none } sampleFiles).2
        = sampleFiles := by
  have readable : TemplateReadable bareEnvironment sampleOptions sampleFiles := by
    intro path h
    cases h
  -- Without a layout there is nothing to compile for.
  have missing : ¬ Compiles bareEnvironment { sampleOptions with layout := none } sampleFiles := by
    rintro ⟨i, template, r, hfound, -⟩
    cases hfound
  have success : (validateOn bareEnvironment (sampleOptions.checked true) sampleFiles).1.exit = 0 :=
    (exit_validateOn _).trans (by decide +kernel)
  have agree := (generate_agrees_with_validate bareEnvironment sampleOptions true sampleFiles).1
    readable outputWritable_sample
  exact ⟨agree.1.trans success, success,
    (generate_agrees_with_validate _ _ true sampleFiles).2 missing⟩

end KeymapCompiler.Command
