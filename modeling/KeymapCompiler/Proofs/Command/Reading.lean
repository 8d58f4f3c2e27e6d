/-
KeymapCompiler/Proofs/Command/Reading.lean

What the commands read.  Up to the point where `generate` writes, both commands
only read: a computation that reads has an answer for each file system and leaves
the file system as it is (`Reads`).  The answers are given here as functions of the
file system, so what a command found can be said without running it:

* `Config.inForce` is the configuration, and `found` are the inputs;
* `productIn` is what `generate` writes, and `verdictIn` what `validate` prints.

The computations are put together from single reads, and `Reads.bind` carries the
answers along.
-/
import KeymapCompiler.Command
import KeymapCompiler.Proofs.FileSystem

namespace KeymapCompiler

open FileSystem

/-! ### The configuration -/

namespace Config

variable (e : Environment) (path : String) (fs : FileSystem)

/-- The configuration of a file, as it is in the files. -/
def loadedFrom : Except ConfigError Config :=
  if (fs.look? path).isSome then
    match fs.read path with
    | .error _ => .error (.unreadable path)
    | .ok text =>
      match ofText? e text with
      | some c => .ok c
      | none => .error (.malformed path)
  else .ok (initial e)

theorem loadFrom_apply :
    (loadFrom e path : StateM FileSystem _) fs = (loadedFrom e path fs, fs) := by
  rw [loadFrom, bind_apply, isPresent_apply, loadedFrom]
  dsimp only
  by_cases hthere : (fs.look? path).isSome = true
  · rw [if_pos hthere, if_pos hthere, bind_apply, read_apply]
    cases fs.read path with
    | error cause => rfl
    | ok text =>
      cases h : ofText? e text with
      | none => simp [h, pure_apply]
      | some c => simp [h, pure_apply]
  · rw [if_neg hthere, if_neg hthere, pure_apply]

/-- The configuration in force: that of the configuration file, or the initial one where there is
no such file or it holds none. -/
def inForce : Config :=
  (do
    let path ← e.configFile?
    let text ← (fs.read path).toOption
    ofText? e text).getD (initial e)

theorem currentConfig_apply :
    (Command.currentConfig e : StateM FileSystem Config) fs = (inForce e fs, fs) := by
  rw [Command.currentConfig, bind_apply, load, inForce]
  cases e.configFile? with
  | none => rfl
  | some path =>
    dsimp only
    rw [loadFrom_apply, loadedFrom]
    show _ = (((fs.read path).toOption.bind (ofText? e)).getD (initial e), fs)
    split
    · cases fs.read path with
      | error cause => rfl
      | ok text =>
        dsimp only [Except.toOption, Option.bind_some]
        cases ofText? e text with
        | none => rfl
        | some c => rfl
    · next habsent =>
      -- The initial configuration is what is left when the file cannot be read.
      rw [toOption_read_of_look?_eq_none (by simpa using habsent)]
      rfl

end Config

namespace Command

open KeymapCompiler.Json

/-! ### Computations that read -/

section Reads

variable {α β : Type}

/-- A computation of a command that may fail. -/
abbrev Action (α : Type) := ExceptT Failure (StateM FileSystem) α

/-- A computation has an answer for each file system, and leaves the file system as it is. -/
def Reads (x : Action α) (answer : FileSystem → Except Failure α) : Prop :=
  ∀ fs, x.run fs = (answer fs, fs)

theorem Reads.run {x : Action α} {answer : FileSystem → Except Failure α} (h : Reads x answer)
    (fs : FileSystem) : x.run fs = (answer fs, fs) :=
  h fs

section Run

variable {fs fs' : FileSystem}

theorem run_liftM {x : StateM FileSystem α} {a : α} (h : x fs = (a, fs')) :
    (liftM x : Action α).run fs = (.ok a, fs') := by
  show ((Except.ok (x fs).1, (x fs).2) : Except Failure α × FileSystem) = _
  rw [h]

variable {x : Action α} (f : α → Action β)

theorem run_bind_of_ok {a : α} (h : x.run fs = (.ok a, fs')) :
    (x >>= f).run fs = (f a).run fs' := by
  show (ExceptT.bindCont f (x.run fs).1).run (x.run fs).2 = _
  rw [h]
  rfl

theorem run_bind_of_error {failure : Failure} (h : x.run fs = (.error failure, fs')) :
    (x >>= f).run fs = (.error failure, fs') := by
  show (ExceptT.bindCont f (x.run fs).1).run (x.run fs).2 = _
  rw [h]
  rfl

end Run

theorem reads_pure (a : α) : Reads (pure a) fun _ => .ok a :=
  fun _ => rfl

theorem reads_mk_pure (r : Except Failure α) : Reads (ExceptT.mk (pure r)) fun _ => r :=
  fun _ => rfl

theorem reads_lift {x : StateM FileSystem α} {answer : FileSystem → α}
    (h : ∀ fs, x fs = (answer fs, fs)) : Reads (liftM x) fun fs => .ok (answer fs) :=
  fun fs => run_liftM (h fs)

/-- What is computed from a value that is read, is computed from the file system. -/
theorem Reads.bind {x : Action α} {f : α → Action β} {answer : FileSystem → Except Failure α}
    {next : α → FileSystem → Except Failure β} (hx : Reads x answer)
    (hf : ∀ a, Reads (f a) (next a)) :
    Reads (x >>= f) fun fs => answer fs >>= fun a => next a fs := by
  intro fs
  show _ = ((answer fs >>= fun a => next a fs), fs)
  -- The second computation starts from the file system that the first one left, which is `fs`.
  have first := hx.run fs
  cases hanswer : answer fs with
  | error failure =>
    rw [hanswer] at first
    exact run_bind_of_error f first
  | ok a =>
    rw [hanswer] at first
    exact (run_bind_of_ok f first).trans (hf a fs)

/-- What is computed from the text of a file. -/
theorem reads_read (path : String) {f : Except FileError String → Action α}
    {next : Except FileError String → Except Failure α} (hf : ∀ r, Reads (f r) fun _ => next r) :
    Reads (liftM (Files.read path : StateM FileSystem _) >>= f) fun fs => next (fs.read path) :=
  (reads_lift (read_apply path)).bind hf

end Reads

/-! ### Inputs -/

section Inputs

variable {E α : Type}

/-- An input, given what is read at its path. -/
def parsed (input : Input) (parse : String → Except (ReadFailure E) α) (wording : E → String)
    (path : String) : Except FileError String → Except Failure α
  | .error cause => .error (.unreadable input path cause)
  | .ok text =>
    match parse text with
    | .ok x => .ok x
    | .error failure => .error (.unparsable input path (failure.message? wording))

/-- An input, as it is in the files. -/
def loaded (input : Input) (parse : String → Except (ReadFailure E) α) (wording : E → String)
    (path : String) (fs : FileSystem) : Except Failure α :=
  parsed input parse wording path (fs.read path)

/-- The map from build parameters to settings, as it is in the files. -/
def loadedMap : Option String → FileSystem → Except Failure Kconfig.Map
  | some path, fs => loaded .kconfigMap Kconfig.Map.ofString (Mismatch.message .text) path fs
  | none, _ => .ok []

/-- The inputs at given paths: the document, then the layout, then the map. -/
def loadedInputs (paths : InputPaths) (fs : FileSystem) : Except Failure Inputs := do
  let document ← loaded .document Document.ofString (Mismatch.message .text) paths.document fs
  let layout ← loaded .layout Layout.ofString Layout.Fault.message paths.layout fs
  let kconfigMap ← loadedMap paths.kconfigMap fs
  .ok ⟨document, layout, kconfigMap⟩

/-- The inputs that a command finds, given the paths among its options. -/
def found (e : Environment) (document : String) (layout kconfigMap : Option String)
    (fs : FileSystem) : Except Failure Inputs := do
  let paths ← resolvePaths document layout kconfigMap (Config.inForce e fs)
  loadedInputs paths fs

theorem reads_loadInput (input : Input) (parse : String → Except (ReadFailure E) α)
    (wording : E → String) (path : String) :
    Reads (loadInput input parse wording path) (loaded input parse wording path) := by
  apply reads_read path
  intro r
  cases r with
  | error cause => exact reads_mk_pure _
  | ok text =>
    dsimp only [parsed]
    cases parse text with
    | ok x => exact reads_pure x
    | error failure => exact reads_mk_pure _

theorem reads_loadMap (path : Option String) : Reads (loadMap path) (loadedMap path) := by
  cases path with
  | none => exact reads_pure []
  | some path => exact reads_loadInput _ _ _ path

theorem reads_loadInputs (paths : InputPaths) : Reads (loadInputs paths) (loadedInputs paths) := by
  apply (reads_loadInput _ _ _ paths.document).bind
  intro document
  apply (reads_loadInput _ _ _ paths.layout).bind
  intro layout
  apply (reads_loadMap paths.kconfigMap).bind
  intro kconfigMap
  exact reads_pure _

end Inputs

/-! ### What the commands make of them -/

/-- The template at a path, given what is read there. -/
def readTemplate (path : String) : Except FileError String → Except Failure String
  | .ok text => .ok text
  | .error cause => .error (.noTemplate path cause)

/-- The template, as it is in the files. -/
def loadedTemplate : Option String → FileSystem → Except Failure String
  | some path, fs => readTemplate path (fs.read path)
  | none, _ => .ok Template.standard

theorem reads_loadTemplate (path : Option String) :
    Reads (loadTemplate path) (loadedTemplate path) := by
  cases path with
  | none => exact reads_pure Template.standard
  | some path =>
    show Reads (loadTemplate (some path)) fun fs => readTemplate path (fs.read path)
    apply reads_read path
    intro r
    cases r with
    | ok text => exact reads_pure text
    | error cause => exact reads_mk_pure _

/-- What the inputs of a command compile to. -/
def compiled (i : Inputs) : Except Failure (Reported Compiled) :=
  match i.compile with
  | .ok r => .ok r
  | .error (.malformed errors) => .error (.structural errors)
  | .error .unpaddable => .error .unpaddable

theorem reads_compileInputs (i : Inputs) : Reads (compileInputs i) fun _ => compiled i := by
  rw [compileInputs, compiled]
  cases i.compile with
  | ok r => exact reads_pure r
  | error failure =>
    cases failure with
    | malformed errors => exact reads_mk_pure _
    | unpaddable => exact reads_mk_pure _

/-- The path of the template in force, if there is one. -/
def templateInForce (e : Environment) (o : GenerateOptions) (fs : FileSystem) : Option String :=
  o.template.or (Config.inForce e fs).template

/-- The directory for output in force. -/
def directoryInForce (e : Environment) (o : GenerateOptions) (fs : FileSystem) : String :=
  o.outputDirectory.getD (Config.inForce e fs).outputDirectory

/-- What `generate` makes before it writes. -/
def productIn (e : Environment) (o : GenerateOptions) (fs : FileSystem) :
    Except Failure Product := do
  let inputs ← found e o.keymap o.layout o.kconfigMap fs
  let template ← loadedTemplate (templateInForce e o fs) fs
  let compiled ← compiled inputs
  .ok ⟨compiled, compiled.value.render template, directoryInForce e o fs⟩

/-- What `validate` finds. -/
def verdictIn (e : Environment) (o : ValidateOptions) (fs : FileSystem) :
    Except Failure Verdict := do
  Verdict.ofInputs (← found e o.keymap o.layout o.kconfigMap fs)

theorem reads_prepare (e : Environment) (o : GenerateOptions) :
    Reads (prepare e o) (productIn e o) := by
  have steps := (reads_lift (Config.currentConfig_apply e)).bind fun c =>
    (reads_mk_pure (resolvePaths o.keymap o.layout o.kconfigMap c)).bind fun paths =>
    (reads_loadInputs paths).bind fun inputs =>
    (reads_loadTemplate (o.template.or c.template)).bind fun template =>
    (reads_compileInputs inputs).bind fun compiled =>
    reads_pure (⟨compiled, compiled.value.render template,
      o.outputDirectory.getD c.outputDirectory⟩ : Product)
  intro fs
  rw [productIn, found, bind_assoc]
  exact steps fs

theorem reads_inspect (e : Environment) (o : ValidateOptions) :
    Reads (inspect e o) (verdictIn e o) := by
  have steps := (reads_lift (Config.currentConfig_apply e)).bind fun c =>
    (reads_mk_pure (resolvePaths o.keymap o.layout o.kconfigMap c)).bind fun paths =>
    (reads_loadInputs paths).bind fun inputs => reads_mk_pure (Verdict.ofInputs inputs)
  intro fs
  rw [verdictIn, found, bind_assoc]
  exact steps fs

/-! ### Runs -/

/-- A run of `generate`: how it ends, and the files it leaves. -/
def generateOn (e : Environment) (o : GenerateOptions) : FileSystem → Outcome × FileSystem :=
  (generate e o : StateM FileSystem Outcome)

/-- A run of `validate`: how it ends, and the files it leaves. -/
def validateOn (e : Environment) (o : ValidateOptions) : FileSystem → Outcome × FileSystem :=
  (validate e o : StateM FileSystem Outcome)

/-- How `validate` ends. -/
def validated (o : ValidateOptions) : Except Failure Verdict → Outcome
  | .ok v =>
    Outcome.ofFailure (if o.json then v.json.indented ++ "\n" else v.text) (v.failure o.strict)
  | .error failure => Outcome.ofFailure "" (some failure)

theorem validateOn_eq (e : Environment) (o : ValidateOptions) (fs : FileSystem) :
    validateOn e o fs = (validated o (verdictIn e o fs), fs) := by
  rw [validateOn, validate, bind_apply, (reads_inspect e o).run]
  cases verdictIn e o fs with
  | ok v => rfl
  | error failure => rfl

section Generate

variable {e : Environment} {o : GenerateOptions} {fs : FileSystem}

/-- When nothing can be made, nothing is written. -/
theorem generateOn_of_productIn_eq_error {failure : Failure}
    (h : productIn e o fs = .error failure) :
    generateOn e o fs = (Outcome.ofFailure "" (some failure), fs) := by
  have prepared := (reads_prepare e o).run fs
  rw [h] at prepared
  rw [generateOn, generate, bind_apply, run_bind_of_error _ prepared]
  rfl

/-- What was made is written, and it decides how `generate` ends. -/
theorem generateOn_of_written {p : Product} {fs' : FileSystem} (h : productIn e o fs = .ok p)
    (hwritten : (writeProduct (outputName o) p : Action Unit).run fs = (.ok (), fs')) :
    generateOn e o fs
      = (Outcome.ofFailure (productText (outputName o) p)
          (strictFailure o.strict p.compiled.warnings), fs') := by
  have prepared := (reads_prepare e o).run fs
  rw [h] at prepared
  rw [generateOn, generate, bind_apply, run_bind_of_ok _ prepared, run_bind_of_ok _ hwritten]
  rfl

end Generate

end Command

end KeymapCompiler
