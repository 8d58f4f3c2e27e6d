/-
KeymapCompiler/Command.lean

The commands.  `generate` compiles a document and writes the keymap and the
build's configuration; `validate` compiles it and reports what it found.  Both
take what they are not given from the configuration.

A command ends with an exit code: `0` for success, `1` for input that was read
but is not valid, `2` for files that cannot be read or written, `101` when the
keymap cannot be laid out.
-/
import KeymapCompiler.Command.Arguments
import KeymapCompiler.Compile
import KeymapCompiler.Config
import KeymapCompiler.Document.Reader
import KeymapCompiler.Layout.Reader

namespace KeymapCompiler.Command

open KeymapCompiler.Json

/-- What the program prints and how it ends. -/
structure Outcome where
  /-- The exit code. -/
  exit : Nat
  /-- The text on standard output. -/
  stdout : String
  /-- The text on standard error. -/
  stderr : String
deriving DecidableEq, Repr

/-! ### Failures -/

/-- The inputs of a command. -/
inductive Input where
  /-- The keymap document. -/
  | document
  /-- The layout. -/
  | layout
  /-- The map from build parameters to settings. -/
  | kconfigMap
deriving DecidableEq, Repr

/-- What a diagnostic calls an input. -/
def Input.label : Input → String
  | .document => "keymap document"
  | .layout => "layout table"
  | .kconfigMap => "Kconfig map"

/-- Why a command failed. -/
inductive Failure where
  /-- No layout is given or configured. -/
  | noLayout
  /-- An input cannot be read. -/
  | unreadable (input : Input) (path : String) (cause : FileError)
  /-- The text of an input does not fit; there is no message for malformed text. -/
  | unparsable (input : Input) (path : String) (message : Option String)
  /-- The template cannot be read. -/
  | noTemplate (path : String) (cause : FileError)
  /-- The document cannot be compiled. -/
  | structural (errors : List StructuralError)
  /-- The keymap cannot be laid out. -/
  | unpaddable
  /-- The directory for output cannot be made. -/
  | noDirectory (cause : FileError)
  /-- An output file cannot be written. -/
  | unwritable (name : String) (cause : FileError)
  /-- The document is not valid. -/
  | invalid
  /-- There are warnings, which count as errors. -/
  | warnings

/-- The wording of structural errors. -/
def malformedInput (errors : List StructuralError) : String :=
  "Malformed input: " ++ malformedMessage errors

/-- The wording of a failure. -/
def Failure.message : Failure → String
  | .noLayout => "No layout table given. Use --layout or set paths.layout_table in config.toml"
  | .unreadable input path cause =>
    "Failed to load " ++ input.label ++ " " ++ path ++ ": I/O error: " ++ cause.message
  | .unparsable input path message =>
    "Failed to load " ++ input.label ++ " " ++ path ++ ": Failed to parse " ++ input.label
      ++ ": " ++ message.getD "malformed text"
  | .noTemplate path cause => "Failed to read template " ++ path ++ ": " ++ cause.message
  | .structural errors => "Generation failed: " ++ malformedInput errors
  | .unpaddable => "A column of the keymap is too wide to be padded"
  | .noDirectory cause => "Failed to create output directory: " ++ cause.message
  | .unwritable name cause => "Failed to write " ++ name ++ ": " ++ cause.message
  | .invalid => "Validation failed"
  | .warnings => "Warnings found in strict mode"

/-- The exit code of a failure. -/
def Failure.exit : Failure → Nat
  | .unreadable _ _ _ | .noTemplate _ _ | .noDirectory _ | .unwritable _ _ => 2
  | .noLayout | .unparsable _ _ _ | .structural _ | .invalid | .warnings => 1
  | .unpaddable => 101

/-- A failure on standard error.  A keymap that cannot be laid out breaks the program off, before
it can say that this is an error. -/
def Failure.shown : Failure → String
  | .unpaddable => Failure.unpaddable.message ++ "\n"
  | f => "Error: " ++ f.message ++ "\n"

/-- The end of a command that printed a text and may have failed. -/
def Outcome.ofFailure (stdout : String) : Option Failure → Outcome
  | none => ⟨0, stdout, ""⟩
  | some f => ⟨f.exit, stdout, f.shown⟩

/-! ### Inputs -/

/-- The paths of the inputs. -/
structure InputPaths where
  /-- The keymap document. -/
  document : String
  /-- The layout. -/
  layout : String
  /-- The map from build parameters to settings. -/
  kconfigMap : Option String

/-- The inputs. -/
structure Inputs where
  /-- The keymap document. -/
  document : Document
  /-- The layout. -/
  layout : Layout
  /-- The map from build parameters to settings. -/
  kconfigMap : Kconfig.Map

/-- Compiles the inputs. -/
def Inputs.compile (i : Inputs) : Except CompileFailure (Reported Compiled) :=
  i.document.compile i.layout i.kconfigMap

/-- The paths of the inputs, some of which the configuration gives. -/
def resolvePaths (document : String) (layout kconfigMap : Option String) (c : Config) :
    Except Failure InputPaths :=
  match layout.or c.layoutTable with
  | some layout => .ok ⟨document, layout, kconfigMap.or c.kconfigMap⟩
  | none => .error .noLayout

variable {m : Type → Type} [Monad m] [Files m]

/-- Loads an input. -/
def loadInput {E α : Type} (input : Input) (parse : String → Except (ReadFailure E) α)
    (wording : E → String) (path : String) : ExceptT Failure m α := do
  match ← (Files.read path : m _) with
  | .error cause => throw (.unreadable input path cause)
  | .ok text =>
    match parse text with
    | .ok x => pure x
    | .error failure => throw (.unparsable input path (failure.message? wording))

/-- Loads the map from build parameters to settings; without a path it is empty. -/
def loadMap : Option String → ExceptT Failure m Kconfig.Map
  | some path => loadInput .kconfigMap Kconfig.Map.ofString (Mismatch.message .text) path
  | none => pure []

/-- Loads the inputs: the document, then the layout, then the map. -/
def loadInputs (paths : InputPaths) : ExceptT Failure m Inputs := do
  let document ← loadInput .document Document.ofString (Mismatch.message .text) paths.document
  let layout ← loadInput .layout Layout.ofString Layout.Fault.message paths.layout
  let kconfigMap ← loadMap paths.kconfigMap
  pure ⟨document, layout, kconfigMap⟩

/-- The configuration in force; one that cannot be loaded is as the initial one. -/
def currentConfig (e : Environment) : m Config := do
  match ← Config.load e with
  | .ok c => pure c
  | .error _ => pure (Config.initial e)

/-! ### Generate -/

/-- Loads the template: the one given, or the one configured, or the standard one. -/
def loadTemplate : Option String → ExceptT Failure m String
  | some path => do
    match ← (Files.read path : m _) with
    | .ok text => pure text
    | .error cause => throw (.noTemplate path cause)
  | none => pure Template.standard

/-- Compiles the inputs of a command. -/
def compileInputs (i : Inputs) : ExceptT Failure m (Reported Compiled) :=
  match i.compile with
  | .ok r => pure r
  | .error (.malformed errors) => throw (.structural errors)
  | .error .unpaddable => throw .unpaddable

/-- The name of the output files: the one given, else that of the document. -/
def outputName (o : GenerateOptions) : String :=
  o.name.getD ((Path.fileStem? o.keymap).getD "keymap")

/-- Makes the directory for output. -/
def makeOutputDirectory (directory : String) : ExceptT Failure m Unit := do
  match ← (Files.makeDirectories directory : m _) with
  | .ok () => pure ()
  | .error cause => throw (.noDirectory cause)

/-- Writes an output file. -/
def writeOutput (directory name text : String) : ExceptT Failure m Unit := do
  match ← (Files.write (Path.join directory name) text : m _) with
  | .ok () => pure ()
  | .error cause => throw (.unwritable name cause)

/-- What `generate` makes before it writes anything. -/
structure Product where
  /-- The fragments and the warnings. -/
  compiled : Reported Compiled
  /-- The text of the keymap. -/
  keymap : String
  /-- The directory for output. -/
  directory : String

/-- Compiles and renders the keymap. -/
def prepare (e : Environment) (o : GenerateOptions) : ExceptT Failure m Product := do
  let c ← (currentConfig e : m Config)
  let paths ← ExceptT.mk (pure (resolvePaths o.keymap o.layout o.kconfigMap c))
  let inputs ← loadInputs paths
  let template ← loadTemplate (o.template.or c.template)
  let compiled ← compileInputs inputs
  pure ⟨compiled, compiled.value.render template, o.outputDirectory.getD c.outputDirectory⟩

/-- Writes what was made. -/
def writeProduct (name : String) (p : Product) : ExceptT Failure m Unit := do
  makeOutputDirectory p.directory
  writeOutput p.directory (name ++ ".keymap") p.keymap
  writeOutput p.directory (name ++ ".conf") p.compiled.value.kconfig.text

/-- What `generate` prints when it has written its files. -/
def productText (name : String) (p : Product) : String :=
  "✓ Generated " ++ name ++ ".keymap and " ++ name ++ ".conf\n"
    ++ "  Output: " ++ p.directory ++ "\n"
    ++ if p.compiled.warnings.isClean then "" else "\n" ++ p.compiled.warnings.message

/-- The failure that warnings are, if they count as errors. -/
def strictFailure (strict : Bool) (r : Report) : Option Failure :=
  if strict && !r.isClean then some .warnings else none

/-- Runs `generate`. -/
def generate (e : Environment) (o : GenerateOptions) : m Outcome := do
  let name := outputName o
  let written ← (do
    let p ← prepare e o
    writeProduct name p
    pure p : ExceptT Failure m Product).run
  match written with
  | .ok p =>
    pure (Outcome.ofFailure (productText name p) (strictFailure o.strict p.compiled.warnings))
  | .error f => pure (Outcome.ofFailure "" (some f))

/-! ### Validate -/

/-- What `validate` found: the structural errors, or the warnings and the number of settings. -/
inductive Verdict where
  /-- The document does not compile. -/
  | invalid (errors : List StructuralError)
  /-- The document compiles. -/
  | valid (warnings : Report) (settings : Nat)

namespace Verdict

/-- What is found in the inputs, unless the keymap cannot be laid out. -/
def ofInputs (i : Inputs) : Except Failure Verdict :=
  match i.compile with
  | .ok r => .ok (.valid r.warnings r.value.kconfig.settings.length)
  | .error (.malformed errors) => .ok (.invalid errors)
  | .error .unpaddable => .error .unpaddable

/-- The number of settings that the build's configuration would have. -/
def settings : Verdict → Nat
  | .invalid _ => 0
  | .valid _ n => n

/-- The failure that a verdict is, if it is one. -/
def failure (strict : Bool) : Verdict → Option Failure
  | .invalid _ => some .invalid
  | .valid warnings _ => strictFailure strict warnings

/-- The findings of a verdict as JSON. -/
def items : Verdict → List Value
  | .invalid errors =>
    [.object [("severity", .string "error"), ("message", .string (malformedInput errors))]]
  | .valid warnings _ =>
    warnings.map fun w => .object
      [("severity", .string "warning"), ("kind", .string w.kind.key),
       ("context", .string w.context), ("message", .string w.message)]

/-- A verdict as JSON. -/
def json (v : Verdict) : Value :=
  let isValid := match v with
    | .invalid _ => false
    | .valid _ _ => true
  .object
    [("valid", .bool isValid), ("errors", .array v.items),
     ("kconfig_settings", .number (.int v.settings))]

/-- The findings of a verdict as lines. -/
def lines : Verdict → List String
  | .invalid errors => ["  ✗ " ++ malformedInput errors]
  | .valid warnings _ => warnings.map fun w => "  ⚠ [" ++ w.context ++ "] " ++ w.message

/-- A verdict for a terminal. -/
def text (v : Verdict) : String :=
  let title := match v with
    | .invalid _ => "✗ Validation failed\n"
    | .valid _ _ => "✓ Validation passed\n"
  let issues :=
    if v.lines.isEmpty then ""
    else "\nIssues:\n" ++ String.join (v.lines.map (· ++ "\n"))
  title ++ s!"  Kconfig settings: {v.settings}\n" ++ issues

end Verdict

/-- What `validate` finds. -/
def inspect (e : Environment) (o : ValidateOptions) : ExceptT Failure m Verdict := do
  let c ← (currentConfig e : m Config)
  let paths ← ExceptT.mk (pure (resolvePaths o.keymap o.layout o.kconfigMap c))
  let inputs ← loadInputs paths
  ExceptT.mk (pure (Verdict.ofInputs inputs))

/-- Runs `validate`. -/
def validate (e : Environment) (o : ValidateOptions) : m Outcome := do
  match ← (inspect e o).run with
  | .ok v =>
    let stdout := if o.json then v.json.indented ++ "\n" else v.text
    pure (Outcome.ofFailure stdout (v.failure o.strict))
  | .error f => pure (Outcome.ofFailure "" (some f))

/-! ### Program -/

/-- How the program is used. -/
def usage : String :=
  "Usage: lazyzmk [OPTIONS] <COMMAND>\n\nCommands:\n"
    ++ "  generate  Generate .keymap and .conf files\n"
    ++ "  validate  Check a keymap document without writing files\n"

/-- Runs the program with arguments. -/
def run (e : Environment) (args : List String) : m Outcome :=
  match Invocation.ofArguments? args with
  | some (.generate o) => generate e o
  | some (.validate o) => validate e o
  | some .help => pure ⟨0, usage, ""⟩
  | some .version => pure ⟨0, "lazyzmk 0.4.0\n", ""⟩
  | none => pure ⟨2, "", usage⟩

end KeymapCompiler.Command
