/-
KeymapCompiler/Config.lean

The configuration: the inputs that a command uses when it is given none, and the
directory for its output.

A configuration is saved by writing it to a temporary file beside the target and
moving that file into place, so the target is never half written.
-/
import KeymapCompiler.Files
import KeymapCompiler.Path
import KeymapCompiler.Toml.Printer
import KeymapCompiler.Toml.Reader

namespace KeymapCompiler

/-- The part of the environment that says where the configuration is. -/
structure Environment where
  /-- The directory for configurations, `XDG_CONFIG_HOME`. -/
  configHome : Option String
  /-- The user's home directory, `HOME`. -/
  home : Option String

namespace Environment

/-- The name of the directory that holds the configuration. -/
def applicationName : String := "LazyZMK"

/-- The directory that holds the configuration: in the directory for configurations if that is an
absolute path, else in the home directory. -/
def configDirectory? (e : Environment) : Option String :=
  let base :=
    match e.configHome.filter Path.isAbsolute with
    | some directory => some directory
    | none => (e.home.filter fun (h : String) => !h.isEmpty).map fun h => Path.join h ".config"
  base.map fun directory => Path.join directory applicationName

/-- The file that holds the configuration. -/
def configFile? (e : Environment) : Option String :=
  e.configDirectory?.map fun directory => Path.join directory "config.toml"

/-- The directory for output when none is configured. -/
def defaultOutput (e : Environment) : String :=
  match e.configDirectory? with
  | some directory => Path.join directory "builds"
  | none => ".build"

end Environment

/-- A configuration. -/
structure Config where
  /-- The layout. -/
  layoutTable : Option String
  /-- The map from build parameters to settings. -/
  kconfigMap : Option String
  /-- The template of the keymap. -/
  template : Option String
  /-- The directory for output. -/
  outputDirectory : String
deriving DecidableEq, Repr

/-- Why a configuration cannot be read, checked or saved. -/
inductive ConfigError where
  /-- There is no directory for configurations. -/
  | noDirectory
  /-- The file is not readable. -/
  | unreadable (path : String)
  /-- The file holds no configuration. -/
  | malformed (path : String)
  /-- A configured input is not a file. -/
  | missingInput (what path : String)
  /-- The directory of the file cannot be made. -/
  | directoryFailed (path : String)
  /-- The temporary file cannot be written. -/
  | writeFailed (path : String)
  /-- The temporary file cannot be moved into place. -/
  | renameFailed (path : String)
deriving DecidableEq, Repr

/-- The wording of an error. -/
def ConfigError.message : ConfigError → String
  | .noDirectory => "Failed to determine config directory"
  | .unreadable path => "Failed to read config file: " ++ path
  | .malformed path => "Failed to parse config file: " ++ path
  | .missingInput what path => "Configured " ++ what ++ " does not exist: " ++ path
  | .directoryFailed path => "Failed to create config directory: " ++ path
  | .writeFailed path => "Failed to write temp config file: " ++ path
  | .renameFailed path => "Failed to rename temp config file to: " ++ path

namespace Config

/-- The configuration when there is no file. -/
def initial (e : Environment) : Config := ⟨none, none, none, e.defaultOutput⟩

/-! ### Text -/

/-- The line of a setting, if it is set. -/
def settingLine (key : String) : Option String → String
  | some value => key ++ " = " ++ Toml.stringText value ++ "\n"
  | none => ""

/-- A configuration as TOML text. -/
def text (c : Config) : String :=
  "[paths]\n"
    ++ settingLine "layout_table" c.layoutTable
    ++ settingLine "kconfig_map" c.kconfigMap
    ++ settingLine "template" c.template
    ++ "\n[build]\n"
    ++ settingLine "output_dir" (some c.outputDirectory)

/-- A setting: a string, or nothing where there is no item; fails for other items. -/
def readSetting : Option Toml.Item → Option (Option String)
  | none => some none
  | some (.string s) => some (some s)
  | some _ => none

/-- The settings of a section, in the order of their keys. A section is a table, or an array of
the settings' values. A date counts as a table without settings. -/
def readSection (keys : List String) : Option Toml.Item → Option (List (Option String))
  | none => some (keys.map fun _ => none)
  | some (.table _ entries) =>
    if Toml.areEntriesInRange entries then
      keys.mapM fun key => readSetting (Toml.Entries.get? entries key)
    else none
  -- Items past the last setting are not looked at.
  | some (.array items) => (List.range keys.length).mapM fun i => readSetting items[i]?
  | some (.tables elements) =>
    if elements.isEmpty || keys.isEmpty then some (keys.map fun _ => none) else none
  | some (.scalar text) => if Toml.isDate text.toList then some (keys.map fun _ => none) else none
  | some (.string _) => none

/-- Reads a configuration from TOML text; what the text leaves out is as in the initial one. Entries
without a meaning are skipped, but their numbers must be in range. -/
def ofText? (e : Environment) (text : String) : Option Config := do
  let entries ← Toml.ofString? text
  let others := entries.filter fun entry => entry.1 != "paths" && entry.1 != "build"
  if !Toml.areEntriesInRange others then none
  let paths ← readSection ["layout_table", "kconfig_map", "template"] (entries.get? "paths")
  let build ← readSection ["output_dir"] (entries.get? "build")
  match paths, build with
  | [layoutTable, kconfigMap, template], [output] =>
    some ⟨layoutTable, kconfigMap, template, output.getD e.defaultOutput⟩
  | _, _ => none

/-! ### Files -/

variable {m : Type → Type} [Monad m] [Files m]

/-- Loads the configuration of a file; without a file it is the initial one. -/
def loadFrom (e : Environment) (path : String) : m (Except ConfigError Config) := do
  if ← Files.isPresent path then
    match ← Files.read path with
    | .error _ => pure (.error (.unreadable path))
    | .ok text =>
      match ofText? e text with
      | some c => pure (.ok c)
      | none => pure (.error (.malformed path))
  else pure (.ok (initial e))

/-- Loads the configuration of the environment. -/
def load (e : Environment) : m (Except ConfigError Config) :=
  match e.configFile? with
  | some path => loadFrom e path
  | none => pure (.error .noDirectory)

/-- The configured inputs with what diagnostics call them. -/
def inputs (c : Config) : List (String × Option String) :=
  [("layout table", c.layoutTable), ("Kconfig map", c.kconfigMap), ("template", c.template)]

/-- Checks that configured inputs are files. -/
def checkInputs : List (String × Option String) → m (Except ConfigError Unit)
  | [] => pure (.ok ())
  | (_, none) :: rest => checkInputs rest
  | (what, some path) :: rest => do
    if ← Files.isFile path then checkInputs rest
    else pure (.error (.missingInput what path))

/-- Checks that the configured inputs are files. -/
def validate (c : Config) : m (Except ConfigError Unit) :=
  checkInputs c.inputs

/-- The file that a configuration is written to before it is moved to a path. -/
def temporaryFile (path : String) : String :=
  Path.withExtension path "toml.tmp"

/-- Makes the directory that a path is in. -/
def makeParent (path : String) : m (Except ConfigError Unit) :=
  match Path.parent? path with
  | none => pure (.ok ())
  | some directory => do
    match ← Files.makeDirectories directory with
    | .ok () => pure (.ok ())
    | .error _ => pure (.error (.directoryFailed directory))

/-- Writes a text to the temporary file of a path and moves it there. -/
def replace (path text : String) : m (Except ConfigError Unit) := do
  match ← Files.write (temporaryFile path) text with
  | .error _ => pure (.error (.writeFailed (temporaryFile path)))
  | .ok () =>
    match ← Files.rename (temporaryFile path) path with
    | .error _ => pure (.error (.renameFailed path))
    | .ok () => pure (.ok ())

/-- Saves a configuration whose inputs are files. -/
def saveTo (c : Config) (path : String) : m (Except ConfigError Unit) := do
  match ← c.validate with
  | .error e => pure (.error e)
  | .ok () =>
    match ← makeParent path with
    | .error e => pure (.error e)
    | .ok () => replace path c.text

/-- Saves a configuration to the file of the environment. -/
def save (e : Environment) (c : Config) : m (Except ConfigError Unit) :=
  match e.configFile? with
  | some path => c.saveTo path
  | none => pure (.error .noDirectory)

/-- Whether the environment has a configuration file. -/
def isSaved (e : Environment) : m Bool :=
  match e.configFile? with
  | some path => Files.isPresent path
  | none => pure false

end Config

end KeymapCompiler
