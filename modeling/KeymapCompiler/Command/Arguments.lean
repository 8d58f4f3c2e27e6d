/-
KeymapCompiler/Command/Arguments.lean

The arguments of the program: a command and its options.  Options have long names,
some have a letter too, and letters can be joined behind one dash.  A value is
attached to its option or is the next argument.

Arguments are read from the left.  Every option can be given once, and a request
for help or for the version is granted as soon as it is reached, so only what
stands before it can be at fault.
-/

namespace KeymapCompiler.Command

/-- What an option takes. -/
inductive OptionSort where
  /-- Nothing. -/
  | flag
  /-- A path, which is not empty. -/
  | path
  /-- Any text. -/
  | text
deriving DecidableEq, Repr

/-- An option. -/
structure OptionSpec where
  /-- Its long name. -/
  name : String
  /-- Its letter. -/
  letter : Option Char
  /-- What it takes. -/
  sort : OptionSort
deriving DecidableEq, Repr

/-- An option that is given, with its value. -/
abbrev Given := List (String × String)

/-- The name of the option that asks for help. -/
def helpName : String := "help"

/-- The name of the option that asks for the version. -/
def versionName : String := "version"

/-- Options that every level has. -/
def commonOptions : List OptionSpec :=
  [⟨"verbose", some 'v', .flag⟩, ⟨helpName, some 'h', .flag⟩]

/-- The options before the command. -/
def programOptions : List OptionSpec :=
  commonOptions ++ [⟨versionName, some 'V', .flag⟩]

/-- The options of `generate`. -/
def generateOptions : List OptionSpec :=
  commonOptions ++
    [⟨"keymap", some 'k', .path⟩, ⟨"layout", some 'l', .path⟩, ⟨"kconfig-map", none, .path⟩,
     ⟨"template", none, .path⟩, ⟨"out-dir", some 'o', .path⟩, ⟨"name", none, .text⟩,
     ⟨"strict", none, .flag⟩]

/-- The options of `validate`. -/
def validateOptions : List OptionSpec :=
  commonOptions ++
    [⟨"keymap", some 'k', .path⟩, ⟨"layout", some 'l', .path⟩, ⟨"kconfig-map", none, .path⟩,
     ⟨"json", none, .flag⟩, ⟨"strict", none, .flag⟩]

/-- Whether an argument is an option rather than a value; a single dash is a value. -/
def isOption (arg : String) : Bool :=
  arg.startsWith "-" && arg != "-"

/-- An option with a value, unless the value does not suit it. -/
def give? (o : OptionSpec) (value : String) : Option (String × String) :=
  if o.sort = .path && value.isEmpty then none else some (o.name, value)

/-- Whether an option ends the reading of arguments. -/
def isRequest (name : String) : Bool :=
  name == helpName || name == versionName

/-- The options of letters joined behind one dash, and the option that waits for its value.
Letters after a request are not looked at. -/
def readLetters (specs : List OptionSpec) : List Char → Option (Given × Option OptionSpec)
  | [] => some ([], none)
  | c :: rest => do
    let o ← specs.find? (·.letter == some c)
    if isRequest o.name then some ([(o.name, "")], none)
    else if o.sort = .flag then
      let (given, waiting) ← readLetters specs rest
      some ((o.name, "") :: given, waiting)
    else
      -- The rest of the argument, if there is any, is the value.
      match rest with
      | [] => some ([], some o)
      | '=' :: value => (give? o (String.ofList value)).map fun g => ([g], none)
      | value => (give? o (String.ofList value)).map fun g => ([g], none)

/-- The option of a long name with or without a value, and whether it waits for its value. -/
def readLong (specs : List OptionSpec) (cs : List Char) : Option (Given × Option OptionSpec) := do
  let name := cs.takeWhile (· != '=')
  let o ← specs.find? fun o => o.name.toList == name
  match o.sort, cs.drop name.length with
  | .flag, [] => some ([(o.name, "")], none)
  | .flag, _ => none
  | _, [] => some ([], some o)
  | _, _ :: value => (give? o (String.ofList value)).map fun g => ([g], none)

/-- The options that an argument gives. -/
def readOption (specs : List OptionSpec) (arg : String) : Option (Given × Option OptionSpec) :=
  match arg.toList with
  | '-' :: '-' :: name => readLong specs name
  | '-' :: letters => if letters.isEmpty then none else readLetters specs letters
  | _ => none

/-- Whether an option is given. -/
def has (given : Given) (name : String) : Bool :=
  given.any (·.1 == name)

/-- Adds options to those seen before; nothing when one was seen. -/
def take (seen : Given) : Given → Option Given
  | [] => some seen
  | g :: rest => if has seen g.1 then none else take (g :: seen) rest

/-- Reads the arguments of a command, given the options seen before and the one that waits for its
value. -/
def readOptions (specs : List OptionSpec) (seen : Given) (waiting : Option OptionSpec) :
    List String → Option Given
  | [] => if waiting.isSome then none else some seen
  | arg :: rest =>
    match waiting with
    | some o =>
      if isOption arg then none
      else do
        let g ← give? o arg
        readOptions specs (← take seen [g]) none rest
    | none =>
      -- Nothing but options is taken, so nothing may follow a double dash.
      if arg = "--" then if rest.isEmpty then some seen else none
      else do
        let (given, next) ← readOption specs arg
        let seen ← take seen given
        if seen.any fun g => isRequest g.1 then some seen
        else readOptions specs seen next rest

/-! ### Commands -/

/-- The options of `generate`. -/
structure GenerateOptions where
  /-- The keymap document. -/
  keymap : String
  /-- The layout. -/
  layout : Option String
  /-- The map from build parameters to settings. -/
  kconfigMap : Option String
  /-- The template. -/
  template : Option String
  /-- The directory for output. -/
  outputDirectory : Option String
  /-- The name of the output files. -/
  name : Option String
  /-- Whether warnings make the command fail. -/
  strict : Bool

/-- The options of `validate`. -/
structure ValidateOptions where
  /-- The keymap document. -/
  keymap : String
  /-- The layout. -/
  layout : Option String
  /-- The map from build parameters to settings. -/
  kconfigMap : Option String
  /-- Whether the output is JSON. -/
  json : Bool
  /-- Whether warnings make the command fail. -/
  strict : Bool

/-- What the program is asked to do. -/
inductive Invocation where
  /-- To write a keymap and a configuration. -/
  | generate (options : GenerateOptions)
  /-- To check a document. -/
  | validate (options : ValidateOptions)
  /-- To say how it is used. -/
  | help
  /-- To say its version. -/
  | version

/-- The options of `generate` that are given. -/
def generateOf (given : Given) : Option Invocation := do
  let keymap ← given.lookup "keymap"
  some (.generate
    { keymap
      layout := given.lookup "layout"
      kconfigMap := given.lookup "kconfig-map"
      template := given.lookup "template"
      outputDirectory := given.lookup "out-dir"
      name := given.lookup "name"
      strict := has given "strict" })

/-- The options of `validate` that are given. -/
def validateOf (given : Given) : Option Invocation := do
  let keymap ← given.lookup "keymap"
  some (.validate
    { keymap
      layout := given.lookup "layout"
      kconfigMap := given.lookup "kconfig-map"
      json := has given "json"
      strict := has given "strict" })

/-- Reads the arguments of a command. -/
def readCommand (specs : List OptionSpec) (of : Given → Option Invocation) (args : List String) :
    Option Invocation := do
  let given ← readOptions specs [] none args
  if has given helpName then some .help else of given

/-- Reads what help is asked about: nothing, or one command. -/
def readHelp : List String → Option Invocation
  | [] => some .help
  | [topic] => if ["generate", "validate", helpName].contains topic then some .help else none
  | _ => none

/-- Reads the arguments of the program; `seen` holds the options before the command. -/
def readProgram (seen : Given) : List String → Option Invocation
  | [] => none
  | arg :: rest =>
    if arg = "generate" then readCommand generateOptions generateOf rest
    else if arg = "validate" then readCommand validateOptions validateOf rest
    else if arg = helpName then readHelp rest
    else do
      -- No option before the command takes a value.
      let (given, _) ← readOption programOptions arg
      let seen ← take seen given
      if has seen helpName then some .help
      else if has seen versionName then some .version
      else readProgram seen rest

/-- What arguments ask for; nothing if they are not understood. -/
def Invocation.ofArguments? (args : List String) : Option Invocation :=
  readProgram [] args

end KeymapCompiler.Command
