/-
KeymapCompiler/Main.lean

The program: the commands on the files of the computer.
-/
import KeymapCompiler.Command

namespace KeymapCompiler.Program

/-- An error of the computer as a file error. -/
def fileError : IO.Error → FileError
  | .noFileOrDirectory _ _ _ => .notFound
  | .noSuchThing _ _ _ => .notFound
  | .alreadyExists _ _ _ => .present
  | .permissionDenied _ _ _ => .denied
  | .inappropriateType _ code _ => if code = 21 then .isDirectory else .notDirectory
  -- Some operations answer the code with its sign changed.
  | e@(.invalidArgument _ code _) =>
    if code = 36 || -code = 36 then .tooLong else .other (toString e)
  | e => .other (toString e)

/-- An action on a path, with its error as a value. -/
def attempt {α : Type} (path : String) (action : IO α) : IO (Except FileError α) := do
  if path.toList.contains '\x00' then return .error .holdsNul
  match ← action.toBaseIO with
  | .ok a => return .ok a
  | .error e => return .error (fileError e)

/-- The text of a file. -/
def readText (path : String) : IO (Except FileError String) := do
  match ← attempt path (IO.FS.readBinFile path) with
  | .error e => return .error e
  | .ok data =>
    match String.fromUTF8? data with
    | some text => return .ok text
    | none => return .error .notText

/-- What kind of entry a path leads to, if it leads anywhere. -/
def kind? (path : String) : IO (Option IO.FS.FileType) := do
  match ← attempt path (do return (← (← IO.FS.realPath path).metadata).type) with
  | .ok kind => return some kind
  | .error _ => return none

instance : Files IO where
  read := readText
  write path text := attempt path (IO.FS.writeFile path text)
  makeDirectory path := attempt path (IO.FS.createDir path)
  rename source target := attempt (source ++ target) (IO.FS.rename source target)
  isPresent path := return (← kind? path).isSome
  isFile path := return (← kind? path) == some .file
  isDirectory path := return (← kind? path) == some .dir

/-- The environment of the program. -/
def environment : IO Environment := do
  return ⟨← IO.getEnv "XDG_CONFIG_HOME", ← IO.getEnv "HOME"⟩

end KeymapCompiler.Program

/-- Runs the program. -/
def main (args : List String) : IO UInt32 := do
  let outcome ← KeymapCompiler.Command.run (← KeymapCompiler.Program.environment) args
  IO.print outcome.stdout
  IO.eprint outcome.stderr
  return UInt32.ofNat outcome.exit
