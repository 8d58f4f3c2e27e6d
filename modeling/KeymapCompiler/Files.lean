/-
KeymapCompiler/Files.lean

The operations on files that commands need.  Commands are written for any monad
that has these operations, so they run on the files of the computer and on a
`FileSystem` that is a value.

`Files.makeDirectories` makes a directory from the bottom up: it first tries the
directory itself, and those above it only when they are missing.
-/
import KeymapCompiler.Path

namespace KeymapCompiler

/-- Why an operation on files failed. -/
inductive FileError where
  /-- There is nothing at the path. -/
  | notFound
  /-- There is something at the path already. -/
  | present
  /-- A component of the path is no directory. -/
  | notDirectory
  /-- There is a directory at the path. -/
  | isDirectory
  /-- It is not allowed. -/
  | denied
  /-- A component of the path, or the whole path, is too long. -/
  | tooLong
  /-- The path holds a NUL. -/
  | holdsNul
  /-- The file holds no text. -/
  | notText
  /-- Some other cause, in words. -/
  | other (message : String)
deriving DecidableEq, Repr

/-- The wording of an error. -/
def FileError.message : FileError → String
  | .notFound => "No such file or directory (os error 2)"
  | .present => "File exists (os error 17)"
  | .notDirectory => "Not a directory (os error 20)"
  | .isDirectory => "Is a directory (os error 21)"
  | .denied => "Permission denied (os error 13)"
  | .tooLong => "File name too long (os error 36)"
  | .holdsNul => "file name contained an unexpected NUL byte"
  | .notText => "stream did not contain valid UTF-8"
  | .other message => message

/-- The operations on files. -/
class Files (m : Type → Type) where
  /-- The text of a file. -/
  read : String → m (Except FileError String)
  /-- Gives a file a text, in place of the one it had. -/
  write : String → String → m (Except FileError Unit)
  /-- Makes a directory in one that is there. -/
  makeDirectory : String → m (Except FileError Unit)
  /-- Moves a file to a path, in place of the file that was there. -/
  rename : String → String → m (Except FileError Unit)
  /-- Whether there is anything at a path. -/
  isPresent : String → m Bool
  /-- Whether there is a file at a path. -/
  isFile : String → m Bool
  /-- Whether there is a directory at a path. -/
  isDirectory : String → m Bool

namespace Files

variable {m : Type → Type} [Monad m] [Files m]

/-- Makes a directory, or answers the error unless it is there already. -/
def ensureDirectory (path : String) : m (Except FileError Unit) := do
  match ← makeDirectory path with
  | .ok () => pure (.ok ())
  | .error e => if ← isDirectory path then pure (.ok ()) else pure (.error e)

/-- Makes a directory and those above it that are missing. The first argument bounds the number
of directories. -/
def makeAll : Nat → String → m (Except FileError Unit)
  | 0, _ => pure (.error .notFound)
  | fuel + 1, path => do
    if path.isEmpty then pure (.ok ())
    else
      match ← (ensureDirectory path : m _) with
      -- The directory above is missing: make it, then try again.
      | .error .notFound =>
        match Path.parent? path with
        | none => pure (.error (.other "failed to create whole tree"))
        | some above =>
          match ← makeAll fuel above with
          | .ok () => ensureDirectory path
          | .error e => pure (.error e)
      | done => pure done

/-- Makes a directory and those above it that are missing. The empty path is the directory from
which paths start, which is there. -/
def makeDirectories (path : String) : m (Except FileError Unit) :=
  makeAll (path.length + 1) path

end Files

end KeymapCompiler
