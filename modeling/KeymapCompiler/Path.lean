/-
KeymapCompiler/Path.lean

Paths as text: components with slashes between them.  A component `.` counts only
at the front of a path, and slashes at the end do not count at all, so `a/b`,
`a//b/` and `a/./b/.` have the same last component.

Taking a path apart never changes it: the parent is the front of the text, as it
is written.
-/

namespace KeymapCompiler.Path

/-- Whether a path starts at the root. -/
def isAbsolute (path : String) : Bool :=
  path.toList.head? == some '/'

/-- A path below another one; an absolute path stands for itself. -/
def join (front back : String) : String :=
  if isAbsolute back then back
  else if front.isEmpty || front.toList.getLast? == some '/' then front ++ back
  else front ++ "/" ++ back

/-- Splits off what stands in front of the components: the root, or a `.` that starts the path. -/
def splitRoot : List Char → List Char × List Char
  | '/' :: rest => (['/'], rest)
  | ['.'] => (['.'], [])
  | '.' :: '/' :: rest => (['.'], '/' :: rest)
  | cs => ([], cs)

/-- Drops slashes and `.` components from the front of a reversed text. -/
def skipTrail : List Char → List Char
  | '/' :: rest => skipTrail rest
  | ['.'] => []
  | '.' :: '/' :: rest => skipTrail rest
  | cs => cs

/-- The last component of a reversed text and what stands before it, reversed; nothing when there
is no component. -/
def splitLast (cs : List Char) : Option (List Char × List Char) :=
  match skipTrail cs with
  | [] => none
  | rest =>
    some ((rest.takeWhile (· != '/')).reverse, skipTrail (rest.dropWhile (· != '/')))

/-- The path without its last component; nothing for the root and for the empty path. -/
def parent? (path : String) : Option String :=
  let (root, body) := splitRoot path.toList
  match splitLast body.reverse with
  | some (_, before) => some (String.ofList (root ++ before.reverse))
  | none => if root = ['.'] then some "" else none

/-- The last component, unless it is `..`. -/
def fileName? (path : String) : Option String :=
  match splitLast (splitRoot path.toList).2.reverse with
  | some (name, _) => if name = ['.', '.'] then none else some (String.ofList name)
  | none => none

/-- A name without its extension: what stands before its last point, if anything does. -/
def stem (name : List Char) : List Char :=
  match name.reverse.dropWhile (· != '.') with
  | [] => name
  | _ :: before => if before.isEmpty then name else before.reverse

/-- The last component without its extension. -/
def fileStem? (path : String) : Option String :=
  (fileName? path).map fun name => String.ofList (stem name.toList)

/-- The path with another extension. A path without a last component stays as it is, and so does
one whose last component is `..` once its own extension is taken off. -/
def withExtension (path extension : String) : String :=
  let (root, body) := splitRoot path.toList
  match splitLast body.reverse with
  | some (name, _) =>
    if name = ['.', '.'] then path
    else
      let ended := skipTrail body.reverse
      let bare := root ++ (ended.dropWhile (· != '/')).reverse ++ stem name ++ ['.']
      -- What stands after the last component keeps the extension from being taken off.
      if stem name = ['.'] && ended == body.reverse then String.ofList bare
      else String.ofList bare ++ extension
  | none => path

/-- The components by which a path is followed. A slash at the end asks for a directory, like a
`.` there. -/
def steps (path : String) : List String :=
  let cs := path.toList
  let parts := (cs.splitOn '/').filter fun part => !part.isEmpty
  (parts ++ if cs.getLast? = some '/' then [['.']] else []).map String.ofList

example : parent? "a/b/c.toml" = some "a/b" := by decide +kernel
example : parent? "c.toml" = some "" := by decide +kernel
example : withExtension "a/c.toml" "toml.tmp" = "a/c.toml.tmp" := by decide +kernel
example : withExtension "a/..c" "toml.tmp" = "a/.." := by decide +kernel
example : withExtension "a/..c/" "toml.tmp" = "a/..toml.tmp" := by decide +kernel
example : fileStem? "sub/x.tar.json" = some "x.tar" := by decide +kernel
example : fileStem? ".hidden" = some ".hidden" := by decide +kernel

end KeymapCompiler.Path
