/-
KeymapCompiler/FileSystem.lean

A file system as a value: what stands at each location, and the directory from
which relative paths start.  A location is the list of names from the root.
Directories and files are entries of their own, so a file can only be made in a
directory that is there.  Some locations may be protected; what stands there can
neither be made, changed nor moved.

`content?_put_of_ne` and `content?_remove_of_ne` say that an operation on one
location leaves all others as they are.
-/
import KeymapCompiler.Files
import KeymapCompiler.Path

namespace KeymapCompiler

/-- The names from the root to an entry. -/
abbrev Location := List String

/-- What stands at a location. -/
inductive Content where
  /-- A directory. -/
  | directory
  /-- A file with a text. -/
  | text (s : String)
  /-- A file whose bytes are no text. -/
  | bytes (data : List UInt8)
deriving DecidableEq, Repr

/-- A file system. -/
structure FileSystem where
  /-- What stands where; of two entries for one location the first counts. -/
  entries : List (Location × Content)
  /-- The directory from which relative paths start. -/
  start : Location
  /-- Whether what stands at a location must stay as it is. -/
  isProtected : Location → Bool

namespace FileSystem

/-- A file system that holds nothing but the directory from which paths start and those above
it. -/
def empty (start : Location) : FileSystem where
  entries := (List.range start.length).map fun n => (start.take (n + 1), .directory)
  start := start
  isProtected := fun _ => false

/-- What stands at a location; the root is a directory. -/
def content? (fs : FileSystem) (at_ : Location) : Option Content :=
  if at_ = [] then some .directory else fs.entries.lookup at_

/-- Puts something at a location. -/
def put (fs : FileSystem) (at_ : Location) (c : Content) : FileSystem :=
  { fs with entries := (at_, c) :: fs.entries }

/-- Takes away what stands at a location. -/
def remove (fs : FileSystem) (at_ : Location) : FileSystem :=
  { fs with entries := fs.entries.filter (·.1 != at_) }

/-! ### Following paths -/

/-- The number of bytes that a name may have. -/
def nameLimit : Nat := 255

/-- The number of bytes that a path may have. -/
def pathLimit : Nat := 4095

/-- Follows names from a location. The last one need not exist. -/
def follow (fs : FileSystem) (from_ : Location) : List String → Except FileError Location
  | [] => .ok from_
  | name :: rest =>
    match fs.content? from_ with
    | some .directory =>
      if name = "." then fs.follow from_ rest
      else if name = ".." then fs.follow from_.dropLast rest
      else if nameLimit < name.utf8ByteSize then .error .tooLong
      else fs.follow (from_ ++ [name]) rest
    | some _ => .error .notDirectory
    | none => .error .notFound

/-- The location that a path stands for; the empty path stands for none. -/
def locate (fs : FileSystem) (path : String) : Except FileError Location :=
  if path.isEmpty then .error .notFound
  else if path.toList.contains '\x00' then .error .holdsNul
  else if pathLimit < path.utf8ByteSize then .error .tooLong
  else fs.follow (if Path.isAbsolute path then [] else fs.start) (Path.steps path)

/-- What a path leads to, if it leads anywhere. -/
def look? (fs : FileSystem) (path : String) : Option Content :=
  match fs.locate path with
  | .ok location => fs.content? location
  | .error _ => none

/-! ### Operations -/

/-- The text of a file. -/
def read (fs : FileSystem) (path : String) : Except FileError String := do
  match fs.content? (← fs.locate path) with
  | some (.text s) => .ok s
  | some (.bytes _) => .error .notText
  | some .directory => .error .isDirectory
  | none => .error .notFound

/-- Whether something can be put at a location: the directory above it is there, and it is not
protected. -/
def checkPlace (fs : FileSystem) (location : Location) : Except FileError Unit :=
  match fs.content? location.dropLast with
  | some .directory => if fs.isProtected location then .error .denied else .ok ()
  | some _ => .error .notDirectory
  | none => .error .notFound

/-- Gives a file a text. -/
def write (fs : FileSystem) (path text : String) : Except FileError FileSystem := do
  let location ← fs.locate path
  if fs.content? location = some .directory then .error .isDirectory
  else
    fs.checkPlace location
    .ok (fs.put location (.text text))

/-- A path without the slashes at its end, which do not matter when a directory is made. -/
def withoutSlashes (path : String) : String :=
  let cs := (path.toList.reverse.dropWhile (· == '/')).reverse
  if cs.isEmpty then path else String.ofList cs

/-- Makes one directory. -/
def makeDirectory (fs : FileSystem) (path : String) : Except FileError FileSystem := do
  let location ← fs.locate (withoutSlashes path)
  if (fs.content? location).isSome then .error .present
  else
    fs.checkPlace location
    .ok (fs.put location .directory)

/-- Whether a path leads to a directory. -/
def isDirectory (fs : FileSystem) (path : String) : Bool :=
  fs.look? path == some .directory

/-- Moves a file. -/
def rename (fs : FileSystem) (source target : String) : Except FileError FileSystem := do
  let origin ← fs.locate source
  let location ← fs.locate target
  match fs.content? origin with
  | none => .error .notFound
  | some .directory => .error .isDirectory
  | some c =>
    if fs.content? location = some .directory then .error .isDirectory
    else
      fs.checkPlace location
      if fs.isProtected origin then .error .denied
      else .ok ((fs.remove origin).put location c)

/-- A step that changes the file system if it succeeds. -/
def change (step : FileSystem → Except FileError FileSystem) :
    StateM FileSystem (Except FileError Unit) := fun fs =>
  match step fs with
  | .ok fs' => (.ok (), fs')
  | .error e => (.error e, fs)

instance : Files (StateM FileSystem) where
  read path := fun fs => (fs.read path, fs)
  write path text := change fun fs => fs.write path text
  makeDirectory path := change fun fs => fs.makeDirectory path
  rename source target := change fun fs => fs.rename source target
  isPresent path := fun fs => ((fs.look? path).isSome, fs)
  isFile path := fun fs =>
    (match fs.look? path with
      | some (.text _) | some (.bytes _) => true
      | _ => false, fs)
  isDirectory path := fun fs => (fs.isDirectory path, fs)

/-! ### What operations leave alone -/

@[simp] theorem content?_put_self (fs : FileSystem) {at_ : Location} (h : at_ ≠ []) (c : Content) :
    (fs.put at_ c).content? at_ = some c := by
  simp [content?, put, h]

/-- Putting something at one location leaves the others as they are. -/
theorem content?_put_of_ne (fs : FileSystem) {at_ other : Location} (h : other ≠ at_)
    (c : Content) : (fs.put at_ c).content? other = fs.content? other := by
  simp only [content?, put, List.lookup_cons]
  split
  · rfl
  · have : (other == at_) = false := by simpa using h
    simp [this]

/-- Taking away what stands at one location leaves the others as they are. -/
theorem content?_remove_of_ne (fs : FileSystem) {at_ other : Location} (h : other ≠ at_) :
    (fs.remove at_).content? other = fs.content? other := by
  simp only [content?, remove]
  split
  · rfl
  -- By induction on the entries. Those that are removed are not at the other location.
  · generalize fs.entries = es
    induction es with
    | nil => rfl
    | cons e rest ih =>
      obtain ⟨k, c⟩ := e
      by_cases hk : k = at_
      · subst hk
        have : (other == k) = false := by simpa using h
        simpa [List.lookup_cons, this] using ih
      · by_cases ho : other = k
        · subst ho; simp [hk]
        · have : (other == k) = false := by simpa using ho
          simpa [hk, List.lookup_cons, this] using ih

end FileSystem

end KeymapCompiler
