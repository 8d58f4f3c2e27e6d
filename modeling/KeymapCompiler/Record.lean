/-
KeymapCompiler/Record.lean

Reading a type with named fields.  A `Record` lists the fields in their order of
declaration and says how each is read, whether it may be left out, and which
other names it has.  It is put together from its fields by `<$>` and `<*>`, and
it can be read

* from named values in any order: unknown names are ignored, the known ones are
  read in the order given, so the first fault in that order is the one reported,
  a name given twice is a fault, and missing fields come last;
* from values in order of declaration, where only fields at the end may be left
  out.

`V` is the type of values and `E` that of faults.
-/

namespace KeymapCompiler

/-- A field of a record: its names and the check that a value fits it. -/
structure Field (V E : Type) where
  /-- The name used in diagnostics. -/
  name : String
  /-- Other accepted names. -/
  aliases : List String
  /-- Whether a value fits. -/
  check : V → Except E Unit

/-- Whether a field is given under a name. -/
def Field.accepts {V E : Type} (f : Field V E) (name : String) : Bool :=
  f.name == name || f.aliases.contains name

/-- A record: its fields, and how it is built from the value at each field's position, given the
fault to report for a position without a value. The last argument is the position of the record's
first field. -/
structure Record (V E α : Type) where
  /-- The fields in order of declaration. -/
  fields : List (Field V E)
  /-- The member built from the values of the fields. -/
  build : (Nat → Option V) → (Nat → E) → Nat → Except E α

namespace Record

variable {V E α : Type}

instance : Functor (Record V E) where
  map f r := { fields := r.fields, build := fun get absent i => (r.build get absent i).map f }

instance : Seq (Record V E) where
  seq f r :=
    { fields := f.fields ++ (r ()).fields
      build := fun get absent i => do
        let g ← f.build get absent i
        let x ← (r ()).build get absent (i + f.fields.length)
        .ok (g x) }

/-- A field that must be given. -/
def required (name : String) (aliases : List String) (read : V → Except E α) : Record V E α where
  fields := [⟨name, aliases, fun v => (read v).map fun _ => ()⟩]
  build get absent i :=
    match get i with
    | some v => read v
    | none => .error (absent i)

/-- A field that has a default. -/
def defaulted (name : String) (aliases : List String) (fallback : α) (read : V → Except E α) :
    Record V E α where
  fields := [⟨name, aliases, fun v => (read v).map fun _ => ()⟩]
  build get _ i :=
    match get i with
    | some v => read v
    | none => .ok fallback

/-- Checks named values in their order; `seen` holds the fields met so far. -/
def checkFields (repeated : String → E) (known : List (Field V E)) (seen : List String) :
    List (String × V) → Except E Unit
  | [] => .ok ()
  | (name, v) :: rest =>
    match known.find? (·.accepts name) with
    -- Unknown names are passed over with their values.
    | none => checkFields repeated known seen rest
    | some f =>
      if seen.contains f.name then .error (repeated f.name)
      else do
        f.check v
        checkFields repeated known (f.name :: seen) rest

/-- The value given for the field at a position. -/
def given? (r : Record V E α) (values : List (String × V)) (position : Nat) : Option V :=
  r.fields[position]?.bind fun f => (values.find? fun g => f.accepts g.1).map (·.2)

/-- Reads named values in their order. -/
def ofFields (r : Record V E α) (repeated missing : String → E) (values : List (String × V)) :
    Except E α := do
  checkFields repeated r.fields [] values
  r.build (r.given? values) (fun i => missing ((r.fields[i]?.map (·.name)).getD "")) 0

/-- Reads values in order of declaration; `short` is the fault for a position without one. -/
def ofItems (r : Record V E α) (short : Nat → E) (values : List V) : Except E α :=
  r.build (fun i => values[i]?) short 0

end Record

/-! ### Reading whole texts -/

/-- Why a text was not read. -/
inductive ReadFailure (E : Type) where
  /-- The text is not well formed. -/
  | malformed
  /-- The text is well formed and what it stands for does not fit. -/
  | mismatch (cause : E)

/-- The wording of a failure, given that of a mismatch; nothing for a malformed text. -/
def ReadFailure.message? {E : Type} (wording : E → String) : ReadFailure E → Option String
  | .malformed => none
  | .mismatch cause => some (wording cause)

end KeymapCompiler
