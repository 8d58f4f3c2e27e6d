/-
KeymapCompiler/Declaration.lean

Declaring the behaviors of a document.  A hold-tap or macro that is valid becomes
a candidate: a reference and the number of parameters it takes.  Candidates are
registered in order, so the first of a name is accepted, and an entry that is
not accepted gets one warning and registers nothing.
-/
import KeymapCompiler.Behavior.Registry
import KeymapCompiler.Document
import KeymapCompiler.Report
import KeymapCompiler.Text.Blank

namespace KeymapCompiler

open KeymapCompiler.Behavior

/-- Why an entry cannot be declared. -/
inductive DeclarationFault where
  /-- It has no name. -/
  | unnamed
  /-- A hold-tap with other than two bindings. -/
  | bindingCount (given : Nat)
  /-- A macro with more than two parameters. -/
  | paramCount (given : Nat)
  /-- Another behavior of that name takes as many parameters. -/
  | defined
  /-- Another behavior of that name takes another number of parameters. -/
  | conflict (existing : Descriptor)

/-- The kind of warning that a fault is reported as. -/
def DeclarationFault.kind : DeclarationFault → WarningKind
  | .conflict _ => .registryConflict
  | _ => .skippedEntry

/-- The wording of a fault, for an entry of a sort. -/
def DeclarationFault.message (sort : EntryKind) : DeclarationFault → String
  | .unnamed => s!"{sort.label} has no name"
  | .bindingCount given => s!"hold-tap needs exactly 2 bindings (hold, tap), got {given}"
  | .paramCount given => s!"macros take at most 2 parameters, this one declares {given}"
  | .defined => "a behavior with this name is already defined"
  | .conflict existing =>
    s!"already registered with {existing.arity} parameters ({existing.origin.shown}), "
      ++ "keeping the first definition"

/-! ### Candidates -/

/-- The label of the node of a behavior that is declared under a name. -/
def declaredLabel (name : String) : String :=
  label (Text.trimmed name)

/-- The reference to a behavior that is declared under a name. -/
def declaredReference (name : String) : String :=
  reference (Text.trimmed name)

/-- What a hold-tap declares. -/
def HoldTap.candidate (h : HoldTap) : Except DeclarationFault Descriptor :=
  if declaredLabel h.name = "" then .error .unnamed
  else if h.bindings.length ≠ 2 then .error (.bindingCount h.bindings.length)
  else .ok ⟨declaredReference h.name, 2, .holdTap⟩

/-- What a macro declares. -/
def UserMacro.candidate (m : UserMacro) : Except DeclarationFault Descriptor :=
  if declaredLabel m.name = "" then .error .unnamed
  else if 2 < m.arity then .error (.paramCount m.arity)
  else .ok ⟨declaredReference m.name, m.arity, .userMacro⟩

/-! ### Declaring -/

/-- Registers a candidate and answers the registry after it, or why it was not accepted. -/
def declareOne (r : Registry) (candidate : Except DeclarationFault Descriptor) :
    Except DeclarationFault Registry := do
  let d ← candidate
  match r.register d with
  | (.added, r') => .ok r'
  | (.alreadyPresent, _) => .error .defined
  | (.conflict existing, _) => .error (.conflict existing)

/-- Declares entries in order, and lists the accepted ones with the registry after them. -/
def declareAll {α : Type} (sort : α → EntryKind) (name : α → String)
    (candidate : α → Except DeclarationFault Descriptor) (r : Registry) :
    List α → Reported (List α × Registry)
  | [] => pure ([], r)
  | a :: rest =>
    match declareOne r (candidate a) with
    | .ok r' => do
      let (accepted, final) ← declareAll sort name candidate r' rest
      pure (a :: accepted, final)
    | .error fault => do
      Reported.warn fault.kind ((sort a).label ++ " " ++ name a) (fault.message (sort a))
      declareAll sort name candidate r rest

/-- Declares hold-taps. -/
def declareHoldTaps (r : Registry) (hs : List HoldTap) : Reported (List HoldTap × Registry) :=
  declareAll (fun _ => .holdTap) (·.name) HoldTap.candidate r hs

/-- Declares macros. -/
def declareMacros (r : Registry) (ms : List UserMacro) : Reported (List UserMacro × Registry) :=
  declareAll (fun _ => .userMacro) (·.name) UserMacro.candidate r ms

end KeymapCompiler
