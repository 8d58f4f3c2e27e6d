/-
KeymapCompiler/Report.lean

Warnings.  A compile recovers from faults in single entries and says so in a
warning, which names the place and what was done about it.  A report is the list
of warnings in the order in which they were given.

`Reported α` is a result together with the warnings given on the way; in a
sequence of steps the warnings of the steps follow one another
(`warnings_bind`), and no step sees or changes the warnings of another.
-/

namespace KeymapCompiler

/-- The kinds of warnings. -/
inductive WarningKind where
  /-- A binding's behavior is neither built in nor a reference nor raw. -/
  | unknownBehavior
  /-- Parameters of a wrong number or sort. -/
  | invalidParameterShape
  /-- A layer, key position or child that does not resolve. -/
  | unresolvedReference
  /-- A build parameter without a setting. -/
  | configMappingMiss
  /-- A behavior declared again with another number of parameters. -/
  | registryConflict
  /-- An entry left out or changed for another reason. -/
  | skippedEntry
deriving DecidableEq, Repr

/-- The title of a kind of warning. -/
def WarningKind.title : WarningKind → String
  | .unknownBehavior => "Unknown Behavior"
  | .invalidParameterShape => "Invalid Parameter Shape"
  | .unresolvedReference => "Unresolved Reference"
  | .configMappingMiss => "Config Mapping Miss"
  | .registryConflict => "Registry Conflict"
  | .skippedEntry => "Skipped Entry"

/-- The name of a kind of warning in machine-readable output. -/
def WarningKind.key : WarningKind → String
  | .unknownBehavior => "unknown_behavior"
  | .invalidParameterShape => "invalid_parameter_shape"
  | .unresolvedReference => "unresolved_reference"
  | .configMappingMiss => "config_mapping_miss"
  | .registryConflict => "registry_conflict"
  | .skippedEntry => "skipped_entry"

/-- A warning. -/
structure Warning where
  /-- What went wrong. -/
  kind : WarningKind
  /-- Where it went wrong. -/
  context : String
  /-- What it was and what was done about it. -/
  message : String
deriving DecidableEq, Repr

/-- A warning as one line. -/
def Warning.shown (w : Warning) : String :=
  "[" ++ w.context ++ "] " ++ w.kind.title ++ ": " ++ w.message

/-- Warnings in the order in which they were given. -/
abbrev Report := List Warning

namespace Report

/-- The number of warnings of a kind. -/
def count (r : Report) (kind : WarningKind) : Nat :=
  (r.filter (·.kind == kind)).length

/-- Whether there is no warning. -/
def isClean (r : Report) : Bool := r.isEmpty

/-- Lines with numbers from one. -/
def numbered (lines : List String) : String :=
  String.join (lines.mapIdx fun i line => s!"  {i + 1}. {line}\n")

/-- A report for a terminal; a clean one is empty. -/
def message (r : Report) : String :=
  if r.isEmpty then ""
  else s!"⚠️  {r.length} warnings:\n" ++ numbered (r.map Warning.shown)

end Report

/-- A result and the warnings given on the way to it. -/
structure Reported (α : Type) where
  /-- The result. -/
  value : α
  /-- The warnings, oldest first. -/
  warnings : Report
deriving Repr

namespace Reported

instance : Monad Reported where
  pure a := ⟨a, []⟩
  bind x f := ⟨(f x.value).value, x.warnings ++ (f x.value).warnings⟩

@[simp] theorem value_pure {α : Type} (a : α) : (pure a : Reported α).value = a := rfl

@[simp] theorem warnings_pure {α : Type} (a : α) : (pure a : Reported α).warnings = [] := rfl

@[simp] theorem value_bind {α β : Type} (x : Reported α) (f : α → Reported β) :
    (x >>= f).value = (f x.value).value := rfl

@[simp] theorem warnings_bind {α β : Type} (x : Reported α) (f : α → Reported β) :
    (x >>= f).warnings = x.warnings ++ (f x.value).warnings := rfl

@[ext] theorem ext {α : Type} {x y : Reported α} (hv : x.value = y.value)
    (hw : x.warnings = y.warnings) : x = y := by
  cases x; cases y; simp_all

instance : LawfulMonad Reported :=
  LawfulMonad.mk' Reported
    (fun x => ext rfl (by simp [Functor.map]))
    (fun a f => ext rfl (by simp))
    (fun x f g => ext rfl (by simp))

@[simp] theorem value_map {α β : Type} (f : α → β) (x : Reported α) :
    (f <$> x).value = f x.value := rfl

@[simp] theorem warnings_map {α β : Type} (f : α → β) (x : Reported α) :
    (f <$> x).warnings = x.warnings := by
  simp [Functor.map]

/-- Gives one warning. -/
def warn (kind : WarningKind) (context message : String) : Reported Unit :=
  ⟨(), [⟨kind, context, message⟩]⟩

/-- Gives one warning if a condition holds. -/
def warnIf (condition : Bool) (kind : WarningKind) (context message : String) : Reported Unit :=
  ⟨(), if condition then [⟨kind, context, message⟩] else []⟩

/-- Gives warnings. -/
def report (warnings : Report) : Reported Unit := ⟨(), warnings⟩

@[simp] theorem warnings_warn (kind : WarningKind) (context message : String) :
    (warn kind context message).warnings = [⟨kind, context, message⟩] := rfl

@[simp] theorem warnings_warnIf (condition : Bool) (kind : WarningKind)
    (context message : String) :
    (warnIf condition kind context message).warnings
      = if condition then [⟨kind, context, message⟩] else [] := rfl

@[simp] theorem warnings_report (warnings : Report) : (report warnings).warnings = warnings := rfl

/-- Does a step for each item in order, and lists the results. -/
def each {α β : Type} (f : α → Reported β) : List α → Reported (List β)
  | [] => pure []
  | a :: rest => do
    let b ← f a
    let bs ← each f rest
    pure (b :: bs)

@[simp] theorem value_each {α β : Type} (f : α → Reported β) (xs : List α) :
    (each f xs).value = xs.map fun a => (f a).value := by
  induction xs with
  | nil => rfl
  | cons a rest ih => simp [each, ih]

@[simp] theorem warnings_each {α β : Type} (f : α → Reported β) (xs : List α) :
    (each f xs).warnings = xs.flatMap fun a => (f a).warnings := by
  induction xs with
  | nil => rfl
  | cons a rest ih => simp [each, ih]

theorem each_map {α β γ : Type} (f : β → Reported γ) (g : α → β) (xs : List α) :
    each f (xs.map g) = each (fun a => f (g a)) xs := by
  induction xs with
  | nil => rfl
  | cons a rest ih => rw [List.map_cons, each, each, ih]

theorem each_congr {α β : Type} {f g : α → Reported β} {xs : List α}
    (h : ∀ a ∈ xs, f a = g a) : each f xs = each g xs := by
  induction xs with
  | nil => rfl
  | cons a rest ih =>
    rw [each, each, h a List.mem_cons_self, ih fun b hb => h b (List.mem_cons_of_mem _ hb)]

end Reported

end KeymapCompiler
