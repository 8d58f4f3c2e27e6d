/-
KeymapCompiler/Behavior/Registry.lean

The behaviors known while a document is compiled, with the number of parameters
each takes.  A registry starts with the built-in behaviors and is extended with
the document's hold-taps and macros.  Names are registered once: the first
registration of a name stays, and a later one is answered but changes nothing.

`register_of_get?_eq_none` and `register_of_get?_eq_some` say what a registration
does.
-/
import KeymapCompiler.Behavior

namespace KeymapCompiler.Behavior

/-- Where a behavior was declared. -/
inductive Origin where
  /-- Shipped with the firmware. -/
  | builtin
  /-- A macro of the document. -/
  | userMacro
  /-- A hold-tap of the document. -/
  | holdTap
deriving DecidableEq, Repr

/-- An origin as a diagnostic shows it. -/
def Origin.shown : Origin → String
  | .builtin => "Builtin"
  | .userMacro => "UserMacro"
  | .holdTap => "UserHoldTap"

/-- A registered behavior. -/
structure Descriptor where
  /-- Its reference. -/
  name : String
  /-- The number of parameters it takes. -/
  arity : Nat
  /-- Where it was declared. -/
  origin : Origin
deriving DecidableEq, Repr

/-- Known behaviors in the order of registration, each name once. -/
structure Registry where
  /-- The registered behaviors. -/
  entries : List Descriptor
  /-- No name is registered twice. -/
  nodup : (entries.map (·.name)).Nodup

/-- The answer to a registration. -/
inductive Registration where
  /-- The name was new and is registered now. -/
  | added
  /-- The name was registered with the same number of parameters. -/
  | alreadyPresent
  /-- The name was registered with another number of parameters. -/
  | conflict (existing : Descriptor)
deriving DecidableEq, Repr

namespace Registry

/-- The registry without behaviors. -/
def empty : Registry := ⟨[], List.nodup_nil⟩

instance : Inhabited Registry := ⟨empty⟩

/-- The behavior registered under a name. -/
def get? (r : Registry) (name : String) : Option Descriptor :=
  r.entries.find? (·.name == name)

/-- The number of parameters of the behavior registered under a name. -/
def arity? (r : Registry) (name : String) : Option Nat :=
  (r.get? name).map (·.arity)

/-- The number of registered behaviors. -/
def size (r : Registry) : Nat := r.entries.length

/-- A name that is not found is not registered. -/
theorem not_mem_of_get?_eq_none {r : Registry} {name : String} (h : r.get? name = none) :
    name ∉ r.entries.map (·.name) := by
  intro mem
  obtain ⟨d, hd, rfl⟩ := List.mem_map.mp mem
  have := List.find?_eq_none.mp h d hd
  simp at this

/-- Adds a behavior whose name is not registered. -/
def add (r : Registry) (d : Descriptor) (h : r.get? d.name = none) : Registry where
  entries := r.entries ++ [d]
  nodup := by
    rw [List.map_append, List.nodup_append]
    refine ⟨r.nodup, by simp, fun a ha b hb => ?_⟩
    have hb' : b = d.name := by simpa using hb
    subst hb'
    exact fun e => not_mem_of_get?_eq_none h (e ▸ ha)

@[simp] theorem entries_add (r : Registry) (d : Descriptor) (h : r.get? d.name = none) :
    (r.add d h).entries = r.entries ++ [d] := rfl

/-- Registers a behavior and answers what became of it. -/
def register (r : Registry) (d : Descriptor) : Registration × Registry :=
  match h : r.get? d.name with
  | some existing =>
    if existing.arity = d.arity then (.alreadyPresent, r) else (.conflict existing, r)
  | none => (.added, r.add d h)

/-- Registers behaviors in order. -/
def registerAll (r : Registry) (ds : List Descriptor) : Registry :=
  ds.foldl (fun acc d => (acc.register d).2) r

/-- The registry of the built-in behaviors. -/
def withBuiltins : Registry :=
  empty.registerAll (builtins.map fun b => ⟨b.1, b.2.arity, .builtin⟩)

/-! ### What a registration does -/

/-- A new name is added at the end. -/
theorem register_of_get?_eq_none {r : Registry} {d : Descriptor} (h : r.get? d.name = none) :
    r.register d = (.added, r.add d h) := by
  unfold register
  split
  · rename_i e he; rw [h] at he; cases he
  · rfl

/-- A registered name leaves the registry as it is. -/
theorem register_of_get?_eq_some {r : Registry} {d e : Descriptor} (h : r.get? d.name = some e) :
    r.register d = (if e.arity = d.arity then .alreadyPresent else .conflict e, r) := by
  unfold register
  split
  · rename_i e' he
    rw [h] at he
    obtain rfl := Option.some.inj he
    split <;> rfl
  · rename_i he; rw [h] at he; cases he

end Registry

end KeymapCompiler.Behavior
