/-
KeymapCompiler/Proofs/Behavior/Registry.lean

A registry over a run of registrations.  An answer may depend on all that was
registered before, but it does so through one thing only, the first registration
of the name:

* a registration keeps what is known and adds its name if nothing is known of it
  (`get?_register`);
* so a run knows of every name the first registration, in the registry that it
  started with or else in the run (`get?_registerAll`), by induction on the run.

`recordsFirst_registerAll` says it of the answers, of the lookups and of the number
of behaviors.  Nothing is assumed of the registry that a run starts with, so it
holds of the empty one and of the one with the built-in behaviors.
-/
import KeymapCompiler.Behavior.Registry
import Mathlib.Data.Finset.Card
import Mathlib.Data.List.Nodup

namespace KeymapCompiler.Behavior.Registry

variable (r start : Registry) (calls : List Descriptor) (d : Descriptor) (name : String)

/-! ### Lookups -/

variable {r d name} in
/-- The behavior found under a name is the one that is registered with it. -/
theorem get?_eq_some_iff : r.get? name = some d ↔ d ∈ r.entries ∧ d.name = name := by
  constructor
  · intro h
    exact ⟨List.mem_of_find?_eq_some h, by simpa using List.find?_some h⟩
  · rintro ⟨hd, rfl⟩
    rcases h : r.get? d.name with - | e
    · exact absurd (List.mem_map_of_mem hd) (Registry.not_mem_of_get?_eq_none h)
    · have hname : e.name = d.name := by simpa using List.find?_some h
      rw [List.inj_on_of_nodup_map r.nodup (List.mem_of_find?_eq_some h) hd hname]

theorem mem_names_iff : name ∈ r.entries.map (·.name) ↔ r.get? name ≠ none := by
  constructor
  · intro mem hnone
    exact not_mem_of_get?_eq_none hnone mem
  · intro h
    obtain ⟨e, he⟩ := Option.ne_none_iff_exists'.mp h
    obtain ⟨hmem, rfl⟩ := get?_eq_some_iff.mp he
    exact List.mem_map_of_mem hmem

/-- What a registry knows stays known when behaviors are registered behind it. -/
theorem get?_of_entries_eq_append {r final : Registry} {ds : List Descriptor}
    (h : final.entries = r.entries ++ ds) {name : String} {d : Descriptor}
    (hd : r.get? name = some d) : final.get? name = some d := by
  obtain ⟨hmem, hname⟩ := get?_eq_some_iff.mp hd
  refine get?_eq_some_iff.mpr ⟨?_, hname⟩
  rw [h]
  exact List.mem_append_left ds hmem

theorem get?_withBuiltins_eq_none_iff (name : String) :
    withBuiltins.get? name = none ↔ builtins.lookup name = none := by
  have entries : withBuiltins.entries = builtins.map fun b => ⟨b.1, b.2.arity, .builtin⟩ := by
    decide +kernel
  rw [get?, entries, List.find?_eq_none, List.forall_mem_map, List.lookup_eq_none_iff]
  refine forall₂_congr fun b _ => ?_
  rw [beq_iff_eq, bne_iff_ne, ne_comm]

/-! ### One registration -/

theorem get?_add (h : r.get? d.name = none) :
    (r.add d h).get? name = (r.get? name).or ([d].find? (·.name == name)) := by
  show (r.entries ++ [d]).find? _ = _
  exact List.find?_append

variable {r d} in
/-- A behavior that is added takes its own name and no other. -/
theorem get?_add_eq_none_iff (h : r.get? d.name = none) (name : String) :
    (r.add d h).get? name = none ↔ r.get? name = none ∧ d.name ≠ name := by
  rw [get?_add, Option.or_eq_none_iff, List.find?_singleton]
  simp

/-- A registration keeps what is known and adds what is new. -/
theorem get?_register :
    (r.register d).2.get? name = (r.get? name).or ([d].find? (·.name == name)) := by
  rcases h : r.get? d.name with - | e
  · rw [register_of_get?_eq_none h]
    exact r.get?_add d name h
  · rw [register_of_get?_eq_some h]
    show r.get? name = _
    by_cases hname : d.name = name
    · -- The name is known already, so the registration does not count.
      subst hname
      rw [h, Option.some_or]
    · have other : [d].find? (·.name == name) = none := by simp [hname]
      rw [other, Option.or_none]

/-! ### Runs -/

/-- The first registration of a name in a run: that of the registry which the run starts with, or
else the first one of the run. -/
def first? (name : String) : Option Descriptor :=
  (start.get? name).or (calls.find? (·.name == name))

theorem first?_eq_none_iff :
    first? start calls name = none ↔ start.get? name = none ∧ ∀ c ∈ calls, c.name ≠ name := by
  rw [first?, Option.or_eq_none_iff, List.find?_eq_none]
  simp only [beq_iff_eq, ne_eq]

/-- After a run the first registration of every name is known. -/
theorem get?_registerAll : (start.registerAll calls).get? name = first? start calls name := by
  induction calls generalizing start with
  | nil => exact Option.or_none.symm
  | cons c rest ih =>
    show ((start.register c).2.registerAll rest).get? name = _
    rw [ih, first?, first?, get?_register, Option.or_assoc, ← List.find?_append]
    rfl

/-- A run ends with as many behaviors as there are names. -/
theorem size_registerAll :
    (start.registerAll calls).size = ((start.entries ++ calls).map (·.name)).toFinset.card := by
  have same : ((start.registerAll calls).entries.map (·.name)).toFinset
      = ((start.entries ++ calls).map (·.name)).toFinset := by
    ext name
    rw [List.mem_toFinset, List.mem_toFinset, mem_names_iff, get?_registerAll, ne_eq,
      first?_eq_none_iff, List.map_append, List.mem_append, mem_names_iff, List.mem_map]
    simp only [not_and_or, not_forall, not_not, exists_prop, ne_eq]
  rw [← same, List.toFinset_card_of_nodup (start.registerAll calls).nodup, List.length_map]
  rfl

/-- The registry after a run answers by the first registration of a name. -/
structure RecordsFirst (start : Registry) (calls : List Descriptor) (r : Registry) : Prop where
  /-- A registration is answered as new exactly when its name was neither there at the start nor
  registered in the run. -/
  added : ∀ d : Descriptor, (r.register d).1 = .added ↔
    start.get? d.name = none ∧ ∀ c ∈ calls, c.name ≠ d.name
  /-- One that is not new changes nothing, and its answer compares it with the first one. -/
  repeated : ∀ d e : Descriptor, first? start calls d.name = some e →
    r.register d = (if e.arity = d.arity then .alreadyPresent else .conflict e, r)
  /-- A lookup finds the first registration. -/
  get : ∀ name : String, r.get? name = first? start calls name
  /-- So does a lookup of the number of parameters. -/
  arity : ∀ name : String, r.arity? name = (first? start calls name).map (·.arity)
  /-- A behavior is found under its own name.  This holds of every registry, since its entries are
  searched by the names they have; there are no keys besides. -/
  name : ∀ (name : String) (e : Descriptor), r.get? name = some e → e.name = name
  /-- There are as many behaviors as different names, those at the start among them. -/
  size : r.size = ((start.entries ++ calls).map (·.name)).toFinset.card

/-- **Runs.**  Whatever is registered in whatever order, the registry after a run knows the first
registration of every name and answers by it. -/
theorem recordsFirst_registerAll : RecordsFirst start calls (start.registerAll calls) where
  added := by
    intro d
    rw [← first?_eq_none_iff, ← get?_registerAll]
    -- The answer goes by what the registry finds under the name, which is the first registration.
    rcases h : (start.registerAll calls).get? d.name with - | e
    · rw [register_of_get?_eq_none h]
      exact iff_of_true rfl rfl
    · rw [register_of_get?_eq_some h]
      refine iff_of_false ?_ (Option.some_ne_none e)
      show (if e.arity = d.arity then Registration.alreadyPresent else .conflict e) ≠ .added
      split <;> simp
  repeated := by
    intro d e h
    rw [← get?_registerAll] at h
    exact register_of_get?_eq_some h
  get := start.get?_registerAll calls
  arity := by
    intro name
    rw [arity?, get?_registerAll]
  name := fun _ _ h => (get?_eq_some_iff.mp h).2
  size := start.size_registerAll calls

end KeymapCompiler.Behavior.Registry
