/-
KeymapCompiler/Proofs/Declaration.lean

What declaring a list of entries does.  `declareOne_eq_ok_iff` says once what an
accepted entry must have: a valid candidate whose name is not registered.  The
rest follows by induction on the entries: the accepted ones are registered in
order behind what was there (`entries_declareAll`), and there is nothing to warn
of exactly when all are accepted (`warnings_declareAll_eq_nil_iff`).
-/
import KeymapCompiler.Declaration
import KeymapCompiler.Proofs.Behavior.Registry

namespace KeymapCompiler

open KeymapCompiler.Behavior

/-- What an entry needs to be accepted. -/
theorem declareOne_eq_ok_iff {r r' : Registry} {candidate : Except DeclarationFault Descriptor} :
    declareOne r candidate = .ok r' ↔
      ∃ d, candidate = .ok d ∧ ∃ h : r.get? d.name = none, r' = r.add d h := by
  rcases candidate with fault | d
  · simp [declareOne, bind, Except.bind]
  · simp only [declareOne, bind, Except.bind]
    -- The registry takes a name once, whatever the number of parameters is.
    rcases h : r.get? d.name with - | e
    · rw [Registry.register_of_get?_eq_none h]
      constructor
      · intro e
        exact ⟨d, rfl, h, (Except.ok.inj e).symm⟩
      · rintro ⟨d', e, h', rfl⟩
        obtain rfl := Except.ok.inj e
        rfl
    · rw [Registry.register_of_get?_eq_some h]
      refine iff_of_false ?_ ?_
      · by_cases ha : e.arity = d.arity
        · simp [ha]
        · simp [ha]
      · rintro ⟨d', e', h', -⟩
        obtain rfl := Except.ok.inj e'
        rw [h] at h'
        cases h'

section

variable {α : Type} (sort : α → EntryKind) (name : α → String)
  (candidate : α → Except DeclarationFault Descriptor)

/-! ### One step -/

theorem declareAll_cons_of_ok {r r' : Registry} {a : α} (h : declareOne r (candidate a) = .ok r')
    (rest : List α) :
    (declareAll sort name candidate r (a :: rest)).value
        = (a :: (declareAll sort name candidate r' rest).value.1,
          (declareAll sort name candidate r' rest).value.2) ∧
      (declareAll sort name candidate r (a :: rest)).warnings
        = (declareAll sort name candidate r' rest).warnings := by
  rw [declareAll]
  simp only [h]
  refine ⟨rfl, ?_⟩
  simp

theorem declareAll_cons_of_error {r : Registry} {a : α} {fault : DeclarationFault}
    (h : declareOne r (candidate a) = .error fault) (rest : List α) :
    (declareAll sort name candidate r (a :: rest)).value
        = (declareAll sort name candidate r rest).value ∧
      (declareAll sort name candidate r (a :: rest)).warnings
        = ⟨fault.kind, (sort a).label ++ " " ++ name a, fault.message (sort a)⟩
          :: (declareAll sort name candidate r rest).warnings := by
  rw [declareAll]
  simp only [h]
  exact ⟨rfl, rfl⟩

/-! ### All entries -/

/-- The accepted entries are among the given ones, in order. -/
theorem sublist_declareAll (r : Registry) (xs : List α) :
    (declareAll sort name candidate r xs).value.1.Sublist xs := by
  induction xs generalizing r with
  | nil => exact List.Sublist.refl []
  | cons a rest ih =>
    rcases h : declareOne r (candidate a) with fault | r'
    · rw [(declareAll_cons_of_error sort name candidate h rest).1]
      exact (ih r).cons a
    · rw [(declareAll_cons_of_ok sort name candidate h rest).1]
      exact (ih r').cons_cons a

/-- The registry is extended with what the accepted entries declare, in order. -/
theorem entries_declareAll (r : Registry) (xs : List α) :
    (declareAll sort name candidate r xs).value.2.entries
      = r.entries ++ (declareAll sort name candidate r xs).value.1.filterMap
          fun a => (candidate a).toOption := by
  induction xs generalizing r with
  | nil => exact (List.append_nil _).symm
  | cons a rest ih =>
    rcases h : declareOne r (candidate a) with fault | r'
    · rw [(declareAll_cons_of_error sort name candidate h rest).1]
      exact ih r
    · obtain ⟨d, hd, hnew, rfl⟩ := declareOne_eq_ok_iff.mp h
      rw [(declareAll_cons_of_ok sort name candidate h rest).1, ih, Registry.entries_add,
        List.filterMap_cons_some (by rw [hd]; rfl), List.append_assoc, List.singleton_append]

/-- There is nothing to warn of exactly when all entries are accepted. -/
theorem warnings_declareAll_eq_nil_iff (r : Registry) (xs : List α) :
    (declareAll sort name candidate r xs).warnings = []
      ↔ (declareAll sort name candidate r xs).value.1 = xs := by
  induction xs generalizing r with
  | nil => exact iff_of_true rfl rfl
  | cons a rest ih =>
    rcases h : declareOne r (candidate a) with fault | r'
    · obtain ⟨hvalue, hwarnings⟩ := declareAll_cons_of_error sort name candidate h rest
      rw [hvalue, hwarnings]
      refine iff_of_false (by simp) fun e => ?_
      -- One entry is refused already, so those that are accepted cannot be all.
      have hle := (sublist_declareAll sort name candidate r rest).length_le
      rw [e, List.length_cons] at hle
      omega
    · obtain ⟨hvalue, hwarnings⟩ := declareAll_cons_of_ok sort name candidate h rest
      rw [hvalue, hwarnings, ih r']
      simp

/-- Entries that are made from others are declared as these are. -/
theorem declareAll_map {β : Type} (make : β → α) (r : Registry) (ys : List β) :
    declareAll sort name candidate r (ys.map make)
      = (fun p => (p.1.map make, p.2)) <$> declareAll (fun b => sort (make b))
          (fun b => name (make b)) (fun b => candidate (make b)) r ys := by
  induction ys generalizing r with
  | nil => rfl
  | cons b rest ih =>
    rw [List.map_cons, declareAll, declareAll]
    rcases h : declareOne r (candidate (make b)) with fault | r'
    · simp only [ih, map_bind]
    · simp only [ih, map_bind, map_pure, bind_map_left, List.map_cons]

/-- Entries that follow others are declared on top of the registry that these leave. -/
theorem declareAll_append (r : Registry) (xs ys : List α) :
    declareAll sort name candidate r (xs ++ ys) = (do
      let first ← declareAll sort name candidate r xs
      let second ← declareAll sort name candidate first.2 ys
      pure (first.1 ++ second.1, second.2)) := by
  induction xs generalizing r with
  | nil => rw [List.nil_append, declareAll, pure_bind]; exact (bind_pure _).symm
  | cons a rest ih =>
    rw [List.cons_append, declareAll, declareAll]
    rcases h : declareOne r (candidate a) with fault | r'
    · simp only [ih, bind_assoc]
    · simp only [ih, bind_assoc, pure_bind, List.cons_append]

end

end KeymapCompiler
