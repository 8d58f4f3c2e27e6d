/-
KeymapCompiler/Proofs/Record.lean

Where a record takes the values of its fields from.  A record is put together from
its fields, and each is read at its own position (`build_map_eq_ok_iff`,
`build_seq_eq_ok_iff`).

When named values are read, a field's value is the only one given under the names of
the field: names that no field has are passed over, and a field that is given again
is a fault (`ofFields_eq_ok`).  The values themselves are those of the text, without
the parts that no field asks for (`forall₂_knownFields?`).
-/
import KeymapCompiler.Json.Record
import KeymapCompiler.Proofs.Except

namespace KeymapCompiler

/-! ### Positions -/

namespace Record

variable {V E α β : Type} {get : Nat → Option V} {absent : Nat → E} {position : Nat}

theorem build_map_eq_ok_iff {f : α → β} {r : Record V E α} {y : β} :
    (f <$> r).build get absent position = .ok y ↔
      ∃ x, r.build get absent position = .ok x ∧ f x = y :=
  map_eq_ok_iff

theorem build_seq_eq_ok_iff {f : Record V E (α → β)} {r : Record V E α} {y : β} :
    (f <*> r).build get absent position = .ok y ↔
      ∃ g, f.build get absent position = .ok g ∧
        ∃ x, r.build get absent (position + f.fields.length) = .ok x ∧ g x = y := by
  show (f.build get absent position >>= fun g =>
    r.build get absent (position + f.fields.length) >>= fun x => .ok (g x)) = .ok y ↔ _
  simp only [bind_eq_ok_iff, Except.ok.injEq]

/-! ### Names -/

variable {repeated missing : String → E} {known : List (Field V E)} {f : Field V E}
  {values : List (String × V)}

theorem accepts_eq (f : Field V E) (name : String) :
    f.accepts name = (f.name :: f.aliases).contains name := by
  rw [Field.accepts, List.contains_cons, BEq.comm]

/-- Values that pass the check hold a field at most once, and not at all once it has been met. -/
theorem filter_accepts_of_checkFields {seen : List String}
    (hf : ∀ name, f.accepts name = true → known.find? (·.accepts name) = some f)
    (h : checkFields repeated known seen values = .ok ()) :
    (values.filter fun g => f.accepts g.1).length ≤ 1 ∧
      (f.name ∈ seen → values.filter (fun g => f.accepts g.1) = []) := by
  induction values generalizing seen with
  | nil => exact ⟨Nat.zero_le _, fun _ => rfl⟩
  | cons g rest ih =>
    obtain ⟨name, v⟩ := g
    rw [checkFields] at h
    by_cases hname : f.accepts name = true
    · rw [hf name hname] at h
      dsimp only at h
      split at h
      · cases h
      · next hnew =>
        obtain ⟨-, -, h⟩ := bind_eq_ok_iff.mp h
        -- The field has been met now, so none of the other values is given for it.
        have hrest := (ih h).2 List.mem_cons_self
        rw [List.filter_cons, if_pos hname, hrest]
        exact ⟨Nat.le_refl _, fun hseen => absurd (List.contains_iff_mem.mpr hseen) hnew⟩
    · rw [List.filter_cons, if_neg hname]
      split at h
      · exact ih h
      · split at h
        · cases h
        · obtain ⟨-, -, h⟩ := bind_eq_ok_iff.mp h
          exact ⟨(ih h).1, fun hseen => (ih h).2 (List.mem_cons_of_mem _ hseen)⟩

/-- Named values are read as a record only if it can be built from them, and then a field that is
the first of its names is given at most once. -/
theorem ofFields_eq_ok {r : Record V E α} {x : α} (h : r.ofFields repeated missing values = .ok x)
    (hposition : r.fields[position]? = some f)
    (hf : ∀ name, f.accepts name = true → r.fields.find? (·.accepts name) = some f) :
    (∃ absent, r.build (r.given? values) absent 0 = .ok x) ∧
      (values.filter (fun g => f.accepts g.1) = [] ∧ r.given? values position = none ∨
        ∃ g, values.filter (fun g => f.accepts g.1) = [g] ∧
          r.given? values position = some g.2) := by
  obtain ⟨⟨⟩, hcheck, hbuild⟩ := bind_eq_ok_iff.mp h
  refine ⟨⟨_, hbuild⟩, ?_⟩
  -- The check leaves at most one value a field, and the first is the one that is given.
  have hfirst := (filter_accepts_of_checkFields hf hcheck).1
  have hgiven : r.given? values position
      = (values.filter fun g => f.accepts g.1).head?.map (·.2) := by
    rw [given?, hposition, List.head?_filter]
    rfl
  rw [hgiven]
  generalize values.filter (fun g => f.accepts g.1) = held at hfirst ⊢
  rcases held with - | ⟨g, - | ⟨g', rest⟩⟩
  · exact .inl ⟨rfl, rfl⟩
  · exact .inr ⟨g, rfl, rfl⟩
  · simp at hfirst

end Record

/-! ### Values of a text -/

namespace Json

variable {depth : Nat}

/-- Whether a field of an object has one of some names. -/
def hasName (names : List String) (field : Option String × Tree) : Bool :=
  field.1.any names.contains

/-- The named values of an object's text are those of its fields, as far as the names are known. -/
theorem forall₂_knownFields? {known : List (Field Value Mismatch)} {names : List String}
    (hknown : ∀ name ∈ names, known.any (·.accepts name) = true)
    {fields : List (Option String × Tree)} {values : List (String × Value)}
    (h : JsonRecord.knownFields? known depth fields = some values) :
    List.Forall₂ (fun field g => field.1 = some g.1 ∧ field.2.value? depth = some g.2)
      (fields.filter (hasName names)) (values.filter fun g => names.contains g.1) := by
  induction fields generalizing values with
  | nil =>
    obtain rfl := Option.some.inj h
    exact .nil
  | cons field rest ih =>
    obtain ⟨name?, t⟩ := field
    rw [JsonRecord.knownFields?] at h
    obtain ⟨name, rfl, hvalues⟩ := Option.bind_eq_some_iff.mp h
    obtain ⟨others, hothers, hvalues⟩ := Option.bind_eq_some_iff.mp hvalues
    -- A field that is named is kept on both sides, any other is dropped by the filters.
    by_cases hname : names.contains name = true
    · rw [if_pos (hknown name (List.contains_iff_mem.mp hname))] at hvalues
      obtain ⟨v, hv, e⟩ := Option.bind_eq_some_iff.mp hvalues
      obtain rfl := Option.some.inj e
      rw [List.filter_cons, if_pos (by exact hname), List.filter_cons, if_pos (by exact hname)]
      exact .cons ⟨rfl, hv⟩ (ih hothers)
    · rw [List.filter_cons, if_neg (by exact hname)]
      split at hvalues
      · obtain ⟨v, hv, e⟩ := Option.bind_eq_some_iff.mp hvalues
        obtain rfl := Option.some.inj e
        rw [List.filter_cons, if_neg (by exact hname)]
        exact ih hothers
      · obtain rfl := Option.some.inj hvalues
        exact ih hothers

/-- The values of an array's text are those of its items, and every item has one. -/
theorem itemValues?_eq_some {items : List Tree} {values : List Value}
    (h : itemValues? depth items = some values) (i : Nat) :
    items[i]? = none ∧ values[i]? = none ∨
      ∃ t v, items[i]? = some t ∧ values[i]? = some v ∧ t.value? depth = some v := by
  induction items generalizing values i with
  | nil =>
    obtain rfl := Option.some.inj h
    exact .inl ⟨rfl, rfl⟩
  | cons t rest ih =>
    rw [itemValues?] at h
    obtain ⟨v, hv, h⟩ := Option.bind_eq_some_iff.mp h
    obtain ⟨others, hothers, h⟩ := Option.bind_eq_some_iff.mp h
    obtain rfl := Option.some.inj h
    -- The values stand at the places of their items.
    cases i with
    | zero => exact .inr ⟨t, v, rfl, rfl, hv⟩
    | succ i => exact ih hothers i

/-- Reading any values keeps them all. -/
theorem items_any (values : List Value) : Reader.items Reader.any values = .ok values := by
  induction values with
  | nil => rfl
  | cons v rest ih =>
    rw [Reader.items, ih]
    rfl

/-- A list of any values is that of the array given, or empty if none is. -/
theorem build_list_any_eq_ok_iff {name : String} {aliases : List String}
    {get : Nat → Option Value} {absent : Nat → Mismatch} {position : Nat} {values : List Value} :
    (JsonRecord.list name aliases Reader.any).build get absent position = .ok values ↔
      get position = none ∧ values = [] ∨ get position = some (.array values) := by
  unfold JsonRecord.list Record.defaulted
  dsimp only
  rcases get position with - | v
  · simp [eq_comm]
  · cases v with
    | array items =>
      show Reader.items Reader.any items = .ok values ↔ _
      rw [items_any]
      simp
    | null | bool b | number n | string s | object fields => simp [Reader.list]

/-- A text is read if its tree is. -/
theorem readText_eq_ok_iff {α : Type} {read : Tree → Option (Except Mismatch α)} {text : String}
    {x : α} :
    readText read text = .ok x ↔ ∃ t, Tree.ofString? text = some t ∧ read t = some (.ok x) := by
  unfold readText
  rcases Tree.ofString? text with - | t
  · simp
  · dsimp only
    rcases hread : read t with - | (cause | y)
    · simp [hread]
    · simp only [Option.some.injEq, exists_eq_left', hread, reduceCtorEq]
      split <;> simp
    · simp [hread]

end Json

end KeymapCompiler
