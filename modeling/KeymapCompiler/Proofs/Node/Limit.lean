/-
KeymapCompiler/Proofs/Node/Limit.lean

The layers that a combo is limited to.  A combo names layers by index or by name, and
a reference can stand for all layers instead.

There are three cases (`LayerFilter.Means`).  A combo that names no layer, or all of
them, is not limited.  One whose references all stand for layers is limited to these
(`Limited`), listed in order of first occurrence.  Otherwise the limit is dropped, and
the first reference that stands for no layer is to blame.
-/
import KeymapCompiler.Node.Combo
import KeymapCompiler.Proofs.Devicetree
import KeymapCompiler.Proofs.Distinct
import KeymapCompiler.Proofs.Node.Warnings
import KeymapCompiler.Proofs.Scan

namespace KeymapCompiler

/-! ### Small and capital letters -/

namespace Text

theorem toNat_toLower (c : Char) :
    c.toLower.toNat = if 65 ≤ c.toNat ∧ c.toNat ≤ 90 then c.toNat + 32 else c.toNat := by
  have first : 'A'.toNat = 65 := rfl
  have last : 'Z'.toNat = 90 := rfl
  unfold Char.toLower
  simp only [ge_iff_le, UInt32.le_iff_toNat_le, Char.toNat_val, first, last]
  split
  · rw [← Char.toNat_val]
    show (c.val + 32).toNat = _
    rw [UInt32.toNat_add, Char.toNat_val]
    simp only [UInt32.reduceToNat]
    omega
  · rfl

/-- A small letter is the small form of itself and of the capital letter. -/
theorem toLower_eq_iff {small capital : Char} (hcapital : 65 ≤ capital.toNat ∧ capital.toNat ≤ 90)
    (hsmall : small.toNat = capital.toNat + 32) (c : Char) :
    c.toLower = small ↔ c = small ∨ c = capital := by
  rw [← Char.toNat_inj, ← Char.toNat_inj, ← Char.toNat_inj, toNat_toLower]
  split
  · omega
  · omega

end Text

/-! ### References -/

namespace LayerRef

/-- A reference stands for all layers. -/
inductive MeansAll : LayerRef → Prop where
  /-- A negative index does. -/
  | negative {n : Int} (h : n < 0) : MeansAll (.index n)
  /-- The name `all` does, in small and capital letters. -/
  | word {a b c : Char} (ha : a = 'a' ∨ a = 'A') (hb : b = 'l' ∨ b = 'L')
      (hc : c = 'l' ∨ c = 'L') : MeansAll (.name (String.ofList [a, b, c]))

theorem isAll_iff (r : LayerRef) : r.isAll = true ↔ r.MeansAll := by
  have letterA : ∀ c : Char, c.toLower = 'a' ↔ c = 'a' ∨ c = 'A' :=
    Text.toLower_eq_iff (by decide) (by decide)
  have letterL : ∀ c : Char, c.toLower = 'l' ↔ c = 'l' ∨ c = 'L' :=
    Text.toLower_eq_iff (by decide) (by decide)
  rcases r with n | s
  · rw [isAll, decide_eq_true_iff]
    constructor
    · exact .negative
    · rintro ⟨h⟩
      exact h
  · rw [isAll, beq_iff_eq]
    constructor
    · -- Lower case keeps the number of characters, so the word has three of them.
      intro h
      have length : s.toList.length = 3 := by simpa using congrArg List.length h
      obtain ⟨a, b, c, chars⟩ := List.length_eq_three.mp length
      simp only [chars, List.map_cons, List.map_nil, List.cons.injEq, and_true] at h
      obtain ⟨ha, hb, hc⟩ := h
      rw [← String.ofList_toList (s := s), chars]
      exact .word ((letterA a).mp ha) ((letterL b).mp hb) ((letterL c).mp hc)
    · rintro ⟨⟩
      rename_i a b c ha hb hc
      rw [String.toList_ofList, List.map_cons, List.map_cons, List.map_cons, List.map_nil,
        (letterA a).mpr ha, (letterL b).mpr hb, (letterL c).mpr hc]

/-- A reference stands for the layer at an index. -/
inductive Resolves (layers : LayerTable) : LayerRef → Nat → Prop where
  /-- An index stands for the layer there. -/
  | index {i : Nat} (h : i < layers.length) : Resolves layers (.index i) i
  /-- A name stands for the first layer of that name. -/
  | name {i : Nat} (h : i < layers.length)
      (first : ∀ (j : Nat) (hj : j < i), layers[j].name ≠ layers[i].name) :
      Resolves layers (.name layers[i].name) i

theorem Resolves.lt {layers : LayerTable} {r : LayerRef} {i : Nat} (h : r.Resolves layers i) :
    i < layers.length := by
  cases h with
  | index h => exact h
  | name h first => exact h

end LayerRef

namespace Node

open KeymapCompiler.Devicetree LayerRef

theorem layerIndex?_eq_some_iff (layers : LayerTable) (r : LayerRef) (i : Nat) :
    layerIndex? layers r = some i ↔ r.Resolves layers i := by
  rcases r with n | s
  · rw [layerIndex?]
    constructor
    · -- A number is its own index, if it is one of a layer.
      intro h
      split at h
      · rename_i bounds
        simp only [Bool.and_eq_true, decide_eq_true_eq] at bounds
        obtain ⟨hnonneg, hlt⟩ := bounds
        obtain ⟨k, rfl⟩ := Int.eq_ofNat_of_zero_le hnonneg
        cases h
        exact .index (by omega)
      · cases h
    · rintro ⟨h⟩
      rw [if_pos (by simpa using h), Int.toNat_natCast]
  · rw [layerIndex?, LayerTable.index?, List.findIdx?_eq_some_iff_getElem]
    simp only [beq_iff_eq]
    constructor
    · rintro ⟨h, rfl, first⟩
      exact .name h first
    · rintro ⟨⟩
      rename_i h first
      exact ⟨h, rfl, first⟩

theorem layerIndex?_eq_none_iff (layers : LayerTable) (r : LayerRef) :
    layerIndex? layers r = none ↔ ∀ i, ¬ r.Resolves layers i := by
  rw [Option.eq_none_iff_forall_ne_some]
  simp only [ne_eq, layerIndex?_eq_some_iff]

/-! ### Limits -/

/-- References limit a combo: there are some, none stands for all layers, and each stands for
one. -/
structure Limited (layers : LayerTable) (refs : List LayerRef) : Prop where
  /-- There are references. -/
  named : refs ≠ []
  /-- None stands for all layers. -/
  notAll : ∀ r ∈ refs, ¬ r.MeansAll
  /-- Each stands for a layer. -/
  resolved : ∀ r ∈ refs, ∃ i, r.Resolves layers i

/-- Indices list the layers that references stand for. -/
structure ListsLayers (layers : LayerTable) (refs : List LayerRef) (indices : List Nat) : Prop where
  /-- They are the indices of layers. -/
  lt : ∀ i ∈ indices, i < layers.length
  /-- No layer is listed twice. -/
  nodup : indices.Nodup
  /-- They are the layers of the references, in order of first occurrence. -/
  order : ∃ resolved, List.Forall₂ (LayerRef.Resolves layers) refs resolved ∧
    FirstOccurrences indices resolved

theorem forall₂_filterMap_layerIndex? {layers : LayerTable} {refs : List LayerRef}
    (h : ∀ r ∈ refs, ∃ i, r.Resolves layers i) :
    List.Forall₂ (LayerRef.Resolves layers) refs (refs.filterMap (layerIndex? layers)) := by
  have found : ∀ r ∈ refs, (layerIndex? layers r).isSome = true := by
    intro r hr
    obtain ⟨i, hi⟩ := h r hr
    rw [(layerIndex?_eq_some_iff layers r i).mpr hi]
    rfl
  have listed := forall₂_filterMap (layerIndex? layers) refs
  rw [List.filter_eq_self.mpr found] at listed
  exact listed.imp fun r i hi => (layerIndex?_eq_some_iff layers r i).mp hi

theorem listsLayers_eraseDups {layers : LayerTable} {refs : List LayerRef}
    (h : ∀ r ∈ refs, ∃ i, r.Resolves layers i) :
    ListsLayers layers refs (refs.filterMap (layerIndex? layers)).eraseDups where
  lt := by
    intro i hi
    rw [List.mem_eraseDups, List.mem_filterMap] at hi
    obtain ⟨r, -, hr⟩ := hi
    exact ((layerIndex?_eq_some_iff layers r i).mp hr).lt
  nodup := (firstOccurrences_eraseDups _).nodup
  order := ⟨_, forall₂_filterMap_layerIndex? h, firstOccurrences_eraseDups _⟩

/-- What a filter says of the references that it is made of. -/
inductive LayerFilter.Means (layers : LayerTable) (refs : List LayerRef) : LayerFilter → Prop where
  /-- No layer is named, or all of them are. -/
  | all (h : refs = [] ∨ ∃ r ∈ refs, r.MeansAll) : Means layers refs .all
  /-- The references limit the combo to the layers they stand for. -/
  | only {indices : List Nat} (limited : Limited layers refs)
      (lists : ListsLayers layers refs indices) : Means layers refs (.only indices)
  /-- A reference, the first such, stands for no layer. -/
  | dropped {front back : List LayerRef} {r : LayerRef} (refs_eq : refs = front ++ r :: back)
      (notAll : ∀ r ∈ refs, ¬ r.MeansAll) (before : ∀ r ∈ front, ∃ i, r.Resolves layers i)
      (unresolved : ∀ i, ¬ r.Resolves layers i) : Means layers refs (.dropped r)

theorem LayerFilter.means_ofRefs (layers : LayerTable) (refs : List LayerRef) :
    (LayerFilter.ofRefs layers refs).Means layers refs := by
  have all_iff : (refs.isEmpty || refs.any LayerRef.isAll) = true
      ↔ refs = [] ∨ ∃ r ∈ refs, r.MeansAll := by
    simp only [Bool.or_eq_true, List.isEmpty_iff, List.any_eq_true, LayerRef.isAll_iff]
  unfold LayerFilter.ofRefs
  split
  · rename_i h
    exact .all (all_iff.mp h)
  · rename_i h
    rw [all_iff, not_or, not_exists] at h
    obtain ⟨hnamed, hall⟩ := h
    have notAll : ∀ r ∈ refs, ¬ r.MeansAll := fun r hr hm => hall r ⟨hr, hm⟩
    -- The search finds the first reference without a layer, so all before it have one.
    have isNone_iff : ∀ r, (layerIndex? layers r).isNone = true ↔ ¬ ∃ i, r.Resolves layers i := by
      intro r
      rw [Option.isNone_iff_eq_none, layerIndex?_eq_none_iff, not_exists]
    split
    · rename_i r found
      obtain ⟨hnone, front, back, hrefs, hfront⟩ := List.find?_eq_some_iff_append.mp found
      have before : ∀ r ∈ front, ∃ i, r.Resolves layers i := by
        intro r hr
        simpa only [Bool.not_eq_true', ← Bool.not_eq_true, isNone_iff, not_not] using hfront r hr
      exact .dropped hrefs notAll before (not_exists.mp ((isNone_iff r).mp hnone))
    · rename_i missing
      have resolved : ∀ r ∈ refs, ∃ i, r.Resolves layers i := by
        intro r hr
        simpa only [isNone_iff, not_not] using List.find?_eq_none.mp missing r hr
      exact .only ⟨hnamed, notAll, resolved⟩ (listsLayers_eraseDups resolved)

/-! ### What is written and reported -/

/-- The property that limits a combo. -/
def limitProperty (layers : LayerTable) (refs : List LayerRef) : Option Property :=
  match LayerFilter.ofRefs layers refs with
  | .only indices => some (.cells (indices.map toString))
  | .all | .dropped _ => none

theorem property_ofRefs_eq_entryLine (layers : LayerTable) (refs : List LayerRef) :
    (LayerFilter.ofRefs layers refs).property 3
      = entryLine ("layers", limitProperty layers refs) := by
  unfold limitProperty
  rcases LayerFilter.ofRefs layers refs with - | indices | r
  · rfl
  · exact line_cells "layers" _
  · rfl

/-- A combo that is limited lists its layers. -/
theorem limitProperty_of_limited {layers : LayerTable} {refs : List LayerRef}
    (h : Limited layers refs) :
    ∃ indices, limitProperty layers refs = some (.cells (indices.map toString)) ∧
      ListsLayers layers refs indices := by
  have means := LayerFilter.means_ofRefs layers refs
  unfold limitProperty
  generalize LayerFilter.ofRefs layers refs = filter at means
  -- The other two outcomes are excluded by what a limited list is.
  cases means with
  | all hall =>
    rcases hall with hempty | ⟨r, hr, hall⟩
    · exact absurd hempty h.named
    · exact absurd hall (h.notAll r hr)
  | only limited lists => exact ⟨_, rfl, lists⟩
  | @dropped front back r refs_eq notAll before unresolved =>
    obtain ⟨i, hi⟩ := h.resolved r (by simp [refs_eq])
    exact absurd hi (unresolved i)

/-- Any other combo lists none. -/
theorem limitProperty_of_not_limited {layers : LayerTable} {refs : List LayerRef}
    (h : ¬ Limited layers refs) : limitProperty layers refs = none := by
  have means := LayerFilter.means_ofRefs layers refs
  unfold limitProperty
  generalize LayerFilter.ofRefs layers refs = filter at means
  cases means with
  | all => rfl
  | only limited => exact absurd limited h
  | dropped => rfl

/-- What a combo reports of its layers. -/
inductive LimitReport (layers : LayerTable) (c : Combo) : Report → Prop where
  /-- There is nothing to report of a combo that works on all layers or only on some. -/
  | quiet (h : c.layers = [] ∨ (∃ r ∈ c.layers, r.MeansAll) ∨
      ∀ r ∈ c.layers, ∃ i, r.Resolves layers i) : LimitReport layers c []
  /-- The first reference that stands for no layer is reported, once. -/
  | dropped {front back : List LayerRef} {r : LayerRef} (refs_eq : c.layers = front ++ r :: back)
      (notAll : ∀ r ∈ c.layers, ¬ r.MeansAll) (before : ∀ r ∈ front, ∃ i, r.Resolves layers i)
      (unresolved : ∀ i, ¬ r.Resolves layers i) :
      LimitReport layers c
        [⟨.unresolvedReference, "combo " ++ c.name,
          "layer '" ++ r.shown ++ "' does not exist, combo is active on all layers"⟩]

theorem limitReport_reports (layers : LayerTable) (c : Combo) :
    LimitReport layers c (limitReport layers c) := by
  have means := LayerFilter.means_ofRefs layers c.layers
  unfold limitReport
  generalize LayerFilter.ofRefs layers c.layers = filter at means
  cases means with
  | all h => exact .quiet (or_assoc.mp (.inl h))
  | only limited => exact .quiet (.inr (.inr limited.resolved))
  | dropped refs_eq notAll before unresolved => exact .dropped refs_eq notAll before unresolved

end Node

end KeymapCompiler
