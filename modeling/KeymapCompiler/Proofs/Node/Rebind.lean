/-
KeymapCompiler/Proofs/Node/Rebind.lean

Another binding for one key of one layer, and what it changes in the `keymap` node.

The cells of a layer are made binding by binding, and so are the warnings.  So of
the cells only the one of the key can change (`getElem?_cellTexts_set_of_ne`), and
the warnings are the same but for a piece in the middle, which is the warning of
the binding (`exists_warnings_keymap_rebind`).  A binding past the last key is not
written and not reported, so it changes nothing.
-/
import KeymapCompiler.Proofs.Node.Keymap
import KeymapCompiler.Proofs.Node.Warnings

namespace KeymapCompiler.Node

/-- What is made of the items of a list one by one depends on the item at a place in the middle
only. -/
theorem exists_flatMap_zipIdx_set {α β : Type} (g : α × Nat → List β) {xs : List α} {k : Nat}
    (hk : k < xs.length) :
    ∃ front back, ∀ a, (xs.set k a).zipIdx.flatMap g = front ++ (g (a, k) ++ back) := by
  refine ⟨(xs.take k).zipIdx.flatMap g, ((xs.drop (k + 1)).zipIdx (k + 1)).flatMap g, ?_⟩
  intro a
  have place : 0 + (xs.take k).length = k := by
    rw [List.length_take]
    omega
  rw [List.set_eq_take_append_cons_drop, if_pos hk, List.zipIdx_append, List.flatMap_append, place,
    List.zipIdx_cons, List.flatMap_cons]

variable (f : Formatter)

/-! ### Cells -/

section

variable {key k : Nat} (h : key ≠ k) (keyCount : Nat) (bs : List Binding) (b : Binding)

include h

theorem cellText_set_of_ne : cellText f (bs.set k b) key = cellText f bs key := by
  unfold cellText
  rw [List.getElem?_set_ne h.symm]

theorem getElem?_cellTexts_set_of_ne :
    (cellTexts f keyCount (bs.set k b))[key]? = (cellTexts f keyCount bs)[key]? := by
  rcases Nat.lt_or_ge key keyCount with hlt | hge
  · rw [getElem?_cellTexts f hlt, getElem?_cellTexts f hlt, cellText_set_of_ne f h]
  · -- There is no such cell in either layer.
    have past : ∀ bs, (cellTexts f keyCount bs)[key]? = none := by
      intro bs
      apply List.getElem?_eq_none
      rw [length_cellTexts]
      exact hge
    rw [past, past]

end

/-! ### Warnings -/

/-- The warnings of a binding for a key of a layer. -/
def keyWarnings (keyCount : Nat) (context : String) (k : Nat) (b : Binding) : Report :=
  if k < keyCount then (f.reported s!"{context}, key {k}" b).warnings else []

theorem length_keyWarnings_le_one (keyCount : Nat) (context : String) (k : Nat) (b : Binding) :
    (keyWarnings f keyCount context k b).length ≤ 1 := by
  unfold keyWarnings Formatter.reported
  split
  · rcases f.format b with e | text
    · exact Nat.le_refl 1
    · exact Nat.zero_le 1
  · exact Nat.zero_le 1

theorem exists_warnings_layerCells_set (keyCount : Nat) (context : String) {bs : List Binding}
    {k : Nat} (hk : k < bs.length) :
    ∃ front back, ∀ b, (layerCells f keyCount context (bs.set k b)).warnings
      = front ++ (keyWarnings f keyCount context k b ++ back) := by
  -- How many bindings there are does not depend on what they are.
  have split : ∀ b, (layerCells f keyCount context (bs.set k b)).warnings
      = surplusWarnings keyCount context bs.length ++ ((bs.take keyCount).set k b).zipIdx.flatMap
          fun p => (f.reported s!"{context}, key {p.2}" p.1).warnings := by
    intro b
    rw [warnings_layerCells, List.length_set, List.take_set]
  rcases Nat.lt_or_ge k keyCount with hlt | hge
  · have hk : k < (bs.take keyCount).length := by
      rw [List.length_take]
      omega
    obtain ⟨front, back, h⟩ := exists_flatMap_zipIdx_set
      (fun p => (f.reported s!"{context}, key {p.2}" p.1).warnings) hk
    refine ⟨surplusWarnings keyCount context bs.length ++ front, back, fun b => ?_⟩
    rw [split, h, keyWarnings, if_pos hlt, List.append_assoc]
  · -- The binding is among those that are ignored.
    have same : ∀ b, (bs.take keyCount).set k b = bs.take keyCount := by
      intro b
      apply List.set_eq_of_length_le
      rw [List.length_take]
      omega
    refine ⟨surplusWarnings keyCount context bs.length ++ (bs.take keyCount).zipIdx.flatMap
      fun p => (f.reported s!"{context}, key {p.2}" p.1).warnings, [], fun b => ?_⟩
    rw [split, same, keyWarnings, if_neg (Nat.not_lt.mpr hge), List.append_nil, List.append_nil]

/-- What warnings of a layer say where they are. -/
def layerContext (i : Nat) : String :=
  "layer " ++ (f.layers[i]?.map (·.name)).getD ""

/-- Layers with another binding for a key of a layer; if there is none for the key, they stay as
they are. -/
def rebind (layers : List (List Binding)) (i k : Nat) (b : Binding) : List (List Binding) :=
  layers.modify i (·.set k b)

theorem warnings_keymap (layout : Layout) (layers : List (List Binding)) :
    (keymap f layout layers).warnings = layers.zipIdx.flatMap fun l =>
      (layerCells f layout.keyCount (layerContext f l.2) l.1).warnings := by
  unfold keymap layer
  simp only [Reported.warnings_bind, Reported.warnings_each, Reported.warnings_pure,
    List.append_nil]
  rfl

theorem exists_warnings_keymap_rebind (layout : Layout) {layers : List (List Binding)} {i k : Nat}
    {bs : List Binding} (hi : layers[i]? = some bs) (hk : k < bs.length) :
    ∃ front back, ∀ b, (keymap f layout (rebind layers i k b)).warnings
      = front ++ (keyWarnings f layout.keyCount (layerContext f i) k b ++ back) := by
  obtain ⟨above, below, hlayers⟩ := exists_flatMap_zipIdx_set (fun l : List Binding × Nat =>
    (layerCells f layout.keyCount (layerContext f l.2) l.1).warnings)
    (List.getElem?_eq_some_iff.mp hi).1
  obtain ⟨left, right, hcells⟩ :=
    exists_warnings_layerCells_set f layout.keyCount (layerContext f i) hk
  refine ⟨above ++ left, right ++ below, fun b => ?_⟩
  -- One layer changes and in it one key; the parts around it do not depend on the binding.
  have set : rebind layers i k b = layers.set i (bs.set k b) := by
    rw [rebind, List.modify_eq_set_getElem?, hi]
    rfl
  rw [warnings_keymap, set, hlayers]
  dsimp only
  rw [hcells]
  simp only [List.append_assoc]

end KeymapCompiler.Node
