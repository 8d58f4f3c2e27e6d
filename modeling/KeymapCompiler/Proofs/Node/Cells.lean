/-
KeymapCompiler/Proofs/Node/Cells.lean

The cells of a layer together with what they warn of.  `layerCells` writes the
bindings one by one and reports on the way; here both results are described on
their own, from the keys of the layer.

    CellFault          a key whose binding cannot be written, and the cause
    IsFaults           the list of all of them, in the order of the keys

A list with `IsFaults` is determined: it is ascending, and its members are given.
The warnings of a layer are those of this list behind the one for bindings past the
last key (`warnings_layerCells_eq`), and nothing else is read of such bindings than
how many there are (`layerCells_set_of_le`).
-/
import KeymapCompiler.Proofs.Node.Keymap
import KeymapCompiler.Proofs.Node.Warnings
import KeymapCompiler.Proofs.Scan

namespace KeymapCompiler.Node

variable (f : Formatter) (keyCount : Nat) (context : String) (bs : List Binding)

/-! ### Keys whose bindings cannot be written -/

/-- A key whose binding cannot be written. -/
structure CellFault where
  /-- The key. -/
  key : Nat
  /-- Its binding. -/
  binding : Binding
  /-- Why the binding cannot be written. -/
  cause : FormatError

/-- The warning of such a key. -/
def CellFault.warning (context : String) (x : CellFault) : Warning :=
  ⟨x.cause.kind, context ++ ", key " ++ toString x.key, x.binding.shown ++ ": " ++ x.cause.message⟩

/-- A list holds the faults of a layer: the bindings on keys that cannot be written, each once and
in the order of the keys. -/
structure IsFaults (faults : List CellFault) : Prop where
  /-- A fault is a key with a binding that cannot be written, and its cause. -/
  mem_iff : ∀ x, x ∈ faults ↔
    x.key < keyCount ∧ bs[x.key]? = some x.binding ∧ f.format x.binding = .error x.cause
  /-- The keys are ascending. -/
  ascending : faults.Pairwise fun x y => x.key < y.key

/-- The fault of a binding on a key, if it cannot be written. -/
def cellFault? (b : Binding × Nat) : Option CellFault :=
  match f.format b.1 with
  | .ok _ => none
  | .error e => some ⟨b.2, b.1, e⟩

/-- The faults of a layer. -/
def cellFaults : List CellFault :=
  (bs.take keyCount).zipIdx.filterMap (cellFault? f)

theorem cellFault?_eq_some_iff (b : Binding × Nat) (x : CellFault) :
    cellFault? f b = some x ↔ b = (x.binding, x.key) ∧ f.format x.binding = .error x.cause := by
  obtain ⟨b, key⟩ := b
  obtain ⟨key', b', cause⟩ := x
  unfold cellFault?
  rcases h : f.format b with e | text
  · simp only [Option.some.injEq, CellFault.mk.injEq, Prod.mk.injEq]
    constructor
    · rintro ⟨rfl, rfl, rfl⟩
      exact ⟨⟨rfl, rfl⟩, h⟩
    · rintro ⟨⟨rfl, rfl⟩, h'⟩
      exact ⟨rfl, rfl, Except.error.inj (h.symm.trans h')⟩
  · -- A cell that is formatted has no fault.
    refine iff_of_false (fun e => nomatch e) ?_
    rintro ⟨e, h'⟩
    obtain ⟨rfl, -⟩ := Prod.mk.inj e
    rw [h] at h'
    cases h'

theorem isFaults_cellFaults : IsFaults f keyCount bs (cellFaults f keyCount bs) := by
  have hplace : ∀ b x, cellFault? f b = some x → x.key = b.2 := by
    intro b x hx
    rw [((cellFault?_eq_some_iff f b x).mp hx).1]
  refine ⟨fun x => ?_, pairwise_scan hplace _⟩
  unfold cellFaults
  rw [mem_scan_iff hplace, List.getElem?_take]
  simp only [cellFault?_eq_some_iff, Option.ite_none_right_eq_some, Prod.mk.injEq, and_true]
  constructor
  · rintro ⟨b, hkey, rfl, hformat⟩
    exact ⟨hkey.1, hkey.2, hformat⟩
  · rintro ⟨hlt, hkey, hformat⟩
    exact ⟨_, ⟨hlt, hkey⟩, rfl, hformat⟩

/-! ### Warnings -/

/-- A binding on a key is reported exactly when it is a fault. -/
theorem warnings_reported_at (b : Binding × Nat) :
    (f.reported s!"{context}, key {b.2}" b.1).warnings
      = (cellFault? f b).toList.map (CellFault.warning context) := by
  rw [Formatter.warnings_reported]
  unfold Formatter.report cellFault?
  rcases f.format b.1 with e | text
  · rfl
  · rfl

/-- A layer warns of bindings past the last key, then of its faults in order. -/
theorem warnings_layerCells_eq :
    (layerCells f keyCount context bs).warnings
      = surplusWarnings keyCount context bs.length
        ++ (cellFaults f keyCount bs).map (CellFault.warning context) := by
  rw [warnings_layerCells, cellFaults, List.filterMap_eq_flatMap_toList, List.map_flatMap]
  simp only [warnings_reported_at]

/-! ### Cells -/

/-- The cells of a layer are those of the keys. -/
theorem cellTexts_eq_map_range :
    cellTexts f keyCount bs = (List.range keyCount).map (cellText f bs) := by
  refine List.ext_getElem? fun key => ?_
  by_cases hkey : key < keyCount
  · rw [getElem?_cellTexts f hkey, List.getElem?_map, List.getElem?_range hkey]
    rfl
  · have hle := Nat.not_lt.mp hkey
    rw [List.getElem?_eq_none (by rwa [length_cellTexts]),
      List.getElem?_eq_none (by rwa [List.length_map, List.length_range])]

/-- Of the bindings past the last key only the number counts. -/
theorem layerCells_set_of_le {key : Nat} (h : keyCount ≤ key) (b : Binding) :
    layerCells f keyCount context (bs.set key b) = layerCells f keyCount context bs := by
  unfold layerCells
  rw [List.length_set, List.take_set_of_le h]

/-- **Cells.**  A layer has one cell for each key, the text of the key's binding or `&none`.  Behind
all earlier warnings it reports the bindings past the last key, once, and then each key whose
binding cannot be written, in the order of the keys.  A binding past the last key is neither written
nor reported, whatever it is. -/
theorem layerCells_accounts :
    (layerCells f keyCount context bs).value = (List.range keyCount).map (cellText f bs) ∧
      (∃ faults, IsFaults f keyCount bs faults ∧ ∀ earlier : Report,
        (Reported.report earlier >>= fun _ => layerCells f keyCount context bs).warnings
          = earlier ++ surplusWarnings keyCount context bs.length
            ++ faults.map (CellFault.warning context)) ∧
      ∀ (surplus : Nat) (b : Binding),
        layerCells f keyCount context (bs.set (keyCount + surplus) b)
          = layerCells f keyCount context bs := by
  refine ⟨?_, ⟨_, isFaults_cellFaults f keyCount bs, fun earlier => ?_⟩, fun surplus b => ?_⟩
  · rw [value_layerCells, cellTexts_eq_map_range]
  · rw [Reported.warnings_bind, Reported.warnings_report, warnings_layerCells_eq,
      List.append_assoc]
  · exact layerCells_set_of_le f keyCount context bs (Nat.le_add_right _ _) b

end KeymapCompiler.Node
