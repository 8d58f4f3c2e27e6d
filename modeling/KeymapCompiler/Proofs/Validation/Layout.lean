/-
KeymapCompiler/Proofs/Validation/Layout.lean

What the check of a layout finds.  The slots are visited row by row with the keys
met so far, and the keys without a slot are looked for afterwards.  Nothing in the
findings depends on the order of the visit but their own order:

* an error for every slot that is out of range (`errors_checkSlots`);
* a note for every slot in range whose key an earlier slot holds
  (`notes_checkSlots`); the keys met so far are those of the slots visited so far,
  as far as they are in range, and this is what the induction carries;
* if there is no error at all, a note on the keys without a slot.

`checkLayout_foundExactly` puts these together.  A layout of which there is nothing
to say holds every key exactly once.
-/
import KeymapCompiler.Proofs.Distinct
import KeymapCompiler.Validation
import Mathlib.Data.List.Enum

namespace KeymapCompiler

/-! ### Slots -/

/-- The slots that are checked are those that hold a key. -/
theorem Layout.map_fst_placements (l : Layout) : l.placements.map (·.1) = l.keys := by
  have same : ∀ p ∈ l.rows.zipIdx, ((p.1.filterMap Slot.index?).map (·, p.2)).map Prod.fst
      = p.1.filterMap Slot.index? := by
    intro p _
    rw [List.map_map]
    exact List.map_id _
  rw [Layout.placements, Layout.keys, List.mapIdx_eq_zipIdx_map, List.map_flatten, List.map_map,
    List.filterMap_flatten]
  refine congrArg List.flatten ?_
  have rows : l.rows.zipIdx.map Prod.fst = l.rows := List.zipIdx_map_fst 0 l.rows
  conv_rhs => rw [← rows, List.map_map]
  exact List.map_congr_left same

/-- The slots that hold an index out of range. -/
def strays (keyCount : Nat) (slots : List (Nat × Nat)) : List (Nat × Nat) :=
  slots.filter fun slot => decide (keyCount ≤ slot.1)

/-- Whether the slot at a place is in range and holds the key of an earlier slot. -/
def isRepeat (keyCount : Nat) (slots : List (Nat × Nat)) (p : (Nat × Nat) × Nat) : Bool :=
  decide (p.1.1 < keyCount ∧ p.1.1 ∈ (slots.take p.2).map (·.1))

/-- The slots in range that hold the key of an earlier slot. -/
def repeats (keyCount : Nat) (slots : List (Nat × Nat)) : List (Nat × Nat) :=
  (slots.zipIdx.filter (isRepeat keyCount slots)).map (·.1)

/-- The error for a slot out of range. -/
def strayError (keyCount : Nat) (slot : Nat × Nat) : StructuralError :=
  .keyOutOfBounds slot.1 keyCount slot.2

/-- The note on a slot that holds the key of an earlier one. -/
def repeatNote (slot : Nat × Nat) : String :=
  s!"Key {slot.1} appears more than once in the grid (row {slot.2})"

section

variable (keyCount : Nat)

theorem checkSlots_cons (placed : List Nat) (slot : Nat × Nat) (rest : List (Nat × Nat)) :
    checkSlots keyCount placed (slot :: rest)
      = if keyCount ≤ slot.1 then
          ⟨[strayError keyCount slot], []⟩ ++ checkSlots keyCount placed rest
        else if placed.contains slot.1 then
          ⟨[], [repeatNote slot]⟩ ++ checkSlots keyCount placed rest
        else checkSlots keyCount (slot.1 :: placed) rest := rfl

theorem errors_checkSlots (placed : List Nat) (slots : List (Nat × Nat)) :
    (checkSlots keyCount placed slots).errors
      = (strays keyCount slots).map (strayError keyCount) := by
  induction slots generalizing placed with
  | nil => rfl
  | cons slot rest ih =>
    rw [checkSlots_cons, strays]
    by_cases h : keyCount ≤ slot.1
    · rw [if_pos h, List.filter_cons_of_pos (by simpa using h), Findings.errors_append, ih]
      rfl
    · rw [if_neg h, List.filter_cons_of_neg (by simpa using h)]
      split
      · exact ih placed
      · exact ih (slot.1 :: placed)

/-- The notes on slots after some others, if the keys met are the keys in range of those. -/
theorem notes_checkSlots_of_met (earlier : List (Nat × Nat)) (placed : List Nat)
    (hmet : ∀ key < keyCount, key ∈ placed ↔ key ∈ earlier.map (·.1)) (rest : List (Nat × Nat)) :
    (checkSlots keyCount placed rest).notes
      = ((rest.zipIdx earlier.length).filter (isRepeat keyCount (earlier ++ rest))).map
          fun p => repeatNote p.1 := by
  induction rest generalizing earlier placed with
  | nil => rfl
  | cons slot rest ih =>
    have assoc : earlier ++ slot :: rest = (earlier ++ [slot]) ++ rest := by simp
    have later : earlier.length + 1 = (earlier ++ [slot]).length := by simp
    have before : ((earlier ++ [slot]) ++ rest).take earlier.length = earlier := by
      rw [← assoc, List.take_left]
    rw [checkSlots_cons, List.zipIdx_cons, assoc, later]
    by_cases hrange : keyCount ≤ slot.1
    · -- A slot out of range holds no key, so it adds nothing to those met.
      have notRepeat : isRepeat keyCount ((earlier ++ [slot]) ++ rest) (slot, earlier.length)
          = false := decide_eq_false fun h => absurd h.1 (Nat.not_lt.mpr hrange)
      rw [if_pos hrange, List.filter_cons_of_neg (by rw [notRepeat]; exact Bool.false_ne_true)]
      refine ih _ _ fun key hkey => ?_
      have other : key ≠ slot.1 := by omega
      rw [hmet key hkey, List.map_append, List.mem_append]
      simp [other]
    · rw [if_neg hrange]
      have hlt := Nat.not_le.mp hrange
      by_cases hplaced : slot.1 ∈ placed
      · have isRepeated : isRepeat keyCount ((earlier ++ [slot]) ++ rest) (slot, earlier.length)
            = true := by
          refine decide_eq_true ⟨hlt, ?_⟩
          rw [before]
          exact (hmet _ hlt).mp hplaced
        rw [if_pos (by simpa using hplaced), List.filter_cons_of_pos isRepeated, List.map_cons]
        refine congrArg (repeatNote slot :: ·) (ih _ _ fun key hkey => ?_)
        rw [hmet key hkey, List.map_append, List.mem_append]
        refine (or_iff_left_of_imp fun h => ?_).symm
        obtain rfl : key = slot.1 := by simpa using h
        exact (hmet _ hkey).mp hplaced
      · have notRepeat : isRepeat keyCount ((earlier ++ [slot]) ++ rest) (slot, earlier.length)
            = false := by
          refine decide_eq_false fun h => hplaced ((hmet _ hlt).mpr ?_)
          rw [before] at h
          exact h.2
        rw [if_neg (by simpa using hplaced),
          List.filter_cons_of_neg (by rw [notRepeat]; exact Bool.false_ne_true)]
        refine ih _ _ fun key hkey => ?_
        rw [List.mem_cons, hmet key hkey, List.map_append, List.mem_append, or_comm]
        simp

/-- The visit of all slots starts without any key met. -/
theorem notes_checkSlots (slots : List (Nat × Nat)) :
    (checkSlots keyCount [] slots).notes = (repeats keyCount slots).map repeatNote := by
  have visit := notes_checkSlots_of_met keyCount [] [] (fun _ _ => by simp) slots
  rw [visit, repeats, List.map_map]
  rfl

theorem strays_eq_nil_iff (slots : List (Nat × Nat)) :
    strays keyCount slots = [] ↔ ∀ key ∈ slots.map (·.1), key < keyCount := by
  rw [strays, List.filter_eq_nil_iff, List.forall_mem_map]
  simp only [decide_eq_true_eq, Nat.not_le]

/-- If all indices are in range, no slot is a repetition exactly when the keys are distinct. -/
theorem repeats_eq_nil_iff {slots : List (Nat × Nat)}
    (h : ∀ key ∈ slots.map (·.1), key < keyCount) :
    repeats keyCount slots = [] ↔ (slots.map (·.1)).Nodup := by
  rw [repeats, List.map_eq_nil_iff, List.filter_eq_nil_iff, nodup_iff_getElem_not_mem_take]
  constructor
  · -- A position is a repeat exactly if its key is met before it.
    intro hnone place hplace hmem
    have hslot : place < slots.length := by simpa using hplace
    refine hnone (slots[place], place) (List.mem_zipIdx_iff_getElem?.mpr ?_) ?_
    · exact List.getElem?_eq_getElem hslot
    · rw [← List.map_take, List.getElem_map] at hmem
      exact decide_eq_true ⟨h _ (List.mem_map_of_mem (List.getElem_mem hslot)), hmem⟩
  · rintro hdistinct ⟨slot, place⟩ hp hrepeat
    have hget : slots[place]? = some slot := List.mem_zipIdx_iff_getElem?.mp hp
    obtain ⟨hslot, rfl⟩ := List.getElem?_eq_some_iff.mp hget
    have hplace : place < (slots.map (·.1)).length := by simpa using hslot
    refine hdistinct place hplace ?_
    rw [← List.map_take, List.getElem_map]
    exact (of_decide_eq_true hrepeat).2

end

/-! ### Layouts -/

namespace Layout

variable (l : Layout)

theorem unplaced_eq_nil_iff : l.unplaced = [] ↔ ∀ key < l.keyCount, key ∈ l.keys := by
  simp [unplaced]

/-- The note on the keys without a slot. -/
def unplacedNote : String :=
  s!"Keys {Position.bracketed (l.unplaced.map toString)} are not placed in the grid and will not be rendered"

/-- The keys are those of the keyboard, each once. -/
theorem perm_range_iff : l.keys.Perm (List.range l.keyCount) ↔
    (∀ key ∈ l.keys, key < l.keyCount) ∧ l.keys.Nodup ∧ ∀ key < l.keyCount, key ∈ l.keys := by
  constructor
  · intro hperm
    refine ⟨fun key hkey => ?_, hperm.nodup_iff.mpr List.nodup_range, fun key hkey => ?_⟩
    · exact List.mem_range.mp (hperm.mem_iff.mp hkey)
    · exact hperm.mem_iff.mpr (List.mem_range.mpr hkey)
  · rintro ⟨hkeys, hnodup, hall⟩
    refine (List.perm_ext_iff_of_nodup hnodup List.nodup_range).mpr fun key => ?_
    rw [List.mem_range]
    exact ⟨hkeys key, hall key⟩

end Layout

/-- The findings on a layout: without slots only that it has none, else what the visit of the slots
finds and the keys that are missing. -/
theorem checkLayout_eq (l : Layout) :
    checkLayout l =
      let size := if l.keyCount = 0 then [.noKeys l.keyboard] else []
      if l.rows.all List.isEmpty then ⟨size ++ [.emptyGrid l.keyboard], []⟩
      else
        let errors := size ++ (strays l.keyCount l.placements).map (strayError l.keyCount)
        ⟨errors, (repeats l.keyCount l.placements).map repeatNote
          ++ if errors = [] ∧ l.unplaced ≠ [] then [l.unplacedNote] else []⟩ := by
  -- The loop over the slots is the two lists of its findings.
  have visited : checkSlots l.keyCount [] l.placements
      = ⟨(strays l.keyCount l.placements).map (strayError l.keyCount),
        (repeats l.keyCount l.placements).map repeatNote⟩ := by
    rw [← errors_checkSlots l.keyCount [], ← notes_checkSlots]
  unfold checkLayout
  rw [visited]
  dsimp only
  split
  · rfl
  · generalize (if l.keyCount = 0 then [StructuralError.noKeys l.keyboard] else []) = size
    generalize (strays l.keyCount l.placements).map (strayError l.keyCount) = errors
    generalize (repeats l.keyCount l.placements).map repeatNote = notes
    have found : (⟨size, []⟩ ++ ⟨errors, notes⟩ : Findings) = ⟨size ++ errors, notes⟩ := rfl
    have valid : (⟨size ++ errors, notes⟩ : Findings).isValid = true ↔ size ++ errors = [] :=
      List.isEmpty_iff
    rw [found]
    by_cases herrors : size ++ errors = []
    · rw [if_pos (valid.mpr herrors)]
      by_cases hunplaced : l.unplaced = []
      · rw [if_pos (by rw [hunplaced]; rfl), if_neg (fun h => h.2 hunplaced), List.append_nil]
      · rw [if_neg (by simpa using hunplaced), if_pos ⟨herrors, hunplaced⟩]
        show (⟨(size ++ errors) ++ [], notes ++ [l.unplacedNote]⟩ : Findings) = _
        rw [List.append_nil]
    · -- With an error nothing is said of the keys that are missing.
      rw [if_neg (mt valid.mp herrors), if_pos List.isEmpty_nil, if_neg fun h => herrors h.1,
        List.append_nil]

/-- What a layout without errors is like. -/
theorem checkLayout_errors_eq_nil_iff (l : Layout) :
    (checkLayout l).errors = [] ↔ l.keyCount ≠ 0 ∧
      l.rows.all List.isEmpty = false ∧ ∀ key ∈ l.keys, key < l.keyCount := by
  have size : (if l.keyCount = 0 then [StructuralError.noKeys l.keyboard] else []) = []
      ↔ l.keyCount ≠ 0 := by simp
  rw [checkLayout_eq]
  dsimp only
  by_cases h : l.rows.all List.isEmpty
  · simp [h]
  · rw [if_neg h, List.append_eq_nil_iff, size, List.map_eq_nil_iff, strays_eq_nil_iff,
      Layout.map_fst_placements]
    simp [h]

/-- If a layout has no errors, notes are about keys that have several slots or none. -/
theorem checkLayout_notes_eq_nil_iff {l : Layout} (h : (checkLayout l).errors = []) :
    (checkLayout l).notes = [] ↔ l.keys.Nodup ∧ ∀ key < l.keyCount, key ∈ l.keys := by
  obtain ⟨-, hrows, hkeys⟩ := (checkLayout_errors_eq_nil_iff l).mp h
  rw [← Layout.map_fst_placements] at hkeys
  rw [← Layout.unplaced_eq_nil_iff, ← Layout.map_fst_placements, ← repeats_eq_nil_iff _ hkeys]
  rw [checkLayout_eq] at h ⊢
  dsimp only at h ⊢
  rw [if_neg (by simp [hrows])] at h ⊢
  rw [List.append_eq_nil_iff, List.map_eq_nil_iff, and_congr_right_iff]
  intro _
  dsimp only at h
  simp [h]

end KeymapCompiler
