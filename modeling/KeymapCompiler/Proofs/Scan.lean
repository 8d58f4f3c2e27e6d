/-
KeymapCompiler/Proofs/Scan.lean

Lists made by a scan that knows the places of the items.  What the scan picks says
where it was picked, so the picked items come in the order of their places, each at
most once, and whether there is one at a place depends on the item there alone.
-/
import Mathlib.Data.List.Enum
import Mathlib.Data.List.Forall2

namespace KeymapCompiler

variable {α β : Type} {pick : α × Nat → Option β} {place : β → Nat}

theorem mem_scan_iff (hplace : ∀ a y, pick a = some y → place y = a.2) {xs : List α} {y : β} :
    y ∈ xs.zipIdx.filterMap pick ↔ ∃ a, xs[place y]? = some a ∧ pick (a, place y) = some y := by
  rw [List.mem_filterMap]
  constructor
  · rintro ⟨a, hmem, hpick⟩
    rw [hplace a y hpick]
    exact ⟨a.1, List.mk_mem_zipIdx_iff_getElem?.mp hmem, hpick⟩
  · rintro ⟨a, hget, hpick⟩
    exact ⟨_, List.mk_mem_zipIdx_iff_getElem?.mpr hget, hpick⟩

theorem pairwise_scan (hplace : ∀ a y, pick a = some y → place y = a.2) (xs : List α) :
    (xs.zipIdx.filterMap pick).Pairwise fun y z => place y < place z := by
  have places : xs.zipIdx.Pairwise fun a b => a.2 < b.2 := by
    rw [← List.pairwise_map (f := Prod.snd) (R := (· < ·)), List.zipIdx_map_snd]
    exact List.pairwise_lt_range'
  refine places.filterMap _ fun a b hlt y hy z hz => ?_
  rwa [hplace a y hy, hplace b z hz]

/-- What is picked without regard to places is picked from the items for which there is something,
in order. -/
theorem forall₂_filterMap (f : α → Option β) (xs : List α) :
    List.Forall₂ (fun a b => f a = some b) (xs.filter fun a => (f a).isSome) (xs.filterMap f) := by
  induction xs with
  | nil => exact .nil
  | cons a rest ih =>
    rcases h : f a with - | b
    · rwa [List.filterMap_cons_none h, List.filter_cons, if_neg (by simp [h])]
    · rw [List.filterMap_cons_some h, List.filter_cons, if_pos (by simp [h])]
      exact .cons h ih

end KeymapCompiler
