/-
KeymapCompiler/Proofs/Distinct.lean

Lists without repetition, the way a compile makes them: item by item, with the
items met so far at hand.
-/
import Mathlib.Data.List.Basic
import Mathlib.Data.List.Induction

namespace KeymapCompiler

/-- A list has no repetition exactly when no item occurs among the ones before it. -/
theorem nodup_iff_getElem_not_mem_take {α : Type} (l : List α) :
    l.Nodup ↔ ∀ k (h : k < l.length), l[k] ∉ l.take k := by
  rw [List.Nodup, List.pairwise_iff_getElem]
  constructor
  · intro hne k h hm
    obtain ⟨j, hj, e⟩ := List.mem_take_iff_getElem.mp hm
    exact hne j k (by omega) h (by omega) e
  · intro hnot i j hi hj hij e
    exact hnot j hj (List.mem_take_iff_getElem.mpr ⟨i, by omega, e⟩)

/-- Items are distinct and new exactly when the first is new and the others are distinct and new
once it is met. -/
theorem nodup_cons_and_new_iff {α : Type} (a : α) (rest met : List α) :
    ((a :: rest).Nodup ∧ ∀ b ∈ a :: rest, b ∉ met)
      ↔ a ∉ met ∧ rest.Nodup ∧ ∀ b ∈ rest, b ∉ a :: met := by
  rw [List.nodup_cons, List.forall_mem_cons]
  constructor
  · rintro ⟨⟨ha, hnodup⟩, hmet, hrest⟩
    refine ⟨hmet, hnodup, fun b hb hm => ?_⟩
    rcases List.mem_cons.mp hm with rfl | hm
    · exact ha hb
    · exact hrest b hb hm
  · rintro ⟨hmet, hnodup, hrest⟩
    refine ⟨⟨fun hm => hrest a hm List.mem_cons_self, hnodup⟩, hmet, ?_⟩
    exact fun b hb hm => hrest b hb (List.mem_cons_of_mem _ hm)

/-- Only one entry of a list of distinct keys has the key of a given entry. -/
theorem filter_key_eq_singleton {α β : Type} [BEq α] [LawfulBEq α] {es : List (α × β)}
    (h : (es.map (·.1)).Nodup) {e : α × β} (he : e ∈ es) : es.filter (·.1 == e.1) = [e] := by
  induction es with
  | nil => cases he
  | cons a rest ih =>
    rw [List.map_cons, List.nodup_cons] at h
    rcases List.mem_cons.mp he with rfl | he
    · -- The entry has come, and its key is not there again.
      have none : rest.filter (·.1 == e.1) = [] := by
        refine List.filter_eq_nil_iff.mpr ?_
        intro b hb e'
        exact h.1 (List.mem_map.mpr ⟨b, hb, by simpa using e'⟩)
      rw [List.filter_cons_of_pos (by simp), none]
    · have hne : (a.1 == e.1) = false := by
        have : a.1 ≠ e.1 := fun e' => h.1 (e' ▸ List.mem_map_of_mem he)
        simpa using this
      rw [List.filter_cons_of_neg (by simp [hne]), ih h.2 he]

/-- A list holds the items of another one in order of first occurrence, each once. -/
structure FirstOccurrences {α : Type} [BEq α] (firsts items : List α) : Prop where
  /-- It holds the same items. -/
  mem_iff : ∀ a, a ∈ firsts ↔ a ∈ items
  /-- An item is before another one if it occurs before it. -/
  order : firsts.Pairwise fun a b => items.idxOf a < items.idxOf b

theorem FirstOccurrences.nodup {α : Type} [BEq α] {firsts items : List α}
    (h : FirstOccurrences firsts items) : firsts.Nodup := by
  refine List.Pairwise.imp ?_ h.order
  rintro a b hlt rfl
  exact Nat.lt_irrefl _ hlt

/-- An item that is met again adds nothing; a new one comes last. -/
theorem firstOccurrences_eraseDups {α : Type} [BEq α] [LawfulBEq α] (items : List α) :
    FirstOccurrences items.eraseDups items where
  mem_iff _ := List.mem_eraseDups
  order := by
    -- By induction from the end, since the function keeps the first of equal items.
    induction items using List.reverseRecOn with
    | nil => simp
    | append_singleton front last ih =>
      -- What was there keeps its first place, whatever is added behind.
      have kept : front.eraseDups.Pairwise fun a b =>
          (front ++ [last]).idxOf a < (front ++ [last]).idxOf b := by
        refine ih.imp_of_mem fun ha hb hlt => ?_
        rw [List.mem_eraseDups] at ha hb
        rwa [List.idxOf_append_of_mem ha, List.idxOf_append_of_mem hb]
      rw [List.eraseDups_append]
      by_cases hlast : last ∈ front
      · have none : [last].removeAll front = [] := by simp [List.removeAll, hlast]
        rw [none, List.eraseDups_nil, List.append_nil]
        exact kept
      · have one : ([last].removeAll front).eraseDups = [last] := by
          simp [List.removeAll, hlast, List.eraseDups_cons]
        rw [one, List.pairwise_append]
        refine ⟨kept, List.pairwise_singleton _ _, fun a ha b hb => ?_⟩
        rw [List.mem_eraseDups] at ha
        rw [List.mem_singleton.mp hb, List.idxOf_append_of_mem ha,
          List.idxOf_append_of_notMem hlast]
        exact Nat.lt_add_right _ (List.idxOf_lt_length_of_mem ha)

end KeymapCompiler
