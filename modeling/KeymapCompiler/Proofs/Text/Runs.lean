/-
KeymapCompiler/Proofs/Text/Runs.lean

Runs of characters.  A reader that takes characters with a property off the front of
a text takes a whole run of them and stops at the first character without it, so a
text that is put together from a run and something else is split where it was put
together.  A reader that stops at the first of a sign is one of these.
-/
import Mathlib.Data.List.TakeWhile

namespace KeymapCompiler.Text

variable {p : Char → Bool} {front rest : List Char}

theorem takeWhile_append_of_stop (hfront : ∀ c ∈ front, p c = true)
    (hrest : ∀ c ∈ rest.head?, p c = false) : (front ++ rest).takeWhile p = front := by
  rw [List.takeWhile_append_of_pos hfront]
  cases rest with
  | nil => simp
  | cons c rest => simp [hrest c rfl]

theorem dropWhile_append_of_stop (hfront : ∀ c ∈ front, p c = true)
    (hrest : ∀ c ∈ rest.head?, p c = false) : (front ++ rest).dropWhile p = rest := by
  rw [List.dropWhile_append_of_pos hfront]
  cases rest with
  | nil => simp
  | cons c rest => simp [hrest c rfl]

/-! ### Up to a sign -/

variable {sign : Char}

theorem bne_of_not_mem (h : sign ∉ front) : ∀ c ∈ front, (c != sign) = true := by
  intro c hc
  rw [bne_iff_ne]
  rintro rfl
  exact h hc

theorem takeWhile_append_sign (h : sign ∉ front) (rest : List Char) :
    (front ++ sign :: rest).takeWhile (· != sign) = front :=
  takeWhile_append_of_stop (bne_of_not_mem h) fun _ hc => by simp_all

theorem dropWhile_append_sign (h : sign ∉ front) (rest : List Char) :
    (front ++ sign :: rest).dropWhile (· != sign) = sign :: rest :=
  dropWhile_append_of_stop (bne_of_not_mem h) fun _ hc => by simp_all

end KeymapCompiler.Text
