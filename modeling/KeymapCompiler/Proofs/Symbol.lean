/-
KeymapCompiler/Proofs/Symbol.lean

When symbols are distinct.  Entries take their symbols one after the other: the
first to ask for a symbol gets it, and a later one gets it with its position as
suffix.  There is one attempt only, and the suffixed symbol may itself be the own
symbol of an earlier entry.

`nodup_distinguishAll_iff` says that nothing else goes wrong.  Two suffixed
symbols differ because their positions do (`eq_of_suffixed_eq`): a position is
written without underscores, so the last underscore of a suffixed symbol shows
where it starts.
-/
import KeymapCompiler.Proofs.Distinct
import KeymapCompiler.Proofs.Text.Lines
import KeymapCompiler.Proofs.Text.Runs
import KeymapCompiler.Symbol

namespace KeymapCompiler.Symbol

open KeymapCompiler.Text

/-! ### Suffixes -/

theorem toList_suffixed (symbol : String) (position : Nat) :
    (suffixed symbol position).toList = symbol.toList ++ '_' :: Nat.toDigits 10 position := by
  show ((symbol ++ "_") ++ toString position).toList = _
  have mark : "_".toList = ['_'] := by decide
  rw [String.toList_append, String.toList_append, Nat.toString_eq_ofList_toDigits, mark,
    String.toList_ofList, List.append_assoc, List.singleton_append]

/-- The decimal digits of a position determine it. -/
theorem toDigits_inj {m n : Nat} (h : Nat.toDigits 10 m = Nat.toDigits 10 n) : m = n := by
  have e := congrArg (fun ds => Nat.ofDigitChars 10 ds 0) h
  simpa [Nat.ofDigitChars_toDigits] using e

/-- What follows the last underscore of a suffixed symbol is the position. -/
theorem takeWhile_reverse_toList_suffixed (symbol : String) (position : Nat) :
    (suffixed symbol position).toList.reverse.takeWhile (· != '_')
      = (Nat.toDigits 10 position).reverse := by
  have digits : '_' ∉ (Nat.toDigits 10 position).reverse := fun h =>
    Nat.underscore_not_in_toDigits (List.mem_reverse.mp h)
  rw [toList_suffixed, List.reverse_append, List.reverse_cons, List.append_assoc]
  exact takeWhile_append_sign digits _

/-- Symbols with different positions as suffixes are different. -/
theorem eq_of_suffixed_eq {a b : String} {i j : Nat} (h : suffixed a i = suffixed b j) :
    i = j := by
  have e := congrArg (fun s : String => s.toList.reverse.takeWhile (· != '_')) h
  simp only [takeWhile_reverse_toList_suffixed, List.reverse_inj] at e
  exact toDigits_inj e

/-! ### Entries in order -/

/-- The symbols of entries, each given by its own symbol and its position; `taken` holds the
symbols taken before. -/
def distinguishAll (taken : List String) : List (String × Nat) → List String
  | [] => []
  | (symbol, position) :: rest =>
    distinguish taken symbol position
      :: distinguishAll (distinguish taken symbol position :: taken) rest

@[simp] theorem length_distinguishAll (taken : List String) (es : List (String × Nat)) :
    (distinguishAll taken es).length = es.length := by
  induction es generalizing taken with
  | nil => rfl
  | cons e rest ih => simp [distinguishAll, ih]

/-- A further entry finds the symbols of the others taken. -/
theorem distinguishAll_concat (taken : List String) (es : List (String × Nat)) (symbol : String)
    (position : Nat) :
    distinguishAll taken (es ++ [(symbol, position)]) = distinguishAll taken es
      ++ [distinguish ((distinguishAll taken es).reverse ++ taken) symbol position] := by
  induction es generalizing taken with
  | nil => rfl
  | cons e rest ih =>
    rw [List.cons_append, distinguishAll, distinguishAll, ih, List.cons_append, List.reverse_cons,
      List.append_assoc, List.singleton_append]

/-- An entry has its own symbol, unless that is taken before or by an earlier entry. -/
theorem getElem_distinguishAll (taken : List String) (es : List (String × Nat)) (k : Nat)
    (h : k < es.length) (hk : k < (distinguishAll taken es).length) :
    (distinguishAll taken es)[k]
      = if es[k].1 ∈ taken ∨ es[k].1 ∈ (distinguishAll taken es).take k
        then suffixed es[k].1 es[k].2 else es[k].1 := by
  induction es generalizing taken k with
  | nil => cases h
  | cons e rest ih =>
    cases k with
    | zero => simp [distinguishAll, distinguish]
    | succ k =>
      have h : k < rest.length := by simpa using h
      refine (ih (distinguish taken e.1 e.2 :: taken) k h (by simpa using h)).trans ?_
      simp only [List.getElem_cons_succ, List.mem_cons, distinguishAll, List.take_succ_cons,
        or_assoc, or_left_comm]

/-- Whether an entry finds its own symbol taken by an earlier one. -/
def Displaced (es : List (String × Nat)) (k : Nat) (h : k < es.length) : Prop :=
  es[k].1 ∈ (distinguishAll [] es).take k

instance (es : List (String × Nat)) (k : Nat) (h : k < es.length) :
    Decidable (Displaced es k h) :=
  inferInstanceAs (Decidable (_ ∈ _))

theorem getElem_distinguishAll_of_displaced {es : List (String × Nat)} {k : Nat}
    {h : k < es.length} (hk : Displaced es k h) (h' : k < (distinguishAll [] es).length) :
    (distinguishAll [] es)[k] = suffixed es[k].1 es[k].2 := by
  have hk : es[k].1 ∈ (distinguishAll [] es).take k := hk
  rw [getElem_distinguishAll [] es k h h', if_pos (Or.inr hk)]

theorem getElem_distinguishAll_of_not_displaced {es : List (String × Nat)} {k : Nat}
    {h : k < es.length} (hk : ¬ Displaced es k h) (h' : k < (distinguishAll [] es).length) :
    (distinguishAll [] es)[k] = es[k].1 := by
  rw [getElem_distinguishAll [] es k h h', if_neg]
  rintro (hm | hm)
  · cases hm
  · exact hk hm

/-- A suffixed symbol is taken by an earlier entry exactly when it is the own symbol of one: that
entry has it, or it was displaced by one that has. -/
theorem suffixed_mem_take_iff {es : List (String × Nat)} (hpos : (es.map (·.2)).Nodup)
    {k : Nat} (h : k < es.length) (symbol : String) :
    suffixed symbol es[k].2 ∈ (distinguishAll [] es).take k
      ↔ suffixed symbol es[k].2 ∈ (es.map (·.1)).take k := by
  have hlen : (distinguishAll [] es).length = es.length := length_distinguishAll [] es
  constructor
  · intro hm
    obtain ⟨j, hj, e⟩ := List.mem_take_iff_getElem.mp hm
    have hjk : j < k := by omega
    have hj' : j < es.length := by omega
    by_cases hd : Displaced es j hj'
    · -- Two suffixed symbols differ, since their positions do.
      rw [getElem_distinguishAll_of_displaced hd] at e
      have hpos' := List.pairwise_iff_getElem.mp hpos j k (by simpa using hj')
        (by simpa using h) hjk
      rw [List.getElem_map, List.getElem_map] at hpos'
      exact absurd (eq_of_suffixed_eq e) hpos'
    · rw [getElem_distinguishAll_of_not_displaced hd] at e
      refine List.mem_take_iff_getElem.mpr ⟨j, by simp; omega, ?_⟩
      rw [List.getElem_map, e]
  · intro hm
    obtain ⟨j, hj, e⟩ := List.mem_take_iff_getElem.mp hm
    rw [List.getElem_map] at e
    have hjk : j < k := by omega
    have hj' : j < es.length := by simp at hj; omega
    by_cases hd : Displaced es j hj'
    · -- A displaced symbol was taken by an entry before it, so it stands there already.
      have hd' : es[j].1 ∈ (distinguishAll [] es).take j := hd
      rw [e] at hd'
      exact List.mem_of_mem_take (by rwa [List.take_take, Nat.min_eq_left (Nat.le_of_lt hjk)])
    · refine List.mem_take_iff_getElem.mpr ⟨j, by omega, ?_⟩
      rw [getElem_distinguishAll_of_not_displaced hd, e]

/-- **Distinct symbols.**  Entries at distinct positions have distinct symbols exactly when no
displaced entry finds its suffixed symbol to be the own symbol of an earlier entry. -/
theorem nodup_distinguishAll_iff {es : List (String × Nat)} (hpos : (es.map (·.2)).Nodup) :
    (distinguishAll [] es).Nodup
      ↔ ∀ k (h : k < es.length), Displaced es k h →
          suffixed es[k].1 es[k].2 ∉ (es.map (·.1)).take k := by
  rw [nodup_iff_getElem_not_mem_take]
  constructor
  · intro hfree k h hd
    have hk := hfree k (by simpa using h)
    rw [getElem_distinguishAll_of_displaced hd, suffixed_mem_take_iff hpos h] at hk
    exact hk
  · intro hfree k h hm
    have h : k < es.length := by simpa using h
    -- Not displaced is by definition not among the symbols before.
    by_cases hd : Displaced es k h
    · rw [getElem_distinguishAll_of_displaced hd, suffixed_mem_take_iff hpos h] at hm
      exact hfree k h hd hm
    · rw [getElem_distinguishAll_of_not_displaced hd] at hm
      exact hd hm

/-! ### Characters -/

theorem isWord_of_mem_ofName {name : String} {c : Char} (h : c ∈ (ofName name).toList) :
    isWord c = true := by
  have replaced : ∀ cs : List Char, ∀ c ∈ replaceOthers cs, isWord c = true := by
    intro cs c hc
    obtain ⟨d, -, rfl⟩ := List.mem_map.mp hc
    by_cases hd : isWord d = true
    · rw [if_pos hd]
      exact hd
    · rw [if_neg hd]
      exact isWord_of_isAlphanum (Or.inr rfl)
  rw [ofName, String.toList_ofList] at h
  -- The guard puts one underscore in front, which is a word character too.
  unfold guardDigit at h
  split at h
  · rename_i d rest e
    split at h
    · rcases List.mem_cons.mp h with rfl | h
      · exact isWord_of_isAlphanum (Or.inr rfl)
      · exact replaced _ c h
    · exact replaced _ c h
  · cases h

theorem isWord_of_mem_toDigits {n : Nat} {c : Char} (h : c ∈ Nat.toDigits 10 n) :
    isWord c = true := by
  have hd : c.isDigit = true := Nat.isDigit_of_mem_toDigits (by decide) (by decide) h
  refine isWord_of_isAlphanum (Or.inl ?_)
  rw [Char.isAlphanum, hd, Bool.or_true]

theorem isWord_of_mem_suffixed {symbol : String} {position : Nat}
    (hs : ∀ c ∈ symbol.toList, isWord c = true) {c : Char}
    (h : c ∈ (suffixed symbol position).toList) : isWord c = true := by
  rw [toList_suffixed] at h
  rcases List.mem_append.mp h with h | h
  · exact hs c h
  · rcases List.mem_cons.mp h with rfl | h
    · exact isWord_of_isAlphanum (Or.inr rfl)
    · exact isWord_of_mem_toDigits h

/-- Own symbols made of word characters give symbols made of word characters. -/
theorem isWord_of_mem_distinguishAll {taken : List String} {es : List (String × Nat)}
    (hes : ∀ e ∈ es, ∀ c ∈ e.1.toList, isWord c = true) {s : String}
    (hs : s ∈ distinguishAll taken es) : ∀ c ∈ s.toList, isWord c = true := by
  induction es generalizing taken with
  | nil => cases hs
  | cons e rest ih =>
    rcases List.mem_cons.mp hs with rfl | hs
    · have own := hes e List.mem_cons_self
      unfold distinguish
      split
      · exact fun c hc => isWord_of_mem_suffixed own hc
      · exact own
    · exact ih (fun e he => hes e (List.mem_cons_of_mem _ he)) hs

end KeymapCompiler.Symbol
