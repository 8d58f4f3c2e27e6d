/-
KeymapCompiler/Proofs/Decimal/Rounding.lean

Integers as floating-point numbers.  A number has 53 significant bits, so a natural
number is one exactly when the bits that it has past the first 53 are zero
(`IsShort`).  Every other natural number is rounded at the last bit that is kept, its
`unit`.

`exists_nearest_natural` says that the nearest number to a natural number, cut toward
zero, is the natural number rounded in this way, and `ofChars?_toString` that the
decimal text of an integer is read as the integer.
-/
import KeymapCompiler.Decimal.Numeral
import Mathlib.Data.Nat.Log
import Mathlib.Tactic.Ring

namespace KeymapCompiler.Decimal

open KeymapCompiler.Text

/-! ### Rounding a quotient -/

/-- Rounding a quotient changes it exactly when it is no integer. -/
theorem divHalfEven_mul_eq_self_iff (n u : Nat) : divHalfEven n u * u = n ↔ u ∣ n := by
  constructor
  · intro h
    exact ⟨divHalfEven n u, by rw [Nat.mul_comm, h]⟩
  · rintro ⟨q, rfl⟩
    rcases Nat.eq_zero_or_pos u with rfl | hpos
    · simp
    · simp [divHalfEven, hpos, Nat.mul_comm]

theorem divHalfEven_one (n : Nat) : divHalfEven n 1 = n := by
  simpa using (divHalfEven_mul_eq_self_iff n 1).mpr (Nat.one_dvd n)

/-- A quotient below a bound is not rounded past it. -/
theorem divHalfEven_le {n u bound : Nat} (h : n < u * bound) :
    divHalfEven n u ≤ bound := by
  have lt : n / u < bound := Nat.div_lt_of_lt_mul h
  unfold divHalfEven
  dsimp only
  split
  · omega
  · split
    · omega
    · split
      · omega
      · omega

/-! ### Rounding a natural number -/

/-- What the last of the first 53 bits of a natural number counts, if it has more bits. -/
def unit (n : Nat) : Nat := 2 ^ (n.log2 - 52)

/-- A natural number rounded to 53 significant bits, a half to the even one. -/
def rounded (n : Nat) : Nat := divHalfEven n (unit n) * unit n

/-- A natural number with at most 53 significant bits. -/
def IsShort (n : Nat) : Prop := ∃ m e, m < 2 ^ 53 ∧ n = m * 2 ^ e

/-- A natural number has 53 bits above its unit. -/
theorem lt_unit_mul (n : Nat) : n < unit n * 2 ^ 53 := by
  rw [unit, ← Nat.pow_add]
  exact Nat.lt_of_lt_of_le Nat.lt_log2_self (Nat.pow_le_pow_right Nat.two_pos (by omega))

theorem isShort_iff_unit_dvd (n : Nat) : IsShort n ↔ unit n ∣ n := by
  constructor
  · rintro ⟨m, e, hm, hn⟩
    rcases Nat.eq_zero_or_pos n with rfl | hpos
    · exact Nat.dvd_zero _
    -- The bits of `n` are those of `m`, so there are at most 53 of them above `2 ^ e`.
    have le : n.log2 - 52 ≤ e := by
      have lt : n < 2 ^ (53 + e) := by
        rw [hn, Nat.pow_add]
        exact Nat.mul_lt_mul_of_pos_right hm (Nat.two_pow_pos e)
      have := (Nat.log2_lt hpos.ne').mpr lt
      omega
    exact (Nat.pow_dvd_pow 2 le).trans ⟨m, by rw [hn, Nat.mul_comm]⟩
  · rintro ⟨m, hm⟩
    refine ⟨m, n.log2 - 52, ?_, by rw [Nat.mul_comm]; exact hm⟩
    have lt := lt_unit_mul n
    conv at lt => lhs; rw [hm]
    exact Nat.lt_of_mul_lt_mul_left lt

/-- Rounding keeps exactly the short numbers. -/
theorem rounded_eq_self_iff (n : Nat) : rounded n = n ↔ IsShort n := by
  rw [rounded, divHalfEven_mul_eq_self_iff, isShort_iff_unit_dvd]

theorem rounded_of_log2_le {n : Nat} (h : n.log2 ≤ 52) : rounded n = n := by
  have one : unit n = 1 := by rw [unit, Nat.sub_eq_zero_of_le h, Nat.pow_zero]
  rw [rounded, one, divHalfEven_one, Nat.mul_one]

/-! ### The nearest number -/

theorem leadingBit_one {n : Nat} (h : n ≠ 0) : leadingBit n 1 = n.log2 := by
  have le : 1 * 2 ^ n.log2 ≤ n := by rw [Nat.one_mul]; exact Nat.log2_self_le h
  have one : Nat.log2 1 = 0 := by decide
  unfold leadingBit
  simp only [one, scaled, Nat.cast_zero, Int.sub_zero]
  rw [if_pos (Int.natCast_nonneg _)]
  exact if_neg (Nat.not_lt.mpr le)

theorem settle_of_ne {m : Nat} {q : Int} (negative : Bool) (hm : m ≠ 2 ^ 53)
    (hq : q ≤ greatestExponent) : settle negative m q = some ⟨negative, m, q⟩ := by
  have hm : ¬ m = Nat.pow 2 53 := hm
  rw [settle, if_neg hm, if_neg hm, if_neg (Int.not_lt.mpr hq)]

/-- Rounding may have made one more bit. -/
theorem settle_carry {q : Int} (negative : Bool) (hq : q + 1 ≤ greatestExponent) :
    settle negative (2 ^ 53) q = some ⟨negative, 2 ^ 52, q + 1⟩ :=
  if_neg (Int.not_lt.mpr hq)

/-- The integer part of a number with a sign. -/
theorem truncate_eq (x : Binary64) (t : Nat) (h : x.ratio.1 / x.ratio.2 = t) :
    x.truncate = if x.negative then -(t : Int) else t := by
  unfold Binary64.truncate
  dsimp only
  rw [← h, Int.natCast_ediv]

/-- A natural number of at most 53 bits is a number. -/
theorem nearest_of_log2_le {n : Nat} (hpos : n ≠ 0) (h : n.log2 ≤ 52) (negative : Bool) :
    ∃ x, nearest negative n 1 = some x ∧ x.negative = negative ∧ x.ratio.1 / x.ratio.2 = n := by
  -- The number is shifted up to 53 bits, so there is nothing to round.
  obtain ⟨j, hj⟩ : ∃ j, n.log2 + j = 52 := ⟨52 - n.log2, by omega⟩
  have lt : n * 2 ^ j < 2 ^ 53 := by
    have := Nat.mul_lt_mul_of_pos_right (Nat.lt_log2_self (n := n)) (Nat.two_pow_pos j)
    rwa [← Nat.pow_add, show n.log2 + 1 + j = 53 by omega] at this
  have power : max (leadingBit n 1 - 52) leastExponent = -(j : Int) := by
    rw [leadingBit_one hpos, leastExponent]
    omega
  refine ⟨⟨negative, n * 2 ^ j, -(j : Int)⟩, ?_, rfl, ?_⟩
  · have quotient : divHalfEven (scaled n 1 (-(j : Int))).1 (scaled n 1 (-(j : Int))).2
        = n * 2 ^ j := by
      unfold scaled
      split
      · obtain rfl : j = 0 := by omega
        simp [divHalfEven_one]
      · simp [divHalfEven_one]
    rw [nearest, if_neg hpos, power]
    dsimp only
    rw [quotient]
    exact settle_of_ne negative (Nat.ne_of_lt lt) (by rw [greatestExponent]; omega)
  · unfold Binary64.ratio
    split
    · next hle =>
      obtain rfl : j = 0 := by dsimp only at hle; omega
      simp
    · simp [Nat.mul_div_cancel _ (Nat.two_pow_pos j)]

/-- A natural number of more bits is rounded. -/
theorem nearest_of_lt_log2 {n : Nat} (h : 52 < n.log2) (hmax : n.log2 ≤ 1022) (negative : Bool) :
    ∃ x, nearest negative n 1 = some x ∧ x.negative = negative ∧
      x.ratio.1 / x.ratio.2 = rounded n := by
  have hpos : n ≠ 0 := by
    rintro rfl
    simp at h
  -- The number is shifted down to 53 bits, and what is lost is rounded.
  obtain ⟨k, hk⟩ : ∃ k, 52 + k = n.log2 := ⟨n.log2 - 52, by omega⟩
  have hunit : unit n = 2 ^ k := by rw [unit, ← hk, Nat.add_sub_cancel_left]
  have power : max (leadingBit n 1 - 52) leastExponent = (k : Int) := by
    rw [leadingBit_one hpos, leastExponent]
    omega
  have scale : scaled n 1 (k : Int) = (n, 2 ^ k) := by
    rw [scaled, if_pos (Int.natCast_nonneg k), Int.toNat_natCast, Nat.one_mul]
    rfl
  have le : divHalfEven n (2 ^ k) ≤ 2 ^ 53 := by
    apply divHalfEven_le
    rw [← hunit]
    exact lt_unit_mul n
  have start : nearest negative n 1 = settle negative (divHalfEven n (2 ^ k)) k := by
    rw [nearest, if_neg hpos, power]
    dsimp only
    rw [scale]
  rw [rounded, hunit, start]
  -- Rounding up may give one bit too many, which is then settled by one more shift.
  by_cases hcarry : divHalfEven n (2 ^ k) = 2 ^ 53
  · rw [hcarry]
    refine ⟨_, settle_carry negative (by rw [greatestExponent]; omega), rfl, ?_⟩
    rw [Binary64.ratio, if_pos (by dsimp only; omega), Nat.div_one]
    show 2 ^ 52 * 2 ^ (k + 1 : Nat) = _
    ring
  · refine ⟨_, settle_of_ne negative hcarry (by rw [greatestExponent]; omega), rfl, ?_⟩
    rw [Binary64.ratio, if_pos (Int.natCast_nonneg k), Nat.div_one]
    rfl

/-- The number nearest to a natural number is the natural number rounded. -/
theorem exists_nearest_natural {n : Nat} (hpos : n ≠ 0) (hmax : n.log2 ≤ 1022) (negative : Bool) :
    ∃ x, nearest negative n 1 = some x ∧
      x.truncate = if negative then -(rounded n : Int) else rounded n := by
  by_cases h : n.log2 ≤ 52
  · obtain ⟨x, hx, hsign, hratio⟩ := nearest_of_log2_le hpos h negative
    refine ⟨x, hx, ?_⟩
    rw [rounded_of_log2_le h, ← hsign]
    exact truncate_eq x n hratio
  · obtain ⟨x, hx, hsign, hratio⟩ := nearest_of_lt_log2 (Nat.not_le.mp h) hmax negative
    refine ⟨x, hx, ?_⟩
    rw [← hsign]
    exact truncate_eq x _ hratio

theorem truncate_zero (negative : Bool) : (Binary64.zero negative).truncate = 0 := by
  have none : (Binary64.zero negative).ratio.1 / (Binary64.zero negative).ratio.2 = 0 :=
    Nat.zero_div _
  rw [truncate_eq _ 0 none]
  exact ite_self _

/-! ### The text of an integer -/

/-- The decimal text of an integer. -/
theorem toList_toString (n : Int) :
    (toString n).toList = (if n < 0 then ['-'] else []) ++ Nat.toDigits 10 n.natAbs := by
  have natural : ∀ m : Nat, (toString m).toList = Nat.toDigits 10 m := fun m => by
    rw [Nat.toString_eq_ofList_toDigits, String.toList_ofList]
  cases n with
  | ofNat m => exact natural m
  | negSucc m =>
    show ("-" ++ toString (m + 1)).toList = _
    rw [String.toList_append, natural, if_pos (Int.negSucc_lt_zero m)]
    congr 1

theorem mem_toString {n : Int} {c : Char} (h : c ∈ (toString n).toList) :
    c = '-' ∨ c.isDigit = true := by
  rw [toList_toString, List.mem_append] at h
  rcases h with hsign | hdigit
  · split at hsign
    · exact .inl (List.mem_singleton.mp hsign)
    · cases hsign
  · exact .inr (Nat.isDigit_of_mem_toDigits (by decide) (by decide) hdigit)

namespace Numeral

theorem splitSign_toString (n : Int) :
    splitSign (toString n).toList = (decide (n < 0), Nat.toDigits 10 n.natAbs) := by
  rw [toList_toString]
  by_cases hneg : n < 0
  · simp [hneg, splitSign]
  · rw [if_neg hneg, List.nil_append, decide_eq_false hneg]
    -- A digit is no sign.
    rcases hdigits : Nat.toDigits 10 n.natAbs with - | ⟨c, rest⟩
    · rfl
    · have hmem : c ∈ Nat.toDigits 10 n.natAbs := hdigits ▸ List.mem_cons_self
      have hdigit := Nat.isDigit_of_mem_toDigits (by decide) (by decide) hmem
      unfold splitSign
      split
      · next h => simp [(List.cons.inj h).1] at hdigit
      · next h => simp [(List.cons.inj h).1] at hdigit
      · rfl

/-- Different integers have different texts. -/
theorem eq_of_toString_eq {a b : Int} (h : toString a = toString b) : a = b := by
  have split := congrArg (fun s : String => splitSign s.toList) h
  simp only [splitSign_toString, Prod.mk.injEq, decide_eq_decide] at split
  obtain ⟨hsign, hdigits⟩ := split
  have magnitude := congrArg (fun ds => Nat.ofDigitChars 10 ds 0) hdigits
  simp only [Nat.ofDigitChars_toDigits (Nat.one_lt_succ_succ 8) (Nat.le_refl 10)] at magnitude
  omega

/-- The decimal text of an integer is a numeral without point and exponent. -/
theorem ofChars?_toString (n : Int) :
    ofChars? (toString n).toList
      = some ⟨decide (n < 0), Nat.toDigits 10 n.natAbs, none, none⟩ := by
  have digits : ∀ c ∈ Nat.toDigits 10 n.natAbs, c.isDigit = true :=
    fun c hc => Nat.isDigit_of_mem_toDigits (by decide) (by decide) hc
  have whole : (Nat.toDigits 10 n.natAbs).takeWhile Char.isDigit = Nat.toDigits 10 n.natAbs := by
    simpa using @List.takeWhile_append_of_pos Char Char.isDigit _ [] digits
  have rest : (Nat.toDigits 10 n.natAbs).dropWhile Char.isDigit = [] := by
    simpa using @List.dropWhile_append_of_pos Char Char.isDigit _ [] digits
  -- All that follows the sign are digits, so nothing is left for a point or an exponent.
  have split : splitDigits (Nat.toDigits 10 n.natAbs) = (Nat.toDigits 10 n.natAbs, []) := by
    rw [splitDigits, whole, rest]
  have some_digit : (Nat.toDigits 10 n.natAbs).isEmpty = false := by simp
  unfold ofChars?
  rw [splitSign_toString]
  dsimp only
  rw [split, some_digit]
  rfl

theorem nearest_of_ofDigits_eq_zero {n : Numeral} (h : ofDigits n.digits = 0) :
    n.nearest = some (.zero n.negative) := by
  rw [nearest]
  exact if_pos h

/-- A numeral of digits only, not too many of them, is read as the number nearest to them. -/
theorem nearest_of_digits (negative : Bool) {ds : List Char} (hpos : ofDigits ds ≠ 0)
    (hcount : (Nat.toDigits 10 (ofDigits ds)).length ≤ 400) :
    nearest ⟨negative, ds, none, none⟩ = Decimal.nearest negative (ofDigits ds) 1 := by
  have digits : Numeral.digits ⟨negative, ds, none, none⟩ = ds := List.append_nil ds
  have place : lastPlace ⟨negative, ds, none, none⟩ = 0 := rfl
  rw [nearest, digits, place]
  dsimp only
  rw [if_neg hpos, if_neg (by omega), if_neg (by omega), if_pos (Int.le_refl 0)]
  congr 1
  exact Nat.mul_one _

/-- The number nearest to the decimal text of an integer. -/
theorem exists_nearest_toString {n : Int} (hmax : n.natAbs < 2 ^ 64) :
    ∃ x, (ofChars? (toString n).toList).bind nearest = some x ∧
      x.truncate = if n < 0 then -(rounded n.natAbs : Int) else rounded n.natAbs := by
  have digits : ofDigits (Nat.toDigits 10 n.natAbs) = n.natAbs :=
    Nat.ofDigitChars_toDigits (by decide) (by decide)
  rw [ofChars?_toString, Option.bind_some]
  by_cases hzero : n.natAbs = 0
  · refine ⟨_, nearest_of_ofDigits_eq_zero ?_, ?_⟩
    · rw [Numeral.digits, Option.getD_none, List.append_nil, digits, hzero]
    · obtain rfl := Int.natAbs_eq_zero.mp hzero
      exact truncate_zero _
  · -- Sixty-four bits are at most twenty digits, which is far from the limits of the format.
    have count : (Nat.toDigits 10 n.natAbs).length ≤ 20 :=
      (Nat.length_toDigits_le_iff (by decide) (by decide)).mpr
        (Nat.lt_trans hmax (by decide : 2 ^ 64 < 10 ^ 20))
    have bits : n.natAbs.log2 < 64 := (Nat.log2_lt hzero).mpr hmax
    have small : n.natAbs.log2 ≤ 1022 := by omega
    rw [nearest_of_digits (decide (n < 0)) (by rwa [digits]) (by rw [digits]; omega), digits]
    obtain ⟨x, hx, htruncate⟩ := exists_nearest_natural hzero small (decide (n < 0))
    exact ⟨x, hx, by simpa using htruncate⟩

end Numeral

end KeymapCompiler.Decimal
