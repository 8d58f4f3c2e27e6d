/-
KeymapCompiler/Proofs/Kconfig/Literals.lean

Integer literals in the build's configuration.  A value of an integer symbol is written in
one of two ways: a number that was read is written anew in decimal digits, and a
hexadecimal number is written as the text that was given.

Decimal digits always make a literal (`isIntegerLiteral_toString`).  A text that is taken
over does unless it has a sign after its mark (`renderInt_of_mark`): the sign belongs to
the number that is read there, but not to a literal.  The text of a number in a document
has no mark (`isNumberChar_of_mem_text`), so only strings can be such texts.
-/
import KeymapCompiler.Proofs.Decimal.Layout
import KeymapCompiler.Proofs.Kconfig.Integers

namespace KeymapCompiler.Kconfig

open KeymapCompiler.Text KeymapCompiler.Decimal

/-! ### Literals -/

/-- The integer literals that the build takes. -/
inductive IsIntegerLiteral : List Char → Prop where
  /-- Decimal digits. -/
  | decimal {ds : List Char} (hsome : ds ≠ []) (hds : ∀ c ∈ ds, c.isDigit = true) :
      IsIntegerLiteral ds
  /-- Decimal digits after a minus sign. -/
  | negative {ds : List Char} (hsome : ds ≠ []) (hds : ∀ c ∈ ds, c.isDigit = true) :
      IsIntegerLiteral ('-' :: ds)
  /-- Hexadecimal digits after the mark. -/
  | hexadecimal {x : Char} {ds : List Char} (hx : x = 'x' ∨ x = 'X') (hsome : ds ≠ [])
      (hds : ∀ c ∈ ds, isHexDigit c = true) : IsIntegerLiteral ('0' :: x :: ds)

/-- A hexadecimal number of 64 bits that has a sign after its mark. -/
inductive IsSignedHex : List Char → Prop where
  /-- The mark, the sign and the digits. -/
  | intro {x sign : Char} {ds : List Char} (hx : x = 'x' ∨ x = 'X')
      (hsign : sign = '-' ∨ sign = '+') (hsome : ds ≠ []) (hds : ∀ c ∈ ds, isHexDigit c = true)
      (hfits : Word.isSigned 64 (if sign = '-' then -(ofHexDigits ds : Int) else ofHexDigits ds)
        = true) : IsSignedHex ('0' :: x :: sign :: ds)

theorem isIntegerLiteral_toString (n : Int) : IsIntegerLiteral (toString n).toList := by
  have digits : ∀ c ∈ Nat.toDigits 10 n.natAbs, c.isDigit = true :=
    fun c hc => Nat.isDigit_of_mem_toDigits (by decide) (by decide) hc
  have some_digit : Nat.toDigits 10 n.natAbs ≠ [] := by simp
  rw [toList_toString]
  split
  · exact .negative some_digit digits
  · exact .decimal some_digit digits

/-- After the mark there are hexadecimal digits only. -/
theorem isIntegerLiteral_mark_iff {x : Char} (hx : x = 'x' ∨ x = 'X') (ds : List Char) :
    IsIntegerLiteral ('0' :: x :: ds) ↔ ds ≠ [] ∧ ∀ c ∈ ds, isHexDigit c = true := by
  constructor
  · intro h
    cases h with
    | decimal _ hds =>
      have hdigit := hds x (by simp)
      rcases hx with rfl | rfl
      · exact absurd hdigit (by decide)
      · exact absurd hdigit (by decide)
    | hexadecimal _ hsome hds => exact ⟨hsome, hds⟩
  · rintro ⟨hsome, hds⟩
    exact .hexadecimal hx hsome hds

/-! ### What is written -/

theorem hexDigits?_eq_some_iff {cs ds : List Char} :
    hexDigits? cs = some ds ↔ ∃ x, (x = 'x' ∨ x = 'X') ∧ cs = '0' :: x :: ds := by
  unfold hexDigits?
  split
  · simp
  · simp
  · next lower upper =>
    refine iff_of_false (by simp) ?_
    rintro ⟨x, rfl | rfl, rfl⟩
    · exact lower ds rfl
    · exact upper ds rfl

/-- Without the mark, a number is written anew. -/
theorem renderInt_of_hexDigits?_eq_none {text value : String}
    (hnone : hexDigits? (trim text.toList) = none) (h : renderInt text = .ok value) :
    ∃ n : Int, value = toString n := by
  unfold renderInt at h
  simp only [hnone] at h
  split at h
  · next x _ =>
    split at h
    · exact ⟨x.truncate, (Except.ok.inj h).symm⟩
    · cases h
  · cases h

/-- With the mark, a text is taken over. -/
theorem renderInt_of_mark {text value : String} {x : Char} {ds : List Char}
    (hx : x = 'x' ∨ x = 'X') (htext : trim text.toList = '0' :: x :: ds) :
    renderInt text = .ok value ↔
      isHexNumber ds = true ∧ value = String.ofList ('0' :: x :: ds) := by
  have hmark : hexDigits? ('0' :: x :: ds) = some ds := hexDigits?_eq_some_iff.mpr ⟨x, hx, rfl⟩
  unfold renderInt
  simp only [htext, hmark]
  split
  · next hnumber => simp [hnumber, eq_comm]
  · next hnumber => simp [hnumber]

/-! ### Numbers after the mark -/

/-- A number has digits, all of them hexadecimal, and not too many for 64 bits. -/
theorem isHexNumber_of_splitSign {cs ds : List Char} {negative : Bool}
    (h : Numeral.splitSign cs = (negative, ds)) :
    isHexNumber cs = true ↔ ds ≠ [] ∧ (∀ c ∈ ds, isHexDigit c = true) ∧
      Word.isSigned 64 (if negative then -(ofHexDigits ds : Int) else ofHexDigits ds) = true := by
  simp [isHexNumber, h, and_assoc]

/-- A number that starts with a sign. -/
theorem isHexNumber_sign_iff {sign : Char} (hsign : sign = '-' ∨ sign = '+') (ds : List Char) :
    isHexNumber (sign :: ds) = true ↔ ds ≠ [] ∧ (∀ c ∈ ds, isHexDigit c = true) ∧
      Word.isSigned 64 (if sign = '-' then -(ofHexDigits ds : Int) else ofHexDigits ds)
        = true := by
  rcases hsign with rfl | rfl
  · have split : Numeral.splitSign ('-' :: ds) = (true, ds) := rfl
    simpa using isHexNumber_of_splitSign split
  · have split : Numeral.splitSign ('+' :: ds) = (false, ds) := rfl
    simpa using isHexNumber_of_splitSign split

theorem splitSign_of_unsigned {ds : List Char} (hminus : ds.head? ≠ some '-')
    (hplus : ds.head? ≠ some '+') : Numeral.splitSign ds = (false, ds) := by
  unfold Numeral.splitSign
  split
  · exact absurd rfl hminus
  · exact absurd rfl hplus
  · rfl

/-- A number after the mark has digits only, unless it has a sign. -/
theorem isIntegerLiteral_of_isHexNumber {x : Char} (hx : x = 'x' ∨ x = 'X') {ds : List Char}
    (hnumber : isHexNumber ds = true) (hsigned : ¬ IsSignedHex ('0' :: x :: ds)) :
    IsIntegerLiteral ('0' :: x :: ds) := by
  have unsigned : ∀ sign : Char, sign = '-' ∨ sign = '+' → ds.head? ≠ some sign := by
    intro sign hsign e
    obtain ⟨rest, rfl⟩ := List.head?_eq_some_iff.mp e
    obtain ⟨hsome, hds, hfits⟩ := (isHexNumber_sign_iff hsign rest).mp hnumber
    exact hsigned (.intro hx hsign hsome hds hfits)
  have split := splitSign_of_unsigned (unsigned '-' (.inl rfl)) (unsigned '+' (.inr rfl))
  obtain ⟨hsome, hds, -⟩ := (isHexNumber_of_splitSign split).mp hnumber
  exact .hexadecimal hx hsome hds

/-- A number with a sign after its mark is accepted, but what is written is no literal. -/
theorem IsSignedHex.exists_renderInt {text : String} (h : IsSignedHex (trim text.toList)) :
    ∃ value, renderInt text = .ok value ∧ ¬ IsIntegerLiteral value.toList := by
  generalize htext : trim text.toList = cs at h
  obtain ⟨hx, hsign, hsome, hds, hfits⟩ := h
  have hnumber := (isHexNumber_sign_iff hsign _).mpr ⟨hsome, hds, hfits⟩
  refine ⟨_, (renderInt_of_mark hx htext).mpr ⟨hnumber, rfl⟩, ?_⟩
  rw [String.toList_ofList, isIntegerLiteral_mark_iff hx]
  rintro ⟨-, hdigits⟩
  have hdigit := hdigits _ List.mem_cons_self
  rcases hsign with rfl | rfl
  · exact absurd hdigit (by decide)
  · exact absurd hdigit (by decide)

/-- The text of a number has no mark. -/
theorem not_isSignedHex_text (n : Json.Number) : ¬ IsSignedHex (trim n.text.toList) := by
  intro h
  generalize htext : trim n.text.toList = cs at h
  obtain @⟨x, sign, ds, hx, -, -, -, -⟩ := h
  have hmem : x ∈ n.text.toList := by
    obtain ⟨front, back, -, -, whole⟩ := exists_trim_append n.text.toList
    rw [whole, htext]
    simp
  have hchar := isNumberChar_of_mem_text n x hmem
  rcases hx with rfl | rfl
  · exact absurd hchar (by decide)
  · exact absurd hchar (by decide)

/-! ### Values of integer symbols -/

/-- **Integers as literals.**  A text that is accepted as an integer is written as a literal, unless
it is a hexadecimal number with a sign after its mark.  The text of a number in a document never is
one. -/
theorem int_literal_iff (text : String) (n : Json.Number) :
    ((∀ value, SymbolType.int.render text = .ok value → IsIntegerLiteral value.toList)
        ↔ ¬ IsSignedHex (trim text.toList)) ∧
      ¬ IsSignedHex (trim n.text.toList) := by
  refine ⟨⟨?_, ?_⟩, not_isSignedHex_text n⟩
  · intro literal signed
    obtain ⟨value, hvalue, hliteral⟩ := signed.exists_renderInt
    exact hliteral (literal value hvalue)
  · intro unsigned value hvalue
    have hvalue : renderInt text = .ok value := hvalue
    rcases hmark : hexDigits? (trim text.toList) with - | ds
    · obtain ⟨n, rfl⟩ := renderInt_of_hexDigits?_eq_none hmark hvalue
      exact isIntegerLiteral_toString n
    · -- A marked text is written as it stands, so the sign is all that could spoil it.
      obtain ⟨x, hx, htext⟩ := hexDigits?_eq_some_iff.mp hmark
      obtain ⟨hnumber, rfl⟩ := (renderInt_of_mark hx htext).mp hvalue
      rw [htext] at unsigned
      rw [String.toList_ofList]
      exact isIntegerLiteral_of_isHexNumber hx hnumber unsigned

/-- A sign after the mark is written as it is given, and the build takes no such value. -/
theorem signed_hex_not_literal :
    SymbolType.int.render "0x-1F" = .ok "0x-1F" ∧ ¬ IsIntegerLiteral "0x-1F".toList := by
  have chars : "0x-1F".toList = ['0', 'x', '-', '1', 'F'] := by decide +kernel
  have blanks : trim "0x-1F".toList = ['0', 'x', '-', '1', 'F'] := by decide +kernel
  refine ⟨(renderInt_of_mark (.inl rfl) blanks).mpr ⟨by decide, by decide +kernel⟩, ?_⟩
  rw [chars, isIntegerLiteral_mark_iff (.inl rfl)]
  rintro ⟨-, hdigits⟩
  exact absurd (hdigits '-' List.mem_cons_self) (by decide)

end KeymapCompiler.Kconfig
