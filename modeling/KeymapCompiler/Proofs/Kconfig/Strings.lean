/-
KeymapCompiler/Proofs/Kconfig/Strings.lean

Strings as settings.  The value of a string symbol is written in quotes, and the build
reads it up to the first quote that no backslash escapes (`splitQuote?`) and takes the
backslashes off (`unescaped`).

A value is escaped by two replacements one after the other, first of the backslashes and
then of the quotes.  The second replacement finds only the quotes of the value, so both
together put a backslash before each quote and each backslash (`escaped_eq_replaced`).
The proofs go character by character from there: an escaped text has no end of its own,
whatever stands behind it (`splitQuote?_escaped_append`).
-/
import KeymapCompiler.Kconfig.Setting
import Mathlib.Data.List.Basic

namespace KeymapCompiler.Kconfig

/-! ### Reading quoted texts -/

/-- Splits a text at its first quote that no backslash escapes, if there is one. -/
def splitQuote? : List Char → Option (List Char × List Char)
  | '\\' :: c :: rest => (splitQuote? rest).map fun s => ('\\' :: c :: s.1, s.2)
  | c :: rest =>
    if c = '\x22' then some ([], rest) else (splitQuote? rest).map fun s => (c :: s.1, s.2)
  | [] => none

/-- Takes off the backslashes that escape another character. -/
def unescaped : List Char → List Char
  | '\\' :: c :: rest => c :: unescaped rest
  | c :: rest => c :: unescaped rest
  | [] => []

theorem splitQuote?_of_ne {c : Char} (hslash : c ≠ '\\') (hquote : c ≠ '\x22')
    (rest : List Char) :
    splitQuote? (c :: rest) = (splitQuote? rest).map fun s => (c :: s.1, s.2) := by
  rw [splitQuote?, if_neg hquote]
  intro _ _ e
  exact absurd e hslash

theorem unescaped_of_ne {c : Char} (hslash : c ≠ '\\') (rest : List Char) :
    unescaped (c :: rest) = c :: unescaped rest := by
  rw [unescaped]
  intro _ _ e
  exact absurd e hslash

/-- What a text in quotes is for a string: it holds the string in an escaped form, and nothing in
there ends it before its last character. -/
structure IsQuotation (s text : String) (inner : List Char) : Prop where
  /-- There is a quote on either side of the escaped form. -/
  shape : text.toList = '\x22' :: (inner ++ ['\x22'])
  /-- No quote inside is without a backslash that escapes it. -/
  inside : splitQuote? inner = none
  /-- The quote at the end is the first one that is, whatever follows it. -/
  closed : ∀ rest, splitQuote? (inner ++ '\x22' :: rest) = some (inner, rest)
  /-- Without the backslashes that escape, the string is left. -/
  undone : unescaped inner = s.toList

/-- A text is the quotation of one string at most. -/
theorem IsQuotation.unique {s t text : String} {inner inner' : List Char}
    (hs : IsQuotation s text inner) (ht : IsQuotation t text inner') : s = t := by
  have same : inner ++ ['\x22'] = inner' ++ ['\x22'] :=
    (List.cons.inj (hs.shape.symm.trans ht.shape)).2
  rw [← String.toList_inj, ← hs.undone, ← ht.undone, List.append_cancel_right same]

/-! ### Escaped texts -/

/-- Replaces a character by a text wherever it stands. -/
def replaced (old : Char) (new cs : List Char) : List Char :=
  cs.flatMap fun c => if c = old then new else [c]

theorem replaced_cons (old : Char) (new : List Char) (c : Char) (rest : List Char) :
    replaced old new (c :: rest) = (if c = old then new else [c]) ++ replaced old new rest :=
  List.flatMap_cons

theorem replaced_append (old : Char) (new a b : List Char) :
    replaced old new (a ++ b) = replaced old new a ++ replaced old new b :=
  List.flatMap_append

theorem escaped_of_special {c : Char} (h : c = '\\' ∨ c = '\x22') (rest : List Char) :
    escaped (c :: rest) = '\\' :: c :: escaped rest :=
  if_pos h

theorem escaped_of_ne {c : Char} (hslash : c ≠ '\\') (hquote : c ≠ '\x22') (rest : List Char) :
    escaped (c :: rest) = c :: escaped rest :=
  if_neg (not_or.mpr ⟨hslash, hquote⟩)

/-- Escaping is doubling the backslashes and then putting one before each quote. -/
theorem escaped_eq_replaced (cs : List Char) :
    escaped cs = replaced '\x22' ['\\', '\x22'] (replaced '\\' ['\\', '\\'] cs) := by
  induction cs with
  | nil => rfl
  | cons c rest ih =>
    rw [replaced_cons, replaced_append, ← ih]
    by_cases hslash : c = '\\'
    · subst hslash
      rw [escaped_of_special (.inl rfl), if_pos rfl]
      -- The backslashes that the first replacement has made are no quotes.
      rfl
    · rw [if_neg hslash]
      by_cases hquote : c = '\x22'
      · subst hquote
        rw [escaped_of_special (.inr rfl)]
        rfl
      · rw [escaped_of_ne hslash hquote, replaced_cons, if_neg hquote]
        rfl

theorem unescaped_escaped (cs : List Char) : unescaped (escaped cs) = cs := by
  induction cs with
  | nil => rfl
  | cons c rest ih =>
    by_cases special : c = '\\' ∨ c = '\x22'
    · rw [escaped_of_special special, unescaped, ih]
    · obtain ⟨hslash, hquote⟩ := not_or.mp special
      rw [escaped_of_ne hslash hquote, unescaped_of_ne hslash, ih]

/-- An escaped text does not end a quotation: the end is the one that the text behind it has. -/
theorem splitQuote?_escaped_append (cs back : List Char) :
    splitQuote? (escaped cs ++ back)
      = (splitQuote? back).map fun s => (escaped cs ++ s.1, s.2) := by
  induction cs with
  | nil => exact Option.map_id'.symm
  | cons c rest ih =>
    by_cases special : c = '\\' ∨ c = '\x22'
    · rw [escaped_of_special special, List.cons_append, List.cons_append, splitQuote?, ih,
        Option.map_map]
      rfl
    · obtain ⟨hslash, hquote⟩ := not_or.mp special
      rw [escaped_of_ne hslash hquote, List.cons_append, splitQuote?_of_ne hslash hquote, ih,
        Option.map_map]
      rfl

/-! ### Strings in quotes -/

theorem isQuotation_renderString (s : String) :
    IsQuotation s (renderString s) (escaped s.toList) where
  shape := String.toList_ofList
  inside := by
    have whole := splitQuote?_escaped_append s.toList []
    rwa [List.append_nil] at whole
  closed rest := by
    have last : splitQuote? ('\x22' :: rest) = some ([], rest) := by
      rw [splitQuote?, if_pos rfl]
      intro _ _ e
      exact absurd e (by decide)
    rw [splitQuote?_escaped_append, last, Option.map_some, List.append_nil]
  undone := unescaped_escaped s.toList

/-- **Strings as settings.**  Every string is written, as two replacements in quotes, and the text
is a quotation of it: it ends where it should, and the string can be read back.  So different
strings are written differently. -/
theorem string_quoted (s : String) :
    (∃ text inner, SymbolType.string.render s = .ok text ∧ IsQuotation s text inner ∧
        inner = replaced '\x22' ['\\', '\x22'] (replaced '\\' ['\\', '\\'] s.toList)) ∧
      ∀ t, SymbolType.string.render t = SymbolType.string.render s ↔ t = s := by
  refine ⟨⟨_, _, rfl, isQuotation_renderString s, escaped_eq_replaced s.toList⟩, fun t => ?_⟩
  constructor
  · intro h
    have same : renderString t = renderString s := Except.ok.inj h
    exact (same ▸ isQuotation_renderString t).unique (isQuotation_renderString s)
  · rintro rfl
    rfl

/-- Quotes and backslashes next to each other and at the end, in a text that looks escaped. -/
example : (renderString "\\\"a\\").toList
    = ['\x22', '\\', '\\', '\\', '\x22', 'a', '\\', '\\', '\x22'] := by
  decide +kernel

end KeymapCompiler.Kconfig
