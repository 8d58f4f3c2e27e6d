/-
KeymapCompiler/Symbol.lean

Symbols made from names.  Layers and combos are named freely in a document, and
the generated source needs a symbol for each.  A name becomes a symbol by turning
every character that is no word character into an underscore, and by putting an
underscore before a digit it starts with.

Different names can share a symbol.  `distinguish` keeps the first and gives a
later one its position as a suffix.
-/
import KeymapCompiler.Text.Category

namespace KeymapCompiler.Symbol

open KeymapCompiler.Text

/-- Turns all characters but the word characters into underscores. -/
def replaceOthers (cs : List Char) : List Char :=
  cs.map fun c => if isWord c then c else '_'

/-- Puts an underscore before a digit at the front. -/
def guardDigit (cs : List Char) : List Char :=
  match cs with
  | c :: _ => if c.isDigit then '_' :: cs else cs
  | [] => []

/-- The symbol of a name. -/
def ofName (name : String) : String :=
  String.ofList (guardDigit (replaceOthers name.toList))

/-- A symbol with a position as suffix. -/
def suffixed (symbol : String) (position : Nat) : String :=
  s!"{symbol}_{position}"

/-- The symbol of the entry at a position, given the ones taken before: its own if that is free,
else the one with the position as suffix. -/
def distinguish (taken : List String) (symbol : String) (position : Nat) : String :=
  if taken.contains symbol then suffixed symbol position else symbol

/-- A symbol that is free is kept. -/
theorem distinguish_of_not_mem {taken : List String} {symbol : String} (h : symbol ∉ taken)
    (position : Nat) : distinguish taken symbol position = symbol := by
  simp [distinguish, h]

/-- Only the empty name has the empty symbol. -/
theorem ofName_eq_empty_iff (name : String) : ofName name = "" ↔ name = "" := by
  have key : ∀ cs : List Char, guardDigit (replaceOthers cs) = [] ↔ cs = [] := by
    intro cs
    cases cs with
    | nil => simp [replaceOthers, guardDigit]
    | cons c rest =>
      simp only [replaceOthers, List.map_cons, guardDigit]
      split <;> split <;> simp
  rw [ofName, ← String.toList_inj, String.toList_ofList]
  simpa using key name.toList

end KeymapCompiler.Symbol
