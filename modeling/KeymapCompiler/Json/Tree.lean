/-
KeymapCompiler/Json/Tree.lean

JSON text as it is written: a tree that keeps the order of fields and repeated
names.

Some parts of a well-formed text stand for nothing: a number too large for the
floating-point range, a string with half of a surrogate pair.  A reader that
skips a part never finds out; a reader that wants its value does.  So these
leaves hold an optional value, and `Tree.value?` is the whole tree's value if
all its leaves have one and it is not nested too deep.

`Tree.ofChars?` reads a text.  The recursion is bounded by the length of the
text, because every call reads at least one character.
-/
import KeymapCompiler.Decimal.Numeral
import KeymapCompiler.Json.Value
import KeymapCompiler.Word

namespace KeymapCompiler.Json

open KeymapCompiler.Text KeymapCompiler.Decimal

/-- JSON text as a tree. -/
inductive Tree where
  /-- The literal `null`. -/
  | null
  /-- The literals `true` and `false`. -/
  | bool (b : Bool)
  /-- A numeral and its number, if it is in range. -/
  | number (n : Option Number)
  /-- A string and its text, if its escapes stand for characters. -/
  | string (s : Option String)
  /-- An array. -/
  | array (items : List Tree)
  /-- An object, fields in the order of the text. -/
  | object (fields : List (Option String × Tree))
deriving Inhabited

/-! ### Blanks, numerals and strings -/

/-- The four characters that may stand between tokens. -/
def isSpace (c : Char) : Bool :=
  c == ' ' || c == '\n' || c == '\t' || c == '\r'

/-- Skips the blanks that a text starts with. -/
def skipSpace (cs : List Char) : List Char :=
  cs.dropWhile isSpace

/-- The number of a numeral: an integer if it has neither point nor exponent and fits in 64 bits,
else a floating-point number. Minus zero is the floating-point number of that sign. -/
def numberOf (n : Numeral) : Option Number :=
  let whole := ofDigits n.whole
  if n.isInteger && !n.negative && whole < Word.count 64 then some (.int whole)
  else if n.isInteger && n.negative && 0 < whole && whole ≤ Word.count 63 then
    some (.int (-whole))
  else n.scanned.map .float

/-- Splits off the digits before the point: a single zero, or digits that start with no zero. -/
def splitWhole : List Char → Option (List Char × List Char)
  | '0' :: c :: rest => if c.isDigit then none else some (['0'], c :: rest)
  | ['0'] => some (['0'], [])
  | c :: rest => if c.isDigit then some (Numeral.splitDigits (c :: rest)) else none
  | [] => none

/-- Splits off a numeral: after a point or an exponent mark, digits must follow. -/
def splitNumeral (cs : List Char) : Option (Numeral × List Char) := do
  let signed := match cs with
    | '-' :: rest => (true, rest)
    | _ => (false, cs)
  let w ← splitWhole signed.2
  let f := Numeral.splitFraction w.2
  -- A point without digits after it is no numeral here.
  if f.1.any List.isEmpty then none
  let e ← Numeral.splitExponent f.2
  some (⟨signed.1, w.1, f.1, e.1⟩, e.2)

/-- A piece of a string: a character, or a UTF-16 code unit given by its number. -/
inductive Piece where
  /-- A character that stands for itself or is escaped by a letter. -/
  | char (c : Char)
  /-- A code unit. -/
  | unit (n : Nat)
  /-- A break that stands for no character but keeps the code units around it apart. -/
  | gap

/-- Splits off the pieces of a string up to its closing quote. -/
def splitPieces : List Char → Option (List Piece × List Char)
  | '\x22' :: rest => some ([], rest)
  | '\\' :: 'u' :: a :: b :: c :: d :: rest =>
    if [a, b, c, d].all isHexDigit then
      (splitPieces rest).map fun p => (.unit (ofHexDigits [a, b, c, d]) :: p.1, p.2)
    else none
  | '\\' :: c :: rest =>
    let plain : Option Char := match c with
      | '\x22' => some '\x22'
      | '\\' => some '\\'
      | '/' => some '/'
      | 'b' => some '\x08'
      | 'f' => some '\x0c'
      | 'n' => some '\n'
      | 'r' => some '\r'
      | 't' => some '\t'
      | _ => none
    match plain with
    | some x => (splitPieces rest).map fun p => (.char x :: p.1, p.2)
    | none => none
  | c :: rest =>
    if c.toNat < 32 || c = '\\' then none
    else (splitPieces rest).map fun p => (.char c :: p.1, p.2)
  | [] => none

/-- The text of pieces: a high and a low surrogate in a row make one character, and a surrogate
on its own makes none. -/
def joinPieces : List Piece → Option (List Char)
  | [] => some []
  | .char c :: rest => (joinPieces rest).map (c :: ·)
  | .gap :: rest => joinPieces rest
  | .unit h :: .unit l :: rest =>
    -- A high surrogate needs a low one right after it.
    if 0xD800 ≤ h && h < 0xDC00 then
      if 0xDC00 ≤ l && l < 0xE000 then
        (joinPieces rest).map (Char.ofNat (0x10000 + (h - 0xD800) * 0x400 + (l - 0xDC00)) :: ·)
      else none
    else if 0xDC00 ≤ h && h < 0xE000 then none
    else (joinPieces (.unit l :: rest)).map (Char.ofNat h :: ·)
  | .unit n :: rest =>
    if 0xD800 ≤ n && n < 0xE000 then none else (joinPieces rest).map (Char.ofNat n :: ·)

/-- Splits off a string after its opening quote. -/
def splitString (cs : List Char) : Option (Option String × List Char) :=
  (splitPieces cs).map fun p => ((joinPieces p.1).map String.ofList, p.2)

/-- Splits off a literal word. -/
def splitWord (word : String) (cs : List Char) : Option (List Char) :=
  if word.toList.isPrefixOf cs then some (cs.drop word.length) else none

/-! ### Trees -/

mutual

/-- Splits off a value. -/
def splitTree : Nat → List Char → Option (Tree × List Char)
  | 0, _ => none
  | fuel + 1, cs =>
    match skipSpace cs with
    | 'n' :: rest => (splitWord "ull" rest).map (Tree.null, ·)
    | 't' :: rest => (splitWord "rue" rest).map (Tree.bool true, ·)
    | 'f' :: rest => (splitWord "alse" rest).map (Tree.bool false, ·)
    | '\x22' :: rest => (splitString rest).map fun p => (.string p.1, p.2)
    | '[' :: rest =>
      match skipSpace rest with
      | ']' :: after => some (.array [], after)
      | inner => (splitItems fuel inner).map fun p => (.array p.1, p.2)
    | '\x7b' :: rest =>
      match skipSpace rest with
      | '\x7d' :: after => some (.object [], after)
      | inner => (splitFields fuel inner).map fun p => (.object p.1, p.2)
    | other => (splitNumeral other).map fun p => (.number (numberOf p.1), p.2)

/-- Splits off the items of an array that has some, and its closing bracket. -/
def splitItems : Nat → List Char → Option (List Tree × List Char)
  | 0, _ => none
  | fuel + 1, cs => do
    let (item, rest) ← splitTree fuel cs
    match skipSpace rest with
    | ',' :: more => (splitItems fuel more).map fun p => (item :: p.1, p.2)
    | ']' :: after => some ([item], after)
    | _ => none

/-- Splits off the fields of an object that has some, and its closing brace. -/
def splitFields : Nat → List Char → Option (List (Option String × Tree) × List Char)
  | 0, _ => none
  | fuel + 1, cs =>
    match skipSpace cs with
    | '\x22' :: quoted => do
      let (name, rest) ← splitString quoted
      match skipSpace rest with
      | ':' :: body =>
        let (v, rest) ← splitTree fuel body
        match skipSpace rest with
        | ',' :: more => (splitFields fuel more).map fun p => ((name, v) :: p.1, p.2)
        | '\x7d' :: after => some ([(name, v)], after)
        | _ => none
      | _ => none
    | _ => none

end

/-- The tree of a text: one value with nothing but blanks around it. -/
def Tree.ofChars? (cs : List Char) : Option Tree := do
  let (tree, rest) ← splitTree (2 * cs.length + 1) cs
  if (skipSpace rest).isEmpty then some tree else none

/-- The tree of a string. -/
def Tree.ofString? (s : String) : Option Tree :=
  Tree.ofChars? s.toList

/-! ### Values -/

mutual

/-- The value of a tree with at most `depth` arrays and objects inside one another. -/
def Tree.value? (depth : Nat) : Tree → Option Value
  | .null => some .null
  | .bool b => some (.bool b)
  | .number n => n.map .number
  | .string s => s.map .string
  | .array items =>
    match depth with
    | 0 => none
    | d + 1 => (itemValues? d items).map .array
  | .object fields =>
    match depth with
    | 0 => none
    | d + 1 => (fieldValues? d fields).map fun fs => .object (Fields.ofList fs)

/-- The values of items. -/
def itemValues? (depth : Nat) : List Tree → Option (List Value)
  | [] => some []
  | t :: rest => do
    let v ← t.value? depth
    let vs ← itemValues? depth rest
    some (v :: vs)

/-- The values of fields, in their order. -/
def fieldValues? (depth : Nat) : List (Option String × Tree) → Option (List (String × Value))
  | [] => some []
  | (name, t) :: rest => do
    let k ← name
    let v ← t.value? depth
    let vs ← fieldValues? depth rest
    some ((k, v) :: vs)

end

/-- How many arrays and objects may be nested. -/
def maxDepth : Nat := 127

/-- The value of a text, if it is well formed. -/
def Value.ofString? (s : String) : Option Value := do
  (← Tree.ofString? s).value? maxDepth

end KeymapCompiler.Json
