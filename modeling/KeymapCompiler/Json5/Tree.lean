/-
KeymapCompiler/Json5/Tree.lean

JSON5 text, the form in which layouts are written by hand: JSON with comments,
commas after the last item, bare names of fields, single quotes, and numerals
with a sign, in hexadecimal, or with a point at either end.

A text is read into a tree that keeps the order of fields and repeated names.
The recursion is bounded by the length of the text.
-/
import KeymapCompiler.Json.Tree
import KeymapCompiler.Text.Category
import KeymapCompiler.Word

namespace KeymapCompiler.Json5

open KeymapCompiler.Text KeymapCompiler.Decimal

/-- A number: an integer of up to 128 bits, or a floating-point number. -/
inductive Number where
  /-- An integer. -/
  | int (n : Int)
  /-- A finite floating-point number. -/
  | float (x : Binary64)
  /-- An infinity. -/
  | infinite (negative : Bool)
  /-- Not a number. -/
  | nan
deriving DecidableEq, Repr

/-- JSON5 text as a tree. -/
inductive Tree where
  /-- The literal `null`. -/
  | null
  /-- The literals `true` and `false`. -/
  | bool (b : Bool)
  /-- A number. -/
  | number (n : Number)
  /-- A string. -/
  | string (s : String)
  /-- An array. -/
  | array (items : List Tree)
  /-- An object, fields in the order of the text. -/
  | object (fields : List (String × Tree))
deriving Inhabited

/-! ### Blanks and comments -/

/-- The characters that end a line. -/
def isLineEnd (c : Char) : Bool :=
  c == '\n' || c == '\r' || c.toNat == 0x2028 || c.toNat == 0x2029

/-- The characters that may stand between tokens. -/
def isSpace (c : Char) : Bool :=
  let n := c.toNat
  (9 ≤ n && n ≤ 13) || n == 0x20 || n == 0xA0 || n == 0x1680 || (0x2000 ≤ n && n ≤ 0x200A)
    || n == 0x2028 || n == 0x2029 || n == 0x202F || n == 0x205F || n == 0x3000 || n == 0xFEFF

/-- Where a text stands with respect to comments. -/
inductive Gap where
  /-- Between tokens. -/
  | space
  /-- In a comment that ends with its line. -/
  | lineComment
  /-- In a comment that ends with `*/`. -/
  | blockComment

/-- Why a text cannot be skipped. -/
inductive GapFault where
  /-- It ends in a comment. -/
  | ended
  /-- A slash starts no comment. -/
  | noComment
deriving DecidableEq, Repr

/-- Skips blanks and comments. -/
def skip : Gap → List Char → Except GapFault (List Char)
  | .space, '/' :: '/' :: rest => skip .lineComment rest
  | .space, '/' :: '*' :: rest => skip .blockComment rest
  | .space, ['/'] => .error .ended
  | .space, c :: rest =>
    if c = '/' then .error .noComment
    else if isSpace c then skip .space rest
    else .ok (c :: rest)
  | .lineComment, c :: rest => if isLineEnd c then skip .space rest else skip .lineComment rest
  | .blockComment, '*' :: '/' :: rest => skip .space rest
  | .blockComment, _ :: rest => skip .blockComment rest
  | .blockComment, [] => .error .ended
  | _, [] => .ok []

/-- Skips blanks and comments between tokens. -/
def skipGap (cs : List Char) : Except GapFault (List Char) :=
  skip .space cs

/-- Skips blanks and comments between tokens, if they are well-formed. -/
def skipSpace (cs : List Char) : Option (List Char) :=
  (skipGap cs).toOption

/-! ### Numerals -/

/-- Why a text is no numeral. -/
inductive NumeralFault where
  /-- It has something else where a digit or the rest of a word should be. -/
  | noNumeral
  /-- It ends there. -/
  | ended
  /-- A zero is followed by another digit. -/
  | leadingZero
  /-- The digits, points, marks and signs of a decimal numeral are in no order that has a value. -/
  | disordered
  /-- A hexadecimal integer has more than 128 bits. -/
  | overflow
  /-- A negative hexadecimal integer does not fit in 128 bits with a sign. -/
  | tooLarge
deriving DecidableEq, Repr

/-- An integer of a sign and magnitude, if 128 bits hold it. -/
def integer? (negative : Bool) (n : Nat) : Option Number :=
  if negative then
    if n ≤ Word.count 127 then some (.int (-n)) else none
  else if n < Word.count 128 then some (.int n) else none

/-- The integer of hexadecimal digits. -/
def hexadecimal (negative : Bool) (digits : List Char) : Except NumeralFault Number :=
  let n := ofHexDigits digits
  match integer? negative n with
  | some x => .ok x
  | none => .error (if n < Word.count 128 then .tooLarge else .overflow)

/-- The floating-point number nearest to a numeral. -/
def float (n : Numeral) : Number :=
  match n.nearest with
  | some x => .float x
  | none => .infinite n.negative

/-- The characters of decimal numerals. -/
def isNumeralChar (c : Char) : Bool :=
  c.isDigit || c == '.' || c == 'e' || c == 'E' || c == '+' || c == '-'

/-- The number of a decimal numeral after its sign. An integer of more than 128 bits becomes a
floating-point number. -/
def decimal (negative : Bool) (token : List Char) : Except NumeralFault Number :=
  match Numeral.ofChars? token with
  | none => .error .disordered
  | some unsigned =>
    let n := { unsigned with negative }
    .ok <|
      if n.isInteger then (integer? negative (ofDigits n.whole)).getD (float n)
      else float n

/-- Splits off the rest of a word. -/
def splitRest : List Char → List Char → Except NumeralFault (List Char)
  | [], cs => .ok cs
  | _ :: _, [] => .error .ended
  | w :: word, c :: rest => if w = c then splitRest word rest else .error .noNumeral

/-- Splits off a numeral after its sign. -/
def splitUnsigned (negative : Bool) : List Char → Except NumeralFault (Number × List Char)
  | [] => .error .ended
  | 'I' :: rest => (splitRest "nfinity".toList rest).map (.infinite negative, ·)
  | 'N' :: rest => (splitRest "aN".toList rest).map (.nan, ·)
  | '0' :: 'x' :: rest => splitHexadecimal rest
  | '0' :: 'X' :: rest => splitHexadecimal rest
  | c :: rest =>
    if c = '0' && rest.head?.any Char.isDigit then .error .leadingZero
    else if c.isDigit || c = '.' then
      -- All characters that could belong to the numeral are taken, in whatever order.
      (decimal negative ((c :: rest).takeWhile isNumeralChar)).map
        (·, (c :: rest).dropWhile isNumeralChar)
    else .error .noNumeral
where
  /-- Splits off hexadecimal digits. -/
  splitHexadecimal (cs : List Char) : Except NumeralFault (Number × List Char) :=
    match cs with
    | [] => .error .ended
    | c :: _ =>
      if isHexDigit c then
        (hexadecimal negative (cs.takeWhile isHexDigit)).map (·, cs.dropWhile isHexDigit)
      else .error .noNumeral

/-- Splits off a numeral. -/
def splitNumeral : List Char → Except NumeralFault (Number × List Char)
  | '-' :: rest => splitUnsigned true rest
  | '+' :: rest => splitUnsigned false rest
  | cs => splitUnsigned false cs

/-! ### Strings and names -/

/-- Splits off the pieces of a string up to the quote that closes it. A backslash before the end
of a line continues the string on the next line, but not the pair of code units that make up one
character; one before a character without a meaning of its own is dropped. -/
def splitPieces (quote : Char) : List Char → Option (List Json.Piece × List Char)
  | '\\' :: 'u' :: a :: b :: c :: d :: rest =>
    if [a, b, c, d].all isHexDigit then
      (splitPieces quote rest).map fun p => (.unit (ofHexDigits [a, b, c, d]) :: p.1, p.2)
    else none
  | '\\' :: 'x' :: a :: b :: rest =>
    if [a, b].all isHexDigit then
      (splitPieces quote rest).map fun p =>
        (.char (Char.ofNat (ofHexDigits [a, b])) :: p.1, p.2)
    else none
  | '\\' :: '\r' :: '\n' :: rest => (splitPieces quote rest).map fun p => (.gap :: p.1, p.2)
  | '\\' :: '0' :: rest =>
    if rest.head?.any Char.isDigit then none
    else (splitPieces quote rest).map fun p => (.char (Char.ofNat 0) :: p.1, p.2)
  | '\\' :: c :: rest =>
    if isLineEnd c then (splitPieces quote rest).map fun p => (.gap :: p.1, p.2)
    else if c.isDigit || c = 'u' || c = 'x' then none
    else
      let plain := match c with
        | 'b' => '\x08'
        | 'f' => '\x0c'
        | 'n' => '\n'
        | 'r' => '\r'
        | 't' => '\t'
        | 'v' => '\x0b'
        | _ => c
      (splitPieces quote rest).map fun p => (.char plain :: p.1, p.2)
  | c :: rest =>
    if c = quote then some ([], rest)
    -- Of the characters that end a line, these two must be escaped.
    else if c = '\\' || c = '\n' || c = '\r' then none
    else (splitPieces quote rest).map fun p => (.char c :: p.1, p.2)
  | [] => none

/-- Splits off a string after its opening quote. -/
def splitString (quote : Char) (cs : List Char) : Option (String × List Char) := do
  let (pieces, rest) ← splitPieces quote cs
  let text ← Json.joinPieces pieces
  some (String.ofList text, rest)

/-- Splits off the pieces of a bare name, in which characters may be escaped by their code units. -/
def splitNamePieces : List Char → Option (List Json.Piece × List Char)
  | '\\' :: 'u' :: a :: b :: c :: d :: rest =>
    if [a, b, c, d].all isHexDigit then
      (splitNamePieces rest).map fun p => (.unit (ofHexDigits [a, b, c, d]) :: p.1, p.2)
    else none
  | c :: rest =>
    if c = '\\' then none
    else if isNamePart c then (splitNamePieces rest).map fun p => (.char c :: p.1, p.2)
    else some ([], c :: rest)
  | [] => some ([], [])

/-- Splits off a bare name. Escaped characters must suit their places like the others. -/
def splitName (cs : List Char) : Option (String × List Char) := do
  let (pieces, rest) ← splitNamePieces cs
  let name ← Json.joinPieces pieces
  if name.head?.any isNameStart && name.all isNamePart then some (String.ofList name, rest)
  else none

/-- Splits off the name of a field: a string or a bare name. -/
def splitKey : List Char → Option (String × List Char)
  | '\x22' :: rest => splitString '\x22' rest
  | '\x27' :: rest => splitString '\x27' rest
  | cs => splitName cs

/-! ### Trees -/

mutual

/-- Splits off a value. -/
def splitTree : Nat → List Char → Option (Tree × List Char)
  | 0, _ => none
  | fuel + 1, cs => do
    match ← skipSpace cs with
    | 'n' :: rest => (Json.splitWord "ull" rest).map (Tree.null, ·)
    | 't' :: rest => (Json.splitWord "rue" rest).map (Tree.bool true, ·)
    | 'f' :: rest => (Json.splitWord "alse" rest).map (Tree.bool false, ·)
    | '\x22' :: rest => (splitString '\x22' rest).map fun p => (.string p.1, p.2)
    | '\x27' :: rest => (splitString '\x27' rest).map fun p => (.string p.1, p.2)
    | '[' :: rest => (splitItems fuel rest).map fun p => (.array p.1, p.2)
    | '\x7b' :: rest => (splitFields fuel rest).map fun p => (.object p.1, p.2)
    | other => (splitNumeral other).toOption.map fun p => (.number p.1, p.2)

/-- Splits off the items of an array and its closing bracket. -/
def splitItems : Nat → List Char → Option (List Tree × List Char)
  | 0, _ => none
  | fuel + 1, cs => do
    match ← skipSpace cs with
    | ']' :: after => some ([], after)
    | inner =>
      let (item, rest) ← splitTree fuel inner
      match ← skipSpace rest with
      | ',' :: more => (splitItems fuel more).map fun p => (item :: p.1, p.2)
      | ']' :: after => some ([item], after)
      | _ => none

/-- Splits off the fields of an object and its closing brace. -/
def splitFields : Nat → List Char → Option (List (String × Tree) × List Char)
  | 0, _ => none
  | fuel + 1, cs => do
    match ← skipSpace cs with
    | '\x7d' :: after => some ([], after)
    | inner =>
      let (name, rest) ← splitKey inner
      match ← skipSpace rest with
      | ':' :: body =>
        let (v, rest) ← splitTree fuel body
        match ← skipSpace rest with
        | ',' :: more => (splitFields fuel more).map fun p => ((name, v) :: p.1, p.2)
        | '\x7d' :: after => some ([(name, v)], after)
        | _ => none
      | _ => none

end

/-- The tree of a string: one value with nothing but blanks and comments around it. -/
def Tree.ofString? (s : String) : Option Tree := do
  let cs := s.toList
  let (tree, rest) ← splitTree (2 * cs.length + 2) cs
  if (← skipSpace rest).isEmpty then some tree else none

end KeymapCompiler.Json5
