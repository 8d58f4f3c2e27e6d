/-
KeymapCompiler/Toml/Reader.lean

Reading TOML text.  A document is a sequence of lines: an assignment to a key, a
header that opens a table, or nothing but a comment.

Keys have a bounded number of parts, and values a bounded depth.  The recursion
is also bounded by the length of the text, because every call reads at least one
character.
-/
import KeymapCompiler.Toml.Item

namespace KeymapCompiler.Toml

open KeymapCompiler.Text

/-! ### Blanks and comments -/

/-- Blanks within a line. -/
def isBlank (c : Char) : Bool :=
  c == ' ' || c == '\t'

/-- Characters that may stand in comments and strings as they are. -/
def isPlain (c : Char) : Bool :=
  c == '\t' || (32 ≤ c.toNat && c.toNat != 127)

/-- Skips the blanks that a text starts with. -/
def skipBlanks (cs : List Char) : List Char :=
  cs.dropWhile isBlank

/-- Skips a comment up to the end of its line. -/
def skipComment : List Char → List Char
  | '\x23' :: rest => rest.dropWhile isPlain
  | cs => cs

/-- Skips the end of a line, if the text starts with one. -/
def skipNewline? : List Char → Option (List Char)
  | '\n' :: rest => some rest
  | '\r' :: '\n' :: rest => some rest
  | _ => none

/-- Skips what may stand after an expression on its line, and the end of the line. -/
def endLine? (cs : List Char) : Option (List Char) :=
  let rest := skipComment (skipBlanks cs)
  if rest.isEmpty then some [] else skipNewline? rest

/-- Skips blanks, comments and ends of lines. The first argument bounds the number of lines. -/
def skipLines : Nat → List Char → List Char
  | 0, cs => cs
  | fuel + 1, cs =>
    let rest := skipComment (skipBlanks cs)
    match skipNewline? rest with
    | some next => skipLines fuel next
    | none => rest

/-- Skips what may stand between the items of an array. -/
def skipGap (cs : List Char) : List Char :=
  skipLines (cs.length + 1) cs

/-! ### Strings -/

/-- The character of a code point, if it has one. -/
def charOf? (n : Nat) : Option Char :=
  if h : n.isValidChar then some ⟨n.toUInt32, by
    have bound : n < 4294967296 := by
      rcases h with h | ⟨_, h⟩ <;> omega
    simpa [UInt32.isValidChar, Nat.toUInt32, UInt32.toNat_ofNat, Nat.mod_eq_of_lt bound] using h⟩
  else none

/-- Splits off a character that is escaped by the number of its code point. -/
def splitCode (count : Nat) (cs : List Char) : Option (Char × List Char) :=
  let ds := cs.take count
  if ds.length = count && ds.all isHexDigit then
    (charOf? (ofHexDigits ds)).map fun c => (c, cs.drop count)
  else none

/-- Splits off what follows a backslash. -/
def splitEscape : List Char → Option (Char × List Char)
  | 'b' :: rest => some ('\x08', rest)
  | 't' :: rest => some ('\t', rest)
  | 'n' :: rest => some ('\n', rest)
  | 'f' :: rest => some ('\x0c', rest)
  | 'r' :: rest => some ('\r', rest)
  | 'e' :: rest => some ('\x1b', rest)
  | '\x22' :: rest => some ('\x22', rest)
  | '\\' :: rest => some ('\\', rest)
  | 'x' :: rest => splitCode 2 rest
  | 'u' :: rest => splitCode 4 rest
  | 'U' :: rest => splitCode 8 rest
  | _ => none

/-- Splits off the rest of a string on one line. -/
def splitLine (quote : Char) : Nat → List Char → Option (List Char × List Char)
  | 0, _ => none
  | _, [] => none
  | fuel + 1, c :: rest =>
    if c = quote then some ([], rest)
    else if c = '\\' && quote = '\x22' then do
      let (x, rest) ← splitEscape rest
      let (text, rest) ← splitLine quote fuel rest
      some (x :: text, rest)
    else if isPlain c then do
      let (text, rest) ← splitLine quote fuel rest
      some (c :: text, rest)
    else none

/-- Skips blanks and ends of lines. -/
def skipBlankLines : List Char → List Char
  | '\r' :: '\n' :: rest => skipBlankLines rest
  | c :: rest => if isBlank c || c == '\n' then skipBlankLines rest else c :: rest
  | [] => []

/-- What follows a backslash at the end of a line: the blanks and ends of lines up to the next
text. -/
def splitFold (cs : List Char) : Option (List Char) :=
  (skipNewline? (skipBlanks cs)).map skipBlankLines

/-- Splits off the rest of a string that may go over lines. Up to two quotes may stand in front
of the three that end it. -/
def splitBlock (quote : Char) : Nat → List Char → Option (List Char × List Char)
  | 0, _ => none
  | _, [] => none
  | fuel + 1, c :: rest =>
    if c = quote then
      -- Three quotes end the text; up to two more belong to it.
      let quotes := (c :: rest).takeWhile (· == quote)
      let after := (c :: rest).drop quotes.length
      if 5 < quotes.length then none
      else if 3 ≤ quotes.length then some (quotes.drop 3, after)
      else do
        let (text, rest) ← splitBlock quote fuel after
        some (quotes ++ text, rest)
    else if c = '\\' && quote = '\x22' then
      match splitFold rest with
      | some next => splitBlock quote fuel next
      | none => do
        let (x, rest) ← splitEscape rest
        let (text, rest) ← splitBlock quote fuel rest
        some (x :: text, rest)
    else if c = '\r' then
      match rest with
      | '\n' :: next => do
        let (text, rest) ← splitBlock quote fuel next
        some ('\r' :: '\n' :: text, rest)
      | _ => none
    else if isPlain c || c = '\n' then do
      let (text, rest) ← splitBlock quote fuel rest
      some (c :: text, rest)
    else none

/-- Splits off a string that starts with a quote. An end of line right after three quotes does not
count. -/
def splitString (quote : Char) (cs : List Char) : Option (String × List Char) :=
  let (text, rest) :=
    match cs with
    | a :: b :: c :: rest =>
      if a = quote && b = quote && c = quote then
        (true, (skipNewline? rest).getD rest)
      else (false, cs.drop 1)
    | _ => (false, cs.drop 1)
  let read := if text then splitBlock quote else splitLine quote
  (read (rest.length + 1) rest).map fun p => (String.ofList p.1, p.2)

/-! ### Keys -/

/-- Characters of keys without quotes. -/
def isKeyChar (c : Char) : Bool :=
  c.isAlphanum || c == '_' || c == '-'

/-- Splits off one part of a key. -/
def splitKeyPart (cs : List Char) : Option (String × List Char) :=
  match cs with
  | '\x22' :: rest =>
    (splitLine '\x22' (rest.length + 1) rest).map fun p => (String.ofList p.1, p.2)
  | '\x27' :: rest =>
    (splitLine '\x27' (rest.length + 1) rest).map fun p => (String.ofList p.1, p.2)
  | _ =>
    let name := cs.takeWhile isKeyChar
    if name.isEmpty then none else some (String.ofList name, cs.drop name.length)

/-- The number of parts that a key may have, and of arrays and inline tables that may be nested. -/
def depthLimit : Nat := 80

/-- Splits off the parts of a key, which have points between them. The first argument bounds their
number. -/
def splitKeyParts : Nat → List Char → Option (List String × List Char)
  | 0, _ => none
  | limit + 1, cs => do
    let (part, rest) ← splitKeyPart (skipBlanks cs)
    match skipBlanks rest with
    | '.' :: more =>
      let (parts, rest) ← splitKeyParts limit more
      some (part :: parts, rest)
    | rest => some ([part], rest)

/-- Splits off a key. -/
def splitKey (cs : List Char) : Option (List String × List Char) :=
  splitKeyParts depthLimit cs

/-! ### Values -/

mutual

/-- Splits off a value. The second argument is the number of arrays and inline tables that may
still be nested in it. -/
def splitValue : Nat → Nat → List Char → Option (Item × List Char)
  | 0, _, _ => none
  | _ + 1, _, [] => none
  | fuel + 1, depth, c :: rest =>
    if c = '\x22' || c = '\x27' then
      (splitString c (c :: rest)).map fun p => (.string p.1, p.2)
    else if c = '[' then
      if depth = 0 then none
      else (splitItems fuel (depth - 1) rest).map fun p => (.array p.1, p.2)
    else if c = '\x7b' then
      if depth = 0 then none
      else (splitPairs fuel (depth - 1) [] rest).map fun p => (.table .inline p.1, p.2)
    else (splitScalar (c :: rest)).map fun p => (.scalar p.1, p.2)
  termination_by structural fuel => fuel

/-- Splits off the items of an array and its closing bracket. -/
def splitItems : Nat → Nat → List Char → Option (List Item × List Char)
  | 0, _, _ => none
  | fuel + 1, depth, cs =>
    match skipGap cs with
    | ']' :: after => some ([], after)
    | inner => do
      let (item, rest) ← splitValue fuel depth inner
      match skipGap rest with
      | ',' :: more =>
        let (items, rest) ← splitItems fuel depth more
        some (item :: items, rest)
      | ']' :: after => some ([item], after)
      | _ => none

/-- Splits off the assignments of an inline table and its closing brace. -/
def splitPairs : Nat → Nat → Entries → List Char → Option (Entries × List Char)
  | 0, _, _, _ => none
  | fuel + 1, depth, es, cs =>
    match skipGap cs with
    | '\x7d' :: after => some (es, after)
    | inner => do
      let (path, item, rest) ← splitPair fuel depth inner
      let es' ← es.assign path item
      match skipGap rest with
      | ',' :: more => splitPairs fuel depth es' more
      | '\x7d' :: after => some (es', after)
      | _ => none

/-- Splits off an assignment. -/
def splitPair : Nat → Nat → List Char → Option (List String × Item × List Char)
  | 0, _, _ => none
  | fuel + 1, depth, cs => do
    let (path, rest) ← splitKey cs
    match rest with
    | '=' :: more =>
      let (item, rest) ← splitValue fuel depth (skipBlanks more)
      some (path, item, rest)
    | _ => none

end

/-! ### Documents -/

/-- Splits off a key and the text that closes a header. -/
def splitHeader (closing : List Char) (cs : List Char) : Option (List String × List Char) := do
  let (path, rest) ← splitKey cs
  if closing.isPrefixOf rest then some (path, rest.drop closing.length) else none

/-- Reads lines into a document; `table` is the path of the table that was opened last. The first
argument bounds the number of lines. -/
def readLines : Nat → Entries → List String → List Char → Option Entries
  | 0, _, _, _ => none
  | fuel + 1, es, table, cs =>
    match skipBlanks cs with
    | [] => some es
    | '[' :: '[' :: inner => do
      let (path, rest) ← splitHeader [']', ']'] inner
      readLines fuel (← es.openElement path) path (← endLine? rest)
    | '[' :: inner => do
      let (path, rest) ← splitHeader [']'] inner
      readLines fuel (← es.openTable path) path (← endLine? rest)
    | start =>
      match endLine? start with
      | some rest => readLines fuel es table rest
      | none => do
        let (path, item, rest) ← splitPair (2 * start.length + 2) depthLimit start
        readLines fuel (← es.assignIn table path item) table (← endLine? rest)

/-- The entries of a text; a byte order mark at its front does not count. -/
def ofString? (text : String) : Option Entries :=
  let cs := match text.toList with
    | '\uFEFF' :: rest => rest
    | cs => cs
  readLines (cs.length + 1) [] [] cs

end KeymapCompiler.Toml
