/-
KeymapCompiler/Toml/Printer.lean

Strings in TOML text.  A string is written in the first of these forms that needs
no escapes: between double quotes, between single quotes, over several lines
between three double quotes, over several lines between three single quotes.  If
none fits, it is written with escapes, over several lines if it has line breaks.

A text over several lines starts on a line of its own.
-/

namespace KeymapCompiler.Toml

/-- Whether a character can only be written by an escape; line breaks and tabs are no such
characters. -/
def isControl (c : Char) : Bool :=
  (c.toNat < 32 && c != '\t' && c != '\n') || c.toNat == 127

/-- Whether a text holds three of a character in a row. -/
def hasTriple (quote : Char) : List Char → Bool
  | a :: b :: c :: rest =>
    (a == quote && b == quote && c == quote) || hasTriple quote (b :: c :: rest)
  | _ => false

/-- The forms in which a string is written. -/
inductive StringForm where
  /-- Between double quotes, with escapes. -/
  | basic
  /-- Between single quotes, as it is. -/
  | literal
  /-- Over several lines between three double quotes, with escapes. -/
  | basicBlock
  /-- Over several lines between three single quotes, as it is. -/
  | literalBlock
deriving DecidableEq, Repr

/-- The form in which a text is written. -/
def formOf (cs : List Char) : StringForm :=
  let control := cs.any isControl
  let newline := cs.contains '\n'
  let double := cs.contains '\x22'
  let single := cs.contains '\x27'
  let backslash := cs.contains '\\'
  if !double && !backslash && !newline && !control then .basic
  else if !single && !newline && !control then .literal
  else if !backslash && !control && !hasTriple '\x22' cs then .basicBlock
  else if !control && !hasTriple '\x27' cs then .literalBlock
  else if newline then .basicBlock
  else .basic

/-- The escape of a character in text between double quotes. -/
def escapeChar (keepNewline : Bool) (c : Char) : List Char :=
  if c = '\x08' then ['\\', 'b']
  else if c = '\t' then ['\\', 't']
  else if c = '\n' then if keepNewline then ['\n'] else ['\\', 'n']
  else if c = '\x0c' then ['\\', 'f']
  else if c = '\r' then ['\\', 'r']
  else if c = '\x22' then ['\\', '\x22']
  else if c = '\\' then ['\\', '\\']
  else if isControl c then
    let digits := (Nat.toDigits 16 c.toNat).map Char.toUpper
    ['\\', 'u'] ++ List.replicate (4 - digits.length) '0' ++ digits
  else [c]

/-- Escapes a text over several lines; a quote is only escaped after two others. -/
def escapeBlock (quotes : Nat) : List Char → List Char
  | [] => []
  | c :: rest =>
    if c = '\x22' then
      if quotes < 2 then c :: escapeBlock (quotes + 1) rest
      else '\\' :: c :: escapeBlock 0 rest
    else escapeChar true c ++ escapeBlock 0 rest

/-- A text as a TOML string. -/
def stringChars (cs : List Char) : List Char :=
  let start := if cs.contains '\n' then ['\n'] else []
  let double := List.replicate 3 '\x22'
  let single := List.replicate 3 '\x27'
  match formOf cs with
  | .basic => '\x22' :: cs.flatMap (escapeChar false) ++ ['\x22']
  | .literal => '\x27' :: cs ++ ['\x27']
  | .basicBlock => double ++ start ++ escapeBlock 0 cs ++ double
  | .literalBlock => single ++ start ++ cs ++ single

/-- A string as it is written in TOML text. -/
def stringText (s : String) : String :=
  String.ofList (stringChars s.toList)

end KeymapCompiler.Toml
