/-
KeymapCompiler/Devicetree.lean

The pieces of devicetree source that the generated nodes are made of:
indentation, the root node, properties, cells and comments.

Text of the document gets into comments in two ways.  A description becomes line
comments, one for each of its lines.  A diagnostic becomes part of a block
comment, so `guardComment` separates every `*/` in it with a space.
-/
import KeymapCompiler.Text.Blank

namespace KeymapCompiler.Devicetree

open KeymapCompiler.Text

/-- The blanks before a line at a depth, four for each level. -/
def indent (depth : Nat) : String :=
  String.ofList (List.replicate (4 * depth) ' ')

/-- A line at a depth. -/
def line (depth : Nat) (text : String) : String :=
  indent depth ++ text ++ "\n"

/-- A property with a number, if it is set. -/
def numberProperty (depth : Nat) (name : String) : Option Nat → String
  | some n => line depth s!"{name} = <{n}>;"
  | none => ""

/-- A property without a value, if it is set. -/
def flagProperty (depth : Nat) (name : String) (flag : Option Bool) : String :=
  if flag = some true then line depth (name ++ ";") else ""

/-- A node: its head, the lines inside it, and the closing line. -/
def node (depth : Nat) (head body : String) : String :=
  line depth (head ++ " \x7b") ++ body ++ line depth "\x7d;"

/-- Nodes under the root of the tree. -/
def underRoot (body : String) : String :=
  node 0 "/" body

/-- Texts with a blank line between them. -/
def spaced (texts : List String) : String :=
  "\n".intercalate texts

/-- Cells in a list, separated by spaces. -/
def cells (values : List String) : String :=
  " ".intercalate values

/-! ### Comments -/

/-- The lines of a text, without what ends them. -/
def splitLines (cs : List Char) : List (List Char) :=
  cs.splitOn '\n'

/-- One line of a description as a line comment; a blank line has no space after the slashes. -/
def lineComment (depth : Nat) (cs : List Char) : String :=
  let text := trimEnd cs
  if text.isEmpty then line depth "//" else line depth ("// " ++ String.ofList text)

/-- A description as line comments at a depth, one for each line of it; none for a blank one. -/
def comment (depth : Nat) (description : Option String) : String :=
  match description.map fun d => trim d.toList with
  | none | some [] => ""
  | some text => String.join ((splitLines text).map (lineComment depth))

/-- A text in which no `*/` is left: the two characters are separated by a space. -/
def guardComment : List Char → List Char
  | '*' :: '/' :: rest => '*' :: ' ' :: '/' :: guardComment rest
  | c :: rest => c :: guardComment rest
  | [] => []

/-- A text as a block comment, with no `*/` of its own left in it. -/
def blockComment (text : String) : String :=
  "/* " ++ String.ofList (guardComment text.toList) ++ " */"

end KeymapCompiler.Devicetree
