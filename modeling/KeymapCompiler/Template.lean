/-
KeymapCompiler/Template.lean

Templates: text with placeholders such as `{{ keymap }}` that are filled in by
name.

A template is cut into plain text and placeholders in one pass from left to
right, and each placeholder is filled in on its own.  Text that was filled in is
not looked at again, and a placeholder without a text of its name stays as it is.
-/
import KeymapCompiler.Text.Blank

namespace KeymapCompiler.Template

open KeymapCompiler.Text

/-- A piece of a template. -/
inductive Piece where
  /-- A character of plain text. -/
  | char (c : Char)
  /-- A placeholder: its name, and how it is written. -/
  | placeholder (name : String) (source : List Char)
deriving DecidableEq, Repr

/-- The characters that a name starts with. -/
def isNameStart (c : Char) : Bool :=
  c.isAlpha || c == '_'

/-- The characters of a name. -/
def isNamePart (c : Char) : Bool :=
  c.isAlphanum || c == '_'

/-- The name in a placeholder and its length, read after the opening braces. -/
def placeholderBody? (cs : List Char) : Option (List Char × Nat) :=
  let start := trimStart cs
  let name := start.takeWhile isNamePart
  match name.head?.any isNameStart, trimStart (start.dropWhile isNamePart) with
  | true, '\x7d' :: '\x7d' :: rest => some (name, cs.length - rest.length)
  | _, _ => none

/-- The placeholder that a text starts with, and its length. -/
def placeholder? : List Char → Option (List Char × Nat)
  | '\x7b' :: '\x7b' :: rest => (placeholderBody? rest).map fun p => (p.1, p.2 + 2)
  | _ => none

/-- Cuts a template into pieces. The first argument bounds the number of pieces. -/
def cut : Nat → List Char → List Piece
  | 0, _ => []
  | _ + 1, [] => []
  | fuel + 1, c :: rest =>
    match placeholder? (c :: rest) with
    | some (name, length) =>
      .placeholder (String.ofList name) ((c :: rest).take length)
        :: cut fuel ((c :: rest).drop length)
    | none => .char c :: cut fuel rest

/-- The pieces of a template. -/
def pieces (cs : List Char) : List Piece :=
  cut cs.length cs

/-- Texts by name. -/
abbrev Fragments := List (String × String)

/-- The text of a piece. -/
def Piece.fill (fragments : Fragments) : Piece → List Char
  | .char c => [c]
  | .placeholder name source =>
    match fragments.lookup name with
    | some text => text.toList
    | none => source

/-- A template with its placeholders filled in. -/
def render (template : String) (fragments : Fragments) : String :=
  String.ofList ((pieces template.toList).flatMap (Piece.fill fragments))

/-- The template that is used when none is configured. -/
def standard : String :=
  "/*\n"
    ++ " * \x7b\x7b title \x7d\x7d\n"
    ++ " *\n"
    ++ " * Generated by lazyzmk for \x7b\x7b keyboard \x7d\x7d.\n"
    ++ " * Edit the layout document and regenerate instead of changing this file.\n"
    ++ " */\n"
    ++ "\n"
    ++ "#include <behaviors.dtsi>\n"
    ++ "#include <input/processors.dtsi>\n"
    ++ "#include <dt-bindings/zmk/bt.h>\n"
    ++ "#include <dt-bindings/zmk/ext_power.h>\n"
    ++ "#include <dt-bindings/zmk/keys.h>\n"
    ++ "#include <dt-bindings/zmk/outputs.h>\n"
    ++ "#include <dt-bindings/zmk/pointing.h>\n"
    ++ "#include <dt-bindings/zmk/rgb.h>\n"
    ++ "\n"
    ++ "\x7b\x7b layer_defines \x7d\x7d\n"
    ++ "\x7b\x7b custom_defined_behaviors \x7d\x7d\n"
    ++ "\x7b\x7b custom_devicetree \x7d\x7d\n"
    ++ "\x7b\x7b input_listeners \x7d\x7d\n"
    ++ "\x7b\x7b behaviors \x7d\x7d\n"
    ++ "\x7b\x7b macros \x7d\x7d\n"
    ++ "\x7b\x7b combos \x7d\x7d\n"
    ++ "\x7b\x7b keymap \x7d\x7d\n"

end KeymapCompiler.Template
