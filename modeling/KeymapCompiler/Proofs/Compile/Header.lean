/-
KeymapCompiler/Proofs/Compile/Header.lean

The comment at the top of the keymap file that the standard template makes.  The title and
the name of the keyboard are filled in inside of it, as they are:

    header title keyboard     the comment up to the space before its end

Before each of the two texts there is a space, and behind them a line end or a point, so no
end of a comment comes about at a seam.  The ends in the comment are those of the two texts
(`hasEnd_header_iff`), and the first end in the file is the template's exactly when they
have none.

The preprocessor joins lines before it looks for comments.  By that a text may get an end
that it has not as it is written, if a backslash and a line end are between the two
characters.  So the same is stated of the texts with their lines joined
(`hasEnd_spliced_header_iff`).  A comment without other ends leaves nothing but a space
(`preprocessed_header_append`).
-/
import KeymapCompiler.Proofs.Compile.Clean
import KeymapCompiler.Proofs.Devicetree.Comment
import KeymapCompiler.Proofs.Preprocessor

namespace KeymapCompiler

open KeymapCompiler.Devicetree KeymapCompiler.Preprocessor

/-! ### The standard template -/

namespace Template

/-- The text before the title and a space. -/
def opening : List Char :=
  ['/', '*', '\n', ' ', '*']

/-- The text on the lines between the title and the name of the keyboard. -/
def between : List Char :=
  "*\n * Generated by lazyzmk for".toList

/-- The text behind the name of the keyboard and a point. -/
def closing : List Char :=
  "\n * Edit the layout document and regenerate instead of changing this file.\n".toList

/-- The comment at the top, up to the space before its end. -/
def header (title keyboard : List Char) : List Char :=
  opening ++ ' ' :: (title ++ '\n' :: ' ' :: (between ++ ' ' :: (keyboard ++ '.' :: closing)))

/-- The text between the comment and the fragments. -/
def includes : List Char :=
  "\n\n#include <behaviors.dtsi>\n".toList
    ++ "#include <input/processors.dtsi>\n".toList
    ++ "#include <dt-bindings/zmk/bt.h>\n".toList
    ++ "#include <dt-bindings/zmk/ext_power.h>\n".toList
    ++ "#include <dt-bindings/zmk/keys.h>\n".toList
    ++ "#include <dt-bindings/zmk/outputs.h>\n".toList
    ++ "#include <dt-bindings/zmk/pointing.h>\n".toList
    ++ "#include <dt-bindings/zmk/rgb.h>\n\n".toList

/-- The names of the fragments behind the comment. -/
def bodyNames : List String :=
  ["layer_defines", "custom_defined_behaviors", "custom_devicetree", "input_listeners",
   "behaviors", "macros", "combos", "keymap"]

/-- A text as pieces. -/
def plainPieces (cs : List Char) : List Piece :=
  cs.map .char

/-- A placeholder with a space on either side of its name. -/
def spacedSlot (name : String) : Piece :=
  .placeholder name ("\x7b\x7b " ++ name ++ " \x7d\x7d").toList

theorem pieces_standard :
    pieces standard.toList = plainPieces (opening ++ [' ']) ++ spacedSlot "title"
      :: (plainPieces ('\n' :: ' ' :: between ++ [' ']) ++ spacedSlot "keyboard"
      :: (plainPieces ('.' :: closing ++ " */".toList ++ includes)
        ++ bodyNames.flatMap fun name => [spacedSlot name, .char '\n'])) := by
  -- The characters are taken line by line: those of the whole text take long to evaluate.
  unfold standard
  simp only [String.toList_append]
  decide +kernel

/-- The pieces of a text are filled in with its characters. -/
theorem flatMap_fill_plainPieces (fragments : Fragments) (cs : List Char) :
    (plainPieces cs).flatMap (Piece.fill fragments) = cs := by
  rw [plainPieces, List.flatMap_map]
  exact List.flatMap_singleton' cs

theorem fill_spacedSlot {fragments : Fragments} {name text : String}
    (h : fragments.lookup name = some text) :
    (spacedSlot name).fill fragments = text.toList := by
  rw [spacedSlot, Piece.fill, h]

/-- Placeholders with a line end behind each are filled in with their texts. -/
theorem flatMap_fill_lines {fragments : Fragments} {names texts : List String}
    (h : List.Forall₂ (fun name text => fragments.lookup name = some text) names texts) :
    (names.flatMap fun name => [spacedSlot name, .char '\n']).flatMap (Piece.fill fragments)
      = texts.flatMap fun text => text.toList ++ ['\n'] := by
  induction h with
  | nil => rfl
  | cons hname _ ih =>
    rw [List.flatMap_cons, List.flatMap_append, ih, List.flatMap_cons, List.flatMap_cons,
      fill_spacedSlot hname]
    rfl

end Template

namespace Compiled

open Template

/-- The fragments behind the comment. -/
def bodyTexts (c : Compiled) : List String :=
  [c.layerDefines, c.customBehaviors, c.customDevicetree, c.inputListeners, c.behaviors, c.macros,
    c.combos, c.keymap]

/-- The fragments behind the comment, each with a line end. -/
def body (c : Compiled) : List Char :=
  c.bodyTexts.flatMap fun text => text.toList ++ ['\n']

/-- The file that the standard template makes: the comment, its end, and what does not depend on the
title and the name of the keyboard. -/
theorem toList_render_standard (c : Compiled) :
    (c.render standard).toList
      = header c.title.toList c.keyboard.toList ++ ' ' :: '*' :: '/' :: (includes ++ c.body) := by
  have title : c.fragments.lookup "title" = some c.title := rfl
  have keyboard : c.fragments.lookup "keyboard" = some c.keyboard := rfl
  have behind : List.Forall₂ (fun name text => c.fragments.lookup name = some text) bodyNames
      c.bodyTexts :=
    .cons rfl (.cons rfl (.cons rfl (.cons rfl (.cons rfl (.cons rfl (.cons rfl
      (.cons rfl .nil)))))))
  have closed : " */".toList = [' ', '*', '/'] := by decide
  rw [render, Template.render, String.toList_ofList, pieces_standard, List.flatMap_append,
    List.flatMap_cons, List.flatMap_append, List.flatMap_cons, List.flatMap_append,
    flatMap_fill_lines behind, fill_spacedSlot title, fill_spacedSlot keyboard, ← body]
  simp only [flatMap_fill_plainPieces, header, closed, List.append_assoc, List.cons_append,
    List.nil_append]

end Compiled

/-! ### The end of the comment -/

namespace Template

variable (title keyboard : List Char)

/-- The line of the title ends with it, and the rest of the comment starts with a space. -/
theorem header_eq_lines :
    header title keyboard = (opening ++ ' ' :: (title ++ ['\n']))
      ++ ' ' :: (between ++ ' ' :: (keyboard ++ '.' :: closing)) := by
  rw [header, List.append_assoc, List.cons_append, List.append_assoc]
  rfl

/-- The ends in the comment are those of the two texts. -/
theorem hasEnd_header_iff : HasEnd (header title keyboard) ↔ HasEnd title ∨ HasEnd keyboard := by
  have hopening : ¬ HasEnd opening := by decide
  have hbetween : ¬ HasEnd (' ' :: between) := by decide +kernel
  have hclosing : ¬ HasEnd closing := by decide +kernel
  rw [header, hasEnd_separated_iff (c := ' ') (by decide) (by decide),
    hasEnd_separated_iff (c := '\n') (by decide) (by decide), ← List.cons_append,
    hasEnd_separated_iff (c := ' ') (by decide) (by decide),
    hasEnd_separated_iff (c := '.') (by decide) (by decide)]
  simp only [hopening, hbetween, hclosing, false_or, or_false]

/-- So are the ends that are there when lines are joined. -/
theorem hasEnd_spliced_header_iff :
    HasEnd (spliced (header title keyboard)) ↔
      HasEnd (spliced title) ∨ HasEnd (spliced keyboard) := by
  have hopening : ¬ HasEnd (spliced opening) := by decide
  have hbetween : ¬ HasEnd (spliced between) := by decide +kernel
  have hclosing : ¬ HasEnd (spliced closing) := by decide +kernel
  -- The line end behind the title may be joined to it, the space behind that cannot.
  rw [header_eq_lines, List.append_assoc, List.cons_append,
    hasEnd_spliced_separated_iff (c := ' ') (by decide),
    hasEnd_spliced_separated_iff (c := ' ') (by decide),
    hasEnd_spliced_separated_iff (c := ' ') (by decide),
    hasEnd_spliced_separated_iff (c := '.') (by decide), hasEnd_spliced_newline_iff]
  simp only [hopening, hbetween, hclosing, false_or, or_false]

variable {title keyboard}

/-- What follows the comment is read in lines of its own. -/
theorem spliced_header_append (rest : List Char) :
    spliced (header title keyboard ++ ' ' :: '*' :: '/' :: rest)
      = spliced (header title keyboard) ++ ' ' :: '*' :: '/' :: spliced rest := by
  have joined : spliced (header title keyboard ++ ' ' :: '*' :: '/' :: rest)
      = spliced (header title keyboard) ++ spliced (' ' :: '*' :: '/' :: rest) :=
    spliced_append (by simp)
  rw [joined, spliced_cons_of_ne (by decide), spliced_cons_of_ne (by decide),
    spliced_cons_of_ne (by decide)]

/-- A comment that ends where it should leaves a space. -/
theorem preprocessed_header_append (h : ¬ HasEnd (spliced (header title keyboard)))
    (rest : List Char) :
    preprocessed (header title keyboard ++ ' ' :: '*' :: '/' :: rest)
      = ' ' :: preprocessed rest := by
  obtain ⟨inside, hinside⟩ : ∃ inside, header title keyboard = '/' :: '*' :: inside := ⟨_, rfl⟩
  have hends : ¬ HasEnd (spliced inside) := by
    rw [hinside, spliced_cons_of_ne (by decide), spliced_cons_of_ne (by decide), hasEnd_cons_iff,
      hasEnd_cons_iff, not_or, not_or] at h
    exact h.2.2
  have hreads := (reads_block_iff inside).mpr hends rest
  rw [List.cons_append, List.cons_append, List.append_assoc] at hreads
  rw [hinside]
  exact hreads

end Template

/-! ### Keymap files -/

open Template

/-- How the comment at the top of a keymap file is read, given the title and the name of the
keyboard. -/
structure IsHeaded (title keyboard : List Char) (c : Compiled) : Prop where
  /-- The file is the comment, its end, the included files and the fragments. -/
  text : (c.render standard).toList
    = header title keyboard ++ ' ' :: '*' :: '/' :: (includes ++ c.body)
  /-- The first end of a comment in the file is the end of this comment exactly when neither of the
  two texts has one. -/
  first : FirstEnd (c.render standard).toList ((header title keyboard).length + 1) ↔
    ¬ HasEnd title ∧ ¬ HasEnd keyboard
  /-- The same holds of the file with its lines joined. -/
  joined : FirstEnd (spliced (c.render standard).toList)
      ((spliced (header title keyboard)).length + 1) ↔
    ¬ HasEnd (spliced title) ∧ ¬ HasEnd (spliced keyboard)
  /-- Then nothing of the two texts is read as source. -/
  source : ¬ HasEnd (spliced title) → ¬ HasEnd (spliced keyboard) →
    preprocessed (c.render standard).toList = ' ' :: preprocessed (includes ++ c.body)

namespace Document

/-- **Header.**  The file that the standard template makes of a document starts with a comment that
has the title and the name of the keyboard in it, the document's or the layout's.  It is ended by
the template exactly when neither text has the end of a comment in it, and no part of them is source
if they have none with their lines joined. -/
theorem compile_isHeaded {d : Document} {l : Layout} {map : Kconfig.Map} {r : Reported Compiled}
    (h : d.compile l map = .ok r) :
    IsHeaded (d.titleText l).toList (d.keyboardName l).toList r.value := by
  obtain ⟨-, -, rfl⟩ := compile_eq_ok_iff.mp h
  have text : ((d.fragments l map).value.render standard).toList
      = header (d.titleText l).toList (d.keyboardName l).toList ++ ' ' :: '*' :: '/'
        :: (includes ++ (d.fragments l map).value.body) :=
    Compiled.toList_render_standard _
  refine ⟨text, ?_, ?_, fun htitle hkeyboard => ?_⟩
  · rw [text, firstEnd_space_iff, hasEnd_header_iff, not_or]
  · rw [text, spliced_header_append, firstEnd_space_iff, hasEnd_spliced_header_iff, not_or]
  · have hends := (hasEnd_spliced_header_iff (d.titleText l).toList (d.keyboardName l).toList).not
    rw [text, preprocessed_header_append (hends.mpr (not_or.mpr ⟨htitle, hkeyboard⟩))]

/-- The sample with a title. -/
def titled (title : String) : Document :=
  { sample with title := some title }

/-- A title that opens a comment, and ends in a star and a backslash, stays in the comment. -/
theorem compile_isHeaded_titled :
    ∃ r, (titled "/* a * / b *\\").compile Layout.sample [] = .ok r ∧
      FirstEnd (r.value.render standard).toList
        ((header "/* a * / b *\\".toList "pair".toList).length + 1) ∧
      preprocessed (r.value.render standard).toList
        = ' ' :: preprocessed (includes ++ r.value.body) := by
  have hok : (titled "/* a * / b *\\").compile Layout.sample [] = .ok _ :=
    compile_eq_ok_iff.mpr ⟨by decide +kernel, by decide +kernel, rfl⟩
  obtain ⟨-, first, -, source⟩ := compile_isHeaded hok
  exact ⟨_, hok, first.mpr ⟨by decide +kernel, by decide +kernel⟩,
    source (by decide +kernel) (by decide +kernel)⟩

/-- A title with the end of a comment in it ends the comment, and the rest of it is source. -/
theorem title_ends_comment :
    ∃ r, (titled "a */ b").compile Layout.sample [] = .ok r ∧
      ¬ FirstEnd (r.value.render standard).toList
        ((header "a */ b".toList "pair".toList).length + 1) ∧
      ∃ back, preprocessed (r.value.render standard).toList = [' ', ' ', 'b', '\n'] ++ back := by
  have hok : (titled "a */ b").compile Layout.sample [] = .ok _ :=
    compile_eq_ok_iff.mpr ⟨by decide +kernel, by decide +kernel, rfl⟩
  have title : ((titled "a */ b").fragments Layout.sample []).value.title.toList
      = ['a', ' ', '*', '/', ' ', 'b'] := by
    decide +kernel
  -- The comment is over behind the title's own end, and its last word is left.
  have read : Reads .source (opening ++ ' ' :: (['a', ' ', '*', '/', ' ', 'b'] ++ ['\n']))
      [' ', ' ', 'b', '\n'] .source := fun _ => rfl
  refine ⟨_, hok, ?_, ?_⟩
  · rw [Compiled.toList_render_standard]
    exact (firstEnd_space_iff _ _).not.mpr (not_not.mpr (by decide +kernel))
  · rw [Compiled.toList_render_standard, title, header_eq_lines, List.append_assoc]
    exact ⟨_, read _⟩

end Document

end KeymapCompiler
