/-
KeymapCompiler/Proofs/Binding/ErrorToken.lean

What stands for a binding that cannot be written: a marker, and a diagnostic in a block
comment.

    &error /* diagnostic */

The diagnostic holds texts of the document.  As the token is written, its comment has one
end, in its last two characters, whatever these texts are.  As the preprocessor reads it,
with lines joined, it has the ends as well that the diagnostic has over several lines.  The
marker is read by itself (`reads_errorMarker`), so both are facts about the block comment
behind it.
-/
import KeymapCompiler.Binding.Format
import KeymapCompiler.Proofs.Devicetree.Comment

namespace KeymapCompiler

open KeymapCompiler.Devicetree KeymapCompiler.Preprocessor

/-- What stands for a binding that cannot be written, given the diagnostic: a marker and one
comment, which ends with the token. -/
structure IsErrorToken (diagnostic token : String) : Prop where
  /-- The diagnostic is in the comment, with a space inside of every end of a comment. -/
  shape : token = "&error /* " ++ String.ofList (guardComment diagnostic.toList) ++ " */"
  /-- There is one end of a comment, in the last two characters. -/
  ends : ∀ i, EndsAt token.toList i ↔ i + 2 = token.length
  /-- The marker and a space are all that is read as source, and what follows the token is read as
  source, exactly when the diagnostic has no end of a comment over two lines or more. -/
  source : Reads .source token.toList ("&error ".toList ++ [' ']) .source ↔
    ¬ HasBrokenEnd diagnostic.toList

/-- What an error token starts with. -/
def errorMarker : List Char := ['&', 'e', 'r', 'r', 'o', 'r', ' ']

theorem toList_errorMarker : "&error ".toList = errorMarker := by
  decide +kernel

/-- The marker has no star, and neither has the sign that opens a comment an end. -/
theorem not_endsAt_errorMarker (i : Nat) : ¬ EndsAt (errorMarker ++ ['/', '*']) i := by
  intro e
  rcases (endsAt_space_iff ['&', 'e', 'r', 'r', 'o', 'r'] ['/', '*'] i).mp e with h | ⟨j, -, h⟩
  · exact absurd (List.mem_of_getElem? h.1) (by decide)
  · rcases j with - | j
    · simp [EndsAt] at h
    · simp [EndsAt] at h

theorem reads_errorMarker : Reads .source errorMarker errorMarker .source :=
  fun _ => rfl

/-- Any text may be the diagnostic. -/
theorem isErrorToken_blockComment (diagnostic : String) :
    IsErrorToken diagnostic ("&error " ++ blockComment diagnostic) where
  shape := by
    have opening : "&error /* " = "&error " ++ "/* " := by decide +kernel
    rw [opening, blockComment]
    simp only [String.append_assoc]
  ends i := by
    rw [← String.length_toList, String.toList_append, toList_errorMarker,
      endsAt_blockComment_iff not_endsAt_errorMarker, List.length_append]
  source := by
    rw [String.toList_append, toList_errorMarker, reads_append_iff reads_errorMarker,
      reads_blockComment_iff]

/-- **Error tokens.**  Whatever texts a binding and an error are made of, the token is a marker and
one comment that is closed at its end, and no part of these texts is outside of the comment as long
as they have no end of a comment over several lines.  The wording of the error does not matter. -/
theorem isErrorToken_errorToken (b : Binding) :
    (∀ e, IsErrorToken (b.shown ++ ": " ++ e.message) (errorToken b e)) ∧
      ∀ wording, IsErrorToken (b.shown ++ ": " ++ wording)
        ("&error " ++ blockComment (b.shown ++ ": " ++ wording)) :=
  ⟨fun _ => isErrorToken_blockComment _, fun _ => isErrorToken_blockComment _⟩

/-- A name with a star, a backslash at the end of its line and a slash ends the comment, and what
follows in the name is source. -/
theorem broken_end_escapes :
    let b : Binding := ⟨"x*\\\n/ evil;", []⟩
    ∃ e, (⟨.withBuiltins, []⟩ : Formatter).format b = .error e ∧
      ¬ Reads .source (errorToken b e).toList ("&error ".toList ++ [' ']) .source ∧
      preprocessed (errorToken b e).toList
        = "&error   evil; []: unknown behavior 'x*/ evil;' */".toList := by
  intro b
  have left : preprocessed (errorToken b (.unknownBehavior b.behavior)).toList
      = "&error   evil; []: unknown behavior 'x*/ evil;' */".toList := by
    decide +kernel
  refine ⟨.unknownBehavior b.behavior, by decide +kernel, fun hreads => ?_, left⟩
  have alone := hreads []
  rw [List.append_nil] at alone
  exact absurd (left.symm.trans alone) (by decide +kernel)

end KeymapCompiler
