/-
KeymapCompiler/Proofs/Compile/Stages.lean

The steps of a compile, one by one.  A compile names the layers, declares the
behaviors, writes the nodes against both and settles the build parameters.  The
steps have no effect on one another but through the registry and the layers, so
a compile is known when its steps are: its warnings are theirs in order
(`warnings_fragments`).
-/
import KeymapCompiler.Compile
import KeymapCompiler.Proofs.Declaration

namespace KeymapCompiler

open KeymapCompiler.Behavior

namespace Document

@[simp] theorem formatter_registry (d : Document) :
    d.formatter.registry = d.declared.registry := rfl

/-- Every layer has an entry in the table. -/
theorem length_layerTable (d : Document) : d.layerTable.length = d.layers.length := by
  have names := congrArg List.length (LayerTable.names_ofNames d.namesOfLayers)
  simpa [LayerTable.names, namesOfLayers, layerTable] using names

/-- A compile that succeeds reports the notes, then the entries that were not read, then what the
fragments report. -/
theorem compile_eq_ok_iff {d : Document} {l : Layout} {map : Kconfig.Map}
    {r : Reported Compiled} :
    d.compile l map = .ok r ↔ (check d l).errors = [] ∧
      Node.isPaddable d.formatter l d.layers = true ∧
      r = ⟨(d.fragments l map).value, noteWarnings (check d l).notes
        ++ (rejectedWarnings d.rejected ++ (d.fragments l map).warnings)⟩ := by
  unfold compile
  dsimp only
  by_cases h : (check d l).errors = []
  · rw [if_pos (by rw [Findings.isValid, h]; rfl), and_iff_right h]
    -- Two things can stop a compile: the errors of the check, and then the padding of the keymap.
    by_cases hp : Node.isPaddable d.formatter l d.layers = true
    · rw [if_pos hp, and_iff_right hp]
      constructor
      · intro e
        exact (Except.ok.inj e).symm
      · rintro rfl
        rfl
    · rw [if_neg hp]
      exact iff_of_false (by simp) fun e => hp e.1
  · rw [if_neg (by simpa [Findings.isValid] using h)]
    exact iff_of_false (by simp) fun e => h e.1

/-- The registry is passed from the hold-taps to the macros. -/
theorem declared_eq (d : Document) :
    d.declared =
      let holdTaps := (declareHoldTaps Registry.withBuiltins d.holdTaps).value
      let userMacros := (declareMacros holdTaps.2 d.userMacros).value
      ⟨holdTaps.1, userMacros.1, userMacros.2⟩ := rfl

theorem warnings_declare_eq_nil_iff (d : Document) :
    (d.declare Registry.withBuiltins).warnings = []
      ↔ d.declared.holdTaps = d.holdTaps ∧ d.declared.userMacros = d.userMacros := by
  unfold declare
  rw [Reported.warnings_bind, Reported.warnings_bind, Reported.warnings_pure, List.append_nil,
    List.append_eq_nil_iff]
  exact and_congr (warnings_declareAll_eq_nil_iff _ _ _ _ _)
    (warnings_declareAll_eq_nil_iff _ _ _ _ _)

/-- The fragments are what the steps make. -/
theorem value_fragments (d : Document) (l : Layout) (map : Kconfig.Map) :
    (d.fragments l map).value =
      { keyboard := d.keyboardName l
        title := d.titleText l
        layerDefines := d.layerTable.defines
        keymap := (Node.keymap d.formatter l d.layers).value
        behaviors := (Node.holdTaps d.formatter l.keyCount d.declared.holdTaps).value
        macros := (Node.userMacros d.formatter d.declared.userMacros).value
        combos := (Node.combos d.formatter l d.combos).value
        inputListeners := Node.inputListeners d.layerTable d.inputListeners
        customDevicetree := d.customDevicetree
        customBehaviors := d.customBehaviors
        kconfig := (Kconfig.configure map d.configParameters).value } := rfl

/-- The warnings of the fragments are those of the steps. -/
theorem warnings_fragments (d : Document) (l : Layout) (map : Kconfig.Map) :
    (d.fragments l map).warnings
      = (LayerTable.ofNames d.namesOfLayers).warnings
        ++ ((d.declare Registry.withBuiltins).warnings
        ++ ((Node.keymap d.formatter l d.layers).warnings
        ++ ((Node.holdTaps d.formatter l.keyCount d.declared.holdTaps).warnings
        ++ ((Node.userMacros d.formatter d.declared.userMacros).warnings
        ++ ((Node.combos d.formatter l d.combos).warnings
        ++ (Kconfig.configure map d.configParameters).warnings))))) := by
  unfold fragments
  simp only [Reported.warnings_bind, Reported.warnings_pure, List.append_nil]
  rfl

end Document

end KeymapCompiler
