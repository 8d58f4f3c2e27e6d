/-
KeymapCompiler/Proofs/Validation.lean

What the check of a document and a layout looks for.  It looks at the layout, and
at how many layers and names of layers the document has; so it finds nothing
exactly when the layout holds every key once and every layer has a name
(`check_notes_eq_nil_iff`).
-/
import KeymapCompiler.Proofs.Validation.Layout

namespace KeymapCompiler

theorem checkLayers_errors_eq_nil_iff (names layers : Nat) :
    (checkLayers names layers).errors = [] ↔ layers ≠ 0 ∧ names ≤ layers := by
  unfold checkLayers
  split
  · simp_all
  · split
    · simp
      omega
    · split <;> simp <;> omega

theorem checkLayers_notes_eq_nil_iff {names layers : Nat}
    (h : (checkLayers names layers).errors = []) :
    (checkLayers names layers).notes = [] ↔ names = layers := by
  obtain ⟨hlayers, hle⟩ := (checkLayers_errors_eq_nil_iff names layers).mp h
  unfold checkLayers
  rw [if_neg hlayers, if_neg (Nat.not_lt.mpr hle)]
  split
  · refine iff_of_false (by simp) ?_
    omega
  · refine iff_of_true rfl ?_
    omega

/-- When a document and a layout have no errors there is nothing to note if the slots hold every
key once and every layer has a name. -/
theorem check_notes_eq_nil_iff {d : Document} {l : Layout} (h : (check d l).errors = []) :
    (check d l).notes = [] ↔
      l.keys.Perm (List.range l.keyCount) ∧ d.layerNames.length = d.layers.length := by
  rw [check, Findings.errors_append, List.append_eq_nil_iff] at h
  obtain ⟨hlayout, hlayers⟩ := h
  obtain ⟨-, -, hkeys⟩ := (checkLayout_errors_eq_nil_iff l).mp hlayout
  rw [check, Findings.notes_append, List.append_eq_nil_iff, checkLayout_notes_eq_nil_iff hlayout,
    checkLayers_notes_eq_nil_iff hlayers, Layout.perm_range_iff, and_iff_right hkeys]

end KeymapCompiler
