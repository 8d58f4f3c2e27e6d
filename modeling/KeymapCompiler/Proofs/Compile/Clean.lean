/-
KeymapCompiler/Proofs/Compile/Clean.lean

What a report without warnings promises.  A compile that succeeds may have left
out or changed entries, and a user who asks for strictness relies on the report
to say so.  `Faultless` lists everything that a document, its layout and the map
of parameters must have for a compile to take all of them over as they are, and
the report has no warnings exactly then (`report_eq_nil_iff`).

Both directions follow from the steps: each of them warns of its own faults and
of nothing else, and the warnings of a compile are those of its steps.
-/
import KeymapCompiler.Proofs.Compile.Stages
import KeymapCompiler.Proofs.Kconfig.Settings
import KeymapCompiler.Proofs.Layer.Symbols
import KeymapCompiler.Proofs.Node.Warnings
import KeymapCompiler.Proofs.Validation

namespace KeymapCompiler

open KeymapCompiler.Behavior

/-- A document without faults for a layout and a map of parameters. -/
structure Faultless (d : Document) (l : Layout) (map : Kconfig.Map) : Prop where
  /-- The slots of the layout hold every key once. -/
  keys : l.keys.Perm (List.range l.keyCount)
  /-- All entries of the document are read. -/
  rejected : d.rejected = []
  /-- Every layer has a name. -/
  named : d.layerNames.length = d.layers.length
  /-- The symbols that the layers have on their own are distinct. -/
  layerSymbols : (d.namesOfLayers.mapIdx LayerTable.baseSymbol).Nodup
  /-- No layer has more bindings than there are keys, and all of them can be written. -/
  layers : ∀ bs ∈ d.layers, bs.length ≤ l.keyCount ∧ ∀ b ∈ bs, d.formatter.Writable b
  /-- All hold-taps are accepted. -/
  holdTaps : d.declared.holdTaps = d.holdTaps
  /-- All macros are accepted. -/
  userMacros : d.declared.userMacros = d.userMacros
  /-- The children of hold-taps can be written. -/
  children : ∀ h ∈ d.holdTaps, ∀ b ∈ h.bindings, ∃ text, d.formatter.reference b = .ok text
  /-- The flavors of hold-taps are recognized. -/
  flavors : ∀ h ∈ d.holdTaps, h.flavor ≠ some .unrecognized
  /-- The trigger positions of hold-taps have keys. -/
  triggers : ∀ h ∈ d.holdTaps, ∀ p ∈ h.holdTriggerKeyPositions.getD [], 0 ≤ p ∧ p < l.keyCount
  /-- The steps of macros can be written. -/
  steps : ∀ m ∈ d.userMacros, ∀ b ∈ m.bindings, d.formatter.Writable b
  /-- All combos have nodes. -/
  combos : (Node.comboNodes d.formatter l [] 0 d.combos).value.length = d.combos.length
  /-- The bindings of combos can be written. -/
  comboBindings : ∀ c ∈ d.combos, d.formatter.Writable c.binding
  /-- The layers of combos resolve. -/
  comboLayers : ∀ c ∈ d.combos, Node.LimitResolves d.layerTable c.layers
  /-- The symbols that the combos have on their own are distinct. -/
  comboSymbols : (d.combos.mapIdx Node.comboBase).Nodup
  /-- No build parameter is skipped. -/
  parameters : (Kconfig.configure map d.configParameters).value.skipped = []
  /-- No build parameter has a symbol of a type that is not recognized. -/
  types : ∀ p ∈ d.configParameters, ∀ e, Kconfig.resolve? map (Text.trimmed p.name) = some e →
    ∀ name, e.type ≠ .unknown (some name)

/-- A keyboard with two keys in a row. -/
def Layout.sample : Layout where
  keyboard := "pair"
  keyCount := 2
  rows := [[.key 0, .blank, .key 1]]
  style := .standard
  positionNames := []

/-- A document with an entry of almost every sort and no faults. -/
def Document.sample : Document where
  keyboard := none
  title := none
  layerNames := ["Base", "Nav"]
  layers := [[⟨"&hm", [.str "LSHFT", .str "A"]⟩, ⟨"&mo", [.str "Nav"]⟩], [⟨"&hello", []⟩]]
  holdTaps := [{
    name := "hm", description := none, bindings := [⟨"&kp", []⟩, ⟨"&kp", []⟩]
    flavor := some .balanced, tappingTermMs := some 200, quickTapMs := none
    requirePriorIdleMs := none, holdTriggerOnRelease := none
    holdTriggerKeyPositions := some [1], retroTap := none }]
  userMacros := [{
    name := "hello", description := none, paramArity := none, params := []
    bindings := [⟨"&kp", [.str "H"]⟩, ⟨"&kp", [.call "LS" [.str "I"]]⟩]
    waitMs := none, tapMs := none }]
  combos := [{
    name := "esc", description := none, keyPositions := [0, 1], binding := ⟨"&kp", [.str "ESC"]⟩
    layers := [.name "Base"], timeoutMs := none, requirePriorIdleMs := none
    slowRelease := none }]
  inputListeners := []
  configParameters := [⟨"CONFIG_ZMK_SLEEP", .bool true, none⟩]
  customDevicetree := ""
  customBehaviors := ""
  rejected := []

namespace Document

variable {d : Document} {l : Layout} {map : Kconfig.Map}

/-- The steps behind the declarations, when all hold-taps and macros are accepted. -/
theorem warnings_nodes_eq_nil_iff (hholdTaps : d.declared.holdTaps = d.holdTaps)
    (huserMacros : d.declared.userMacros = d.userMacros) :
    ((Node.holdTaps d.formatter l.keyCount d.declared.holdTaps).warnings = [] ∧
      (Node.userMacros d.formatter d.declared.userMacros).warnings = []) ↔
      ((∀ h ∈ d.holdTaps, ∀ b ∈ h.bindings, ∃ text, d.formatter.reference b = .ok text) ∧
        (∀ h ∈ d.holdTaps, h.flavor ≠ some .unrecognized) ∧
        ∀ h ∈ d.holdTaps, ∀ p ∈ h.holdTriggerKeyPositions.getD [], 0 ≤ p ∧ p < l.keyCount) ∧
      ∀ m ∈ d.userMacros, ∀ b ∈ m.bindings, d.formatter.Writable b := by
  rw [hholdTaps, huserMacros, Node.warnings_holdTaps_eq_nil_iff,
    Node.warnings_userMacros_eq_nil_iff]
  refine and_congr_left fun _ => ?_
  -- The warnings of one hold-tap are of three kinds, which are told apart over all of them.
  simp only [Node.warnings_holdTap_eq_nil_iff]
  constructor
  · intro h
    exact ⟨fun t ht => (h t ht).2.1, fun t ht => (h t ht).1, fun t ht => (h t ht).2.2⟩
  · rintro ⟨hchildren, hflavors, htriggers⟩
    exact fun t ht => ⟨hflavors t ht, hchildren t ht, htriggers t ht⟩

theorem warnings_combos_eq_nil_iff :
    (Node.combos d.formatter l d.combos).warnings = [] ↔
      (Node.comboNodes d.formatter l [] 0 d.combos).value.length = d.combos.length ∧
        (∀ c ∈ d.combos, d.formatter.Writable c.binding) ∧
        (∀ c ∈ d.combos, Node.LimitResolves d.layerTable c.layers) ∧
        (d.combos.mapIdx Node.comboBase).Nodup := by
  rw [Node.warnings_combos_eq_nil_iff, Node.length_comboNodes_eq_iff]
  refine and_congr_right fun _ => ?_
  rw [← and_assoc]
  refine and_congr_left fun _ => ?_
  exact ⟨fun h => ⟨fun c hc => (h c hc).1, fun c hc => (h c hc).2⟩,
    fun h c hc => ⟨h.1 c hc, h.2 c hc⟩⟩

/-- Each step has nothing to warn of exactly when its share of the document is without faults. -/
theorem report_eq_nil_iff (h : (check d l).errors = []) :
    noteWarnings (check d l).notes
        ++ (rejectedWarnings d.rejected ++ (d.fragments l map).warnings) = []
      ↔ Faultless d l map := by
  have notes : noteWarnings (check d l).notes = [] ↔
      l.keys.Perm (List.range l.keyCount) ∧ d.layerNames.length = d.layers.length := by
    rw [noteWarnings, List.map_eq_nil_iff, check_notes_eq_nil_iff h]
  have rejected : rejectedWarnings d.rejected = [] ↔ d.rejected = [] := List.map_eq_nil_iff
  -- The report is put together from the stages, so it is empty when each of them is clean.
  rw [List.append_eq_nil_iff, List.append_eq_nil_iff, notes, rejected, warnings_fragments]
  simp only [List.append_eq_nil_iff]
  rw [LayerTable.warnings_ofNames_eq_nil_iff, warnings_declare_eq_nil_iff,
    Node.warnings_keymap_eq_nil_iff, warnings_combos_eq_nil_iff, Kconfig.configure,
    Kconfig.warnings_settle_eq_nil_iff]
  constructor
  · rintro ⟨⟨hkeys, hnamed⟩, hrejected, hsymbols, ⟨hholdTaps, huserMacros⟩, hlayers, hht, hum,
      ⟨hcombos, hcb, hcl, hcs⟩, hparameters, htypes⟩
    -- The nodes are made of what was accepted, which is everything in a clean run.
    obtain ⟨⟨hchildren, hflavors, htriggers⟩, hsteps⟩ :=
      (warnings_nodes_eq_nil_iff hholdTaps huserMacros).mp ⟨hht, hum⟩
    exact {
      keys := hkeys, rejected := hrejected, named := hnamed, layerSymbols := hsymbols
      layers := hlayers, holdTaps := hholdTaps, userMacros := huserMacros
      children := hchildren, flavors := hflavors, triggers := htriggers, steps := hsteps
      combos := hcombos, comboBindings := hcb, comboLayers := hcl, comboSymbols := hcs
      parameters := hparameters, types := htypes }
  · intro hf
    obtain ⟨hht, hum⟩ := (warnings_nodes_eq_nil_iff (l := l) hf.holdTaps hf.userMacros).mpr
      ⟨⟨hf.children, hf.flavors, hf.triggers⟩, hf.steps⟩
    exact ⟨⟨hf.keys, hf.named⟩, hf.rejected, hf.layerSymbols, ⟨hf.holdTaps, hf.userMacros⟩,
      hf.layers, hht, hum, ⟨hf.combos, hf.comboBindings, hf.comboLayers, hf.comboSymbols⟩,
      hf.parameters, hf.types⟩

/-- **A clean report.**  A compile that succeeds has nothing to warn of exactly when the document
is without faults. -/
theorem warnings_eq_nil_iff_faultless {r : Reported Compiled} (h : d.compile l map = .ok r) :
    r.warnings = [] ↔ Faultless d l map := by
  obtain ⟨herrors, -, rfl⟩ := compile_eq_ok_iff.mp h
  exact report_eq_nil_iff herrors

/-- The sample compiles without warnings, so it is without faults. -/
theorem faultless_sample :
    ∃ r, sample.compile Layout.sample [] = .ok r ∧ Faultless sample Layout.sample [] := by
  have hok : sample.compile Layout.sample [] = .ok _ :=
    compile_eq_ok_iff.mpr ⟨by decide +kernel, by decide +kernel, rfl⟩
  exact ⟨_, hok, (warnings_eq_nil_iff_faultless hok).mp (by decide +kernel)⟩

end Document

end KeymapCompiler
