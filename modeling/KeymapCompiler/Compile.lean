/-
KeymapCompiler/Compile.lean

Compiling a document for a keyboard: the fragments of the keymap and the build's
configuration.

Faults in single entries are reported, and the warnings follow the order of the
steps: findings on the layout, entries that were not read, layers, declarations,
nodes, build parameters.  A compile fails on structural errors, and on a layer
whose columns cannot be padded.
-/
import KeymapCompiler.Kconfig
import KeymapCompiler.Node.Combo
import KeymapCompiler.Node.HoldTap
import KeymapCompiler.Node.InputListener
import KeymapCompiler.Node.Keymap
import KeymapCompiler.Node.UserMacro
import KeymapCompiler.Template
import KeymapCompiler.Validation

namespace KeymapCompiler

open KeymapCompiler.Behavior

/-- What a compile makes of a document. -/
structure Compiled where
  /-- The name of the keyboard. -/
  keyboard : String
  /-- The title of the keymap. -/
  title : String
  /-- The definitions of the layers' symbols. -/
  layerDefines : String
  /-- The `keymap` node. -/
  keymap : String
  /-- The `behaviors` node. -/
  behaviors : String
  /-- The `macros` node. -/
  macros : String
  /-- The `combos` node. -/
  combos : String
  /-- The nodes of the input listeners. -/
  inputListeners : String
  /-- Devicetree source of the document. -/
  customDevicetree : String
  /-- Definitions of behaviors of the document. -/
  customBehaviors : String
  /-- The build's configuration. -/
  kconfig : Kconfig.Output

namespace Compiled

/-- The fragments by the names of their placeholders. -/
def fragments (c : Compiled) : Template.Fragments :=
  [("keyboard", c.keyboard), ("title", c.title), ("layer_defines", c.layerDefines),
   ("keymap", c.keymap), ("behaviors", c.behaviors), ("macros", c.macros),
   ("combos", c.combos), ("input_listeners", c.inputListeners),
   ("custom_devicetree", c.customDevicetree),
   ("custom_defined_behaviors", c.customBehaviors), ("kconfig", c.kconfig.text)]

/-- The keymap file that a template makes. -/
def render (c : Compiled) (template : String) : String :=
  Template.render template c.fragments

end Compiled

/-- Why a document does not compile. -/
inductive CompileFailure where
  /-- The document and the layout do not fit together. -/
  | malformed (errors : List StructuralError)
  /-- A layer has a column that cannot be padded to the width of its widest cell. -/
  | unpaddable
deriving DecidableEq

/-! ### Steps -/

/-- A text that is given and not blank, else another. -/
def givenOr (text : Option String) (other : String) : String :=
  match text with
  | some t => if Text.isAllBlank t then other else t
  | none => other

namespace Document

/-- The names of the layers; a layer without a name is named by its index. -/
def namesOfLayers (d : Document) : List String :=
  (List.range d.layers.length).map fun i => d.layerNames[i]?.getD s!"Layer {i}"

/-- The name of the keyboard: the document's, or else the layout's. -/
def keyboardName (d : Document) (l : Layout) : String :=
  givenOr d.keyboard l.keyboard

/-- The title: the document's, or else the name of the keyboard. -/
def titleText (d : Document) (l : Layout) : String :=
  givenOr d.title (d.keyboardName l)

/-- The warnings for notes on the structure. -/
def noteWarnings (notes : List String) : Report :=
  notes.map fun note => ⟨.skippedEntry, "layout", note⟩

/-- The warnings for entries that were not read. -/
def rejectedWarnings (rejected : List RejectedEntry) : Report :=
  rejected.map fun e => ⟨.skippedEntry, e.shown, e.message⟩

/-- What a document declares: the accepted hold-taps and macros, and the registry with them. -/
structure Declared where
  /-- The accepted hold-taps. -/
  holdTaps : List HoldTap
  /-- The accepted macros. -/
  userMacros : List UserMacro
  /-- The behaviors known after the declarations. -/
  registry : Registry

/-- Declares the hold-taps of a document, then its macros. -/
def declare (d : Document) (r : Registry) : Reported Declared := do
  let (holdTaps, r) ← declareHoldTaps r d.holdTaps
  let (userMacros, r) ← declareMacros r d.userMacros
  pure ⟨holdTaps, userMacros, r⟩

/-- The layers of a document. -/
def layerTable (d : Document) : LayerTable :=
  (LayerTable.ofNames d.namesOfLayers).value

/-- What a document declares on top of the behaviors that are built in. -/
def declared (d : Document) : Declared :=
  (d.declare Registry.withBuiltins).value

/-- What the bindings of a document are written against. -/
def formatter (d : Document) : Formatter :=
  ⟨d.declared.registry, d.layerTable⟩

/-- The fragments of a document for a layout. -/
def fragments (d : Document) (l : Layout) (map : Kconfig.Map) : Reported Compiled := do
  let layers ← LayerTable.ofNames d.namesOfLayers
  let declared ← d.declare Registry.withBuiltins
  let f : Formatter := ⟨declared.registry, layers⟩
  let keymap ← Node.keymap f l d.layers
  let behaviors ← Node.holdTaps f l.keyCount declared.holdTaps
  let macros ← Node.userMacros f declared.userMacros
  let combos ← Node.combos f l d.combos
  let kconfig ← Kconfig.configure map d.configParameters
  pure
    { keyboard := d.keyboardName l
      title := d.titleText l
      layerDefines := layers.defines
      keymap, behaviors, macros, combos
      inputListeners := Node.inputListeners layers d.inputListeners
      customDevicetree := d.customDevicetree
      customBehaviors := d.customBehaviors
      kconfig }

/-- Compiles a document for a layout, or answers why it cannot. -/
def compile (d : Document) (l : Layout) (map : Kconfig.Map) :
    Except CompileFailure (Reported Compiled) :=
  let findings := check d l
  if findings.isValid then
    if Node.isPaddable d.formatter l d.layers then
      .ok do
        Reported.report (noteWarnings findings.notes)
        Reported.report (rejectedWarnings d.rejected)
        d.fragments l map
    else .error .unpaddable
  else .error (.malformed findings.errors)

/-- A compile is refused as malformed exactly when the check finds errors. -/
theorem compile_eq_malformed_iff (d : Document) (l : Layout) (map : Kconfig.Map)
    (errors : List StructuralError) :
    d.compile l map = .error (.malformed errors) ↔ errors ≠ [] ∧ (check d l).errors = errors := by
  simp only [compile, Findings.isValid, List.isEmpty_iff]
  split
  -- No faults were found, so they are not the reason if there is a failure.
  · next h =>
    have none : ¬ (errors ≠ [] ∧ (check d l).errors = errors) := by
      rintro ⟨hne, e⟩
      exact hne (e ▸ h)
    split <;> simp [none]
  · next h =>
    constructor
    · intro e
      have e := CompileFailure.malformed.inj (Except.error.inj e)
      exact ⟨e ▸ h, e⟩
    · rintro ⟨-, e⟩
      rw [e]

end Document

/-- Structural errors as one text. -/
def malformedMessage (errors : List StructuralError) : String :=
  "; ".intercalate (errors.map StructuralError.shown)

end KeymapCompiler
