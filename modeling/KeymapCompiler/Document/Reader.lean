/-
KeymapCompiler/Document/Reader.lean

Reading documents.  The document itself is a record of its sections, read in the
order of the text.  The entries of a section are values first, and each value is
then read on its own: it is either kept or rejected, whatever the others are.
-/
import KeymapCompiler.Document

namespace KeymapCompiler

open KeymapCompiler.Json

/-! ### Entries -/

/-- Reads a flavor: its name, or an object with that name as its only field and `null` as the
value. -/
def Flavor.reader : Reader Flavor
  | .string name => .ok (ofName name)
  | .object [(name, .null)] => .ok (ofName name)
  | .object [(_, v)] => .error (.kind v "unit")
  | .object _ => .error .severalFields
  | v => .error (.kind v "string or map")

/-- Reads a reference to a layer: an integer of 64 bits or a name. -/
def LayerRef.reader : Reader LayerRef
  | .number n =>
    match n.int64? with
    | some i => .ok (.index i)
    | none => .error .layerReference
  | .string s => .ok (.name s)
  | _ => .error .layerReference

/-- The fields of a hold-tap. -/
def HoldTap.record : JsonRecord HoldTap :=
  HoldTap.mk
    <$> Record.required "name" [] Reader.string
    <*> JsonRecord.optional "description" [] Reader.string
    <*> JsonRecord.list "bindings" [] Binding.reader
    <*> JsonRecord.optional "flavor" [] Flavor.reader
    <*> JsonRecord.optional "tappingTermMs" ["tapping_term_ms"] Reader.natural32
    <*> JsonRecord.optional "quickTapMs" ["quick_tap_ms"] Reader.natural32
    <*> JsonRecord.optional "requirePriorIdleMs" ["require_prior_idle_ms"] Reader.natural32
    <*> JsonRecord.optional "holdTriggerOnRelease" ["hold_trigger_on_release"] Reader.boolean
    <*> JsonRecord.optional "holdTriggerKeyPositions" ["hold_trigger_key_positions"]
      (Reader.list Reader.integer64)
    <*> JsonRecord.optional "retroTap" ["retro_tap"] Reader.boolean

/-- Reads a hold-tap. -/
def HoldTap.reader : Reader HoldTap := record.read "HoldTap"

/-- The fields of a macro. -/
def UserMacro.record : JsonRecord UserMacro :=
  UserMacro.mk
    <$> Record.required "name" [] Reader.string
    <*> JsonRecord.optional "description" [] Reader.string
    <*> JsonRecord.optional "paramArity" ["param_arity"] Reader.natural32
    <*> JsonRecord.list "params" [] Reader.any
    <*> JsonRecord.list "bindings" [] Binding.reader
    <*> JsonRecord.optional "waitMs" ["wait_ms"] Reader.natural32
    <*> JsonRecord.optional "tapMs" ["tap_ms"] Reader.natural32

/-- Reads a macro. -/
def UserMacro.reader : Reader UserMacro := record.read "Macro"

/-- The fields of a combo. -/
def Combo.record : JsonRecord Combo :=
  Combo.mk
    <$> Record.required "name" [] Reader.string
    <*> JsonRecord.optional "description" [] Reader.string
    <*> JsonRecord.list "keyPositions" ["key_positions"] Reader.integer64
    <*> Record.required "binding" [] Binding.reader
    <*> JsonRecord.list "layers" [] LayerRef.reader
    <*> JsonRecord.optional "timeoutMs" ["timeout_ms"] Reader.natural32
    <*> JsonRecord.optional "requirePriorIdleMs" ["require_prior_idle_ms"] Reader.natural32
    <*> JsonRecord.optional "slowRelease" ["slow_release"] Reader.boolean

/-- Reads a combo. -/
def Combo.reader : Reader Combo := record.read "Combo"

/-- The fields of an input processor. -/
def InputProcessor.record : JsonRecord InputProcessor :=
  InputProcessor.mk
    <$> Record.required "code" [] Reader.string
    <*> JsonRecord.list "params" [] Reader.integer64

/-- Reads an input processor. -/
def InputProcessor.reader : Reader InputProcessor := record.read "InputProcessor"

/-- The fields of a node of a listener. -/
def ListenerNode.record : JsonRecord ListenerNode :=
  ListenerNode.mk
    <$> Record.required "code" [] Reader.string
    <*> JsonRecord.optional "description" [] Reader.string
    <*> JsonRecord.list "layers" [] LayerRef.reader
    <*> JsonRecord.list "inputProcessors" ["input_processors"] InputProcessor.reader

/-- Reads a node of a listener. -/
def ListenerNode.reader : Reader ListenerNode := record.read "InputListenerNode"

/-- The fields of a listener. -/
def InputListener.record : JsonRecord InputListener :=
  InputListener.mk
    <$> Record.required "code" [] Reader.string
    <*> JsonRecord.list "inputProcessors"
      ["input_processors", "globalProcessors", "global_processors"] InputProcessor.reader
    <*> JsonRecord.list "nodes" [] ListenerNode.reader

/-- Reads a listener. -/
def InputListener.reader : Reader InputListener := record.read "InputListener"

/-- The fields of a build parameter. -/
def ConfigParameter.record : JsonRecord ConfigParameter :=
  ConfigParameter.mk
    <$> Record.required "paramName" ["param_name"] Reader.string
    <*> Record.defaulted "value" [] .null Reader.any
    <*> JsonRecord.optional "description" [] Reader.string

/-- Reads a build parameter. -/
def ConfigParameter.reader : Reader ConfigParameter := record.read "ConfigParameter"

/-- Reads a list of build parameters from text. -/
def ConfigParameter.listOfString (s : String) :
    Except (ReadFailure Mismatch) (List ConfigParameter) :=
  readText (record.listOfTree? "ConfigParameter" maxDepth) s

/-! ### Sections -/

/-- The fields that can name an entry, the first one first. -/
def nameFields : List String := ["name", "code", "paramName"]

/-- The name of an entry: the first of the naming fields that holds a string. -/
def entryName? (v : Value) : Option String :=
  nameFields.findSome? fun field => (v.field? field).bind Value.string?

/-- Reads one entry at a position. -/
def readEntry {α : Type} (kind : EntryKind) (read : Reader α) (index : Nat) (v : Value) :
    Except RejectedEntry α :=
  (read v).mapError fun cause => ⟨kind, index, entryName? v, cause⟩

/-- The entries of a section that fit and those that do not, each in order. -/
def readEntries {α : Type} (kind : EntryKind) (read : Reader α) (vs : List Value) :
    List α × List RejectedEntry :=
  let outcomes := vs.mapIdx (readEntry kind read)
  (outcomes.filterMap fun
      | .ok x => some x
      | .error _ => none,
   outcomes.filterMap fun
      | .ok _ => none
      | .error e => some e)

namespace Document

/-- A document with its entries as values. -/
structure Raw where
  /-- The name of the keyboard. -/
  keyboard : Option String
  /-- The title of the keymap. -/
  title : Option String
  /-- The names of the layers. -/
  layerNames : List String
  /-- The bindings of the layers. -/
  layers : List (List Binding)
  /-- The hold-taps. -/
  holdTaps : List Value
  /-- The macros. -/
  userMacros : List Value
  /-- The combos. -/
  combos : List Value
  /-- The input listeners. -/
  inputListeners : List Value
  /-- The build parameters. -/
  configParameters : List Value
  /-- Devicetree source that is taken over as it is. -/
  customDevicetree : String
  /-- Definitions of behaviors that are taken over as they are. -/
  customBehaviors : String

/-- The fields of a document. -/
def Raw.record : JsonRecord Raw :=
  Raw.mk
    <$> JsonRecord.optional "keyboard" [] Reader.string
    <*> JsonRecord.optional "title" [] Reader.string
    <*> JsonRecord.list "layer_names" ["layerNames"] Reader.string
    <*> JsonRecord.list "layers" [] (Reader.list Binding.reader)
    <*> JsonRecord.list "hold_taps" ["holdTaps"] Reader.any
    <*> JsonRecord.list "macros" [] Reader.any
    <*> JsonRecord.list "combos" [] Reader.any
    <*> JsonRecord.list "input_listeners" ["inputListeners"] Reader.any
    <*> JsonRecord.list "config_parameters" ["configParameters"] Reader.any
    <*> Record.defaulted "custom_devicetree" ["customDevicetree"] "" Reader.string
    <*> Record.defaulted "custom_defined_behaviors" ["customDefinedBehaviors"] "" Reader.string

/-- Reads the entries of a document. -/
def ofRaw (raw : Raw) : Document :=
  let holdTaps := readEntries .holdTap HoldTap.reader raw.holdTaps
  let userMacros := readEntries .userMacro UserMacro.reader raw.userMacros
  let combos := readEntries .combo Combo.reader raw.combos
  let inputListeners := readEntries .inputListener InputListener.reader raw.inputListeners
  let configParameters :=
    readEntries .configParameter ConfigParameter.reader raw.configParameters
  { keyboard := raw.keyboard
    title := raw.title
    layerNames := raw.layerNames
    layers := raw.layers
    holdTaps := holdTaps.1
    userMacros := userMacros.1
    combos := combos.1
    inputListeners := inputListeners.1
    configParameters := configParameters.1
    customDevicetree := raw.customDevicetree
    customBehaviors := raw.customBehaviors
    rejected := holdTaps.2 ++ userMacros.2 ++ combos.2 ++ inputListeners.2 ++ configParameters.2 }

/-- Reads a document from text. -/
def ofString (s : String) : Except (ReadFailure Mismatch) Document :=
  (readText (Raw.record.ofTree? "RawKeymapDocument" maxDepth) s).map ofRaw

end Document

/-! ### What reading entries keeps -/

/-- Every entry of a section is either kept or rejected. -/
theorem length_readEntries {α : Type} (kind : EntryKind) (read : Reader α) (vs : List Value) :
    (readEntries kind read vs).1.length + (readEntries kind read vs).2.length = vs.length := by
  have split : ∀ outcomes : List (Except RejectedEntry α),
      (outcomes.filterMap fun | .ok x => some x | .error _ => none).length
        + (outcomes.filterMap fun | .ok _ => none | .error e => some e).length
        = outcomes.length := by
    intro outcomes
    induction outcomes with
    | nil => rfl
    | cons o rest ih =>
      cases o <;> simp only [List.filterMap_cons, List.length_cons] <;> omega
  simpa [readEntries] using split (vs.mapIdx (readEntry kind read))

end KeymapCompiler
