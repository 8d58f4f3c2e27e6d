/-
KeymapCompiler/Document.lean

Keymap documents: the layers with their bindings, and the hold-taps, macros,
combos, input listeners and build parameters that a user adds to them.

Entries of the last five sorts are read one by one.  An entry that does not fit
is kept as a `RejectedEntry` with the cause, and the others are not affected.
-/
import KeymapCompiler.Binding
import KeymapCompiler.Word

namespace KeymapCompiler

/-! ### Hold-taps -/

/-- How a hold-tap decides between hold and tap. -/
inductive Flavor where
  /-- A tap unless held for the tapping term. -/
  | tapPreferred
  /-- A hold as soon as another key is pressed. -/
  | holdPreferred
  /-- A hold when another key is pressed and released. -/
  | balanced
  /-- A tap unless another key is pressed meanwhile. -/
  | tapUnlessInterrupted
  /-- A name that stands for none of these. -/
  | unrecognized
deriving DecidableEq, Repr

namespace Flavor

/-- The names of the flavors. -/
def named : List (String × Flavor) :=
  [("tap-preferred", .tapPreferred), ("hold-preferred", .holdPreferred),
   ("balanced", .balanced), ("tap-unless-interrupted", .tapUnlessInterrupted)]

/-- The name of a flavor, if it is recognized. -/
def name? (f : Flavor) : Option String :=
  (named.find? (·.2 == f)).map (·.1)

/-- The flavor of a name. -/
def ofName (name : String) : Flavor :=
  (named.lookup name).getD .unrecognized

end Flavor

/-- A behavior that does one thing when held and another when tapped. -/
structure HoldTap where
  /-- The name, with or without the sigil. -/
  name : String
  /-- What is said about it in a comment. -/
  description : Option String
  /-- The behavior when held, then the one when tapped. -/
  bindings : List Binding
  /-- How it decides. -/
  flavor : Option Flavor
  /-- How long it is held to be a hold. -/
  tappingTermMs : Option Nat
  /-- How soon after a tap it is a tap again. -/
  quickTapMs : Option Nat
  /-- How long no key was pressed before it can be a hold. -/
  requirePriorIdleMs : Option Nat
  /-- Whether the trigger positions count on release. -/
  holdTriggerOnRelease : Option Bool
  /-- The key positions that can make it a hold. -/
  holdTriggerKeyPositions : Option (List Int)
  /-- Whether a hold without another key is a tap. -/
  retroTap : Option Bool

/-! ### Macros -/

/-- A behavior that plays bindings in order. -/
structure UserMacro where
  /-- The name, with or without the sigil. -/
  name : String
  /-- What is said about it in a comment. -/
  description : Option String
  /-- The number of parameters, if it is given. -/
  paramArity : Option Nat
  /-- The parameters, of which only the number counts. -/
  params : List Json.Value
  /-- What is played. -/
  bindings : List Binding
  /-- How long to wait between steps. -/
  waitMs : Option Nat
  /-- How long a tap lasts. -/
  tapMs : Option Nat

/-- The number of parameters of a macro: the one given, else as many as there are listed. -/
def UserMacro.arity (m : UserMacro) : Nat :=
  m.paramArity.getD (min m.params.length (Word.count 32 - 1))

/-! ### Combos -/

/-- A reference to a layer. -/
inductive LayerRef where
  /-- A layer by its index; a negative one stands for all layers. -/
  | index (n : Int)
  /-- A layer by its name. -/
  | name (s : String)
deriving DecidableEq, Repr

namespace LayerRef

/-- Whether a reference stands for all layers. -/
def isAll : LayerRef → Bool
  | .index n => decide (n < 0)
  | .name s => s.toList.map Char.toLower == ['a', 'l', 'l']

/-- A reference as a diagnostic shows it. -/
def shown : LayerRef → String
  | .index n => toString n
  | .name s => s

end LayerRef

/-- A binding for several keys pressed together. -/
structure Combo where
  /-- The name. -/
  name : String
  /-- What is said about it in a comment. -/
  description : Option String
  /-- The positions of the keys. -/
  keyPositions : List Int
  /-- What the keys do together. -/
  binding : Binding
  /-- The layers on which it works; none means all. -/
  layers : List LayerRef
  /-- How close together the keys are pressed. -/
  timeoutMs : Option Nat
  /-- How long no key was pressed before. -/
  requirePriorIdleMs : Option Nat
  /-- Whether it lasts until the last key is released. -/
  slowRelease : Option Bool

/-! ### Input listeners -/

/-- A step that changes the events of a pointing device. -/
structure InputProcessor where
  /-- The reference, with or without the sigil. -/
  code : String
  /-- Its parameters. -/
  params : List Int
deriving DecidableEq, Repr

/-- The steps of a listener on some layers. -/
structure ListenerNode where
  /-- The name of the node. -/
  code : String
  /-- What is said about it in a comment. -/
  description : Option String
  /-- The layers it applies to. -/
  layers : List LayerRef
  /-- The steps. -/
  processors : List InputProcessor

/-- The settings of a listener for a pointing device. -/
structure InputListener where
  /-- The reference to the listener, with or without the sigil. -/
  code : String
  /-- The steps on all layers. -/
  processors : List InputProcessor
  /-- The steps on some layers. -/
  nodes : List ListenerNode

/-! ### Build parameters -/

/-- A build parameter. -/
structure ConfigParameter where
  /-- The name of a parameter, or of a setting. -/
  name : String
  /-- Its value. -/
  value : Json.Value
  /-- What is said about it in a comment. -/
  description : Option String

/-! ### Documents -/

/-- The sorts of entries that are read one by one. -/
inductive EntryKind where
  /-- Hold-taps. -/
  | holdTap
  /-- Macros. -/
  | userMacro
  /-- Combos. -/
  | combo
  /-- Input listeners. -/
  | inputListener
  /-- Build parameters. -/
  | configParameter
deriving DecidableEq, Repr

/-- What a diagnostic calls an entry of a sort. -/
def EntryKind.label : EntryKind → String
  | .holdTap => "hold-tap"
  | .userMacro => "macro"
  | .combo => "combo"
  | .inputListener => "input listener"
  | .configParameter => "config parameter"

/-- An entry that does not fit. -/
structure RejectedEntry where
  /-- The sort of entry. -/
  kind : EntryKind
  /-- Its position among the entries of that sort. -/
  index : Nat
  /-- Its name, if it has one. -/
  name : Option String
  /-- Why it does not fit. -/
  cause : Json.Mismatch

namespace RejectedEntry

/-- A rejected entry as a diagnostic shows it: its sort and its name, or else its position. -/
def shown (e : RejectedEntry) : String :=
  match e.name with
  | some name => e.kind.label ++ " " ++ name
  | none => s!"{e.kind.label} \x23{e.index}"

/-- Why an entry was rejected, in words. -/
def message (e : RejectedEntry) : String :=
  e.cause.message .value

end RejectedEntry

/-- A keymap document. -/
structure Document where
  /-- The name of the keyboard. -/
  keyboard : Option String
  /-- The title of the keymap. -/
  title : Option String
  /-- The names of the layers. -/
  layerNames : List String
  /-- The bindings of the layers. -/
  layers : List (List Binding)
  /-- The hold-taps. -/
  holdTaps : List HoldTap
  /-- The macros. -/
  userMacros : List UserMacro
  /-- The combos. -/
  combos : List Combo
  /-- The input listeners. -/
  inputListeners : List InputListener
  /-- The build parameters. -/
  configParameters : List ConfigParameter
  /-- Devicetree source that is taken over as it is. -/
  customDevicetree : String
  /-- Definitions of behaviors that are taken over as they are. -/
  customBehaviors : String
  /-- The entries that do not fit. -/
  rejected : List RejectedEntry

end KeymapCompiler
