/-
KeymapCompiler/Binding/Format.lean

Bindings as devicetree source.  A binding of a built-in behavior is written as
its family demands; `Custom` takes over its first parameter; any other reference
is a call of a user behavior, with one cell for each parameter that the registry
says it takes.  All else is unknown.

A binding that cannot be written does not stop anything: `Formatter.text` puts
an error token in its place, which names the binding and the cause in a comment.
-/
import KeymapCompiler.Behavior.Registry
import KeymapCompiler.Binding
import KeymapCompiler.Devicetree
import KeymapCompiler.Keycode
import KeymapCompiler.Layer
import KeymapCompiler.Word

namespace KeymapCompiler

open KeymapCompiler.Behavior

/-- How many modifier functions may be nested. -/
def maxModifierDepth : Nat := 16

/-- Why a binding cannot be written. -/
inductive FormatError where
  /-- A behavior that is not built in, no reference and not raw. -/
  | unknownBehavior (name : String)
  /-- A binding without behavior. -/
  | noBehavior
  /-- A wrong number of parameters. -/
  | paramCount (behavior : String) (expected given : Nat)
  /-- A Bluetooth binding with no or more than two parameters. -/
  | bluetoothCount (behavior : String) (given : Nat)
  /-- A Bluetooth command that is no name. -/
  | commandNotName (behavior given : String)
  /-- A name that is no Bluetooth command. -/
  | unknownCommand (behavior command : String)
  /-- A profile index that is no natural number. -/
  | indexNotNumber (command given : String)
  /-- A command that needs an index and has none. -/
  | indexMissing (command : String)
  /-- A command that takes no index and has one. -/
  | indexUnexpected (command : String)
  /-- A malformed parameter. -/
  | malformedParam (text : String)
  /-- A modifier function without its key. -/
  | modifierAlone (function : String)
  /-- A modifier function with more than one parameter. -/
  | modifierCount (function : String) (given : Nat)
  /-- A call of something other than a modifier function. -/
  | notModifier (name : String)
  /-- Too many modifier functions inside one another. -/
  | tooDeep
  /-- A layer below zero. -/
  | negativeLayer (index : Int)
  /-- A call in place of a layer. -/
  | nestedLayer (name : String)
  /-- A raw binding whose first parameter is no literal. -/
  | rawWithoutLiteral
deriving DecidableEq, Repr

/-- The wording of an error. -/
def FormatError.message : FormatError → String
  | .unknownBehavior name => s!"unknown behavior '{name}'"
  | .noBehavior => "binding has no behavior id"
  | .paramCount behavior expected given =>
    let plural := if expected = 1 then "" else "s"
    s!"{behavior} takes exactly {expected} parameter{plural}, got {given}"
  | .bluetoothCount behavior given =>
    s!"{behavior} takes a command and an optional index, got {given} parameters"
  | .commandNotName behavior given => s!"{behavior} command must be a name, got '{given}'"
  | .unknownCommand behavior command => s!"unknown {behavior} command '{command}'"
  | .indexNotNumber command given =>
    s!"{command} index must be a non-negative number, got '{given}'"
  | .indexMissing command => s!"{command} requires an index"
  | .indexUnexpected command => s!"{command} does not take an index"
  | .malformedParam text => s!"malformed parameter {text}"
  | .modifierAlone function => s!"modifier function {function} is missing its argument"
  | .modifierCount function given =>
    s!"modifier function {function} takes one argument, got {given}"
  | .notModifier name => s!"'{name}' is not a modifier function"
  | .tooDeep => s!"modifier functions nested deeper than {maxModifierDepth} levels"
  | .negativeLayer index => s!"layer index {index} is negative"
  | .nestedLayer name => s!"layer parameter cannot be the nested binding '{name}'"
  | .rawWithoutLiteral => "raw binding needs a literal first parameter"

/-- The kind of warning that an error is reported as. -/
def FormatError.kind : FormatError → WarningKind
  | .unknownBehavior _ => .unknownBehavior
  | _ => .invalidParameterShape

/-- The token that stands for a binding that cannot be written. -/
def errorToken (b : Binding) (e : FormatError) : String :=
  "&error " ++ Devicetree.blockComment (b.shown ++ ": " ++ e.message)

/-! ### Keys -/

mutual

/-- A parameter as a key, inside `depth` modifier functions. -/
def Param.key (depth : Nat) : Param → Except FormatError String
  | .int n => .ok (toString n)
  | .str name =>
    if Keycode.isModifier name then .error (.modifierAlone name) else .ok (Keycode.resolve name)
  | .call function args =>
    if maxModifierDepth ≤ depth then .error .tooDeep
    else
      match Keycode.modifier? function with
      | some modifier => Param.modified depth modifier args
      | none =>
        if args.isEmpty then .ok (Keycode.resolve function) else .error (.notModifier function)
  | .invalid text => .error (.malformedParam text)

/-- The parameters of a modifier function, which must be one key, with the modifier applied. -/
def Param.modified (depth : Nat) (modifier : String) : List Param → Except FormatError String
  | [p] => (p.key (depth + 1)).map fun text => modifier ++ "(" ++ text ++ ")"
  | [] => .error (.modifierAlone modifier)
  | args => .error (.modifierCount modifier args.length)

end

/-! ### Bindings -/

/-- What bindings are written against: the known behaviors and the layers. -/
structure Formatter where
  /-- The known behaviors. -/
  registry : Registry
  /-- The layers. -/
  layers : LayerTable

/-- Whether a text is a natural number below `2 ^ 32`, with or without a plus sign. -/
def isProfileIndex (s : String) : Bool :=
  let digits := match s.toList with
    | '+' :: rest => rest
    | cs => cs
  !digits.isEmpty && digits.all Char.isDigit && Text.ofDigits digits < Word.count 32

/-- The profile index of a Bluetooth command, as it is written. -/
def bluetoothIndex (command : String) : Param → Except FormatError String
  | .int n => if 0 ≤ n then .ok (toString n) else .error (.indexNotNumber command (toString n))
  | .str s => if isProfileIndex s then .ok s else .error (.indexNotNumber command s)
  | p => .error (.indexNotNumber command p.shown)

/-- A Bluetooth binding: a command, with an index if it takes one. -/
def bluetooth (behavior : String) : List Param → Except FormatError String
  | [p] => bluetoothCommand behavior p none
  | [p, index] => bluetoothCommand behavior p (some index)
  | ps => .error (.bluetoothCount behavior ps.length)
where
  /-- A command and the index given with it. -/
  bluetoothCommand (behavior : String) : Param → Option Param → Except FormatError String
    | .str command, index =>
      match takesIndex? command, index with
      | none, _ => .error (.unknownCommand behavior command)
      | some true, some p =>
        (bluetoothIndex command p).map fun i => behavior ++ " " ++ command ++ " " ++ i
      | some true, none => .error (.indexMissing command)
      | some false, some _ => .error (.indexUnexpected command)
      | some false, none => .ok (behavior ++ " " ++ command)
    | p, _ => .error (.commandNotName behavior p.shown)

namespace Formatter

/-- A parameter as a layer: an index, a layer's name as its preprocessor symbol, or any other
name as it is. -/
def layer (f : Formatter) : Param → Except FormatError String
  | .int n => if 0 ≤ n then .ok (toString n) else .error (.negativeLayer n)
  | .str name => .ok ((f.layers.define? name).getD name)
  | .call function _ => .error (.nestedLayer function)
  | .invalid text => .error (.malformedParam text)

/-- A binding of a built-in behavior, under its canonical name. -/
def builtin (f : Formatter) (behavior : String) :
    Family → List Param → Except FormatError String
  | .plain, [] => .ok behavior
  | .keyPress, [p] | .single, [p] => do
    let key ← p.key 0
    .ok (behavior ++ " " ++ key)
  | .layerTap, [p, q] => do
    let layer ← f.layer p
    let key ← q.key 0
    .ok (behavior ++ " " ++ layer ++ " " ++ key)
  | .modTap, [p, q] => do
    let modifier ← p.key 0
    let key ← q.key 0
    .ok (behavior ++ " " ++ modifier ++ " " ++ key)
  | .layer, [p] => do
    let layer ← f.layer p
    .ok (behavior ++ " " ++ layer)
  | .bluetooth, ps => bluetooth behavior ps
  | family, ps => .error (.paramCount behavior family.arity ps.length)

/-- Exactly as many cells as a behavior takes: the first ones, and `0` for those that are
missing. -/
def fitCells (arity : Option Nat) (texts : List String) : List String :=
  match arity with
  | some n => texts.take n ++ List.replicate (n - texts.length) "0"
  | none => texts

/-- A call of a user behavior. -/
def call (f : Formatter) (behavior : String) (params : List Param) :
    Except FormatError String := do
  let texts ← params.mapM (Param.key 0)
  .ok (Devicetree.cells (behavior :: fitCells (f.registry.arity? behavior) texts))

/-- A raw binding: its first parameter as it is. -/
def raw (params : List Param) : Except FormatError String :=
  match params.head?.bind Param.literal? with
  | some text => .ok text
  | none => .error .rawWithoutLiteral

/-- A binding as source, or why it cannot be written. -/
def format (f : Formatter) (b : Binding) : Except FormatError String :=
  let behavior := canonical b.behavior
  if behavior = "" then .error .noBehavior
  else
    match family? behavior with
    | some family => f.builtin behavior family b.params
    | none =>
      if behavior = rawName then raw b.params
      else if isReference behavior then f.call behavior b.params
      else .error (.unknownBehavior b.behavior)

/-- A binding as source, with an error token for one that cannot be written. -/
def text (f : Formatter) (b : Binding) : String :=
  match f.format b with
  | .ok t => t
  | .error e => errorToken b e

/-- A binding as source, with a warning for one that cannot be written. -/
def reported (f : Formatter) (context : String) (b : Binding) : Reported String :=
  match f.format b with
  | .ok t => pure t
  | .error e => do
    Reported.warn e.kind context (b.shown ++ ": " ++ e.message)
    pure (errorToken b e)

/-- A behavior that another behavior refers to: a bare reference is written as it is, and all
else like a binding. -/
def reference (f : Formatter) (b : Binding) : Except FormatError String :=
  if b.params.isEmpty && isReference b.behavior then .ok (canonical b.behavior) else f.format b

/-- Reporting does not change the text. -/
@[simp] theorem value_reported (f : Formatter) (context : String) (b : Binding) :
    (f.reported context b).value = f.text b := by
  unfold reported text
  split <;> rfl

end Formatter

end KeymapCompiler
