/-
KeymapCompiler/Node/HoldTap.lean

The `behaviors` node: one node for each hold-tap.  A flavor that is not known is
left out, and so are trigger positions without a key; a child that cannot be
written becomes an error token.  Each of these gives a warning.
-/
import KeymapCompiler.Binding.Format
import KeymapCompiler.Declaration
import KeymapCompiler.Position

namespace KeymapCompiler.Node

open KeymapCompiler.Devicetree

/-- A child of a hold-tap. -/
def holdTapChild (f : Formatter) (context : String) (b : Binding) : Reported String :=
  match f.reference b with
  | .ok text => pure text
  | .error e => do
    Reported.warn .unresolvedReference context
      ("child binding " ++ b.shown ++ ": " ++ e.message)
    pure (errorToken b e)

/-- The flavor of a hold-tap as a property, if it is recognized. -/
def flavorProperty (depth : Nat) (flavor : Option Flavor) : String :=
  match flavor.bind Flavor.name? with
  | some name => line depth s!"flavor = \"{name}\";"
  | none => ""

/-- The trigger positions as a property, if there are any. -/
def triggerProperty (depth : Nat) (keys : List Nat) : String :=
  if keys.isEmpty then ""
  else line depth s!"hold-trigger-key-positions = <{cells (keys.map toString)}>;"

/-- The node of a hold-tap. -/
def holdTap (f : Formatter) (keyCount : Nat) (h : HoldTap) : Reported String := do
  let label := declaredLabel h.name
  let context := "hold-tap " ++ label
  let positions := h.holdTriggerKeyPositions.getD []
  let outside := Position.outside keyCount positions
  Reported.warnIf (h.flavor == some .unrecognized) .skippedEntry context
    "unknown flavor, leaving the firmware default"
  let children ← Reported.each (holdTapChild f context) h.bindings
  Reported.warnIf (!outside.isEmpty) .unresolvedReference context
    s!"hold-trigger key positions {Position.shown outside} are outside 0..{keyCount}"
  pure (node 2 (label ++ ": " ++ label)
    (comment 3 h.description
      ++ line 3 "compatible = \"zmk,behavior-hold-tap\";"
      ++ line 3 "#binding-cells = <2>;"
      ++ numberProperty 3 "tapping-term-ms" h.tappingTermMs
      ++ numberProperty 3 "quick-tap-ms" h.quickTapMs
      ++ numberProperty 3 "require-prior-idle-ms" h.requirePriorIdleMs
      ++ flavorProperty 3 h.flavor
      ++ line 3 ("bindings = " ++ ", ".intercalate (children.map fun c => "<" ++ c ++ ">") ++ ";")
      ++ triggerProperty 3 (Position.inside keyCount positions)
      ++ flagProperty 3 "hold-trigger-on-release" h.holdTriggerOnRelease
      ++ flagProperty 3 "retro-tap" h.retroTap))

/-- The `behaviors` node; empty without hold-taps. -/
def holdTaps (f : Formatter) (keyCount : Nat) (hs : List HoldTap) : Reported String := do
  let nodes ← Reported.each (holdTap f keyCount) hs
  pure (if hs.isEmpty then "" else underRoot (node 1 "behaviors" (spaced nodes)))

end KeymapCompiler.Node
