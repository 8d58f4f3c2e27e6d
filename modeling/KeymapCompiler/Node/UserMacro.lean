/-
KeymapCompiler/Node/UserMacro.lean

The `macros` node: one node for each macro, with its steps in order.  A step that
cannot be written becomes an error token with a warning.
-/
import KeymapCompiler.Binding.Format
import KeymapCompiler.Declaration
import KeymapCompiler.Text.Uppercase

namespace KeymapCompiler.Node

open KeymapCompiler.Devicetree

/-- What the firmware calls macros with a number of parameters. -/
def macroCompatible : Nat → String
  | 0 => "zmk,behavior-macro"
  | 1 => "zmk,behavior-macro-one-param"
  | _ => "zmk,behavior-macro-two-param"

/-- The steps of a macro as a property. -/
def stepsProperty (steps : List String) : String :=
  if steps.isEmpty then line 3 "bindings = <>;"
  else
    line 3 "bindings"
      ++ String.join (steps.mapIdx fun i s =>
        line 4 ((if i = 0 then "= <" else ", <") ++ s ++ ">"))
      ++ line 4 ";"

/-- The node of a macro. -/
def userMacro (f : Formatter) (m : UserMacro) : Reported String := do
  let label := declaredLabel m.name
  let context := "macro " ++ label
  let steps ← Reported.each (fun b => f.reported s!"{context}, step {b.2}" b.1) m.bindings.zipIdx
  pure (comment 2 m.description
    ++ node 2 (label ++ ": " ++ label)
      (line 3 ("label = \"" ++ Text.uppercase label ++ "\";")
        ++ line 3 s!"compatible = \"{macroCompatible m.arity}\";"
        ++ line 3 s!"#binding-cells = <{m.arity}>;"
        ++ numberProperty 3 "wait-ms" m.waitMs
        ++ numberProperty 3 "tap-ms" m.tapMs
        ++ stepsProperty steps))

/-- The `macros` node; empty without macros. -/
def userMacros (f : Formatter) (ms : List UserMacro) : Reported String := do
  let nodes ← Reported.each (userMacro f) ms
  pure (if ms.isEmpty then "" else underRoot (node 1 "macros" (spaced nodes)))

end KeymapCompiler.Node
