/-
KeymapCompiler/Binding.lean

Key bindings: what one key does.  A binding names a behavior, such as `&kp`, and
gives it parameters in order.  A parameter is an integer, a name, a call such as
`LC(LS(A))` with parameters of its own, or malformed input that is kept for the
diagnostic.

Bindings are read from any JSON value.  Input that is no binding is read as a
binding without behavior, so a faulty key is reported at its place and the rest
of the document is not lost.
-/
import KeymapCompiler.Json.Printer
import KeymapCompiler.Json.Record

namespace KeymapCompiler

open KeymapCompiler.Json

/-- A parameter of a binding. -/
inductive Param where
  /-- An integer. -/
  | int (n : Int)
  /-- A name. -/
  | str (s : String)
  /-- A call of a function with parameters. -/
  | call (function : String) (args : List Param)
  /-- Input that is none of these, as compact JSON text. -/
  | invalid (text : String)
deriving Repr, Inhabited

/-- A behavior and its parameters. -/
structure Binding where
  /-- The behavior, such as `&kp` or `Custom`. -/
  behavior : String
  /-- The parameters in order. -/
  params : List Param
deriving Repr, Inhabited

namespace Param

/-- The text of a literal parameter; nothing for calls and malformed input. -/
def literal? : Param → Option String
  | .int n => some (toString n)
  | .str s => some s
  | .call _ _ | .invalid _ => none

mutual

/-- A parameter as a diagnostic shows it. -/
def shown : Param → String
  | .int n => toString n
  | .str s => s
  | .invalid text => text
  | .call function args => function ++ "(" ++ shownArgs args ++ ")"

/-- Parameters with commas between them. -/
def shownArgs : List Param → String
  | [] => ""
  | [p] => p.shown
  | p :: rest => p.shown ++ ", " ++ shownArgs rest

end

end Param

namespace Binding

/-- A behavior without parameters. -/
def bare (behavior : String) : Binding := ⟨behavior, []⟩

/-- The binding of a key that does nothing, for the keys that a layer leaves out. -/
def none : Binding := bare "&none"

/-- A binding as a diagnostic shows it. -/
def shown (b : Binding) : String :=
  b.behavior ++ " [" ++ Param.shownArgs b.params ++ "]"

end Binding

/-! ### Reading -/

/-- A literal: a string, or an integer of 64 bits. -/
def Param.ofLiteral? : Value → Option Param
  | .string s => some (.str s)
  | .number n => n.int64?.map .int
  | _ => none

/-- The `params` field of an object. -/
inductive ParamsField where
  /-- There is no such field. -/
  | absent
  /-- An array of parameters. -/
  | list (params : List Param)
  /-- Some other value. -/
  | other

mutual

/-- Reads a parameter: a literal, an object with a literal `value` and no or empty `params`, or an
object with a string `value` and some `params`, which is a call. All else is malformed. -/
def Param.ofJson : Value → Param
  | .object fields =>
    let malformed := Param.invalid (Value.object fields).compact
    match Fields.get? fields "value", ParamsField.ofFields fields with
    -- An empty list of parameters makes a literal, not a call.
    | some v, .absent | some v, .list [] => (Param.ofLiteral? v).getD malformed
    | some (.string function), .list args => .call function args
    | _, _ => malformed
  | .string s => .str s
  | .number n => (n.int64?.map Param.int).getD (.invalid (Value.number n).compact)
  | .null => .invalid Value.null.compact
  | .bool b => .invalid (Value.bool b).compact
  | .array items => .invalid (Value.array items).compact

/-- Reads parameters one by one. -/
def Param.listOfJson : List Value → List Param
  | [] => []
  | v :: rest => Param.ofJson v :: Param.listOfJson rest

/-- Reads the `params` field among the fields of an object. -/
def ParamsField.ofFields : List (String × Value) → ParamsField
  | [] => .absent
  | (name, v) :: rest => if name = "params" then ParamsField.ofJson v else ParamsField.ofFields rest

/-- Reads the value of a `params` field. -/
def ParamsField.ofJson : Value → ParamsField
  | .array items => .list (Param.listOfJson items)
  | _ => .other

end

namespace Binding

/-- The names under which an object gives its behavior; the first that is present counts. -/
def behaviorNames : List String := ["value", "behaviorId", "behavior_id"]

/-- A binding without behavior that keeps malformed input. -/
def malformed (v : Value) : Binding := ⟨"", [.invalid v.compact]⟩

/-- Reads a binding: a string is a bare behavior, an object gives its behavior and parameters. All
else is malformed. -/
def ofJson : Value → Binding
  | .string behavior => bare behavior
  | .object fields =>
    match behaviorNames.findSome? (Fields.get? fields), ParamsField.ofFields fields with
    | some (.string behavior), .absent => bare behavior
    | some (.string behavior), .list params => ⟨behavior, params⟩
    | _, _ => malformed (.object fields)
  | v => malformed v

/-- Every value is read as a binding. -/
def reader : Reader Binding := fun v => .ok (ofJson v)

end Binding

end KeymapCompiler
