/-
KeymapCompiler/Node/Combo.lean

The `combos` node.  A combo without key positions, or with a position that has no
key, is left out with a warning.  The others get one node each, named after the
combo; a name that is taken gets the combo's position as a suffix.

A combo can be limited to layers.  If one of them does not resolve, the limit is
left out with a warning, and the combo works on all layers.
-/
import KeymapCompiler.Binding.Format
import KeymapCompiler.Document
import KeymapCompiler.Layout
import KeymapCompiler.Position

namespace KeymapCompiler.Node

open KeymapCompiler.Devicetree

/-! ### Layer filters -/

/-- The layers that a combo works on. -/
inductive LayerFilter where
  /-- All layers. -/
  | all
  /-- Layers by their index. -/
  | only (indices : List Nat)
  /-- A reference that does not resolve. -/
  | dropped (reference : LayerRef)
deriving DecidableEq

/-- The index of the layer that a reference stands for. -/
def layerIndex? (layers : LayerTable) : LayerRef → Option Nat
  | .index n => if 0 ≤ n && n < layers.length then some n.toNat else none
  | .name s => layers.index? s

/-- The filter of references: each layer once, in order of first occurrence. -/
def LayerFilter.ofRefs (layers : LayerTable) (refs : List LayerRef) : LayerFilter :=
  if refs.isEmpty || refs.any LayerRef.isAll then .all
  else
    match refs.find? fun r => (layerIndex? layers r).isNone with
    | some r => .dropped r
    | none => .only (refs.filterMap (layerIndex? layers)).eraseDups

/-- The filter as a property. -/
def LayerFilter.property (depth : Nat) : LayerFilter → String
  | .only indices => line depth s!"layers = <{cells (indices.map toString)}>;"
  | .all | .dropped _ => ""

/-! ### Combos -/

/-- Why a combo has no node, if it has none. -/
def comboFault? (keyCount : Nat) (c : Combo) : Option String :=
  let outside := Position.outside keyCount c.keyPositions
  if c.keyPositions.isEmpty then some "combo has no key positions"
  else if outside.isEmpty then none
  else some s!"key positions {Position.shown outside} are outside 0..{keyCount}"

/-- The symbol that the combo at a position has on its own. -/
def comboBase (position : Nat) (c : Combo) : String :=
  let symbol := Symbol.ofName (Text.trimmed c.name)
  if symbol = "" then toString position else symbol

/-- What the names of combos' nodes start with. -/
def comboLead : String := "combo_"

/-- The node of a combo with a symbol. -/
def combo (f : Formatter) (layout : Layout) (symbol : String) (c : Combo) : Reported String := do
  let context := "combo " ++ c.name
  let keys := Position.inside layout.keyCount c.keyPositions
  let filter := LayerFilter.ofRefs f.layers c.layers
  let binding ← f.reported context c.binding
  match filter with
  | .dropped r =>
    Reported.warn .unresolvedReference context
      ("layer '" ++ r.shown ++ "' does not exist, combo is active on all layers")
  | _ => pure ()
  pure (comment 2 c.description
    ++ node 2 (comboLead ++ symbol)
      (numberProperty 3 "timeout-ms" c.timeoutMs
        ++ line 3 ("key-positions = <" ++ cells (keys.map layout.positionName) ++ ">;")
        ++ line 3 ("bindings = <" ++ binding ++ ">;")
        ++ filter.property 3
        ++ numberProperty 3 "require-prior-idle-ms" c.requirePriorIdleMs
        ++ flagProperty 3 "slow-release" c.slowRelease))

/-- The nodes of combos from a position on; `taken` holds the symbols of earlier combos. -/
def comboNodes (f : Formatter) (layout : Layout) (taken : List String) (position : Nat) :
    List Combo → Reported (List String)
  | [] => pure []
  | c :: rest => do
    let context := "combo " ++ c.name
    match comboFault? layout.keyCount c with
    | some cause =>
      Reported.warn .skippedEntry context cause
      comboNodes f layout taken (position + 1) rest
    | none =>
      -- Combos that are left out count for the position but take no symbol.
      let base := comboBase position c
      let symbol := Symbol.distinguish taken base position
      Reported.warnIf (taken.contains base) .skippedEntry context
        s!"node name '{comboLead}{base}' already used, using '{comboLead}{symbol}'"
      let own ← combo f layout symbol c
      let others ← comboNodes f layout (symbol :: taken) (position + 1) rest
      pure (own :: others)

/-- The `combos` node; empty if no combo has a node. -/
def combos (f : Formatter) (layout : Layout) (cs : List Combo) : Reported String := do
  let nodes ← comboNodes f layout [] 0 cs
  pure (if nodes.isEmpty then ""
    else underRoot (node 1 "combos"
      (line 2 "compatible = \"zmk,combos\";" ++ String.join (nodes.map ("\n" ++ ·)))))

end KeymapCompiler.Node
