/-
KeymapCompiler/Node/InputListener.lean

The nodes that override the input listeners of pointing devices.  Everything is
taken over as the document gives it, except that a layer's name becomes its
preprocessor symbol.
-/
import KeymapCompiler.Behavior
import KeymapCompiler.Devicetree
import KeymapCompiler.Document
import KeymapCompiler.Layer

namespace KeymapCompiler.Node

open KeymapCompiler.Devicetree

/-- A processor with its parameters. -/
def inputProcessor (p : InputProcessor) : String :=
  "<" ++ cells (Behavior.reference (Text.trimmed p.code) :: p.params.map toString) ++ ">"

/-- Processors as a property, if there are any. -/
def processorsProperty (depth : Nat) (ps : List InputProcessor) : String :=
  if ps.isEmpty then ""
  else line depth ("input-processors = " ++ ", ".intercalate (ps.map inputProcessor) ++ ";")

/-- A layer as it is written in a list of layers. -/
def layerCell (layers : LayerTable) : LayerRef → String
  | .index n => toString n
  | .name s => (layers.define? s).getD s

/-- Layers as a property, if there are any. -/
def layersProperty (depth : Nat) (layers : LayerTable) (refs : List LayerRef) : String :=
  if refs.isEmpty then ""
  else line depth ("layers = <" ++ cells (refs.map (layerCell layers)) ++ ">;")

/-- A node inside a listener's. -/
def listenerNode (layers : LayerTable) (n : ListenerNode) : String :=
  "\n" ++ comment 1 n.description
    ++ node 1 (Text.trimmed n.code)
      (layersProperty 2 layers n.layers ++ processorsProperty 2 n.processors)

/-- The node of a listener. -/
def inputListener (layers : LayerTable) (l : InputListener) : String :=
  node 0 (Behavior.reference (Text.trimmed l.code))
    (processorsProperty 1 l.processors ++ String.join (l.nodes.map (listenerNode layers)))

/-- The nodes of listeners. -/
def inputListeners (layers : LayerTable) (ls : List InputListener) : String :=
  spaced (ls.map (inputListener layers))

end KeymapCompiler.Node
