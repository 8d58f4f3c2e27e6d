/-
KeymapCompiler/Layer.lean

Layers and their symbols.  The keymap refers to a layer by a preprocessor symbol
`LAYER_<symbol>`, which a line at the top of the keymap defines as the layer's
index.  The symbol is made from the layer's name; a name whose symbol is taken by
an earlier layer gets its index as a suffix, with a warning.
-/
import KeymapCompiler.Report
import KeymapCompiler.Symbol

namespace KeymapCompiler

/-- A layer's name and symbol. -/
structure Layer where
  /-- The name in the document. -/
  name : String
  /-- The symbol in the keymap. -/
  symbol : String
deriving DecidableEq, Repr

/-- Layers in index order. -/
abbrev LayerTable := List Layer

namespace LayerTable

/-- The symbol that the layer at an index has on its own. -/
def baseSymbol (index : Nat) (name : String) : String :=
  let symbol := Symbol.ofName name
  if symbol = "" then s!"_{index}" else symbol

/-- Gives layers their symbols from an index on; `taken` holds the symbols of earlier layers. -/
def assign (taken : List String) (index : Nat) : List String → Reported LayerTable
  | [] => pure []
  | name :: rest => do
    let base := baseSymbol index name
    let symbol := Symbol.distinguish taken base index
    Reported.warnIf (taken.contains base) .skippedEntry s!"layer {name}"
      s!"symbol '{base}' already used, using '{symbol}'"
    let others ← assign (symbol :: taken) (index + 1) rest
    pure (⟨name, symbol⟩ :: others)

/-- The layers of a list of names. -/
def ofNames (names : List String) : Reported LayerTable :=
  assign [] 0 names

/-- The names of the layers. -/
def names (t : LayerTable) : List String := t.map (·.name)

/-- The symbols of the layers. -/
def symbols (t : LayerTable) : List String := t.map (·.symbol)

/-- The index of the first layer of a name. -/
def index? (t : LayerTable) (name : String) : Option Nat :=
  t.findIdx? (·.name == name)

/-- What every layer's symbol starts with in the keymap. -/
def defineLead : String := "LAYER_"

/-- The preprocessor symbol of the first layer of a name. -/
def define? (t : LayerTable) (name : String) : Option String :=
  (t.find? (·.name == name)).map fun l => defineLead ++ l.symbol

/-- The lines that define the layers' symbols. -/
def defines (t : LayerTable) : String :=
  String.join (t.mapIdx fun i l => s!"#define {defineLead}{l.symbol} {i}\n")

/-! ### Symbols follow names -/

/-- Every name gets one layer, in order. -/
@[simp] theorem names_assign (taken : List String) (index : Nat) (names : List String) :
    LayerTable.names (assign taken index names).value = names := by
  induction names generalizing taken index with
  | nil => rfl
  | cons name rest ih => simpa [assign, LayerTable.names] using ih _ _

/-- The layers of a list of names have these names. -/
theorem names_ofNames (names : List String) :
    LayerTable.names (ofNames names).value = names :=
  names_assign [] 0 names

end LayerTable

end KeymapCompiler
