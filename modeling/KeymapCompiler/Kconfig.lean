/-
KeymapCompiler/Kconfig.lean

The build's configuration, made from the build parameters of a document.

A parameter names a symbol itself, or the map says which symbol it sets.  The
first parameter that can set a symbol does; the others are skipped, each with a
warning.  Every line that sets a symbol is followed by a comment that names the
parameter.
-/
import KeymapCompiler.Kconfig.Setting

namespace KeymapCompiler.Kconfig

open KeymapCompiler.Text

/-- Characters of the symbols that a parameter can name itself. -/
def isSymbolChar (c : Char) : Bool :=
  c.isAlphanum || c == '_'

/-- What the symbols of settings start with. -/
def symbolLead : List Char := "CONFIG_".toList

/-- Whether a parameter's name is a symbol. -/
def isSymbol (name : String) : Bool :=
  let rest := name.toList.drop symbolLead.length
  symbolLead.isPrefixOf name.toList && !rest.isEmpty && rest.all isSymbolChar

/-- What a parameter of a name sets. -/
def resolve? (map : Map) (name : String) : Option Entry :=
  if isSymbol name then some ⟨name, none, none, none⟩
  else (map.get? name).map fun e => { e with symbol := trimmed e.symbol }

/-- The warning for a symbol of a type that is not recognized. -/
def typeWarning (context : String) : SymbolType → Report
  | .unknown (some name) =>
    [⟨.invalidParameterShape, context,
      s!"unknown Kconfig type '{name}', passing the value through"⟩]
  | _ => []

/-- The setting that a parameter makes and the type of its symbol, given the symbols that are
set. -/
def setting (map : Map) (taken : List String) (p : ConfigParameter) :
    Except SkipCause (Setting × SymbolType) := do
  let name := trimmed p.name
  let some e := resolve? map name | .error .noMapping
  if taken.contains e.symbol then .error (.alreadySet e.symbol)
  else
    let text ← valueText (effective p.value e.fallback)
    let value ← e.type.render text
    .ok (⟨e.symbol, value, name, p.description.or e.description⟩, e.type)

/-- Settings and the parameters that made none. -/
structure Output where
  /-- The settings in order, each symbol once. -/
  settings : List Setting
  /-- The names of the skipped parameters in order. -/
  skipped : List String

/-- The text of the configuration. -/
def Output.text (o : Output) : String :=
  String.join (o.settings.map Setting.text)

/-- The settings of parameters in order, given the symbols that are set. -/
def settle (map : Map) (taken : List String) : List ConfigParameter → Reported Output
  | [] => pure ⟨[], []⟩
  | p :: rest =>
    let name := trimmed p.name
    let context := "config parameter " ++ name
    match setting map taken p with
    | .ok (s, type) => do
      -- From here on the symbol is taken.
      Reported.report (typeWarning context type)
      let o ← settle map (s.symbol :: taken) rest
      pure { o with settings := s :: o.settings }
    | .error cause => do
      Reported.warn cause.kind context cause.message
      let o ← settle map taken rest
      pure { o with skipped := name :: o.skipped }

/-- The configuration of a document's parameters. -/
def configure (map : Map) (ps : List ConfigParameter) : Reported Output :=
  settle map [] ps

/-- Every parameter makes a setting or is skipped. -/
theorem length_settle (map : Map) (taken : List String) (ps : List ConfigParameter) :
    (settle map taken ps).value.settings.length + (settle map taken ps).value.skipped.length
      = ps.length := by
  induction ps generalizing taken with
  | nil => rfl
  | cons p rest ih =>
    rw [settle]
    split
    · next s type _ =>
      have := ih (s.symbol :: taken)
      simp only [Reported.value_bind, Reported.value_pure, List.length_cons]
      omega
    · have := ih taken
      simp only [Reported.value_bind, Reported.value_pure, List.length_cons]
      omega

end KeymapCompiler.Kconfig
