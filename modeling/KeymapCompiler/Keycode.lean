/-
KeymapCompiler/Keycode.lean

Names of keys.  A keymap may write the character on a key instead of the key's
name: `1` for `N1`, `;` for `SEMI`.  Names outside this table are keys already
and stay as they are.

A modifier function such as `LC` applies a modifier to a key and has a canonical
two-letter name; the names of the modifier keys themselves (`LCTL`) are accepted
as aliases.  The canonical names are no keys on their own, the aliases are.
-/

namespace KeymapCompiler.Keycode

/-- The characters that stand for keys, with the names of the keys. -/
def shorthands : List (String × String) :=
  [("0", "N0"), ("1", "N1"), ("2", "N2"), ("3", "N3"), ("4", "N4"), ("5", "N5"), ("6", "N6"),
   ("7", "N7"), ("8", "N8"), ("9", "N9"), (" ", "SPACE"), (";", "SEMI"), (":", "COLON"),
   ("'", "SQT"), ("\"", "DQT"), (",", "COMMA"), (".", "DOT"), ("/", "FSLH"), ("\\", "BSLH"),
   ("-", "MINUS"), ("_", "UNDER"), ("=", "EQUAL"), ("+", "PLUS"), ("[", "LBKT"), ("]", "RBKT"),
   ("\x7b", "LBRC"), ("\x7d", "RBRC"), ("(", "LPAR"), (")", "RPAR"), ("<", "LT"), (">", "GT"),
   ("\x60", "GRAVE"), ("~", "TILDE"), ("!", "EXCL"), ("@", "AT"), ("\x23", "HASH"), ("$", "DLLR"),
   ("%", "PRCNT"), ("^", "CARET"), ("&", "AMPS"), ("*", "STAR"), ("?", "QMARK"), ("|", "PIPE")]

/-- The modifier functions in alphabetical order, each with the keys that are aliases of it. -/
def modifiers : List (String × List String) :=
  [("LA", ["LALT"]), ("LC", ["LCTL", "LCTRL"]), ("LG", ["LGUI"]), ("LS", ["LSHFT", "LSHIFT"]),
   ("RA", ["RALT"]), ("RC", ["RCTL", "RCTRL"]), ("RG", ["RGUI"]), ("RS", ["RSHFT", "RSHIFT"])]

/-- The key that a name or character stands for. -/
def resolve (name : String) : String :=
  (shorthands.lookup name).getD name

/-- The canonical names of the modifier functions. -/
def modifierNames : List String :=
  modifiers.map (·.1)

/-- The canonical name of the modifier function that a name or alias stands for. -/
def modifier? (name : String) : Option String :=
  (modifiers.find? fun m => m.1 == name || m.2.contains name).map (·.1)

/-- Whether a name is the canonical name of a modifier function. -/
def isModifier (name : String) : Bool :=
  modifierNames.contains name

end KeymapCompiler.Keycode
