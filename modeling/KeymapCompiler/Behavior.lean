/-
KeymapCompiler/Behavior.lean

The behaviors that the firmware ships with.  Each belongs to a family, which
fixes how many parameters it takes and of what sort.  References to behaviors
start with `&`; one of them, `&reset`, is another name of `&sys_reset`.
-/

namespace KeymapCompiler.Behavior

/-- The character that every reference to a behavior starts with. -/
def sigil : Char := '&'

/-- The behavior of a binding whose text is taken over as it is. -/
def rawName : String := "Custom"

/-- The families of built-in behaviors. -/
inductive Family where
  /-- No parameters. -/
  | plain
  /-- A key, with modifiers or without. -/
  | keyPress
  /-- A layer to hold and a key to tap. -/
  | layerTap
  /-- A modifier to hold and a key to tap. -/
  | modTap
  /-- A layer. -/
  | layer
  /-- One parameter written like a key. -/
  | single
  /-- A Bluetooth command, some with a profile index. -/
  | bluetooth
deriving DecidableEq, Repr

/-- The number of parameters that a family's bindings take at most. -/
def Family.arity : Family → Nat
  | .plain => 0
  | .keyPress | .layer | .single => 1
  | .layerTap | .modTap | .bluetooth => 2

/-- The built-in behaviors with their families. -/
def builtins : List (String × Family) :=
  [("&trans", .plain), ("&none", .plain), ("&sys_reset", .plain), ("&bootloader", .plain),
   ("&caps_word", .plain), ("&key_repeat", .plain), ("&studio_unlock", .plain),
   ("&gresc", .plain), ("&macro_tap", .plain), ("&macro_press", .plain),
   ("&macro_release", .plain), ("&macro_pause_for_release", .plain),
   ("&macro_param_1to1", .plain), ("&macro_param_1to2", .plain),
   ("&macro_param_2to1", .plain), ("&macro_param_2to2", .plain),
   ("&kp", .keyPress), ("&lt", .layerTap), ("&mt", .modTap),
   ("&mo", .layer), ("&to", .layer), ("&tog", .layer), ("&sl", .layer),
   ("&sk", .single), ("&kt", .single), ("&rgb_ug", .single), ("&out", .single),
   ("&mkp", .single), ("&mmv", .single), ("&msc", .single), ("&ext_power", .single),
   ("&bl", .single), ("&macro_wait_time", .single), ("&macro_tap_time", .single),
   ("&bt", .bluetooth)]

/-- Other names of built-in behaviors. -/
def aliases : List (String × String) :=
  [("&reset", "&sys_reset")]

/-- The Bluetooth commands, with whether they take a profile index. -/
def bluetoothCommands : List (String × Bool) :=
  [("BT_CLR", false), ("BT_CLR_ALL", false), ("BT_NXT", false), ("BT_PRV", false),
   ("BT_SEL", true), ("BT_DISC", true)]

/-- The name that a behavior is known under. -/
def canonical (name : String) : String :=
  (aliases.lookup name).getD name

/-- The family of a built-in behavior, under any of its names. -/
def family? (name : String) : Option Family :=
  builtins.lookup (canonical name)

/-- Whether a Bluetooth command takes an index; nothing for an unknown command. -/
def takesIndex? (command : String) : Option Bool :=
  bluetoothCommands.lookup command

/-- Whether a name starts with the sigil. -/
def isReference (name : String) : Bool :=
  name.toList.head? == some sigil

/-- The reference to a behavior that is named with or without the sigil. -/
def reference (name : String) : String :=
  if isReference name then name else String.ofList (sigil :: name.toList)

/-- The label of a behavior's node: its name without the sigil. -/
def label (name : String) : String :=
  match name.toList with
  | '&' :: rest => String.ofList rest
  | _ => name

/-- A reference starts with the sigil. -/
theorem isReference_reference (name : String) : isReference (reference name) = true := by
  unfold reference
  split
  · assumption
  · simp [isReference]

/-- There is one alias. -/
theorem canonical_eq_self_iff {name : String} : canonical name = name ↔ name ≠ "&reset" := by
  constructor
  · rintro h rfl
    exact absurd h (by decide +kernel)
  · intro h
    have other : (name == "&reset") = false := by simpa using h
    simp [canonical, aliases, other]

/-- The canonical name of a canonical name is itself. -/
theorem canonical_canonical (name : String) : canonical (canonical name) = canonical name := by
  by_cases h : name = "&reset"
  · subst h; decide +kernel
  · rw [canonical_eq_self_iff.mpr h, canonical_eq_self_iff.mpr h]

/-- The alias stands for a built-in behavior, so every other name is canonical. -/
theorem canonical_of_family?_eq_none {name : String} (h : family? name = none) :
    canonical name = name := by
  refine canonical_eq_self_iff.mpr ?_
  rintro rfl
  exact absurd h (by decide +kernel)

end KeymapCompiler.Behavior
