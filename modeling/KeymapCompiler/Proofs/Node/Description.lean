/-
KeymapCompiler/Proofs/Node/Description.lean

Descriptions in the nodes of entries.  A hold-tap, a macro, a combo and a node of an input
listener have the description of their entry as comments before a line of devicetree
source, and nowhere else (`Framed`).  So what the preprocessor makes of a description in a
node is what it makes of the comments: no text of it is source, and the line that follows
is lost exactly when the description ends in a backslash.
-/
import KeymapCompiler.Node.InputListener
import KeymapCompiler.Node.UserMacro
import KeymapCompiler.Proofs.Devicetree.Description
import KeymapCompiler.Proofs.Node.Combo

namespace KeymapCompiler.Node

open KeymapCompiler.Devicetree KeymapCompiler.Preprocessor KeymapCompiler.Text

/-! ### The place of a description -/

/-- A text ends with a line end, unless it is empty. -/
def EndsLine (s : String) : Prop :=
  ∀ c ∈ s.toList.getLast?, c = '\n'

theorem EndsLine.append {a b : String} (ha : EndsLine a) (hb : EndsLine b) :
    EndsLine (a ++ b) := by
  intro c hc
  rw [String.toList_append, List.getLast?_append] at hc
  rcases hlast : b.toList.getLast? with - | d
  · rw [hlast, Option.none_or] at hc
    exact ha c hc
  · rw [hlast, Option.some_or] at hc
    exact hb c (hlast ▸ hc)

theorem endsLine_append_newline (s : String) : EndsLine (s ++ "\n") := by
  have newline : "\n".toList = ['\n'] := by decide
  intro c hc
  rw [String.toList_append, newline, List.getLast?_concat] at hc
  exact (Option.some.inj hc).symm

theorem endsLine_join {texts : List String} (h : ∀ s ∈ texts, EndsLine s) :
    EndsLine (String.join texts) := by
  induction texts with
  | nil => exact fun c hc => nomatch hc
  | cons s rest ih =>
    rw [String.join_cons]
    exact (h s List.mem_cons_self).append (ih fun s hs => h s (List.mem_cons_of_mem _ hs))

/-- A text has a description as comments at the start of a line, before another line, and in no
other place. -/
def Framed (depth : Nat) (text : Option String → String) : Prop :=
  ∃ front next back, EndsLine front ∧
    ∀ description, text description
      = front ++ comment depth description ++ line depth next ++ back

theorem Framed.wrap {depth : Nat} {text : Option String → String} (h : Framed depth text)
    {a : String} (ha : EndsLine a) (b : String) :
    Framed depth fun description => a ++ text description ++ b := by
  obtain ⟨front, next, back, hfront, htext⟩ := h
  refine ⟨a ++ front, next, back ++ b, ha.append hfront, fun description => ?_⟩
  show a ++ text description ++ b = _
  rw [htext]
  simp only [String.append_assoc]

/-- The comments of a node stand before its first line. -/
theorem framed_before_node (depth : Nat) (head body : String) :
    Framed depth fun description => comment depth description ++ node depth head body := by
  refine ⟨"", head ++ " \x7b", body ++ line depth "\x7d;", ?_, fun _ => ?_⟩
  · exact fun c hc => nomatch hc
  · rw [String.empty_append, node]
    simp only [String.append_assoc]

theorem spaced_append_cons (before : List String) (s : String) (after : List String) :
    spaced (before ++ s :: after)
      = String.join (before.map (· ++ "\n")) ++ s ++ String.join (after.map ("\n" ++ ·)) := by
  -- An empty list in front has no separator, so the texts behind go by an induction of their own.
  induction before with
  | nil =>
    rw [List.nil_append, List.map_nil, String.join_nil, String.empty_append]
    induction after generalizing s with
    | nil => exact String.intercalate_singleton.trans String.append_empty.symm
    | cons t rest ih =>
      rw [spaced, String.intercalate_cons_cons, List.map_cons, String.join_cons, ← spaced, ih]
      simp only [String.append_assoc]
  | cons t rest ih =>
    have some : rest ++ s :: after ≠ [] := List.append_ne_nil_of_right_ne_nil rest (by simp)
    rw [List.cons_append, spaced, String.intercalate_cons_of_ne_nil some, ← spaced, ih,
      List.map_cons, String.join_cons]
    simp only [String.append_assoc]

/-- One of several texts that are written with blank lines between them. -/
theorem Framed.spaced {depth : Nat} {text : Option String → String} (h : Framed depth text)
    (before after : List String) :
    Framed depth fun description =>
      Devicetree.spaced (before ++ text description :: after) := by
  have closed : EndsLine (String.join (before.map (· ++ "\n"))) := by
    refine endsLine_join fun s hs => ?_
    obtain ⟨t, -, rfl⟩ := List.mem_map.mp hs
    exact endsLine_append_newline t
  simp only [spaced_append_cons]
  exact h.wrap closed _

/-- A text inside a node under the root. -/
theorem Framed.inSection {depth : Nat} {text : Option String → String} (h : Framed depth text)
    (head : String) : Framed depth fun description => sectionSource head (text description) := by
  have opening : EndsLine ("/ \x7b\n" ++ "    " ++ head ++ " \x7b\n") := by
    have last : " \x7b\n" = " \x7b" ++ "\n" := by decide +kernel
    rw [last, ← String.append_assoc]
    exact endsLine_append_newline _
  have whole := h.wrap opening ("    \x7d;\n" ++ "\x7d;\n")
  simp only [← String.append_assoc] at whole
  exact whole

/-! ### Entries with descriptions -/

/-- The texts that are generated of entries, as functions of the description of one entry, with the
depth of that description. -/
inductive HoldsDescription : Nat → (Option String → String) → Prop
  /-- One of the hold-taps. -/
  | holdTap (f : Formatter) (keyCount : Nat) (before : List HoldTap) (h : HoldTap)
      (after : List HoldTap) :
    HoldsDescription 3 fun description =>
      (holdTaps f keyCount (before ++ { h with description } :: after)).value
  /-- One of the macros. -/
  | userMacro (f : Formatter) (before : List UserMacro) (m : UserMacro) (after : List UserMacro) :
    HoldsDescription 2 fun description =>
      (userMacros f (before ++ { m with description } :: after)).value
  /-- One of the combos that has a node. -/
  | combo (f : Formatter) (layout : Layout) (before : List Combo) (c : Combo) (after : List Combo)
      (h : comboFault? layout.keyCount c = none) :
    HoldsDescription 2 fun description =>
      (combos f layout (before ++ { c with description } :: after)).value
  /-- One of the nodes of one of the input listeners. -/
  | listenerNode (layers : LayerTable) (before : List InputListener) (l : InputListener)
      (nodesBefore : List ListenerNode) (n : ListenerNode) (nodesAfter : List ListenerNode)
      (after : List InputListener) :
    HoldsDescription 1 fun description =>
      inputListeners layers (before
        ++ { l with nodes := nodesBefore ++ { n with description } :: nodesAfter } :: after)

theorem endsLine_line (depth : Nat) (text : String) : EndsLine (line depth text) :=
  endsLine_append_newline _

theorem framed_holdTap (f : Formatter) (keyCount : Nat) (h : HoldTap) :
    Framed 3 fun description => (holdTap f keyCount { h with description }).value := by
  have opening := endsLine_line 2 (declaredLabel h.name ++ ": " ++ declaredLabel h.name ++ " \x7b")
  refine ⟨_, "compatible = \"zmk,behavior-hold-tap\";", ?back, opening, fun description => ?value⟩
  case value =>
    unfold holdTap
    simp only [Reported.value_bind, Reported.value_pure, node, String.append_assoc]
    rfl

theorem framed_userMacro (f : Formatter) (m : UserMacro) :
    Framed 2 fun description => (userMacro f { m with description }).value := by
  have arity : ∀ description, ({ m with description } : UserMacro).arity = m.arity :=
    fun _ => rfl
  unfold userMacro
  simp only [Reported.value_bind, Reported.value_pure, arity]
  exact framed_before_node 2 _ _

theorem framed_combo (f : Formatter) (layout : Layout) (symbol : String) (c : Combo) :
    Framed 2 fun description => (combo f layout symbol { c with description }).value := by
  simp only [value_combo]
  exact framed_before_node 2 _ _

/-! ### Entries among others -/

variable {α : Type}

/-- One entry of several that have nodes with blank lines between them. -/
theorem framed_spaced_map {depth : Nat} (node : α → String) {entry : Option String → α}
    (h : Framed depth fun description => node (entry description)) (before after : List α) :
    Framed depth fun description =>
      spaced ((before ++ entry description :: after).map node) := by
  simp only [List.map_append, List.map_cons]
  exact h.spaced (before.map node) (after.map node)

/-- One entry of several whose nodes make up a node under the root. -/
theorem framed_entries {depth : Nat} (head : String) (node : α → Reported String)
    {entry : Option String → α} (h : Framed depth fun description => (node (entry description)).value)
    (before after : List α) :
    Framed depth fun description =>
      let entries := before ++ entry description :: after
      (Reported.each node entries >>= fun nodes => pure (if entries.isEmpty then ""
        else underRoot (Devicetree.node 1 head (spaced nodes)))).value := by
  have some : ∀ description, ¬ (before ++ entry description :: after).isEmpty = true :=
    fun _ => by simp
  simp only [Reported.value_bind, Reported.value_pure, Reported.value_each, if_neg (some _),
    underRoot_node_one]
  exact (framed_spaced_map (fun e => (node e).value) h before after).inSection head

theorem framed_holdTaps (f : Formatter) (keyCount : Nat) (before : List HoldTap) (h : HoldTap)
    (after : List HoldTap) :
    Framed 3 fun description =>
      (holdTaps f keyCount (before ++ { h with description } :: after)).value :=
  framed_entries "behaviors" (holdTap f keyCount) (framed_holdTap f keyCount h) before after

theorem framed_userMacros (f : Formatter) (before : List UserMacro) (m : UserMacro)
    (after : List UserMacro) :
    Framed 2 fun description =>
      (userMacros f (before ++ { m with description } :: after)).value :=
  framed_entries "macros" (userMacro f) (framed_userMacro f m) before after

/-- The node of one combo among the nodes of several, which do not depend on its description. -/
theorem exists_comboNodes (f : Formatter) (layout : Layout) {c : Combo}
    (h : comboFault? layout.keyCount c = none) (taken : List String) (position : Nat)
    (before after : List Combo) :
    ∃ nodesBefore symbol nodesAfter, ∀ description,
      (comboNodes f layout taken position (before ++ { c with description } :: after)).value
        = nodesBefore ++ (combo f layout symbol { c with description }).value :: nodesAfter := by
  induction before generalizing taken position with
  | nil =>
    -- The symbol depends on the name of the combo, but not on its description.
    let symbol := Symbol.distinguish taken (comboBase position c) position
    refine ⟨[], symbol, (comboNodes f layout (symbol :: taken) (position + 1) after).value, ?_⟩
    intro description
    have nofault : comboFault? layout.keyCount { c with description } = none := h
    exact (comboNodes_cons_of_none f layout taken position nofault after).1
  | cons b rest ih =>
    rcases hb : comboFault? layout.keyCount b with - | cause
    · let own := Symbol.distinguish taken (comboBase position b) position
      obtain ⟨nodesBefore, symbol, nodesAfter, ih⟩ := ih (own :: taken) (position + 1)
      refine ⟨(combo f layout own b).value :: nodesBefore, symbol, nodesAfter, ?_⟩
      intro description
      rw [List.cons_append, (comboNodes_cons_of_none f layout taken position hb _).1, ih,
        List.cons_append]
    · obtain ⟨nodesBefore, symbol, nodesAfter, ih⟩ := ih taken (position + 1)
      refine ⟨nodesBefore, symbol, nodesAfter, fun description => ?_⟩
      rw [List.cons_append, (comboNodes_cons_of_fault f layout taken position hb _).1, ih]

theorem framed_combos (f : Formatter) (layout : Layout) (before : List Combo) {c : Combo}
    (h : comboFault? layout.keyCount c = none) (after : List Combo) :
    Framed 2 fun description =>
      (combos f layout (before ++ { c with description } :: after)).value := by
  obtain ⟨nodesBefore, symbol, nodesAfter, hnodes⟩ :=
    exists_comboNodes f layout h [] 0 before after
  have opening : EndsLine (line 2 "compatible = \"zmk,combos\";"
      ++ String.join (nodesBefore.map ("\n" ++ ·)) ++ "\n") := endsLine_append_newline _
  have whole := ((framed_combo f layout symbol c).wrap opening
    (String.join (nodesAfter.map ("\n" ++ ·)))).inSection "combos"
  -- No other combo reads the description, so what is around the node does not change with it.
  have value : ∀ description,
      (combos f layout (before ++ { c with description } :: after)).value
        = sectionSource "combos" (line 2 "compatible = \"zmk,combos\";"
          ++ String.join (nodesBefore.map ("\n" ++ ·)) ++ "\n"
          ++ (combo f layout symbol { c with description }).value
          ++ String.join (nodesAfter.map ("\n" ++ ·))) := by
    intro description
    unfold combos
    rw [Reported.value_bind, Reported.value_pure, hnodes, if_neg (by simp), underRoot_node_one,
      List.map_append, List.map_cons, String.join_append, String.join_cons]
    simp only [String.append_assoc]
  simp only [value]
  exact whole

theorem framed_inputListener (layers : LayerTable) (l : InputListener) (before : List ListenerNode)
    (n : ListenerNode) (after : List ListenerNode) :
    Framed 1 fun description =>
      inputListener layers { l with nodes := before ++ { n with description } :: after } := by
  have opening : EndsLine (line 0 (Behavior.reference (trimmed l.code) ++ " \x7b")
      ++ processorsProperty 1 l.processors ++ String.join (before.map (listenerNode layers))
      ++ "\n") := endsLine_append_newline _
  have whole := (framed_before_node 1 (trimmed n.code)
    (layersProperty 2 layers n.layers ++ processorsProperty 2 n.processors)).wrap opening
      (String.join (after.map (listenerNode layers)) ++ line 0 "\x7d;")
  unfold inputListener
  simp only [List.map_append, List.map_cons, String.join_append, String.join_cons, listenerNode,
    node, String.append_assoc] at whole ⊢
  exact whole

theorem framed_inputListeners (layers : LayerTable) (before : List InputListener)
    (l : InputListener) (nodesBefore : List ListenerNode) (n : ListenerNode)
    (nodesAfter : List ListenerNode) (after : List InputListener) :
    Framed 1 fun description =>
      inputListeners layers (before
        ++ { l with nodes := nodesBefore ++ { n with description } :: nodesAfter } :: after) :=
  framed_spaced_map (inputListener layers)
    (framed_inputListener layers l nodesBefore n nodesAfter) before after

/-- Wherever an entry with a description stands, its description is in its place. -/
theorem HoldsDescription.framed {depth : Nat} {text : Option String → String}
    (h : HoldsDescription depth text) : Framed depth text := by
  cases h with
  | holdTap f keyCount before h after => exact framed_holdTaps f keyCount before h after
  | userMacro f before m after => exact framed_userMacros f before m after
  | combo f layout before c after h => exact framed_combos f layout before h after
  | listenerNode layers before l nodesBefore n nodesAfter after =>
    exact framed_inputListeners layers before l nodesBefore n nodesAfter after

/-! ### Descriptions that stay in their comments -/

/-- What the comments of a description are, as lines and for the preprocessor. -/
structure IsCommentOf (depth : Nat) (description : Option String) (text : String) : Prop where
  /-- The lines are comments, one for each line of the description. -/
  lines : lines text.toList = (descriptionLines description).map (commentLine depth)
  /-- Each line has a line end, and nothing else is there. -/
  closed : text.toList = (Text.lines text.toList).flatMap (· ++ ['\n'])
  /-- Lines that end in backslashes are those of the description that do. -/
  backslashes : (∀ line ∈ Text.lines text.toList, ¬ EndsInBackslash line)
    ↔ ∀ line ∈ descriptionLines description, ¬ EndsInBackslash (trimEnd line)
  /-- Nothing of it is source.  The reader is in a comment behind it if the description ends in a
  backslash, and in source otherwise. -/
  vanishes : Vanishes .source text.toList (.behind (described description))
  /-- What follows it is read as source exactly if the description does not end in a backslash. -/
  followed : Vanishes .source text.toList .source ↔ ¬ EndsInBackslash (described description)

theorem isCommentOf_comment (depth : Nat) (description : Option String) :
    IsCommentOf depth description (comment depth description) where
  lines := lines_comment depth description
  closed := by rw [lines_comment, toList_comment, List.flatMap_map]
  backslashes := by
    rw [lines_comment, List.forall_mem_map]
    simp only [endsInBackslash_commentLine_iff]
  vanishes := vanishes_comment depth description
  followed := vanishes_comment_source_iff depth description

/-- **Descriptions.**  Every description is written as one comment for each of its lines, and none
of it is source.  In the nodes of hold-taps, macros, combos and input listeners the comments stand
at the start of a line and before another.  Where source is read before them, what follows is read
in the comment if the description ends in a backslash, and as source otherwise. -/
theorem description_commented (depth : Nat) (description : Option String) :
    IsCommentOf depth description (comment depth description) ∧
      (∀ text, HoldsDescription depth text → Framed depth text) ∧
      ∀ front : String, AtSource front.toList →
        ∃ blanks, (∀ c ∈ blanks, isBlank c = true) ∧ ∀ back : String,
          preprocessed (front ++ comment depth description ++ back).toList
            = preprocessed front.toList ++ blanks
              ++ uncommented (.behind (described description)) (spliced back.toList) := by
  refine ⟨isCommentOf_comment depth description, fun _ h => h.framed, fun front hsource => ?_⟩
  obtain ⟨blanks, hblanks, reads⟩ := vanishes_comment depth description
  refine ⟨blanks, hblanks, fun back => ?_⟩
  rw [String.toList_append, String.toList_append]
  exact (hsource.append reads) back.toList

/-- A macro without steps. -/
def plainMacro (description : Option String) : UserMacro where
  name := "m"
  description := description
  paramArity := none
  params := []
  bindings := []
  waitMs := none
  tapMs := none

/-- What the first macro stands behind. -/
def macrosOpening : String :=
  "/ \x7b\n" ++ "    macros \x7b\n"

/-- A description that ends in a slash leaves the node behind it to be read. -/
theorem description_commented_macro :
    HoldsDescription 2 (fun description =>
        (userMacros ⟨.withBuiltins, []⟩ [plainMacro description]).value) ∧
      Framed 2 (fun description =>
        (userMacros ⟨.withBuiltins, []⟩ [plainMacro description]).value) ∧
      AtSource macrosOpening.toList ∧
      ∃ blanks, (∀ c ∈ blanks, isBlank c = true) ∧ ∀ back : String,
        preprocessed (macrosOpening ++ comment 2 (some "C:/") ++ back).toList
          = preprocessed macrosOpening.toList ++ blanks ++ preprocessed back.toList := by
  have holds : HoldsDescription 2 fun description =>
      (userMacros ⟨.withBuiltins, []⟩ [plainMacro description]).value :=
    .userMacro ⟨.withBuiltins, []⟩ [] (plainMacro none) []
  have opening : AtSource macrosOpening.toList := fun _ => rfl
  have in_source : Mode.behind (described (some "C:/")) = .source := by decide +kernel
  obtain ⟨-, framed, stays⟩ := description_commented 2 (some "C:/")
  obtain ⟨blanks, hblanks, left⟩ := stays macrosOpening opening
  rw [in_source] at left
  exact ⟨holds, framed _ holds, opening, blanks, hblanks, left⟩

/-- A description that ends in a backslash takes the line that opens the node with it. -/
theorem description_takes_line :
    (userMacros ⟨.withBuiltins, []⟩ [plainMacro (some "C:\\")]).value
        = macrosOpening ++ "        // C:\\\n" ++ "        m: m \x7b\n"
          ++ "            label = \"M\";\n"
          ++ "            compatible = \"zmk,behavior-macro\";\n"
          ++ "            #binding-cells = <0>;\n"
          ++ "            bindings = <>;\n"
          ++ "        \x7d;\n" ++ "    \x7d;\n" ++ "\x7d;\n" ∧
      EndsInBackslash "        // C:\\".toList ∧
      preprocessed ("        // C:\\\n" ++ "        m: m \x7b\n").toList
        = "         \n".toList := by
  decide +kernel

end KeymapCompiler.Node
