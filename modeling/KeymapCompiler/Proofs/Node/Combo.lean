/-
KeymapCompiler/Proofs/Node/Combo.lean

The `combos` node and what it says of each combo.

A combo has a node when it has key positions and each of them has a key (`HasKeys`).
`IsComboNode` describes that node by its properties, as `IsHoldTapNode` does for
hold-taps.  A faulty binding or limit costs no node: the binding becomes an error
token, and the combo works on all layers.

The combos with nodes take their symbols one after the other; a combo without a node
counts for the positions of the others but takes no symbol (`ownSymbols`).  Two
statements go by induction on the combos.  That the nodes are written
(`value_comboNodes`) is about any symbols taken before, and what is reported
(`reports_comboNodes`) is about the symbols that the combos before have taken.
-/
import KeymapCompiler.Proofs.Node.Limit
import KeymapCompiler.Proofs.Symbol
import Mathlib.Data.List.Nodup

namespace KeymapCompiler.Node

open KeymapCompiler.Devicetree

/-! ### The node of a combo -/

/-- A combo has key positions, and each of them has a key. -/
def HasKeys (keyCount : Nat) (c : Combo) : Prop :=
  c.keyPositions ≠ [] ∧ ∀ p ∈ c.keyPositions, 0 ≤ p ∧ p < keyCount

instance (keyCount : Nat) : DecidablePred (HasKeys keyCount) := fun c =>
  inferInstanceAs (Decidable (c.keyPositions ≠ [] ∧ ∀ p ∈ c.keyPositions, 0 ≤ p ∧ p < keyCount))

/-- The properties of combos in the order in which they are written. -/
def comboOrder : List String :=
  ["timeout-ms", "key-positions", "bindings", "layers", "require-prior-idle-ms", "slow-release"]

/-- What the node of a combo consists of, apart from its name. -/
structure IsComboNode (f : Formatter) (layout : Layout) (c : Combo) (n : NodeContent) : Prop where
  /-- The comments are the description. -/
  description : n.description = c.description
  /-- The properties are in order, and none is given twice. -/
  order : (n.properties.map (·.1)).Sublist comboOrder
  /-- The timeout is given if it is set. -/
  timeout : n.properties.lookup "timeout-ms" = c.timeoutMs.map fun ms => .cells [toString ms]
  /-- The key positions are given in order, by their names. -/
  keyPositions : n.properties.lookup "key-positions"
    = some (.cells (c.keyPositions.map fun p => layout.positionName p.toNat))
  /-- The binding is given, be it faulty or not. -/
  binding : n.properties.lookup "bindings" = some (.cells [f.text c.binding])
  /-- The layers are given if the combo is limited to them. -/
  limited : Limited f.layers c.layers → ∃ indices,
    n.properties.lookup "layers" = some (.cells (indices.map toString)) ∧
      ListsLayers f.layers c.layers indices
  /-- No layers are given otherwise. -/
  unlimited : ¬ Limited f.layers c.layers → n.properties.lookup "layers" = none
  /-- The idle time before it is given if it is set. -/
  requirePriorIdle : n.properties.lookup "require-prior-idle-ms"
    = c.requirePriorIdleMs.map fun ms => .cells [toString ms]
  /-- The flag is given if it is set to true. -/
  slowRelease : n.properties.lookup "slow-release"
    = if c.slowRelease = some true then some .flag else none

/-- The properties of a combo. -/
def comboTable (f : Formatter) (layout : Layout) (c : Combo) : List (String × Option Property) :=
  [("timeout-ms", c.timeoutMs.map fun ms => .cells [toString ms]),
   ("key-positions", some (.cells (c.keyPositions.map fun p => layout.positionName p.toNat))),
   ("bindings", some (.cells [f.text c.binding])),
   ("layers", limitProperty f.layers c.layers),
   ("require-prior-idle-ms", c.requirePriorIdleMs.map fun ms => .cells [toString ms]),
   ("slow-release", if c.slowRelease = some true then some .flag else none)]

/-- The node of a combo with a symbol. -/
def comboContent (f : Formatter) (layout : Layout) (symbol : String) (c : Combo) : NodeContent where
  head := comboLead ++ symbol
  description := c.description
  properties := present (comboTable f layout c)

theorem isComboNode_content (f : Formatter) (layout : Layout) (symbol : String) (c : Combo) :
    IsComboNode f layout c (comboContent f layout symbol c) := by
  have names : (comboTable f layout c).map (·.1) = comboOrder := rfl
  -- The names of the table are distinct, so a property is found under its own entry.
  have lookup : ∀ name, (comboContent f layout symbol c).properties.lookup name
      = ((comboTable f layout c).lookup name).join := by
    refine fun name => lookup_present ?_ name
    rw [names]
    decide
  have layers : (comboContent f layout symbol c).properties.lookup "layers"
      = limitProperty f.layers c.layers := by
    rw [lookup]
    simp [comboTable, List.lookup_cons]
  refine
    { description := rfl
      order := names ▸ sublist_present _
      timeout := ?_
      keyPositions := ?_
      binding := ?_
      limited := fun h => layers ▸ limitProperty_of_limited h
      unlimited := fun h => layers ▸ limitProperty_of_not_limited h
      requirePriorIdle := ?_
      slowRelease := ?_ }
  all_goals
    rw [lookup]
    simp [comboTable, List.lookup_cons]

/-! ### Source -/

/-- The source of a combo's node; the description stands before it. -/
def comboSource (n : NodeContent) : String :=
  comment 2 n.description
    ++ ("        " ++ n.head ++ " \x7b\n" ++ n.lines ++ "        \x7d;\n")

/-- The source of the `combos` node; there is none without nodes in it. -/
def combosSource (nodes : List NodeContent) : String :=
  if nodes.isEmpty then ""
  else sectionSource "combos" ("        compatible = \"zmk,combos\";\n"
    ++ String.join (nodes.map fun n => "\n" ++ comboSource n))

theorem combosSource_eq_empty_iff (nodes : List NodeContent) :
    combosSource nodes = "" ↔ nodes = [] := by
  rcases nodes with - | ⟨n, rest⟩
  · exact iff_of_true rfl rfl
  · exact iff_of_false (sectionSource_ne_empty _ _) (List.cons_ne_nil _ _)

/-- Positions that all have keys are kept. -/
theorem inside_eq_map_toNat {keyCount : Nat} {positions : List Int}
    (h : ∀ p ∈ positions, 0 ≤ p ∧ p < keyCount) :
    Position.inside keyCount positions = positions.map Int.toNat := by
  rw [Position.inside, List.filter_eq_self.mpr]
  intro p hp
  rw [Position.isInside_eq_decide, decide_eq_true_iff]
  exact h p hp

/-- Reporting leaves the node as it is. -/
theorem value_combo (f : Formatter) (layout : Layout) (symbol : String) (c : Combo) :
    (combo f layout symbol c).value = comment 2 c.description
      ++ node 2 (comboLead ++ symbol)
        (numberProperty 3 "timeout-ms" c.timeoutMs
          ++ line 3 ("key-positions = <" ++ cells
            ((Position.inside layout.keyCount c.keyPositions).map layout.positionName) ++ ">;")
          ++ line 3 ("bindings = <" ++ f.text c.binding ++ ">;")
          ++ (LayerFilter.ofRefs f.layers c.layers).property 3
          ++ numberProperty 3 "require-prior-idle-ms" c.requirePriorIdleMs
          ++ flagProperty 3 "slow-release" c.slowRelease) := by
  unfold combo
  dsimp only
  rw [Reported.value_bind, Formatter.value_reported]
  rcases LayerFilter.ofRefs f.layers c.layers with - | indices | r
  · rfl
  · rfl
  · rfl

theorem value_combo_eq_source (f : Formatter) (layout : Layout) (symbol : String) {c : Combo}
    (h : HasKeys layout.keyCount c) :
    (combo f layout symbol c).value = comboSource (comboContent f layout symbol c) := by
  have positions := line_cells "key-positions"
    (c.keyPositions.map fun p => layout.positionName p.toNat)
  have binding : line 3 ("bindings = <" ++ f.text c.binding ++ ">;")
      = entryLine ("bindings", some (.cells [f.text c.binding])) :=
    line_cells "bindings" [f.text c.binding]
  unfold comboSource comboContent NodeContent.lines
  rw [join_present, ← node_two, value_combo, inside_eq_map_toNat h.2, List.map_map, binding,
    property_ofRefs_eq_entryLine, numberProperty_eq_entryLine, numberProperty_eq_entryLine,
    flagProperty_eq_entryLine]
  simp only [comboTable, List.map_cons, List.map_nil, String.join_cons, String.join_nil,
    String.append_empty, String.append_assoc, ← positions]
  rfl

/-! ### Symbols -/

/-- The symbols that combos with nodes have on their own, with the positions of the combos; the
first combo is at a position. -/
def ownSymbols (keyCount position : Nat) (cs : List Combo) : List (String × Nat) :=
  ((cs.zipIdx position).filter fun p => HasKeys keyCount p.1).map fun p => (comboBase p.2 p.1, p.2)

theorem ownSymbols_cons_of_hasKeys {keyCount : Nat} {c : Combo} (h : HasKeys keyCount c)
    (position : Nat) (rest : List Combo) :
    ownSymbols keyCount position (c :: rest)
      = (comboBase position c, position) :: ownSymbols keyCount (position + 1) rest := by
  rw [ownSymbols, List.zipIdx_cons, List.filter_cons_of_pos (by simpa using h), List.map_cons]
  rfl

theorem ownSymbols_cons_of_not_hasKeys {keyCount : Nat} {c : Combo} (h : ¬ HasKeys keyCount c)
    (position : Nat) (rest : List Combo) :
    ownSymbols keyCount position (c :: rest) = ownSymbols keyCount (position + 1) rest := by
  rw [ownSymbols, List.zipIdx_cons, List.filter_cons_of_neg (by simpa using h)]
  rfl

theorem ownSymbols_append (keyCount position : Nat) (front back : List Combo) :
    ownSymbols keyCount position (front ++ back)
      = ownSymbols keyCount position front
        ++ ownSymbols keyCount (position + front.length) back := by
  rw [ownSymbols, List.zipIdx_append, List.filter_append, List.map_append]
  rfl

theorem length_ownSymbols (keyCount position : Nat) (cs : List Combo) :
    (ownSymbols keyCount position cs).length
      = (cs.filter fun c => HasKeys keyCount c).length := by
  induction cs generalizing position with
  | nil => rfl
  | cons c rest ih =>
    by_cases h : HasKeys keyCount c
    · rw [ownSymbols_cons_of_hasKeys h, List.filter_cons_of_pos (by simpa using h),
        List.length_cons, List.length_cons, ih]
    · rw [ownSymbols_cons_of_not_hasKeys h, List.filter_cons_of_neg (by simpa using h), ih]

/-- The positions of combos are distinct. -/
theorem nodup_positions (keyCount position : Nat) (cs : List Combo) :
    ((ownSymbols keyCount position cs).map (·.2)).Nodup := by
  have all : ((cs.zipIdx position).map (·.2)).Nodup := by
    rw [List.zipIdx_map_snd]
    exact List.nodup_range'
  rw [ownSymbols, List.map_map]
  exact all.sublist (List.filter_sublist.map _)

/-- The symbols of the combos with nodes. -/
def comboSymbols (keyCount : Nat) (cs : List Combo) : List String :=
  Symbol.distinguishAll [] (ownSymbols keyCount 0 cs)

theorem length_comboSymbols (keyCount : Nat) (cs : List Combo) :
    (comboSymbols keyCount cs).length = (cs.filter fun c => HasKeys keyCount c).length := by
  rw [comboSymbols, Symbol.length_distinguishAll, length_ownSymbols]

/-- A further combo with a node finds the symbols of the combos before it taken. -/
theorem comboSymbols_concat_of_hasKeys {keyCount : Nat} {c : Combo} (h : HasKeys keyCount c)
    (before : List Combo) :
    comboSymbols keyCount (before ++ [c]) = comboSymbols keyCount before
      ++ [Symbol.distinguish (comboSymbols keyCount before).reverse
        (comboBase before.length c) before.length] := by
  rw [comboSymbols, ownSymbols_append, Nat.zero_add, ownSymbols_cons_of_hasKeys h]
  exact (Symbol.distinguishAll_concat [] _ _ _).trans (by rw [List.append_nil, comboSymbols])

theorem comboSymbols_concat_of_not_hasKeys {keyCount : Nat} {c : Combo}
    (h : ¬ HasKeys keyCount c) (before : List Combo) :
    comboSymbols keyCount (before ++ [c]) = comboSymbols keyCount before := by
  rw [comboSymbols, ownSymbols_append, ownSymbols_cons_of_not_hasKeys h]
  exact congrArg _ (List.append_nil _)

/-! ### Nodes of combos -/

/-- The nodes of combos. -/
def comboContents (f : Formatter) (layout : Layout) (cs : List Combo) : List NodeContent :=
  List.zipWith (comboContent f layout) (comboSymbols layout.keyCount cs)
    (cs.filter fun c => HasKeys layout.keyCount c)

theorem exists_comboFault? {keyCount : Nat} {c : Combo} (h : ¬ HasKeys keyCount c) :
    ∃ cause, comboFault? keyCount c = some cause :=
  Option.ne_none_iff_exists'.mp ((comboFault?_eq_none_iff keyCount c).not.mpr h)

theorem value_comboNodes (f : Formatter) (layout : Layout) (taken : List String) (position : Nat)
    (cs : List Combo) :
    (comboNodes f layout taken position cs).value
      = (List.zipWith (comboContent f layout)
          (Symbol.distinguishAll taken (ownSymbols layout.keyCount position cs))
          (cs.filter fun c => HasKeys layout.keyCount c)).map comboSource := by
  -- A combo that is left out takes no symbol, but the positions go on counting.
  induction cs generalizing taken position with
  | nil => rfl
  | cons c rest ih =>
    by_cases h : HasKeys layout.keyCount c
    · have nofault := (comboFault?_eq_none_iff layout.keyCount c).mpr h
      rw [(comboNodes_cons_of_none f layout taken position nofault rest).1, ih,
        value_combo_eq_source f layout _ h, ownSymbols_cons_of_hasKeys h,
        List.filter_cons_of_pos (by simpa using h), Symbol.distinguishAll, List.zipWith_cons_cons,
        List.map_cons]
    · obtain ⟨cause, hcause⟩ := exists_comboFault? h
      rw [(comboNodes_cons_of_fault f layout taken position hcause rest).1, ih,
        ownSymbols_cons_of_not_hasKeys h, List.filter_cons_of_neg (by simpa using h)]

theorem value_combos_eq_source (f : Formatter) (layout : Layout) (cs : List Combo) :
    (combos f layout cs).value = combosSource (comboContents f layout cs) := by
  have compatible : line 2 "compatible = \"zmk,combos\";"
      = "        compatible = \"zmk,combos\";\n" := by
    decide +kernel
  unfold combos combosSource
  rw [Reported.value_bind, Reported.value_pure, value_comboNodes, List.isEmpty_map, List.map_map,
    underRoot_node_one, compatible]
  rfl

theorem map_head_comboContents (f : Formatter) (layout : Layout) (cs : List Combo) :
    (comboContents f layout cs).map (·.head)
      = (comboSymbols layout.keyCount cs).map (comboLead ++ ·) := by
  rw [comboContents, List.map_zipWith]
  refine List.ext_getElem (by simp [length_comboSymbols]) fun i _ _ => ?_
  simp [comboContent]

theorem forall₂_comboContents (f : Formatter) (layout : Layout) (cs : List Combo) :
    List.Forall₂ (IsComboNode f layout) (cs.filter fun c => HasKeys layout.keyCount c)
      (comboContents f layout cs) := by
  rw [List.forall₂_iff_get]
  refine ⟨by simp [comboContents, length_comboSymbols], fun i _ _ => ?_⟩
  simpa [comboContents] using isComboNode_content f layout _ _

/-! ### Reports of combos -/

/-- What a combo reports after others. -/
inductive ComboReport (f : Formatter) (layout : Layout) (before : List Combo) (c : Combo) :
    Report → Prop where
  /-- A combo without key positions is left out. -/
  | noPositions (h : c.keyPositions = []) :
      ComboReport f layout before c
        [⟨.skippedEntry, "combo " ++ c.name, "combo has no key positions"⟩]
  /-- A combo with positions that have no keys is left out. -/
  | outside (h : ∃ p ∈ c.keyPositions, ¬ (0 ≤ p ∧ p < layout.keyCount)) :
      ComboReport f layout before c
        [⟨.skippedEntry, "combo " ++ c.name, "key positions "
          ++ Position.shown (c.keyPositions.filter fun p : Int => ¬ (0 ≤ p ∧ p < layout.keyCount))
          ++ " are outside 0.." ++ toString layout.keyCount⟩]
  /-- Any other combo reports a name that is taken, then its binding, then its layers. -/
  | written {limit : Report} (h : HasKeys layout.keyCount c)
      (reports : LimitReport f.layers c limit) :
      ComboReport f layout before c
        (nameReport (comboSymbols layout.keyCount before) before.length c
          ++ (f.report ("combo " ++ c.name) c.binding ++ limit))

theorem comboReport_of_fault (f : Formatter) (layout : Layout) (before : List Combo) {c : Combo}
    {cause : String} (h : comboFault? layout.keyCount c = some cause) :
    ComboReport f layout before c [⟨.skippedEntry, "combo " ++ c.name, cause⟩] := by
  unfold comboFault? at h
  dsimp only at h
  split at h
  · rename_i hp
    cases h
    exact .noPositions (List.isEmpty_iff.mp hp)
  · split at h
    · cases h
    · -- Only a combo with positions can have one outside the layout.
      rename_i hout
      cases h
      rw [List.isEmpty_iff, Position.outside_eq_nil_iff] at hout
      rw [Position.outside_eq_filter]
      exact .outside (by simpa using hout)

theorem nameReport_reverse (taken : List String) (position : Nat) (c : Combo) :
    nameReport taken.reverse position c = nameReport taken position c := by
  simp [nameReport, Symbol.distinguish]

/-- Combos report one after the other, each with the combos before it in view. -/
theorem reports_comboNodes (f : Formatter) (layout : Layout) (before cs : List Combo) :
    ∃ reports : List Report,
      (comboNodes f layout (comboSymbols layout.keyCount before).reverse before.length cs).warnings
        = reports.flatten ∧
      List.Forall₂ (fun p report => ComboReport f layout ((before ++ cs).take p.2) p.1 report)
        (cs.zipIdx before.length) reports := by
  -- A report says what stands before its combo, so the combos read so far are a parameter.
  induction cs generalizing before with
  | nil => exact ⟨[], rfl, .nil⟩
  | cons c rest ih =>
    obtain ⟨reports, hwarnings, hreports⟩ := ih (before ++ [c])
    rw [List.length_append, List.length_singleton] at hwarnings hreports
    rw [List.append_assoc, List.singleton_append] at hreports
    have here : (before ++ c :: rest).take before.length = before := List.take_left' rfl
    by_cases h : HasKeys layout.keyCount c
    · have nofault := (comboFault?_eq_none_iff layout.keyCount c).mpr h
      rw [comboSymbols_concat_of_hasKeys h, List.reverse_append, List.reverse_singleton,
        List.singleton_append] at hwarnings
      refine ⟨_ :: reports, ?_, .cons (.written h (limitReport_reports f.layers c)) hreports⟩
      rw [(comboNodes_cons_of_none f layout _ before.length nofault rest).2, hwarnings,
        warnings_combo, nameReport_reverse, List.flatten_cons]
      dsimp only
      rw [here]
      simp only [List.append_assoc]
    · obtain ⟨cause, hcause⟩ := exists_comboFault? h
      rw [comboSymbols_concat_of_not_hasKeys h] at hwarnings
      refine ⟨_ :: reports, ?_, .cons (comboReport_of_fault f layout _ hcause) hreports⟩
      rw [(comboNodes_cons_of_fault f layout _ before.length hcause rest).2, hwarnings]
      rfl

/-! ### The whole node -/

/-- **Combos.**  The `combos` node holds one node for each combo whose positions all have keys, in
order and under the symbols of the combos, and there is none without such combos.  The warnings
are those of the combos, each reporting on its own. -/
theorem combos_written (f : Formatter) (layout : Layout) (cs : List Combo) :
    ∃ (nodes : List NodeContent) (reports : List Report),
      (combos f layout cs).value = combosSource nodes ∧
      ((combos f layout cs).value = "" ↔ ∀ c ∈ cs, ¬ HasKeys layout.keyCount c) ∧
      List.Forall₂ (IsComboNode f layout) (cs.filter fun c => HasKeys layout.keyCount c) nodes ∧
      nodes.map (·.head) = (comboSymbols layout.keyCount cs).map (comboLead ++ ·) ∧
      (combos f layout cs).warnings = reports.flatten ∧
      List.Forall₂ (fun p report => ComboReport f layout (cs.take p.2) p.1 report)
        cs.zipIdx reports := by
  obtain ⟨reports, hwarnings, hreports⟩ := reports_comboNodes f layout [] cs
  have nodes := forall₂_comboContents f layout cs
  refine ⟨comboContents f layout cs, reports, value_combos_eq_source f layout cs, ?_, nodes,
    map_head_comboContents f layout cs, ?_, hreports⟩
  · -- The section is empty exactly where no node is left.
    rw [value_combos_eq_source, combosSource_eq_empty_iff, ← List.length_eq_zero_iff,
      ← nodes.length_eq, List.length_eq_zero_iff, List.filter_eq_nil_iff]
    simp only [decide_eq_true_eq]
  · rw [← hwarnings]
    unfold combos
    rw [Reported.warnings_bind, Reported.warnings_pure, List.append_nil]
    rfl

/-- **Names of combos.**  The nodes have distinct names exactly when no combo that finds its own
symbol taken finds the suffixed one to be the own symbol of an earlier combo. -/
theorem nodup_combo_heads_iff (f : Formatter) (layout : Layout) (cs : List Combo) :
    let own := ownSymbols layout.keyCount 0 cs
    (combos f layout cs).value = combosSource (comboContents f layout cs) ∧
      (((comboContents f layout cs).map (·.head)).Nodup ↔
        ∀ (k : Nat) (h : k < own.length), own[k].1 ∈ (comboSymbols layout.keyCount cs).take k →
          Symbol.suffixed own[k].1 own[k].2 ∉ (own.map (·.1)).take k) := by
  intro own
  refine ⟨value_combos_eq_source f layout cs, ?_⟩
  have lead : Function.Injective (comboLead ++ ·) := fun a b e =>
    (String.append_right_inj comboLead).mp e
  rw [map_head_comboContents, List.nodup_map_iff lead]
  exact Symbol.nodup_distinguishAll_iff (nodup_positions layout.keyCount 0 cs)

/-- A combo of a name on the first key. -/
def onFirstKey (name : String) : Combo where
  name := name
  description := none
  keyPositions := [0]
  binding := .bare "&trans"
  layers := []
  timeoutMs := none
  requirePriorIdleMs := none
  slowRelease := none

/-- Distinct names do not make the names of nodes distinct: the suffixed symbol of the last combo
is the own symbol of the first. -/
theorem combo_heads_repeat :
    let f : Formatter := ⟨.withBuiltins, []⟩
    let layout : Layout := ⟨"k", 1, [[.key 0]], .standard, []⟩
    let cs := ["x_y_2", "x y", "x-y"].map onFirstKey
    (cs.map (·.name)).Nodup ∧
      (combos f layout cs).value = combosSource (comboContents f layout cs) ∧
      ((comboContents f layout cs).map (·.head))
        = ["combo_x_y_2", "combo_x_y", "combo_x_y_2"] := by
  refine ⟨by decide, value_combos_eq_source _ _ _, ?_⟩
  rw [map_head_comboContents]
  decide +kernel

end KeymapCompiler.Node
