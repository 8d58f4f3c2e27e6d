/-
KeymapCompiler/Proofs/Compile/Repair.lean

Calls that are repaired in silence.  A call of a user behavior with too few or too
many parameters is written with as many cells as the behavior takes, and no
warning is given.

`Document.repaired` is the document with all calls put right.  A compile without
warnings makes the same of both (`fragments_repaired`), so nothing in its result
tells them apart.  Every call has the right number of parameters exactly when there
is nothing to put right (`forall_calls_iff`).
-/
import KeymapCompiler.Proofs.Compile.Clean
import KeymapCompiler.Proofs.Declaration.Acceptance

namespace KeymapCompiler

open KeymapCompiler.Behavior

/-- A macro with its calls put right. -/
def UserMacro.repaired (f : Formatter) (m : UserMacro) : UserMacro :=
  { m with bindings := m.bindings.map f.fit }

/-- A combo with its call put right. -/
def Combo.repaired (f : Formatter) (c : Combo) : Combo :=
  { c with binding := f.fit c.binding }

/-! ### Nodes -/

namespace Node

variable {f : Formatter} {layout : Layout}

theorem layerCells_map_fit {bs : List Binding} (h : ∀ b ∈ bs, f.Writable b) (keyCount : Nat)
    (context : String) :
    layerCells f keyCount context (bs.map f.fit) = layerCells f keyCount context bs := by
  unfold layerCells
  rw [List.length_map, ← List.map_take, List.zipIdx_map, Reported.each_map]
  have same : ∀ b ∈ (bs.take keyCount).zipIdx,
      f.reported s!"{context}, key {b.2}" (f.fit b.1) = f.reported s!"{context}, key {b.2}" b.1 :=
    fun b hb => f.reported_fit (h b.1 (List.mem_of_mem_take (List.fst_mem_of_mem_zipIdx hb))) _
  exact congrArg _ (funext fun _ => congrArg (· >>= _) (Reported.each_congr same))

theorem cellTexts_map_fit {bs : List Binding} (h : ∀ b ∈ bs, f.Writable b) (keyCount : Nat) :
    cellTexts f keyCount (bs.map f.fit) = cellTexts f keyCount bs := by
  rw [← value_layerCells f keyCount "", ← value_layerCells f keyCount "", layerCells_map_fit h]

theorem isPaddable_map_fit {layers : List (List Binding)}
    (h : ∀ bs ∈ layers, ∀ b ∈ bs, f.Writable b) :
    isPaddable f layout (layers.map (·.map f.fit)) = isPaddable f layout layers := by
  unfold isPaddable
  rw [List.all_map, Bool.eq_iff_iff, List.all_eq_true, List.all_eq_true]
  refine forall₂_congr fun bs hbs => ?_
  rw [Function.comp_apply, cellTexts_map_fit (h bs hbs)]

theorem keymap_map_fit {layers : List (List Binding)} (h : ∀ bs ∈ layers, ∀ b ∈ bs, f.Writable b) :
    keymap f layout (layers.map (·.map f.fit)) = keymap f layout layers := by
  unfold keymap
  rw [List.zipIdx_map, Reported.each_map]
  refine congrArg (· >>= _) (Reported.each_congr fun l hl => ?_)
  show layer f layout l.2 (l.1.map f.fit) = layer f layout l.2 l.1
  unfold layer
  dsimp only
  rw [layerCells_map_fit (h l.1 (List.fst_mem_of_mem_zipIdx hl))]

theorem userMacros_map_repaired {ms : List UserMacro}
    (h : ∀ m ∈ ms, ∀ b ∈ m.bindings, f.Writable b) :
    userMacros f (ms.map (·.repaired f)) = userMacros f ms := by
  have one : ∀ m ∈ ms, userMacro f (m.repaired f) = userMacro f m := by
    intro m hm
    unfold userMacro UserMacro.repaired
    dsimp only
    rw [List.zipIdx_map, Reported.each_map]
    refine congrArg (· >>= _) (Reported.each_congr fun b hb => ?_)
    exact f.reported_fit (h m hm b.1 (List.fst_mem_of_mem_zipIdx hb)) _
  unfold userMacros
  rw [Reported.each_map, Reported.each_congr one, List.isEmpty_map]

theorem combo_repaired {c : Combo} (h : f.Writable c.binding) (symbol : String) :
    combo f layout symbol (c.repaired f) = combo f layout symbol c := by
  unfold combo Combo.repaired
  dsimp only
  rw [f.reported_fit h]

theorem comboNodes_map_repaired {cs : List Combo} (h : ∀ c ∈ cs, f.Writable c.binding)
    (taken : List String) (position : Nat) :
    comboNodes f layout taken position (cs.map (·.repaired f))
      = comboNodes f layout taken position cs := by
  induction cs generalizing taken position with
  | nil => rfl
  | cons c rest ih =>
    rw [List.forall_mem_cons] at h
    rw [List.map_cons, comboNodes, comboNodes]
    have fault : comboFault? layout.keyCount (c.repaired f) = comboFault? layout.keyCount c := rfl
    have base : comboBase position (c.repaired f) = comboBase position c := rfl
    have name : (c.repaired f).name = c.name := rfl
    simp only [fault, base, name, combo_repaired h.1, ih h.2]

end Node

namespace Document

variable {d : Document} {l : Layout} {map : Kconfig.Map} {b : Binding} {n : Nat}

/-! ### Calls -/

/-- The bindings of a document that are written for a layout. -/
inductive Occurs (d : Document) (l : Layout) : Binding → Prop
  /-- One for each key of a layer. -/
  | key {bs : List Binding} {b : Binding} (hbs : bs ∈ d.layers) (hb : b ∈ bs.take l.keyCount) :
    Occurs d l b
  /-- The steps of accepted macros. -/
  | step {m : UserMacro} {b : Binding} (hm : m ∈ d.declared.userMacros) (hb : b ∈ m.bindings) :
    Occurs d l b
  /-- One for each combo that has a node. -/
  | combo {c : Combo} (hc : c ∈ d.combos) (hn : Node.comboFault? l.keyCount c = none) :
    Occurs d l c.binding

/-- A hold-tap or macro of the document is accepted under a reference and takes a number of
parameters. -/
def Accepts (d : Document) (reference : String) (n : Nat) : Prop :=
  (∃ h ∈ d.declared.holdTaps, declaredReference h.name = reference ∧ n = 2) ∨
    ∃ m ∈ d.declared.userMacros, declaredReference m.name = reference ∧ n = m.arity

/-- A binding of the document calls a behavior that is not built in but accepted from it. -/
structure Calls (d : Document) (l : Layout) (b : Binding) (n : Nat) : Prop where
  /-- The binding is written. -/
  occurs : d.Occurs l b
  /-- No built-in behavior has the name. -/
  custom : family? b.behavior = none
  /-- The behavior takes the number of parameters. -/
  accepts : d.Accepts (canonical b.behavior) n

theorem accepts_iff (d : Document) (reference : String) (n : Nat) :
    d.Accepts reference n
      ↔ ∃ e ∈ d.declared.declarations, e.reference = reference ∧ n = e.arity := by
  unfold Accepts Declared.declarations
  constructor
  · rintro (⟨h, hh, hname, hn⟩ | ⟨m, hm, hname, hn⟩)
    · exact ⟨.holdTap h, List.mem_append_left _ (List.mem_map_of_mem hh), hname, hn⟩
    · exact ⟨.userMacro m, List.mem_append_right _ (List.mem_map_of_mem hm), hname, hn⟩
  · rintro ⟨e, he, hname, hn⟩
    rcases List.mem_append.mp he with he | he
    · obtain ⟨h, hh, rfl⟩ := List.mem_map.mp he
      exact .inl ⟨h, hh, hname, hn⟩
    · obtain ⟨m, hm, rfl⟩ := List.mem_map.mp he
      exact .inr ⟨m, hm, hname, hn⟩

/-- The registry knows the accepted hold-taps and macros by their references. -/
theorem callArity?_eq_some_iff :
    d.formatter.callArity? b = some n
      ↔ family? b.behavior = none ∧ d.Accepts (canonical b.behavior) n := by
  rw [accepts_iff]
  constructor
  · intro h
    unfold Formatter.callArity? at h
    split at h
    · rename_i hc
      have custom := Option.isNone_iff_eq_none.mp (Bool.and_eq_true_iff.mp hc).1
      refine ⟨custom, ?_⟩
      obtain ⟨e, he, rfl⟩ := Option.map_eq_some_iff.mp h
      obtain ⟨hmem, hname⟩ := Registry.get?_eq_some_iff.mp he
      rw [formatter_registry, declared, entries_declare] at hmem
      -- The entry found is the document's own, since no built-in has this name.
      rcases List.mem_append.mp hmem with hmem | hmem
      · have absent := Registry.not_mem_of_get?_eq_none
          ((Registry.get?_withBuiltins_eq_none_iff _).mpr custom)
        rw [← hname] at absent
        exact absurd (List.mem_map_of_mem hmem) absent
      · obtain ⟨x, hx, rfl⟩ := List.mem_map.mp hmem
        exact ⟨x, hx, x.name_descriptor.symm.trans hname, x.arity_descriptor⟩
    · cases h
  · rintro ⟨custom, e, he, hname, rfl⟩
    unfold Formatter.callArity?
    rw [← hname, custom, e.isReference_reference]
    exact arity?_declare he

/-! ### The repaired document -/

/-- The document with all calls put right. -/
def repaired (d : Document) : Document :=
  { d with
    layers := d.layers.map (·.map d.formatter.fit)
    userMacros := d.userMacros.map (·.repaired d.formatter)
    combos := d.combos.map (·.repaired d.formatter) }

theorem namesOfLayers_repaired (d : Document) : d.repaired.namesOfLayers = d.namesOfLayers := by
  unfold namesOfLayers repaired
  rw [List.length_map]

theorem layerTable_repaired (d : Document) : d.repaired.layerTable = d.layerTable := by
  rw [layerTable, namesOfLayers_repaired, layerTable]

/-- The repair declares the same behaviors, with the repaired macros for the given ones. -/
theorem declared_repaired (d : Document) :
    d.repaired.declared = ⟨d.declared.holdTaps,
      d.declared.userMacros.map (·.repaired d.formatter), d.declared.registry⟩ := by
  have hvalue := congrArg Reported.value (declareAll_map (fun _ => .userMacro) UserMacro.name
    UserMacro.candidate (·.repaired d.formatter)
    (declareHoldTaps Registry.withBuiltins d.holdTaps).value.2 d.userMacros)
  rw [declared_eq, declared_eq]
  unfold declareMacros
  dsimp only
  rw [show d.repaired.holdTaps = d.holdTaps from rfl,
    show d.repaired.userMacros = d.userMacros.map (·.repaired d.formatter) from rfl]
  exact congrArg (fun p : List UserMacro × Registry => (⟨_, p.1, p.2⟩ : Declared)) hvalue

theorem formatter_repaired (d : Document) : d.repaired.formatter = d.formatter := by
  rw [formatter, declared_repaired, layerTable_repaired, formatter]

/-- A list that is changed item by item stays the same exactly when every item does. -/
theorem map_eq_self_iff {α : Type} {change : α → α} {xs : List α} :
    xs.map change = xs ↔ ∀ x ∈ xs, change x = x := by
  conv_lhs => rhs; rw [← List.map_id xs]
  exact List.map_inj_left

/-- The repair changes nothing exactly when it changes no binding. -/
theorem repaired_eq_self_iff (d : Document) :
    d.repaired = d ↔
      (∀ bs ∈ d.layers, ∀ b ∈ bs, d.formatter.fit b = b) ∧
        (∀ m ∈ d.userMacros, ∀ b ∈ m.bindings, d.formatter.fit b = b) ∧
        ∀ c ∈ d.combos, d.formatter.fit c.binding = c.binding := by
  constructor
  · intro h
    -- A repair goes through three lists, and each of them stays as it is.
    have hlayers : d.layers.map (·.map d.formatter.fit) = d.layers := congrArg layers h
    have hmacros : d.userMacros.map (·.repaired d.formatter) = d.userMacros :=
      congrArg userMacros h
    have hcombos : d.combos.map (·.repaired d.formatter) = d.combos := congrArg combos h
    refine ⟨fun bs hbs => ?_, fun m hm => ?_, fun c hc => ?_⟩
    · exact map_eq_self_iff.mp (map_eq_self_iff.mp hlayers bs hbs)
    · exact map_eq_self_iff.mp (congrArg UserMacro.bindings (map_eq_self_iff.mp hmacros m hm))
    · exact congrArg Combo.binding (map_eq_self_iff.mp hcombos c hc)
  · rintro ⟨hlayers, hmacros, hcombos⟩
    have hlayers : d.layers.map (·.map d.formatter.fit) = d.layers :=
      map_eq_self_iff.mpr fun bs hbs => map_eq_self_iff.mpr (hlayers bs hbs)
    have hmacros : d.userMacros.map (·.repaired d.formatter) = d.userMacros := by
      refine map_eq_self_iff.mpr fun m hm => ?_
      rw [UserMacro.repaired, map_eq_self_iff.mpr (hmacros m hm)]
    have hcombos : d.combos.map (·.repaired d.formatter) = d.combos := by
      refine map_eq_self_iff.mpr fun c hc => ?_
      rw [Combo.repaired, hcombos c hc]
    rw [repaired, hlayers, hmacros, hcombos]

/-- The check looks at the number of layers only. -/
theorem check_repaired (d : Document) (l : Layout) : check d.repaired l = check d l := by
  unfold check repaired
  rw [List.length_map]

/-- The fragments of a document without faults are those of its repair. -/
theorem fragments_repaired (hf : Faultless d l map) :
    d.repaired.fragments l map = d.fragments l map := by
  -- Each section is made of the same texts, because a repair adds what the formatter would add.
  have keymap : Node.keymap d.formatter l d.repaired.layers
      = Node.keymap d.formatter l d.layers :=
    Node.keymap_map_fit fun bs hbs => (hf.layers bs hbs).2
  have macros : Node.userMacros d.formatter d.repaired.declared.userMacros
      = Node.userMacros d.formatter d.declared.userMacros := by
    rw [declared_repaired]
    exact Node.userMacros_map_repaired fun m hm => hf.steps m (hf.userMacros ▸ hm)
  have combos : Node.combos d.formatter l d.repaired.combos
      = Node.combos d.formatter l d.combos :=
    congrArg (· >>= _) (Node.comboNodes_map_repaired hf.comboBindings [] 0)
  have holdTaps : d.repaired.declared.holdTaps = d.declared.holdTaps := by
    rw [declared_repaired]
  have accepted : (d.repaired.declare Registry.withBuiltins).warnings
      = (d.declare Registry.withBuiltins).warnings := by
    rw [(warnings_declare_eq_nil_iff d).mpr ⟨hf.holdTaps, hf.userMacros⟩,
      warnings_declare_eq_nil_iff, declared_repaired]
    exact ⟨hf.holdTaps, congrArg (List.map _) hf.userMacros⟩
  -- What is written and what is reported are both put together from these sections.
  refine Reported.ext ?_ ?_
  · rw [value_fragments, value_fragments, formatter_repaired, layerTable_repaired, keymap, macros,
      combos, holdTaps]
    rfl
  · rw [warnings_fragments, warnings_fragments, formatter_repaired, namesOfLayers_repaired,
      keymap, macros, combos, holdTaps, accepted]
    rfl

/-- The cells of a document without faults are those of its repair. -/
theorem isPaddable_repaired (hf : Faultless d l map) :
    Node.isPaddable d.repaired.formatter l d.repaired.layers
      = Node.isPaddable d.formatter l d.layers := by
  rw [formatter_repaired]
  exact Node.isPaddable_map_fit fun bs hbs => (hf.layers bs hbs).2

/-- The calls of a document without faults are all its bindings of accepted behaviors. -/
theorem forall_calls_iff (hf : Faultless d l map) :
    (∀ b n, d.Calls l b n → b.params.length = n) ↔ d.repaired = d := by
  have right : ∀ b, d.formatter.fit b = b ↔
      ∀ n, family? b.behavior = none ∧ d.Accepts (canonical b.behavior) n →
        b.params.length = n := by
    intro b
    rw [Formatter.fit_eq_self_iff]
    simp only [callArity?_eq_some_iff]
  -- In a clean run every combo has a node, so its binding is one of those that are called.
  have emitted := (Node.length_comboNodes_eq_iff _ _ _ _ _).mp hf.combos
  rw [repaired_eq_self_iff]
  simp only [right]
  constructor
  · intro h
    refine ⟨fun bs hbs b hb n hn => ?_, fun m hm b hb n hn => ?_, fun c hc n hn => ?_⟩
    · -- No layer has more bindings than keys, so all of them are written.
      rw [← List.take_of_length_le (hf.layers bs hbs).1] at hb
      exact h b n ⟨.key hbs hb, hn.1, hn.2⟩
    · rw [← hf.userMacros] at hm
      exact h b n ⟨.step hm hb, hn.1, hn.2⟩
    · exact h c.binding n ⟨.combo hc (emitted c hc), hn.1, hn.2⟩
  · rintro ⟨hlayers, hmacros, hcombos⟩ b n ⟨hoccurs, hcustom, haccepts⟩
    rcases hoccurs with ⟨hbs, hb⟩ | ⟨hm, hb⟩ | ⟨hc, -⟩
    · exact hlayers _ hbs b (List.mem_of_mem_take hb) n ⟨hcustom, haccepts⟩
    · rw [hf.userMacros] at hm
      exact hmacros _ hm b hb n ⟨hcustom, haccepts⟩
    · exact hcombos _ hc n ⟨hcustom, haccepts⟩

/-- The bindings that are written can be written. -/
theorem Occurs.writable (hf : Faultless d l map) (h : d.Occurs l b) :
    d.formatter.Writable b := by
  rcases h with ⟨hbs, hb⟩ | ⟨hm, hb⟩ | ⟨hc, -⟩
  · exact (hf.layers _ hbs).2 b (List.mem_of_mem_take hb)
  · rw [hf.userMacros] at hm
    exact hf.steps _ hm b hb
  · exact hf.comboBindings _ hc

/-- **Silent repairs.**  In a compile without warnings every call is written with as many cells
as the behavior takes, however many parameters it has.  The repaired document compiles to the
same, and there is nothing to repair exactly when every call has as many parameters as the
behavior takes. -/
theorem compile_repaired_of_clean {r : Reported Compiled} (h : d.compile l map = .ok r)
    (hr : r.warnings = []) :
    (∀ b n, d.Calls l b n → ∃ texts, b.params.mapM (Param.key 0) = .ok texts ∧
        d.formatter.format b = .ok (Devicetree.cells
          (canonical b.behavior :: (texts.take n ++ List.replicate (n - texts.length) "0")))) ∧
      d.repaired.compile l map = .ok r ∧
      (d.repaired = d ↔ ∀ b n, d.Calls l b n → b.params.length = n) := by
  obtain ⟨herrors, hpaddable, rfl⟩ := compile_eq_ok_iff.mp h
  have hf := (report_eq_nil_iff herrors).mp hr
  refine ⟨fun b n hc => ?_, ?_, (forall_calls_iff hf).symm⟩
  · have harity := callArity?_eq_some_iff.mpr ⟨hc.custom, hc.accepts⟩
    obtain ⟨texts, hm⟩ := Formatter.exists_mapM_of_callArity? (hc.occurs.writable hf) harity
    exact ⟨texts, hm, Formatter.format_of_mapM harity hm⟩
  · rw [compile_eq_ok_iff, check_repaired, fragments_repaired hf, isPaddable_repaired hf]
    exact ⟨herrors, hpaddable, rfl⟩

/-- The calls of the sample are right, so it is its own repair. -/
theorem repaired_sample :
    ∃ r, sample.compile Layout.sample [] = .ok r ∧ r.warnings = [] ∧
      sample.repaired.compile Layout.sample [] = .ok r := by
  have hok : sample.compile Layout.sample [] = .ok _ :=
    compile_eq_ok_iff.mpr ⟨by decide +kernel, by decide +kernel, rfl⟩
  exact ⟨_, hok, by decide +kernel, (compile_repaired_of_clean hok (by decide +kernel)).2.1⟩

/-- A document that calls a macro of one parameter without a parameter. -/
def shortCall : Document :=
  { sample with
    layerNames := ["Base"]
    layers := [[⟨"&m", []⟩]]
    holdTaps := []
    userMacros := [⟨"m", none, some 1, [], [], none, none⟩]
    combos := []
    configParameters := [] }

/-- The missing parameter is written as `0` and not reported. -/
theorem exists_clean_call_without_param :
    ∃ r, shortCall.compile Layout.sample [] = .ok r ∧ r.warnings = [] ∧
      ∃ b n, shortCall.Calls Layout.sample b n ∧ b.params.length ≠ n ∧
        shortCall.formatter.format b = .ok "&m 0" := by
  refine ⟨_, compile_eq_ok_iff.mpr ⟨by decide +kernel, by decide +kernel, rfl⟩,
    by decide +kernel, ⟨"&m", []⟩, 1,
    ⟨.key List.mem_cons_self List.mem_cons_self, by decide +kernel, ?_⟩, by decide,
    by decide +kernel⟩
  exact .inr ⟨⟨"m", none, some 1, [], [], none, none⟩, List.mem_cons_self, by decide +kernel,
    rfl⟩

end Document

end KeymapCompiler
