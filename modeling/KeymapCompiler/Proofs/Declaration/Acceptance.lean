/-
KeymapCompiler/Proofs/Declaration/Acceptance.lean

Which hold-taps and macros of a document are accepted.  The hold-taps are
declared first and the macros on top of them, which is one pass over all the
declarations of the document (`declareAll_declarations`).

The pass carries a registry, and `Knows` says what that registry stands for: the
behaviors known at the start and the references of the valid declarations so far.
One step keeps this (`Knows.of_ok`, `Knows.of_error`), whether the declaration is
accepted, invalid or taken; so the pass accepts a declaration exactly when it is
valid and the first of its reference (`declareAll_of_knows`).  An invalid
declaration reserves nothing.
-/
import KeymapCompiler.Compile
import KeymapCompiler.Node.HoldTap
import KeymapCompiler.Node.UserMacro
import KeymapCompiler.Proofs.Declaration

namespace KeymapCompiler

open KeymapCompiler.Behavior

/-! ### References -/

namespace Behavior

/-- A reference is the label behind the sigil. -/
theorem toList_reference (name : String) :
    (reference name).toList = sigil :: (label name).toList := by
  unfold reference isReference label sigil
  -- A name that starts with the sigil is its own reference; all others get it put in front.
  rcases h : name.toList with - | ⟨c, rest⟩
  · simp [h]
  · by_cases hc : c = '&'
    · subst hc
      simp [h]
    · have head : (some c == some '&') = false := by simpa using hc
      simp [head, hc, h]

theorem label_inj {a b : String} (h : label a = label b) : reference a = reference b := by
  rw [← String.toList_inj, toList_reference, toList_reference, h]

end Behavior

/-! ### Declarations -/

/-- An entry of a document that declares a behavior. -/
inductive Declaration where
  /-- A hold-tap. -/
  | holdTap (h : HoldTap)
  /-- A macro. -/
  | userMacro (m : UserMacro)

namespace Declaration

/-- The sort of entry that declares. -/
def sort : Declaration → EntryKind
  | .holdTap _ => .holdTap
  | .userMacro _ => .userMacro

/-- The name as it is written. -/
def name : Declaration → String
  | .holdTap h => h.name
  | .userMacro m => m.name

/-- The number of parameters that the behavior takes. -/
def arity : Declaration → Nat
  | .holdTap _ => 2
  | .userMacro m => m.arity

/-- Where the behavior comes from. -/
def origin : Declaration → Origin
  | .holdTap _ => .holdTap
  | .userMacro _ => .userMacro

/-- The reference that the behavior is called by. -/
def reference (e : Declaration) : String := declaredReference e.name

theorem isReference_reference (e : Declaration) : isReference e.reference = true :=
  Behavior.isReference_reference _

/-- The label of the behavior's node. -/
def label (e : Declaration) : String := declaredLabel e.name

/-- The label of a node tells what calls it. -/
theorem reference_eq_of_label_eq {x y : Declaration} (h : x.label = y.label) :
    x.reference = y.reference := by
  unfold label declaredLabel at h
  unfold reference declaredReference
  exact label_inj h

/-- What is registered for the behavior. -/
def descriptor (e : Declaration) : Descriptor := ⟨e.reference, e.arity, e.origin⟩

@[simp] theorem name_descriptor (e : Declaration) : e.descriptor.name = e.reference := by
  rw [descriptor]

@[simp] theorem arity_descriptor (e : Declaration) : e.descriptor.arity = e.arity := by
  rw [descriptor]

/-- What the entry declares. -/
def candidate : Declaration → Except DeclarationFault Descriptor
  | .holdTap h => h.candidate
  | .userMacro m => m.candidate

/-- The node of the behavior. -/
def node (f : Formatter) (keyCount : Nat) : Declaration → Reported String
  | .holdTap h => Node.holdTap f keyCount h
  | .userMacro m => Node.userMacro f m

/-- A declaration has a name, and a hold-tap has two bindings and a macro at most two
parameters. -/
def Valid : Declaration → Prop
  | .holdTap h => declaredLabel h.name ≠ "" ∧ h.bindings.length = 2
  | .userMacro m => declaredLabel m.name ≠ "" ∧ m.arity ≤ 2

instance : DecidablePred Valid
  | .holdTap _ => inferInstanceAs (Decidable (_ ∧ _))
  | .userMacro _ => inferInstanceAs (Decidable (_ ∧ _))

/-- A declaration that follows others is the first of its reference: it is valid, and its
reference is neither registered nor that of a valid one before it. -/
def Accepted (r : Registry) (earlier : List Declaration) (e : Declaration) : Prop :=
  e.Valid ∧ r.get? e.reference = none ∧ ∀ x ∈ earlier, x.Valid → x.reference ≠ e.reference

instance (r : Registry) (earlier : List Declaration) (e : Declaration) :
    Decidable (Accepted r earlier e) :=
  inferInstanceAs (Decidable (_ ∧ _ ∧ _))

/-- Why a declaration was not accepted: it is not valid, or another behavior has its reference. -/
def fault (known : Registry) (e : Declaration) : DeclarationFault :=
  match e.candidate with
  | .error fault => fault
  | .ok _ =>
    let existing := (known.get? e.reference).getD e.descriptor
    if existing.arity = e.arity then .defined else .conflict existing

/-- The warning for a declaration that was not accepted. -/
def warning (known : Registry) (e : Declaration) : Warning :=
  ⟨(e.fault known).kind, e.sort.label ++ " " ++ e.name, (e.fault known).message e.sort⟩

theorem candidate_eq_ok_iff {e : Declaration} {d : Descriptor} :
    e.candidate = .ok d ↔ e.Valid ∧ d = e.descriptor := by
  rcases e with h | m
  · simp only [candidate, HoldTap.candidate, Valid]
    -- A hold-tap is checked for its name and then for its two bindings.
    by_cases hl : declaredLabel h.name = ""
    · simp [hl]
    · by_cases hb : h.bindings.length = 2
      · rw [if_neg hl, if_neg (not_not.mpr hb), and_iff_right ⟨hl, hb⟩]
        exact ⟨fun e => (Except.ok.inj e).symm, fun e => e ▸ rfl⟩
      · simp [hl, hb]
  · simp only [candidate, UserMacro.candidate, Valid]
    -- A macro is checked for its name and then for the number of its parameters.
    by_cases hl : declaredLabel m.name = ""
    · simp [hl]
    · by_cases hb : m.arity ≤ 2
      · rw [if_neg hl, if_neg (Nat.not_lt.mpr hb), and_iff_right ⟨hl, hb⟩]
        exact ⟨fun e => (Except.ok.inj e).symm, fun e => e ▸ rfl⟩
      · rw [if_neg hl, if_pos (Nat.not_le.mp hb)]
        simp [hb]

/-! ### One step -/

/-- What a registry stands for in a pass: the behaviors that were registered at the start, and the
references of the valid declarations so far. -/
def Knows (r : Registry) (earlier : List Declaration) (known : Registry) : Prop :=
  ∀ name, known.get? name = none
    ↔ r.get? name = none ∧ ∀ x ∈ earlier, x.Valid → x.reference ≠ name

variable {r known : Registry} {earlier : List Declaration} {e : Declaration}

theorem knows_nil (r : Registry) : Knows r [] r := by
  intro name
  simp

theorem declareOne_candidate_eq_ok_iff {known' : Registry} :
    declareOne known e.candidate = .ok known' ↔ e.Valid ∧
      ∃ h : known.get? e.descriptor.name = none, known' = known.add e.descriptor h := by
  rw [declareOne_eq_ok_iff]
  constructor
  · rintro ⟨d, hd, h, rfl⟩
    obtain ⟨hvalid, rfl⟩ := candidate_eq_ok_iff.mp hd
    exact ⟨hvalid, h, rfl⟩
  · rintro ⟨hvalid, h, rfl⟩
    exact ⟨_, candidate_eq_ok_iff.mpr ⟨hvalid, rfl⟩, h, rfl⟩

theorem Knows.accepted_iff (hk : Knows r earlier known) :
    (∃ known', declareOne known e.candidate = .ok known') ↔ Accepted r earlier e := by
  unfold Accepted
  rw [← hk e.reference, ← name_descriptor]
  constructor
  · rintro ⟨known', h⟩
    obtain ⟨hvalid, hnone, -⟩ := declareOne_candidate_eq_ok_iff.mp h
    exact ⟨hvalid, hnone⟩
  · rintro ⟨hvalid, hnone⟩
    exact ⟨_, declareOne_candidate_eq_ok_iff.mpr ⟨hvalid, hnone, rfl⟩⟩

theorem forall_mem_concat_reference_ne_iff (name : String) :
    (∀ x ∈ earlier ++ [e], x.Valid → x.reference ≠ name) ↔
      (∀ x ∈ earlier, x.Valid → x.reference ≠ name) ∧ (e.Valid → e.reference ≠ name) := by
  rw [List.forall_mem_append, List.forall_mem_singleton]

/-- An accepted declaration takes its reference. -/
theorem Knows.of_ok (hk : Knows r earlier known) {known' : Registry}
    (h : declareOne known e.candidate = .ok known') : Knows r (earlier ++ [e]) known' := by
  obtain ⟨hvalid, hnone, rfl⟩ := declareOne_candidate_eq_ok_iff.mp h
  intro name
  rw [Registry.get?_add_eq_none_iff, hk name, forall_mem_concat_reference_ne_iff, and_assoc,
    name_descriptor, imp_iff_right hvalid]

/-- A declaration that is not accepted changes nothing: it is invalid, or its reference is taken
already. -/
theorem Knows.of_error (hk : Knows r earlier known) {cause : DeclarationFault}
    (h : declareOne known e.candidate = .error cause) : Knows r (earlier ++ [e]) known := by
  -- A valid declaration is refused only if its reference is known, so it has nothing to add.
  have taken : e.Valid → known.get? e.descriptor.name ≠ none := by
    intro hvalid hnone
    have hok := declareOne_candidate_eq_ok_iff.mpr ⟨hvalid, hnone, rfl⟩
    rw [h] at hok
    cases hok
  intro name
  rw [forall_mem_concat_reference_ne_iff, ← and_assoc, ← hk name]
  constructor
  · intro hname
    refine ⟨hname, fun hvalid hr => taken hvalid ?_⟩
    rw [name_descriptor, hr]
    exact hname
  · exact And.left

/-- The cause is seen from every later registry, since what is known stays known. -/
theorem fault_of_declareOne {cause : DeclarationFault}
    (h : declareOne known e.candidate = .error cause) {final : Registry} {ds : List Descriptor}
    (hf : final.entries = known.entries ++ ds) : e.fault final = cause := by
  unfold fault
  rcases hc : e.candidate with invalid | d
  · rw [hc] at h
    exact Except.error.inj h
  · obtain ⟨hvalid, rfl⟩ := candidate_eq_ok_iff.mp hc
    rw [← name_descriptor, ← arity_descriptor]
    -- The behavior that has the name is registered in `known`, so it is still there in `final`.
    rcases hg : known.get? e.descriptor.name with - | existing
    · have hok := declareOne_candidate_eq_ok_iff.mpr ⟨hvalid, hg, rfl⟩
      rw [h] at hok
      cases hok
    · have hreg := Registry.register_of_get?_eq_some hg
      rw [hc] at h
      simp only [declareOne, bind, Except.bind, hreg] at h
      rw [Registry.get?_of_entries_eq_append hf hg, Option.getD_some]
      by_cases ha : existing.arity = e.descriptor.arity
      · rw [if_pos ha] at h ⊢
        exact Except.error.inj h
      · rw [if_neg ha] at h ⊢
        exact Except.error.inj h

/-! ### One pass -/

/-- Whether a pass over declarations accepts the one at a position. -/
def accepts (r : Registry) (es : List Declaration) (p : Declaration × Nat) : Bool :=
  decide (Accepted r (es.take p.2) p.1)

/-- A pass accepts the declarations that are the first of their reference, and warns of the
others. -/
theorem declareAll_of_knows (hk : Knows r earlier known) (rest : List Declaration) :
    let done := declareAll sort name candidate known rest
    let places := rest.zipIdx earlier.length
    done.value.1 = (places.filter (accepts r (earlier ++ rest))).map (·.1) ∧
      done.warnings = (places.filter fun p => !accepts r (earlier ++ rest) p).map
        fun p => p.1.warning done.value.2 := by
  induction rest generalizing earlier known with
  | nil => exact ⟨rfl, rfl⟩
  | cons e rest ih =>
    -- The pass stands at `e`: what it accepts is decided by the declarations before it.
    have assoc : earlier ++ e :: rest = (earlier ++ [e]) ++ rest := by simp
    have place : accepts r ((earlier ++ [e]) ++ rest) (e, earlier.length)
        = decide (Accepted r earlier e) := by
      unfold accepts
      rw [List.append_assoc, List.take_left]
    have later : (earlier ++ [e]).length = earlier.length + 1 := List.length_append
    dsimp only
    rw [List.zipIdx_cons, assoc]
    rcases h : declareOne known e.candidate with cause | known'
    · have refused : accepts r ((earlier ++ [e]) ++ rest) (e, earlier.length) = false := by
        rw [place]
        refine decide_eq_false fun ha => ?_
        obtain ⟨known', hok⟩ := hk.accepted_iff.mpr ha
        rw [h] at hok
        cases hok
      obtain ⟨hvalue, hwarnings⟩ := declareAll_cons_of_error sort name candidate h rest
      obtain ⟨haccepted, hwarned⟩ := ih (hk.of_error h)
      rw [later] at haccepted hwarned
      rw [hvalue, hwarnings, List.filter_cons_of_neg (by rw [refused]; exact Bool.false_ne_true),
        List.filter_cons_of_pos (by rw [refused]; rfl), List.map_cons]
      refine ⟨haccepted, ?_⟩
      -- The cause was found in the registry at `e`, and the final registry shows the same.
      have hcause := fault_of_declareOne h (entries_declareAll sort name candidate known rest)
      rw [hwarned, warning, hcause]
    · have accepted : accepts r ((earlier ++ [e]) ++ rest) (e, earlier.length) = true := by
        rw [place]
        exact decide_eq_true (hk.accepted_iff.mp ⟨known', h⟩)
      obtain ⟨hvalue, hwarnings⟩ := declareAll_cons_of_ok sort name candidate h rest
      obtain ⟨haccepted, hwarned⟩ := ih (hk.of_ok h)
      rw [later] at haccepted hwarned
      rw [hvalue, hwarnings, List.filter_cons_of_pos accepted,
        List.filter_cons_of_neg (by rw [accepted]; exact Bool.false_ne_true), List.map_cons]
      exact ⟨congrArg (e :: ·) haccepted, hwarned⟩

theorem declareAll_eq (r : Registry) (es : List Declaration) :
    let done := declareAll sort name candidate r es
    done.value.1 = (es.zipIdx.filter (accepts r es)).map (·.1) ∧
      done.warnings = (es.zipIdx.filter fun p => !accepts r es p).map
        fun p => p.1.warning done.value.2 :=
  declareAll_of_knows (knows_nil r) es

theorem accepted_of_mem_filter {es : List Declaration} {e : Declaration}
    (h : e ∈ (es.zipIdx.filter (accepts r es)).map (·.1)) :
    e.Valid ∧ r.get? e.reference = none := by
  obtain ⟨p, hp, rfl⟩ := List.mem_map.mp h
  obtain ⟨hvalid, hnone, -⟩ := of_decide_eq_true (List.mem_filter.mp hp).2
  exact ⟨hvalid, hnone⟩

end Declaration

/-! ### Nodes -/

namespace Node

open KeymapCompiler.Devicetree

/-- The node of a behavior opens with its label and prints the number of its parameters. -/
def Prints (text label : String) (arity : Nat) : Prop :=
  ∃ front inner back, text = front ++ line 2 (label ++ ": " ++ label ++ " \x7b")
    ++ inner ++ line 3 s!"#binding-cells = <{arity}>;" ++ back

theorem prints_holdTap (f : Formatter) (keyCount : Nat) (h : HoldTap) :
    Prints (holdTap f keyCount h).value (declaredLabel h.name) 2 := by
  have cells : s!"#binding-cells = <{2}>;" = "#binding-cells = <2>;" := by decide +kernel
  unfold holdTap node Prints
  rw [cells]
  simp only [Reported.value_bind, Reported.value_pure]
  refine ⟨"", comment 3 h.description ++ line 3 "compatible = \"zmk,behavior-hold-tap\";", ?_⟩
  simp only [String.append_assoc, String.empty_append]
  exact ⟨_, rfl⟩

theorem prints_userMacro (f : Formatter) (m : UserMacro) :
    Prints (userMacro f m).value (declaredLabel m.name) m.arity := by
  unfold userMacro node Prints
  simp only [Reported.value_bind, Reported.value_pure]
  refine ⟨comment 2 m.description,
    line 3 ("label = \"" ++ Text.uppercase (declaredLabel m.name) ++ "\";")
      ++ line 3 s!"compatible = \"{macroCompatible m.arity}\";", ?_⟩
  simp only [String.append_assoc]
  exact ⟨_, rfl⟩

end Node

theorem Declaration.prints_node (f : Formatter) (keyCount : Nat) (e : Declaration) :
    Node.Prints (e.node f keyCount).value e.label e.arity := by
  rcases e with h | m
  · exact Node.prints_holdTap f keyCount h
  · exact Node.prints_userMacro f m

/-! ### The declarations of a document -/

namespace Document

/-- The declarations of a document in the order of the pass: hold-taps, then macros. -/
def declarations (d : Document) : List Declaration :=
  d.holdTaps.map .holdTap ++ d.userMacros.map .userMacro

/-- The accepted declarations in the order of the pass. -/
def Declared.declarations (x : Declared) : List Declaration :=
  x.holdTaps.map .holdTap ++ x.userMacros.map .userMacro

/-- Declaring the hold-taps and then the macros is one pass over the declarations. -/
theorem declareAll_declarations (d : Document) (r : Registry) :
    declareAll Declaration.sort Declaration.name Declaration.candidate r d.declarations
      = (fun x => (x.declarations, x.registry)) <$> d.declare r := by
  unfold declarations declare declareHoldTaps declareMacros
  rw [declareAll_append, declareAll_map]
  simp only [declareAll_map, map_bind, map_pure, bind_map_left]
  rfl

/-- What declaring the hold-taps and macros of a document on top of a registry comes to. -/
structure DeclaresFirst (d : Document) (r : Registry) (x : Reported Declared) : Prop where
  /-- Accepted are the declarations that are valid and the first of their reference. -/
  accepted : x.value.declarations
    = (d.declarations.zipIdx.filter (Declaration.accepts r d.declarations)).map (·.1)
  /-- The nodes have distinct labels. -/
  labels : (x.value.declarations.map Declaration.label).Nodup
  /-- No reference was registered before. -/
  unregistered : ∀ e ∈ x.value.declarations, r.get? e.reference = none
  /-- The registry knows how many parameters an accepted behavior takes. -/
  arities : ∀ e ∈ x.value.declarations, x.value.registry.arity? e.reference = some e.arity
  /-- The node of an accepted behavior prints the number of parameters that is registered. -/
  printed : ∀ e ∈ x.value.declarations, ∀ f keyCount n,
    x.value.registry.arity? e.reference = some n → Node.Prints (e.node f keyCount).value e.label n
  /-- What was registered before stays as it was. -/
  known : ∀ name b, r.get? name = some b → x.value.registry.get? name = some b
  /-- The accepted behaviors are registered behind it, and nothing else is. -/
  registered : x.value.registry.entries
    = r.entries ++ x.value.declarations.map Declaration.descriptor
  /-- There is one warning for each declaration that is not accepted, in order. -/
  warnings : x.warnings
    = (d.declarations.zipIdx.filter fun p => !Declaration.accepts r d.declarations p).map
        fun p => p.1.warning x.value.registry

/-- The registry is extended with what the accepted declarations declare. -/
theorem entries_declare (d : Document) (r : Registry) :
    (d.declare r).value.registry.entries
      = r.entries ++ (d.declare r).value.declarations.map Declaration.descriptor := by
  have hvalue := congrArg Reported.value (declareAll_declarations d r)
  rw [Reported.value_map] at hvalue
  have entries := entries_declareAll Declaration.sort Declaration.name Declaration.candidate r
    d.declarations
  have accepted := (Declaration.declareAll_eq r d.declarations).1
  rw [hvalue] at entries accepted
  -- Accepted declarations are valid, so each of them registers its own descriptor.
  refine entries.trans (congrArg (r.entries ++ ·) ?_)
  rw [← List.filterMap_eq_map]
  refine List.filterMap_congr fun e he => ?_
  have hvalid := (Declaration.accepted_of_mem_filter (accepted ▸ he)).1
  rw [Declaration.candidate_eq_ok_iff.mpr ⟨hvalid, rfl⟩]
  rfl

theorem get?_declare {d : Document} {r : Registry} {e : Declaration}
    (he : e ∈ (d.declare r).value.declarations) :
    (d.declare r).value.registry.get? e.reference = some e.descriptor := by
  refine Registry.get?_eq_some_iff.mpr ⟨?_, e.name_descriptor⟩
  rw [entries_declare]
  exact List.mem_append_right _ (List.mem_map_of_mem he)

theorem arity?_declare {d : Document} {r : Registry} {e : Declaration}
    (he : e ∈ (d.declare r).value.declarations) :
    (d.declare r).value.registry.arity? e.reference = some e.arity := by
  rw [Registry.arity?, get?_declare he, Option.map_some, Declaration.arity_descriptor]

/-- Accepted declarations have different references, since the registry has each name once. -/
theorem pairwise_reference_declare (d : Document) (r : Registry) :
    (d.declare r).value.declarations.Pairwise fun x y => x.reference ≠ y.reference := by
  have own : (fun b : Descriptor => b.name) ∘ Declaration.descriptor = Declaration.reference :=
    funext Declaration.name_descriptor
  have names := (d.declare r).value.registry.nodup
  rw [entries_declare, List.map_append, List.nodup_append, List.map_map, own] at names
  exact List.pairwise_map.mp names.2.1

theorem nodup_label_declare (d : Document) (r : Registry) :
    ((d.declare r).value.declarations.map Declaration.label).Nodup := by
  refine List.pairwise_map.mpr ((pairwise_reference_declare d r).imp ?_)
  intro x y hne hlabel
  exact hne (Declaration.reference_eq_of_label_eq hlabel)

/-- **Declaring.**  A hold-tap or macro is accepted exactly when it is valid and the first of its
reference; the accepted ones have nodes of their own and are registered with what these print,
and each of the others gives one warning. -/
theorem declare_declaresFirst (d : Document) (r : Registry) :
    d.DeclaresFirst r (d.declare r) := by
  -- The two passes, over hold-taps and over macros, are one pass over all declarations.
  have pass := declareAll_declarations d r
  have hvalue := congrArg Reported.value pass
  have hwarnings := congrArg Reported.warnings pass
  rw [Reported.value_map] at hvalue
  rw [Reported.warnings_map] at hwarnings
  obtain ⟨haccepted, hwarned⟩ := Declaration.declareAll_eq r d.declarations
  rw [hvalue] at haccepted hwarned
  rw [hwarnings] at hwarned
  dsimp only at haccepted hwarned
  exact {
    accepted := haccepted
    labels := nodup_label_declare d r
    unregistered := fun e he => (Declaration.accepted_of_mem_filter (haccepted ▸ he)).2
    arities := fun e he => arity?_declare he
    printed := fun e he f keyCount n hn => by
      obtain rfl := Option.some.inj ((arity?_declare he).symm.trans hn)
      exact e.prints_node f keyCount
    known := fun name b hb => Registry.get?_of_entries_eq_append (entries_declare d r) hb
    registered := entries_declare d r
    warnings := hwarned }

end Document

end KeymapCompiler
