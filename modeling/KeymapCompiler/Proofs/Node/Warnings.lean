/-
KeymapCompiler/Proofs/Node/Warnings.lean

What the nodes of a keymap warn of.  Every node is written whatever is wrong with
an entry, so the warnings alone tell whether the text is what the document asks
for.  For each node there is one statement that lists what must hold for it to
give no warning.  For hold-taps and combos it is read off their exact reports
(`holdTapReport`; `nameReport`, `Formatter.report` and `limitReport`).

The combos take their symbols one after the other, and one that is left out takes
none; their statement goes by induction on the combos with the symbols taken so
far (`warnings_comboNodes_eq_nil_iff`).
-/
import KeymapCompiler.Node.Combo
import KeymapCompiler.Node.HoldTap
import KeymapCompiler.Node.Keymap
import KeymapCompiler.Node.UserMacro
import KeymapCompiler.Proofs.Binding.Calls
import KeymapCompiler.Proofs.Distinct
import Mathlib.Data.List.Enum

namespace KeymapCompiler

/-! ### Bindings -/

/-- The warning of a binding that cannot be written. -/
def Formatter.report (f : Formatter) (context : String) (b : Binding) : Report :=
  match f.format b with
  | .ok _ => []
  | .error e => [⟨e.kind, context, b.shown ++ ": " ++ e.message⟩]

theorem Formatter.warnings_reported (f : Formatter) (context : String) (b : Binding) :
    (f.reported context b).warnings = f.report context b := by
  unfold reported report
  rcases f.format b with e | text
  · rfl
  · rfl

/-- A binding is reported exactly when it cannot be written. -/
theorem Formatter.warnings_reported_eq_nil_iff (f : Formatter) (context : String) (b : Binding) :
    (f.reported context b).warnings = [] ↔ f.Writable b := by
  rw [warnings_reported]
  unfold report Writable
  rcases h : f.format b with e | text
  · simp
  · simp

/-- Positions have keys exactly when none is outside. -/
theorem Position.outside_eq_nil_iff (keyCount : Nat) (positions : List Int) :
    outside keyCount positions = [] ↔ ∀ p ∈ positions, 0 ≤ p ∧ p < keyCount := by
  simp [outside, isInside]

namespace Node

/-- What holds of items with their positions, whatever these are, holds of the items. -/
theorem forall_mem_zipIdx_iff {α : Type} {xs : List α} {p : α → Prop} :
    (∀ x ∈ xs.zipIdx, p x.1) ↔ ∀ a ∈ xs, p a := by
  have items : xs.zipIdx.map Prod.fst = xs := List.zipIdx_map_fst 0 xs
  conv_rhs => rw [← items]
  rw [List.forall_mem_map]

/-- Bindings that are reported one by one, each in a context that names its place. -/
theorem warnings_each_reported_eq_nil_iff (f : Formatter) (context : Binding × Nat → String)
    (bs : List Binding) :
    (Reported.each (fun b => f.reported (context b) b.1) bs.zipIdx).warnings = []
      ↔ ∀ b ∈ bs, f.Writable b := by
  rw [Reported.warnings_each, List.flatMap_eq_nil_iff]
  simp only [Formatter.warnings_reported_eq_nil_iff]
  exact forall_mem_zipIdx_iff

/-! ### Layers -/

/-- The warning of bindings past the last key. -/
def surplusWarnings (keyCount : Nat) (context : String) (given : Nat) : Report :=
  if keyCount < given then
    [⟨.skippedEntry, context, s!"{given} bindings for {keyCount} keys, "
      ++ s!"ignoring the last {given - keyCount}"⟩]
  else []

/-- A layer warns of bindings past the last key, then of the bindings that cannot be written. -/
theorem warnings_layerCells (f : Formatter) (keyCount : Nat) (context : String)
    (bs : List Binding) :
    (layerCells f keyCount context bs).warnings
      = surplusWarnings keyCount context bs.length
        ++ (bs.take keyCount).zipIdx.flatMap
          fun b => (f.reported s!"{context}, key {b.2}" b.1).warnings := by
  unfold layerCells
  rw [Reported.warnings_bind, Reported.warnings_bind, Reported.warnings_warnIf,
    Reported.warnings_each, Reported.warnings_pure, List.append_nil]
  simp only [decide_eq_true_eq, surplusWarnings]

theorem warnings_layerCells_eq_nil_iff (f : Formatter) (keyCount : Nat) (context : String)
    (bs : List Binding) :
    (layerCells f keyCount context bs).warnings = []
      ↔ bs.length ≤ keyCount ∧ ∀ b ∈ bs, f.Writable b := by
  have each := warnings_each_reported_eq_nil_iff f (fun b => s!"{context}, key {b.2}")
    (bs.take keyCount)
  rw [Reported.warnings_each] at each
  rw [warnings_layerCells, List.append_eq_nil_iff, each, surplusWarnings]
  by_cases h : keyCount < bs.length
  · exact iff_of_false (by simp [h]) fun hb => absurd hb.1 (Nat.not_le.mpr h)
  · have h := Nat.not_lt.mp h
    rw [List.take_of_length_le h]
    simp [h]

theorem warnings_keymap_eq_nil_iff (f : Formatter) (layout : Layout)
    (layers : List (List Binding)) :
    (keymap f layout layers).warnings = [] ↔
      ∀ bs ∈ layers, bs.length ≤ layout.keyCount ∧ ∀ b ∈ bs, f.Writable b := by
  unfold keymap
  rw [Reported.warnings_bind, Reported.warnings_each, Reported.warnings_pure, List.append_nil,
    List.flatMap_eq_nil_iff]
  simp only [layer, Reported.warnings_bind, Reported.warnings_pure, List.append_nil,
    warnings_layerCells_eq_nil_iff]
  exact forall_mem_zipIdx_iff (p := fun bs : List Binding =>
    bs.length ≤ layout.keyCount ∧ ∀ b ∈ bs, f.Writable b)

/-! ### Hold-taps -/

/-- The warning of a child that cannot be written. -/
def childReport (f : Formatter) (context : String) (b : Binding) : Report :=
  match f.reference b with
  | .ok _ => []
  | .error e => [⟨.unresolvedReference, context, "child binding " ++ b.shown ++ ": " ++ e.message⟩]

theorem warnings_holdTapChild (f : Formatter) (context : String) (b : Binding) :
    (holdTapChild f context b).warnings = childReport f context b := by
  unfold holdTapChild childReport
  rcases f.reference b with e | text
  · rfl
  · rfl

theorem childReport_eq_nil_iff (f : Formatter) (context : String) (b : Binding) :
    childReport f context b = [] ↔ ∃ text, f.reference b = .ok text := by
  unfold childReport
  rcases h : f.reference b with e | text
  · simp
  · simp

/-- The warning of a flavor that is not recognized. -/
def flavorReport (context : String) (h : HoldTap) : Report :=
  if h.flavor = some .unrecognized then
    [⟨.skippedEntry, context, "unknown flavor, leaving the firmware default"⟩]
  else []

/-- The warning of trigger positions without keys. -/
def triggerReport (keyCount : Nat) (context : String) (h : HoldTap) : Report :=
  let outside := (h.holdTriggerKeyPositions.getD []).filter fun p : Int => ¬ (0 ≤ p ∧ p < keyCount)
  if outside = [] then []
  else
    [⟨.unresolvedReference, context, "hold-trigger key positions " ++ Position.shown outside
      ++ " are outside 0.." ++ toString keyCount⟩]

/-- What a hold-tap warns of: its flavor, then its children in order, then its trigger positions. -/
def holdTapReport (f : Formatter) (keyCount : Nat) (h : HoldTap) : Report :=
  let context := "hold-tap " ++ declaredLabel h.name
  flavorReport context h ++ h.bindings.flatMap (childReport f context)
    ++ triggerReport keyCount context h

theorem warnings_holdTap (f : Formatter) (keyCount : Nat) (h : HoldTap) :
    (holdTap f keyCount h).warnings = holdTapReport f keyCount h := by
  unfold holdTap holdTapReport flavorReport triggerReport
  dsimp only
  rw [Reported.warnings_bind, Reported.warnings_bind, Reported.warnings_bind,
    Reported.warnings_warnIf, Reported.warnings_warnIf, Reported.warnings_each,
    Reported.warnings_pure, List.append_nil, Position.outside_eq_filter, List.append_assoc]
  simp only [warnings_holdTapChild, beq_iff_eq, Bool.not_eq_true', List.isEmpty_eq_false_iff,
    ite_not, ne_eq]
  rfl

theorem warnings_holdTap_eq_nil_iff (f : Formatter) (keyCount : Nat) (h : HoldTap) :
    (holdTap f keyCount h).warnings = [] ↔
      h.flavor ≠ some .unrecognized ∧ (∀ b ∈ h.bindings, ∃ text, f.reference b = .ok text) ∧
        ∀ p ∈ h.holdTriggerKeyPositions.getD [], 0 ≤ p ∧ p < keyCount := by
  rw [warnings_holdTap]
  unfold holdTapReport flavorReport triggerReport
  dsimp only
  rw [List.append_eq_nil_iff, List.append_eq_nil_iff, List.flatMap_eq_nil_iff]
  simp only [childReport_eq_nil_iff]
  simp [and_assoc]

theorem warnings_holdTaps_eq_nil_iff (f : Formatter) (keyCount : Nat) (hs : List HoldTap) :
    (holdTaps f keyCount hs).warnings = []
      ↔ ∀ h ∈ hs, (holdTap f keyCount h).warnings = [] := by
  unfold holdTaps
  rw [Reported.warnings_bind, Reported.warnings_each, Reported.warnings_pure, List.append_nil,
    List.flatMap_eq_nil_iff]

/-! ### Macros -/

theorem warnings_userMacros_eq_nil_iff (f : Formatter) (ms : List UserMacro) :
    (userMacros f ms).warnings = [] ↔ ∀ m ∈ ms, ∀ b ∈ m.bindings, f.Writable b := by
  have one : ∀ m : UserMacro,
      (userMacro f m).warnings = [] ↔ ∀ b ∈ m.bindings, f.Writable b := by
    intro m
    unfold userMacro
    dsimp only
    rw [Reported.warnings_bind, Reported.warnings_pure, List.append_nil]
    exact warnings_each_reported_eq_nil_iff f _ m.bindings
  unfold userMacros
  rw [Reported.warnings_bind, Reported.warnings_each, Reported.warnings_pure, List.append_nil,
    List.flatMap_eq_nil_iff]
  simp only [one]

/-! ### Combos -/

/-- A combo is limited to the layers it names: it names none or all of them, or each one that it
names resolves. -/
def LimitResolves (layers : LayerTable) (refs : List LayerRef) : Prop :=
  refs = [] ∨ (∃ r ∈ refs, r.isAll = true) ∨ ∀ r ∈ refs, (layerIndex? layers r).isSome = true

theorem limitResolves_iff (layers : LayerTable) (refs : List LayerRef) :
    LimitResolves layers refs ↔ ∀ r, LayerFilter.ofRefs layers refs ≠ .dropped r := by
  unfold LimitResolves LayerFilter.ofRefs
  by_cases hall : refs = [] ∨ ∃ r ∈ refs, r.isAll = true
  · rw [if_pos (by simpa using hall), ← or_assoc]
    exact iff_of_true (.inl hall) fun r e => nomatch e
  · rw [if_neg (by simpa using hall), ← or_assoc, or_iff_right hall]
    rcases h : refs.find? fun r => (layerIndex? layers r).isNone with - | r
    · rw [List.find?_eq_none] at h
      refine iff_of_true (fun r hr => ?_) fun r e => nomatch e
      simpa [Option.isSome_iff_ne_none] using h r hr
    · -- The reference that was found has no layer, though each was to have one.
      refine iff_of_false (fun hres => ?_) fun hne => hne r rfl
      have hr := hres r (List.mem_of_find?_eq_some h)
      have hnone := List.find?_some h
      rw [Option.isNone_iff_eq_none] at hnone
      rw [hnone] at hr
      cases hr

/-- The warning of a layer that does not resolve. -/
def limitReport (layers : LayerTable) (c : Combo) : Report :=
  match LayerFilter.ofRefs layers c.layers with
  | .dropped r =>
    [⟨.unresolvedReference, "combo " ++ c.name,
      "layer '" ++ r.shown ++ "' does not exist, combo is active on all layers"⟩]
  | .all | .only _ => []

/-- A combo with a node warns of its binding, then of its layers. -/
theorem warnings_combo (f : Formatter) (layout : Layout) (symbol : String) (c : Combo) :
    (combo f layout symbol c).warnings
      = f.report ("combo " ++ c.name) c.binding ++ limitReport f.layers c := by
  unfold combo limitReport
  dsimp only
  rw [Reported.warnings_bind, Formatter.warnings_reported]
  rcases LayerFilter.ofRefs f.layers c.layers with - | indices | r
  · rfl
  · rfl
  · rfl

theorem warnings_combo_eq_nil_iff (f : Formatter) (layout : Layout) (symbol : String)
    (c : Combo) :
    (combo f layout symbol c).warnings = []
      ↔ f.Writable c.binding ∧ LimitResolves f.layers c.layers := by
  rw [warnings_combo, List.append_eq_nil_iff, ← Formatter.warnings_reported,
    Formatter.warnings_reported_eq_nil_iff, limitResolves_iff, limitReport]
  refine and_congr_right fun _ => ?_
  rcases h : LayerFilter.ofRefs f.layers c.layers with - | indices | r
  · simp
  · simp
  · simp

/-- A combo has a node when it has key positions and each of them has a key. -/
theorem comboFault?_eq_none_iff (keyCount : Nat) (c : Combo) :
    comboFault? keyCount c = none
      ↔ c.keyPositions ≠ [] ∧ ∀ p ∈ c.keyPositions, 0 ≤ p ∧ p < keyCount := by
  rw [← Position.outside_eq_nil_iff]
  unfold comboFault?
  dsimp only
  by_cases hp : c.keyPositions = []
  · simp [hp]
  · rw [if_neg (by simpa using hp), and_iff_right hp]
    by_cases ho : Position.outside keyCount c.keyPositions = []
    · simp [ho]
    · simp [ho]

/-- The warning of a name that is taken. -/
def nameReport (taken : List String) (position : Nat) (c : Combo) : Report :=
  let base := comboBase position c
  if base ∈ taken then
    [⟨.skippedEntry, "combo " ++ c.name, "node name '" ++ comboLead ++ base
      ++ "' already used, using '" ++ comboLead ++ Symbol.distinguish taken base position ++ "'"⟩]
  else []

theorem nameReport_eq_nil_iff (taken : List String) (position : Nat) (c : Combo) :
    nameReport taken position c = [] ↔ comboBase position c ∉ taken := by
  simp [nameReport]

section

variable (f : Formatter) (layout : Layout) (taken : List String) (position : Nat)

theorem comboNodes_cons_of_fault {c : Combo} {cause : String}
    (h : comboFault? layout.keyCount c = some cause) (rest : List Combo) :
    (comboNodes f layout taken position (c :: rest)).value
        = (comboNodes f layout taken (position + 1) rest).value ∧
      (comboNodes f layout taken position (c :: rest)).warnings
        = ⟨.skippedEntry, "combo " ++ c.name, cause⟩
          :: (comboNodes f layout taken (position + 1) rest).warnings := by
  rw [comboNodes]
  simp only [h]
  exact ⟨rfl, rfl⟩

theorem comboNodes_cons_of_none {c : Combo} (h : comboFault? layout.keyCount c = none)
    (rest : List Combo) :
    let symbol := Symbol.distinguish taken (comboBase position c) position
    (comboNodes f layout taken position (c :: rest)).value
        = (combo f layout symbol c).value
          :: (comboNodes f layout (symbol :: taken) (position + 1) rest).value ∧
      (comboNodes f layout taken position (c :: rest)).warnings
        = nameReport taken position c ++ ((combo f layout symbol c).warnings
          ++ (comboNodes f layout (symbol :: taken) (position + 1) rest).warnings) := by
  intro symbol
  rw [comboNodes]
  simp only [h]
  refine ⟨rfl, ?_⟩
  rw [Reported.warnings_bind, Reported.warnings_bind, Reported.warnings_bind,
    Reported.warnings_pure, List.append_nil, Reported.warnings_warnIf]
  -- What remains is the report on the name, spelled as a test of membership.
  refine congrArg (· ++ _) ?_
  unfold nameReport
  simp only [List.contains_iff_mem]
  rfl

/-- There is one node for each combo that has key positions with keys. -/
theorem length_comboNodes (cs : List Combo) :
    (comboNodes f layout taken position cs).value.length
      = cs.countP fun c => (comboFault? layout.keyCount c).isNone := by
  induction cs generalizing taken position with
  | nil => rfl
  | cons c rest ih =>
    rcases h : comboFault? layout.keyCount c with - | cause
    · rw [(comboNodes_cons_of_none f layout taken position h rest).1, List.length_cons, ih,
        List.countP_cons_of_pos (by rw [h]; rfl)]
    · rw [(comboNodes_cons_of_fault f layout taken position h rest).1, ih,
        List.countP_cons_of_neg (by rw [h]; simp)]

/-- All combos have nodes exactly when none has a fault. -/
theorem length_comboNodes_eq_iff (cs : List Combo) :
    (comboNodes f layout taken position cs).value.length = cs.length
      ↔ ∀ c ∈ cs, comboFault? layout.keyCount c = none := by
  rw [length_comboNodes, List.countP_eq_length]
  simp

/-- The combos give no warning when all of them have nodes, their bindings and limits are written
as they are given, and their own symbols are distinct and not taken before. -/
theorem warnings_comboNodes_eq_nil_iff (cs : List Combo) :
    (comboNodes f layout taken position cs).warnings = [] ↔
      (∀ c ∈ cs, comboFault? layout.keyCount c = none) ∧
        (∀ c ∈ cs, f.Writable c.binding ∧ LimitResolves f.layers c.layers) ∧
        (cs.mapIdx fun i c => comboBase (position + i) c).Nodup ∧
        ∀ base ∈ cs.mapIdx (fun i c => comboBase (position + i) c), base ∉ taken := by
  induction cs generalizing taken position with
  | nil => simp [comboNodes]
  | cons c rest ih =>
    rw [List.forall_mem_cons]
    rcases h : comboFault? layout.keyCount c with - | cause
    · have shift : ∀ i, position + 1 + i = position + (i + 1) := fun i => by omega
      obtain ⟨-, hwarnings⟩ := comboNodes_cons_of_none f layout taken position h rest
      rw [hwarnings, List.append_eq_nil_iff, List.append_eq_nil_iff, nameReport_eq_nil_iff,
        warnings_combo_eq_nil_iff, List.mapIdx_cons, Nat.add_zero, nodup_cons_and_new_iff,
        List.forall_mem_cons]
      by_cases hb : comboBase position c ∈ taken
      · exact iff_of_false (fun hn => hn.1 hb) fun hn => hn.2.2.1 hb
      · -- A name that is free is its own symbol, so the names taken are the bases before it.
        have tail := ih (comboBase position c :: taken) (position + 1)
        simp only [shift] at tail
        rw [Symbol.distinguish_of_not_mem hb, tail]
        constructor
        · rintro ⟨-, hc, hnone, hrest, hbases⟩
          exact ⟨⟨rfl, hnone⟩, ⟨hc, hrest⟩, hb, hbases⟩
        · rintro ⟨⟨-, hnone⟩, ⟨hc, hrest⟩, -, hbases⟩
          exact ⟨hb, hc, hnone, hrest, hbases⟩
    · rw [(comboNodes_cons_of_fault f layout taken position h rest).2]
      exact iff_of_false (by simp) fun hn => nomatch hn.1.1

end

theorem warnings_combos_eq_nil_iff (f : Formatter) (layout : Layout) (cs : List Combo) :
    (combos f layout cs).warnings = [] ↔
      (∀ c ∈ cs, comboFault? layout.keyCount c = none) ∧
        (∀ c ∈ cs, f.Writable c.binding ∧ LimitResolves f.layers c.layers) ∧
        (cs.mapIdx comboBase).Nodup := by
  unfold combos
  rw [Reported.warnings_bind, Reported.warnings_pure, List.append_nil,
    warnings_comboNodes_eq_nil_iff]
  simp

end Node

end KeymapCompiler
