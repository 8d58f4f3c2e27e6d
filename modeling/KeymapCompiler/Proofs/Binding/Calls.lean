/-
KeymapCompiler/Proofs/Binding/Calls.lean

Calls of user behaviors.  A call is written with exactly as many cells as the
behavior takes: parameters past the last are left out, and missing ones are
written as `0`.  Neither is an error, so a call with a wrong number of parameters
is written like the call that has them right.

`fit` makes this repair explicit, as a change of the binding.  A binding that can
be written is written like its repair (`format_fit`), and the repair changes
nothing exactly when the number of parameters is right (`fit_eq_self_iff`).

What a call looks like is said cell by cell (`CallCells`).  Only the number of cells
depends on the registry: whether the call can be written at all depends on its
parameters alone (`format_call_eq_ok_iff`).
-/
import KeymapCompiler.Binding.Format
import KeymapCompiler.Proofs.Except

namespace KeymapCompiler

open KeymapCompiler.Behavior

/-- Items are related to those of some list exactly when each is related to something. -/
theorem exists_forall₂_iff {α β : Type} {R : α → β → Prop} {xs : List α} :
    (∃ ys, List.Forall₂ R xs ys) ↔ ∀ x ∈ xs, ∃ y, R x y := by
  induction xs with
  | nil => simp
  | cons x rest ih =>
    rw [List.forall_mem_cons, ← ih]
    constructor
    · rintro ⟨_, hys⟩
      obtain ⟨y, ys, hx, hrest, -⟩ := List.forall₂_cons_left_iff.mp hys
      exact ⟨⟨y, hx⟩, ys, hrest⟩
    · rintro ⟨⟨y, hx⟩, ys, hrest⟩
      exact ⟨y :: ys, .cons hx hrest⟩

/-! ### Parameters -/

/-- As many parameters as a behavior takes: the first ones, and zeros for those that are
missing. -/
def fitParams (n : Nat) (ps : List Param) : List Param :=
  ps.take n ++ List.replicate (n - ps.length) (.int 0)

theorem length_fitParams (n : Nat) (ps : List Param) : (fitParams n ps).length = n := by
  rw [fitParams, List.length_append, List.length_take, List.length_replicate]
  omega

theorem fitParams_eq_self_iff (n : Nat) (ps : List Param) :
    fitParams n ps = ps ↔ ps.length = n := by
  constructor
  · intro h
    rw [← h, length_fitParams]
  · rintro rfl
    simp [fitParams]

/-- A zero is written `0`. -/
theorem forall₂_key_zeros (n : Nat) :
    List.Forall₂ (fun p text => Param.key 0 p = .ok text)
      (List.replicate n (Param.int 0)) (List.replicate n "0") := by
  induction n with
  | zero => exact .nil
  | succ n ih => exact .cons (by rw [Param.key]; rfl) ih

/-- The parameters that are kept are written as before, and each missing one as `0`. -/
theorem mapM_key_fitParams {ps : List Param} {texts : List String}
    (h : ps.mapM (Param.key 0) = .ok texts) (n : Nat) :
    (fitParams n ps).mapM (Param.key 0)
      = .ok (Formatter.fitCells (some n) texts) := by
  have written := (mapM_eq_ok_iff _ _ _).mp h
  rw [mapM_eq_ok_iff, fitParams, written.length_eq]
  exact List.rel_append (List.forall₂_take n written) (forall₂_key_zeros _)

namespace Formatter

variable {f : Formatter} {b : Binding} {n : Nat}

/-! ### Calls -/

/-- The number of parameters that a call of a user behavior takes; nothing for all other
bindings. -/
def callArity? (f : Formatter) (b : Binding) : Option Nat :=
  if (family? b.behavior).isNone && isReference (canonical b.behavior) then
    f.registry.arity? (canonical b.behavior)
  else none

/-- A binding that can be written. -/
def Writable (f : Formatter) (b : Binding) : Prop :=
  ∃ text, f.format b = .ok text

/-- A reference that is not built in is a call. -/
theorem format_of_isReference (hfamily : family? b.behavior = none)
    (hreference : isReference (canonical b.behavior) = true) :
    f.format b = f.call (canonical b.behavior) b.params := by
  have family : family? (canonical b.behavior) = none := by
    rw [family?, canonical_canonical]
    exact hfamily
  -- A reference has a sigil, which the empty name and the name of raw bindings do not have.
  have named : canonical b.behavior ≠ "" := by
    intro e
    rw [e] at hreference
    exact absurd hreference (by decide)
  have cooked : canonical b.behavior ≠ rawName := by
    intro e
    rw [e] at hreference
    exact absurd hreference (by decide)
  unfold format
  simp only [family]
  rw [if_neg named, if_neg cooked, if_pos hreference]

theorem format_of_callArity? (h : f.callArity? b = some n) :
    f.format b = f.call (canonical b.behavior) b.params := by
  unfold callArity? at h
  split at h
  · rename_i hc
    obtain ⟨hfamily, hreference⟩ := Bool.and_eq_true_iff.mp hc
    exact format_of_isReference (Option.isNone_iff_eq_none.mp hfamily) hreference
  · cases h

/-- A call is written with as many cells as the behavior takes. -/
theorem format_of_mapM (h : f.callArity? b = some n) {texts : List String}
    (hm : b.params.mapM (Param.key 0) = .ok texts) :
    f.format b
      = .ok (Devicetree.cells (canonical b.behavior :: fitCells (some n) texts)) := by
  have arity : f.registry.arity? (canonical b.behavior) = some n := by
    unfold callArity? at h
    split at h
    · exact h
    · cases h
  rw [format_of_callArity? h, call, hm, arity]
  rfl

/-- The parameters of a call that can be written are keys. -/
theorem exists_mapM_of_callArity? (hw : f.Writable b) (h : f.callArity? b = some n) :
    ∃ texts, b.params.mapM (Param.key 0) = .ok texts := by
  obtain ⟨text, ht⟩ := hw
  rw [format_of_callArity? h, call] at ht
  rcases hm : b.params.mapM (Param.key 0) with error | texts
  · rw [hm] at ht
    cases ht
  · exact ⟨texts, rfl⟩

theorem length_fitCells (n : Nat) (texts : List String) :
    (fitCells (some n) texts).length = n := by
  rw [fitCells, List.length_append, List.length_take, List.length_replicate]
  omega

/-- Cells that are as many as a behavior takes stay as they are. -/
theorem fitCells_of_length_eq {texts : List String} (h : texts.length = n) :
    fitCells (some n) texts = texts := by
  subst h
  simp [fitCells]

/-! ### The repair -/

/-- A call with as many parameters as the behavior takes; all other bindings stay as they
are. -/
def fit (f : Formatter) (b : Binding) : Binding :=
  match f.callArity? b with
  | some n => { b with params := fitParams n b.params }
  | none => b

theorem fit_of_some (h : f.callArity? b = some n) :
    f.fit b = ⟨b.behavior, fitParams n b.params⟩ := by
  rw [fit, h]

theorem fit_of_none (h : f.callArity? b = none) : f.fit b = b := by
  rw [fit, h]

/-- The repair changes nothing exactly when the number of parameters is right. -/
theorem fit_eq_self_iff (f : Formatter) (b : Binding) :
    f.fit b = b ↔ ∀ n, f.callArity? b = some n → b.params.length = n := by
  rcases h : f.callArity? b with - | n
  · rw [fit_of_none h]
    exact iff_of_true rfl fun n e => nomatch e
  · rw [fit_of_some h]
    constructor
    · intro e k hk
      obtain rfl := Option.some.inj hk
      exact (fitParams_eq_self_iff n b.params).mp (congrArg Binding.params e)
    · intro hn
      rw [(fitParams_eq_self_iff n b.params).mpr (hn n rfl)]

/-- A binding that can be written is written like its repair. -/
theorem format_fit (hw : f.Writable b) : f.format (f.fit b) = f.format b := by
  rcases h : f.callArity? b with - | n
  · rw [fit_of_none h]
  · have hfit : f.callArity? (f.fit b) = some n := by
      rw [fit_of_some h]
      exact h
    obtain ⟨texts, hm⟩ := exists_mapM_of_callArity? hw h
    have hm' : (f.fit b).params.mapM (Param.key 0) = .ok (fitCells (some n) texts) := by
      rw [fit_of_some h]
      exact mapM_key_fitParams hm n
    have same : canonical (f.fit b).behavior = canonical b.behavior := by
      rw [fit_of_some h]
    rw [format_of_mapM hfit hm', format_of_mapM h hm, same,
      fitCells_of_length_eq (length_fitCells n texts)]

/-- A repair is not reported. -/
theorem reported_fit (hw : f.Writable b) (context : String) :
    f.reported context (f.fit b) = f.reported context b := by
  obtain ⟨text, ht⟩ := hw
  unfold reported
  rw [format_fit ⟨text, ht⟩, ht]

/-! ### The cells of a call -/

/-- The cells of a call, given how many parameters the behavior takes, if that is known, and the
texts of the parameters. -/
structure CallCells (arity : Option Nat) (texts cells : List String) : Prop where
  /-- There are as many as the behavior takes; if that is not known, as many as parameters. -/
  length : cells.length = arity.getD texts.length
  /-- A cell with a parameter has its text. -/
  given : ∀ i < cells.length, i < texts.length → cells[i]? = texts[i]?
  /-- A cell without one is zero. -/
  missing : ∀ i < cells.length, texts.length ≤ i → cells[i]? = some "0"

theorem callCells_fitCells (arity : Option Nat) (texts : List String) :
    CallCells arity texts (fitCells arity texts) := by
  rcases arity with - | n
  · exact ⟨rfl, fun i _ _ => rfl, fun i hi hle => absurd hi (Nat.not_lt.mpr hle)⟩
  · refine ⟨length_fitCells n texts, fun i hi hlt => ?_, fun i hi hle => ?_⟩
    · -- Cells of parameters, of which there may be too many.
      rw [length_fitCells] at hi
      have taken : i < (texts.take n).length := by
        rw [List.length_take]
        omega
      rw [fitCells, List.getElem?_append_left taken, List.getElem?_take_of_lt hi]
    · -- Cells that are filled up, behind all parameters.
      rw [length_fitCells] at hi
      have taken : (texts.take n).length = texts.length := by
        rw [List.length_take]
        omega
      rw [fitCells, List.getElem?_append_right (by omega), taken,
        List.getElem?_replicate_of_lt (by omega)]

/-- There is one way to have as many cells as the behavior takes. -/
theorem callCells_iff {arity : Option Nat} {texts cells : List String} :
    CallCells arity texts cells ↔ cells = fitCells arity texts := by
  constructor
  · intro h
    have fitted := callCells_fitCells arity texts
    have length : cells.length = (fitCells arity texts).length := h.length.trans fitted.length.symm
    refine List.ext_getElem? fun i => ?_
    rcases Nat.lt_or_ge i cells.length with hi | hi
    · rcases Nat.lt_or_ge i texts.length with hlt | hle
      · rw [h.given i hi hlt, fitted.given i (length ▸ hi) hlt]
      · rw [h.missing i hi hle, fitted.missing i (length ▸ hi) hle]
    · rw [List.getElem?_eq_none hi, List.getElem?_eq_none (length ▸ hi)]
  · rintro rfl
    exact callCells_fitCells arity texts

/-- Each cell follows a space. -/
theorem cells_cons (behavior : String) (cells : List String) :
    Devicetree.cells (behavior :: cells) = behavior ++ String.join (cells.map (" " ++ ·)) := by
  unfold Devicetree.cells
  induction cells generalizing behavior with
  | nil => simp
  | cons cell rest ih =>
    rw [String.intercalate_cons_cons, ih, List.map_cons, String.join_cons]
    simp only [String.append_assoc]

/-- **Cells of a call.**  A call of a behavior that is not built in is written exactly when all of
its parameters are keys, those past the last cell included.  It is written as the reference with
one cell after the other: as many as the behavior takes, which hold the first parameters and zeros
for those that are missing, or one for each parameter if the behavior is not known. -/
theorem format_call_eq_ok_iff (f : Formatter) {behavior : String}
    (hreference : isReference behavior = true) (hfamily : family? behavior = none)
    (params : List Param) :
    (f.Writable ⟨behavior, params⟩ ↔ ∀ p ∈ params, ∃ text, p.key 0 = .ok text) ∧
      ∀ text, f.format ⟨behavior, params⟩ = .ok text ↔
        ∃ texts cells, List.Forall₂ (fun p t => Param.key 0 p = .ok t) params texts ∧
          CallCells (f.registry.arity? behavior) texts cells ∧
          text = behavior ++ String.join (cells.map (" " ++ ·)) := by
  have name : canonical behavior = behavior := canonical_of_family?_eq_none hfamily
  have called : f.format ⟨behavior, params⟩ = f.call behavior params := by
    have h := format_of_isReference (f := f) (b := ⟨behavior, params⟩) hfamily
      (by rw [name]; exact hreference)
    rwa [name] at h
  -- All parameters are written before they are fitted, so one that is dropped has to be good as
  -- well.
  have written : ∀ text, f.format ⟨behavior, params⟩ = .ok text ↔
      ∃ texts, List.Forall₂ (fun p t => Param.key 0 p = .ok t) params texts ∧
        text = Devicetree.cells (behavior :: fitCells (f.registry.arity? behavior) texts) := by
    intro text
    rw [called, call]
    rcases hm : params.mapM (Param.key 0) with error | texts
    · refine iff_of_false (fun h => nomatch h) ?_
      rintro ⟨texts, htexts, -⟩
      rw [(mapM_eq_ok_iff _ _ _).mpr htexts] at hm
      cases hm
    · constructor
      · intro h
        exact ⟨texts, (mapM_eq_ok_iff _ _ _).mp hm, (Except.ok.inj h).symm⟩
      · rintro ⟨others, hothers, rfl⟩
        rw [(mapM_eq_ok_iff _ _ _).mpr hothers] at hm
        rw [Except.ok.inj hm]
        rfl
  refine ⟨?_, fun text => ?_⟩
  · -- The fitting cannot fail, so the texts of the parameters decide.
    unfold Writable
    simp only [written, exists_comm (β := List String), exists_and_left, exists_eq, and_true]
    exact exists_forall₂_iff
  · rw [written]
    refine exists_congr fun texts => ?_
    simp only [callCells_iff, cells_cons, exists_and_left, exists_eq_left]

/-- A hold-tap that is given one parameter is written with a zero for the other. -/
theorem format_call_sample :
    isReference "&hm" = true ∧ family? "&hm" = none ∧
      (Formatter.mk (Registry.withBuiltins.registerAll [⟨"&hm", 2, .holdTap⟩]) []).format
        ⟨"&hm", [.call "LCTL" [.str "1"]]⟩ = .ok "&hm LC(N1) 0" := by
  have hreference : isReference "&hm" = true := by decide
  have hfamily : family? "&hm" = none := by decide +kernel
  have arity : (Registry.withBuiltins.registerAll [⟨"&hm", 2, .holdTap⟩]).arity? "&hm"
      = some 2 := by decide +kernel
  refine ⟨hreference, hfamily, ((format_call_eq_ok_iff _ hreference hfamily _).2 _).mpr ?_⟩
  refine ⟨["LC(N1)"], ["LC(N1)", "0"], .cons (by decide +kernel) .nil, ?_, by decide +kernel⟩
  rw [arity]
  exact callCells_fitCells (some 2) ["LC(N1)"]

end Formatter

end KeymapCompiler
