/-
KeymapCompiler/Proofs/Kconfig/Accounting.lean

What becomes of each build parameter.  A parameter can make a setting when it resolves to
a symbol, has a value that can be used, and the value can be written in the symbol's
type (`CanMake`); this does not depend on the other parameters.  It makes the setting
when no parameter before it has set the symbol.

`Account` lists, parameter by parameter, the setting that was made, if any, and the
warnings.  It is kept by every step (`Account.make`, `Account.skip`), so there is one
for all parameters (`exists_account_settle`).  From the account alone it follows that the
first parameter that can set a symbol sets it (`Account.makes_iff_first`): one that cannot
does not stand in the way.
-/
import KeymapCompiler.Proofs.Kconfig.Settings
import Mathlib.Data.List.Forall2
import Mathlib.Data.List.ReduceOption

namespace KeymapCompiler.Kconfig

open KeymapCompiler.Text

/-! ### What a parameter can set -/

/-- The text of a value that is a string, a truth value or a number. -/
inductive ScalarText : Json.Value → String → Prop where
  /-- A string. -/
  | string (s : String) : ScalarText (.string s) s
  /-- Truth. -/
  | yes : ScalarText (.bool true) "y"
  /-- Falsehood. -/
  | no : ScalarText (.bool false) "n"
  /-- A number. -/
  | number (n : Json.Number) : ScalarText (.number n) n.text

theorem valueText_eq_ok_iff {v : Json.Value} {text : String} :
    valueText v = .ok text ↔ ScalarText v text := by
  constructor
  · intro h
    cases v with
    | string s => exact Except.ok.inj h ▸ .string s
    | number n => exact Except.ok.inj h ▸ .number n
    | bool b =>
      cases b with
      | true => exact Except.ok.inj h ▸ .yes
      | false => exact Except.ok.inj h ▸ .no
    | null | array items | object fields => cases h
  · intro h
    cases h with
    | string s => rfl
    | yes => rfl
    | no => rfl
    | number n => rfl

/-- The text of the value that is in force: a parameter's own value, or in place of `null` the one
that the map gives. -/
inductive UsableText : Json.Value → Option Json.Value → String → Prop where
  /-- The parameter's own value. -/
  | own {value : Json.Value} {fallback : Option Json.Value} {text : String} :
    ScalarText value text → UsableText value fallback text
  /-- The value that the map gives. -/
  | fallback {value : Json.Value} {text : String} :
    ScalarText value text → UsableText .null (some value) text

theorem usableText_iff {value : Json.Value} {fallback : Option Json.Value} {text : String} :
    UsableText value fallback text ↔ valueText (effective value fallback) = .ok text := by
  rw [valueText_eq_ok_iff]
  constructor
  · intro h
    cases h with
    | own h =>
      cases h with
      | string => exact .string _
      | yes => exact .yes
      | no => exact .no
      | number n => exact .number n
    | fallback h => exact h
  · intro h
    cases value with
    -- A null counts as no value, so the fallback is used.
    | null =>
      rcases fallback with - | v
      · cases h
      · exact .fallback h
    | bool b | number n | string s | array items | object fields => exact .own h

/-- A parameter can make a setting: it resolves to the symbol, and a value that it can use is
written so in the type of the symbol. -/
def CanMake (map : Map) (p : ConfigParameter) (s : Setting) : Prop :=
  ∃ e text, resolve? map (trimmed p.name) = some e ∧ UsableText p.value e.fallback text ∧
    e.type.render text = .ok s.value ∧
    s = ⟨e.symbol, s.value, trimmed p.name, p.description.or e.description⟩

/-- The name of a symbol's type is not one of those that are known. -/
def Entry.HasUnknownType (e : Entry) : Prop :=
  ∃ name, e.typeName = some name ∧ lowered name ∉ SymbolType.named.map (·.1)

variable {map : Map} {taken : List String} {p : ConfigParameter} {s : Setting}

/-- A parameter makes a setting that it can make when the symbol is not taken. -/
theorem exists_setting_eq_ok_iff :
    (∃ type, setting map taken p = .ok (s, type)) ↔ CanMake map p s ∧ s.symbol ∉ taken := by
  simp only [setting_eq_ok_iff, ← usableText_iff]
  constructor
  · rintro ⟨type, e, text, he, hfree, htext, hrender, hs, -⟩
    refine ⟨⟨e, text, he, htext, hrender, hs⟩, ?_⟩
    rw [hs]
    exact hfree
  · rintro ⟨⟨e, text, he, htext, hrender, hs⟩, hfree⟩
    rw [hs] at hfree
    exact ⟨e.type, e, text, he, hfree, htext, hrender, hs, rfl⟩

/-! ### Reports -/

/-- A type is not recognized exactly when its name is not known. -/
theorem exists_type_eq_unknown_iff (e : Entry) :
    (∃ name, e.type = .unknown (some name)) ↔ e.HasUnknownType := by
  have known : ∀ t ∈ SymbolType.named, ∀ name, t.2 ≠ .unknown (some name) := by
    simp [SymbolType.named]
  unfold Entry.type Entry.HasUnknownType
  rcases e.typeName with - | name
  · simp [SymbolType.ofName]
  simp only [SymbolType.ofName, Option.some.injEq, exists_eq_left']
  -- A name is unknown exactly when the table does not list it in lower case.
  rcases hlookup : SymbolType.named.lookup (lowered name) with - | t
  · refine iff_of_true ⟨lowered name, rfl⟩ fun hmem => ?_
    obtain ⟨t, ht, e⟩ := List.mem_map.mp hmem
    have other := List.lookup_eq_none_iff.mp hlookup t ht
    simp [e] at other
  · obtain ⟨before, after, hnamed, -⟩ := List.lookup_eq_some_iff.mp hlookup
    have hmem : (lowered name, t) ∈ SymbolType.named := by simp [hnamed]
    refine iff_of_false ?_ (not_not_intro (List.mem_map.mpr ⟨_, hmem, rfl⟩))
    rintro ⟨other, e⟩
    exact known _ hmem other e

/-- What a parameter reports, given the setting that it has made, if any. -/
inductive ParameterReport (map : Map) (p : ConfigParameter) : Option Setting → Report → Prop where
  /-- It resolves to nothing. -/
  | unresolved (message : String) (h : resolve? map (trimmed p.name) = none) :
    ParameterReport map p none
      [⟨.configMappingMiss, "config parameter " ++ trimmed p.name, message⟩]
  /-- It resolves to a symbol and does not set it. -/
  | skipped {e : Entry} (message : String) (h : resolve? map (trimmed p.name) = some e) :
    ParameterReport map p none [⟨.skippedEntry, "config parameter " ++ trimmed p.name, message⟩]
  /-- It sets a symbol of an unknown type. -/
  | unknownType {e : Entry} {s : Setting} (message : String)
    (h : resolve? map (trimmed p.name) = some e) (htype : e.HasUnknownType) :
    ParameterReport map p (some s)
      [⟨.invalidParameterShape, "config parameter " ++ trimmed p.name, message⟩]
  /-- It sets a symbol, and there is nothing to report. -/
  | silent {e : Entry} {s : Setting} (h : resolve? map (trimmed p.name) = some e)
    (htype : ¬ e.HasUnknownType) : ParameterReport map p (some s) []

theorem kind_of_valueText {v : Json.Value} {cause : SkipCause} (h : valueText v = .error cause) :
    cause.kind = .skippedEntry := by
  cases v with
  | null | array items | object fields =>
    cases h
    rfl
  | bool b | number n | string s => cases h

theorem kind_of_renderBool {text : String} {cause : SkipCause}
    (h : renderBool text = .error cause) : cause.kind = .skippedEntry := by
  revert h
  fun_cases renderBool text
  all_goals
    rintro ⟨⟩
  rfl

theorem kind_of_renderInt {text : String} {cause : SkipCause}
    (h : renderInt text = .error cause) : cause.kind = .skippedEntry := by
  revert h
  fun_cases renderInt text
  all_goals
    rintro ⟨⟩
  all_goals rfl

theorem kind_of_render {type : SymbolType} {text : String} {cause : SkipCause}
    (h : type.render text = .error cause) : cause.kind = .skippedEntry := by
  cases type with
  | bool =>
    rw [SymbolType.render] at h
    exact kind_of_renderBool h
  | int =>
    rw [SymbolType.render] at h
    exact kind_of_renderInt h
  | string | unknown name => cases h

/-- Only a parameter that resolves to nothing is skipped for that. -/
theorem kind_of_setting {cause : SkipCause} {e : Entry} (h : setting map taken p = .error cause)
    (he : resolve? map (trimmed p.name) = some e) : cause.kind = .skippedEntry := by
  unfold setting at h
  dsimp only at h
  rw [he] at h
  dsimp only at h
  -- Three checks are left when the entry is there: the symbol, the value and its text.
  split at h
  · cases h
    rfl
  · rcases hv : valueText (effective p.value e.fallback) with cause' | text
    · rw [hv] at h
      cases h
      exact kind_of_valueText hv
    · rw [hv] at h
      change (e.type.render text >>= _) = _ at h
      rcases hr : e.type.render text with cause' | value
      · rw [hr] at h
        cases h
        exact kind_of_render hr
      · rw [hr] at h
        cases h

/-- A parameter that is skipped reports why. -/
theorem reports_of_error {cause : SkipCause} (h : setting map taken p = .error cause) :
    ParameterReport map p none
      [⟨cause.kind, "config parameter " ++ trimmed p.name, cause.message⟩] := by
  rcases he : resolve? map (trimmed p.name) with - | e
  · have unmapped : setting map taken p = .error .noMapping := by
      unfold setting
      dsimp only
      rw [he]
    rw [unmapped] at h
    cases h
    exact .unresolved _ he
  · rw [kind_of_setting h he]
    exact .skipped _ he

/-- A parameter that makes a setting reports the type of the symbol if it is unknown. -/
theorem reports_of_ok {type : SymbolType} (h : setting map taken p = .ok (s, type)) :
    ParameterReport map p (some s)
      (typeWarning ("config parameter " ++ trimmed p.name) type) := by
  obtain ⟨e, text, he, -, -, -, -, rfl⟩ := setting_eq_ok_iff.mp h
  by_cases htype : e.HasUnknownType
  · obtain ⟨name, hname⟩ := (exists_type_eq_unknown_iff e).mpr htype
    rw [hname]
    exact .unknownType _ he htype
  · have hknown : typeWarning ("config parameter " ++ trimmed p.name) e.type = [] := by
      rw [typeWarning_eq_nil_iff]
      exact fun name hname => htype ((exists_type_eq_unknown_iff e).mp ⟨name, hname⟩)
    rw [hknown]
    exact .silent he htype

/-! ### Accounts -/

/-- An account of parameters, given the symbols that are taken: for each one the setting that it has
made, if any, and what it has reported. -/
structure Account (map : Map) (taken : List String) (ps : List ConfigParameter)
    (result : Reported Output) (made : List (Option Setting)) (reports : List Report) : Prop where
  /-- Every parameter is accounted for. -/
  length : made.length = ps.length
  /-- A parameter makes a setting exactly when it can, and the symbol is not taken and set by none
  before. -/
  makes_iff : ∀ (i : Nat) p, ps[i]? = some p → ∀ s, made[i]? = some (some s) ↔
    CanMake map p s ∧ s.symbol ∉ taken ∧
      ∀ j < i, ∀ t, made[j]? = some (some t) → t.symbol ≠ s.symbol
  /-- The settings are those that were made, in order. -/
  settings : result.value.settings = made.reduceOption
  /-- The skipped parameters are those that made none, in order. -/
  skipped : result.value.skipped
    = ((ps.zip made).filter fun x => x.2.isNone).map fun x => trimmed x.1.name
  /-- The warnings are those of the parameters, one after the other. -/
  warnings : result.warnings = reports.flatten
  /-- Each parameter reports on its own. -/
  reports : List.Forall₂ (fun x report => ParameterReport map x.1 x.2 report) (ps.zip made) reports

variable {rest : List ConfigParameter} {made : List (Option Setting)} {reports : List Report}

/-- A parameter that is skipped leaves the others their account. -/
theorem Account.skip {cause : SkipCause} (hp : setting map taken p = .error cause)
    (h : Account map taken rest (settle map taken rest) made reports) :
    Account map taken (p :: rest) (settle map taken (p :: rest)) (none :: made)
      ([⟨cause.kind, "config parameter " ++ trimmed p.name, cause.message⟩] :: reports) := by
  obtain ⟨hsettings, hskipped, hwarnings⟩ := settle_cons_of_error hp rest
  refine
    { length := by simp [h.length]
      makes_iff := fun i q hq s => ?_
      settings := by rw [hsettings, h.settings, List.reduceOption_cons_of_none]
      skipped := by simp [hskipped, h.skipped]
      warnings := by simp [hwarnings, h.warnings]
      reports := .cons (reports_of_error hp) h.reports }
  rcases i with - | i
  · -- The parameter itself sets nothing, and nothing that it could make has a free symbol.
    obtain rfl : p = q := by simpa using hq
    refine iff_of_false (by simp) ?_
    rintro ⟨hcan, hfree, -⟩
    obtain ⟨type, hok⟩ := exists_setting_eq_ok_iff.mpr ⟨hcan, hfree⟩
    rw [hp] at hok
    cases hok
  · rw [List.getElem?_cons_succ] at hq
    rw [List.getElem?_cons_succ, h.makes_iff i q hq s, Nat.forall_lt_succ_left]
    simp

/-- A parameter that makes a setting takes the symbol from the others. -/
theorem Account.make {type : SymbolType} (hp : setting map taken p = .ok (s, type))
    (h : Account map (s.symbol :: taken) rest (settle map (s.symbol :: taken) rest) made reports) :
    Account map taken (p :: rest) (settle map taken (p :: rest)) (some s :: made)
      (typeWarning ("config parameter " ++ trimmed p.name) type :: reports) := by
  obtain ⟨hsettings, hskipped, hwarnings⟩ := settle_cons_of_ok hp rest
  refine
    { length := by simp [h.length]
      makes_iff := fun i q hq t => ?_
      settings := by rw [hsettings, h.settings, List.reduceOption_cons_of_some]
      skipped := by simp [hskipped, h.skipped]
      warnings := by simp [hwarnings, h.warnings]
      reports := .cons (reports_of_ok hp) h.reports }
  rcases i with - | i
  · obtain rfl : p = q := by simpa using hq
    rw [List.getElem?_cons_zero, Option.some_inj, Option.some_inj]
    constructor
    · rintro rfl
      obtain ⟨hcan, hfree⟩ := exists_setting_eq_ok_iff.mp ⟨type, hp⟩
      exact ⟨hcan, hfree, fun j hj => absurd hj (Nat.not_lt_zero j)⟩
    · rintro ⟨hcan, hfree, -⟩
      obtain ⟨type', hok⟩ := exists_setting_eq_ok_iff.mpr ⟨hcan, hfree⟩
      rw [hp] at hok
      exact (Prod.mk.inj (Except.ok.inj hok)).1
  · rw [List.getElem?_cons_succ] at hq
    -- For those behind it the new symbol is taken, which is to say that this one has set it.
    have hfirst : (∀ t', (some s :: made)[0]? = some (some t') → t'.symbol ≠ t.symbol) ↔
        t.symbol ≠ s.symbol := by
      simp [eq_comm]
    rw [List.getElem?_cons_succ, h.makes_iff i q hq t, Nat.forall_lt_succ_left, hfirst,
      List.mem_cons, not_or]
    constructor
    · rintro ⟨hcan, ⟨hne, hfree⟩, hbefore⟩
      exact ⟨hcan, hfree, hne, hbefore⟩
    · rintro ⟨hcan, hfree, hne, hbefore⟩
      exact ⟨hcan, ⟨hne, hfree⟩, hbefore⟩

/-- There is an account of all parameters. -/
theorem exists_account_settle (map : Map) (taken : List String) (ps : List ConfigParameter) :
    ∃ made reports, Account map taken ps (settle map taken ps) made reports := by
  induction ps generalizing taken with
  | nil =>
    exact ⟨[], [], { length := rfl
                     makes_iff := fun i p h => nomatch h
                     settings := rfl
                     skipped := rfl
                     warnings := rfl
                     reports := .nil }⟩
  | cons p rest ih =>
    -- The symbols that are taken grow with each setting, so they are general in the induction.
    rcases hp : setting map taken p with cause | ⟨s, type⟩
    · obtain ⟨made, reports, h⟩ := ih taken
      exact ⟨_, _, h.skip hp⟩
    · obtain ⟨made, reports, h⟩ := ih (s.symbol :: taken)
      exact ⟨_, _, h.make hp⟩

/-! ### The first parameter wins -/

/-- The first of the parameters that can set a symbol sets it. -/
theorem Account.makes_iff_first {result : Reported Output} {ps : List ConfigParameter}
    (h : Account map taken ps result made reports) {i : Nat} (hp : ps[i]? = some p) :
    made[i]? = some (some s) ↔ CanMake map p s ∧ s.symbol ∉ taken ∧
      ∀ j < i, ∀ q, ps[j]? = some q → ∀ t, CanMake map q t → t.symbol ≠ s.symbol := by
  rw [h.makes_iff i p hp s]
  refine and_congr_right fun _ => and_congr_right fun hfree => ?_
  constructor
  · -- Where none before has set the symbol, one before that could would have set it.
    intro hbefore j hj q hq t hcan hsymbol
    refine hbefore j hj t ((h.makes_iff j q hq t).mpr ⟨hcan, hsymbol ▸ hfree, ?_⟩) hsymbol
    intro k hk u hmade hu
    exact hbefore k (Nat.lt_trans hk hj) u hmade (hu.trans hsymbol)
  · intro hbefore j hj t hmade
    have hlt : j < ps.length := by
      rw [← h.length]
      exact (List.getElem?_eq_some_iff.mp hmade).1
    have hq : ps[j]? = some ps[j] := List.getElem?_eq_getElem hlt
    exact hbefore j hj _ hq t ((h.makes_iff j _ hq t).mp hmade).1

/-- **Accounting.**  Every build parameter makes one setting or is skipped with one warning, and of
the parameters that can set a symbol the first one does. -/
theorem configure_accounts (map : Map) (ps : List ConfigParameter) :
    ∃ made reports, Account map [] ps (configure map ps) made reports ∧
      (∀ (i : Nat) p, ps[i]? = some p → ∀ s, made[i]? = some (some s) ↔ CanMake map p s ∧
        ∀ j < i, ∀ q, ps[j]? = some q → ∀ t, CanMake map q t → t.symbol ≠ s.symbol) ∧
      ((configure map ps).value.settings.map (·.symbol)).Nodup ∧
      (configure map ps).value.settings.length + (configure map ps).value.skipped.length
        = ps.length := by
  obtain ⟨made, reports, h⟩ := exists_account_settle map [] ps
  refine ⟨made, reports, h, fun i p hp s => ?_, nodup_symbols_configure map ps,
    length_settle map [] ps⟩
  rw [h.makes_iff_first hp, and_iff_right List.not_mem_nil]

end KeymapCompiler.Kconfig

