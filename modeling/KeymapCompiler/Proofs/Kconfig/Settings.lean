/-
KeymapCompiler/Proofs/Kconfig/Settings.lean

What the build's configuration is made of.  `setting_eq_ok_iff` says once what a
parameter that sets a symbol must have: something that it resolves to, a symbol
that is free, a value, and a text of that value in the symbol's type.  From it
follow, by induction on the parameters, that no symbol is set twice
(`nodup_symbols_settle`) and when there is nothing to warn of
(`warnings_settle_eq_nil_iff`).
-/
import KeymapCompiler.Kconfig

namespace KeymapCompiler.Kconfig

open KeymapCompiler.Text

variable {map : Map} {taken : List String} {p : ConfigParameter}

/-! ### One parameter -/

/-- What a parameter needs to make a setting. -/
theorem setting_eq_ok_iff {s : Setting} {type : SymbolType} :
    setting map taken p = .ok (s, type) ↔
      ∃ e text, resolve? map (trimmed p.name) = some e ∧ e.symbol ∉ taken ∧
        valueText (effective p.value e.fallback) = .ok text ∧
        e.type.render text = .ok s.value ∧
        s = ⟨e.symbol, s.value, trimmed p.name, p.description.or e.description⟩ ∧
        type = e.type := by
  unfold setting
  dsimp only
  -- The checks in the order in which they are made; only the last case makes a setting.
  rcases resolve? map (trimmed p.name) with - | e
  · simp
  · by_cases ht : e.symbol ∈ taken
    · simp [ht]
    · rcases hv : valueText (effective p.value e.fallback) with cause | text
      · simp [ht, hv, bind, Except.bind]
      · rcases hr : e.type.render text with cause | value
        · simp [ht, hv, hr, bind, Except.bind]
        · simp only [List.contains_eq_mem, ht, decide_false, hv, hr, bind, Except.bind]
          constructor
          · intro h
            obtain ⟨rfl, rfl⟩ := Prod.mk.inj (Except.ok.inj h)
            exact ⟨e, text, rfl, ht, hv, hr, rfl, rfl⟩
          · rintro ⟨e', text', h, -, hv', hr', hs, rfl⟩
            obtain rfl := Option.some.inj h
            rw [hv] at hv'
            obtain rfl := Except.ok.inj hv'
            rw [hr] at hr'
            obtain e := Except.ok.inj hr'
            rw [hs, ← e]
            rfl

theorem symbol_not_mem_of_setting {s : Setting} {type : SymbolType}
    (h : setting map taken p = .ok (s, type)) : s.symbol ∉ taken := by
  obtain ⟨e, text, -, ht, -, -, hs, -⟩ := setting_eq_ok_iff.mp h
  rw [hs]
  exact ht

/-! ### One step -/

theorem settle_cons_of_ok {s : Setting} {type : SymbolType}
    (h : setting map taken p = .ok (s, type)) (rest : List ConfigParameter) :
    (settle map taken (p :: rest)).value.settings
        = s :: (settle map (s.symbol :: taken) rest).value.settings ∧
      (settle map taken (p :: rest)).value.skipped
        = (settle map (s.symbol :: taken) rest).value.skipped ∧
      (settle map taken (p :: rest)).warnings
        = typeWarning ("config parameter " ++ trimmed p.name) type
          ++ (settle map (s.symbol :: taken) rest).warnings := by
  rw [settle]
  simp only [h]
  refine ⟨rfl, rfl, ?_⟩
  simp

theorem settle_cons_of_error {cause : SkipCause} (h : setting map taken p = .error cause)
    (rest : List ConfigParameter) :
    (settle map taken (p :: rest)).value.settings = (settle map taken rest).value.settings ∧
      (settle map taken (p :: rest)).value.skipped
        = trimmed p.name :: (settle map taken rest).value.skipped ∧
      (settle map taken (p :: rest)).warnings
        = ⟨cause.kind, "config parameter " ++ trimmed p.name, cause.message⟩
          :: (settle map taken rest).warnings := by
  rw [settle]
  simp only [h]
  refine ⟨rfl, rfl, ?_⟩
  simp

/-! ### All parameters -/

/-- No symbol is set twice, and none that is set before. -/
theorem nodup_symbols_settle (map : Map) (taken : List String) (ps : List ConfigParameter) :
    ((settle map taken ps).value.settings.map (·.symbol)).Nodup ∧
      ∀ s ∈ (settle map taken ps).value.settings, s.symbol ∉ taken := by
  induction ps generalizing taken with
  | nil => exact ⟨List.nodup_nil, fun s hs => nomatch hs⟩
  | cons p rest ih =>
    rcases hp : setting map taken p with cause | ⟨s, type⟩
    · rw [(settle_cons_of_error hp rest).1]
      exact ih taken
    · obtain ⟨hnodup, hfree⟩ := ih (s.symbol :: taken)
      rw [(settle_cons_of_ok hp rest).1, List.map_cons, List.nodup_cons]
      refine ⟨⟨?_, hnodup⟩, ?_⟩
      · -- A later setting with this symbol would have found it taken.
        intro hm
        obtain ⟨s', hs', e⟩ := List.mem_map.mp hm
        exact hfree s' hs' (e ▸ List.mem_cons_self)
      · intro s' hs'
        rcases List.mem_cons.mp hs' with rfl | hs'
        · exact symbol_not_mem_of_setting hp
        · exact fun hm => hfree s' hs' (List.mem_cons_of_mem _ hm)

theorem nodup_symbols_configure (map : Map) (ps : List ConfigParameter) :
    ((configure map ps).value.settings.map (·.symbol)).Nodup :=
  (nodup_symbols_settle map [] ps).1

/-- Only a type whose name is not recognized gives a warning. -/
theorem typeWarning_eq_nil_iff (context : String) (type : SymbolType) :
    typeWarning context type = [] ↔ ∀ name, type ≠ .unknown (some name) := by
  unfold typeWarning
  split
  · rename_i name
    constructor
    · intro h
      cases h
    · intro h
      exact absurd rfl (h name)
  · rename_i h
    exact ⟨fun _ name e => h name e, fun _ => rfl⟩

/-- There is nothing to warn of when no parameter is skipped and none has a symbol of a type that
is not recognized. -/
theorem warnings_settle_eq_nil_iff (map : Map) (taken : List String)
    (ps : List ConfigParameter) :
    (settle map taken ps).warnings = [] ↔
      (settle map taken ps).value.skipped = [] ∧
        ∀ p ∈ ps, ∀ e, resolve? map (trimmed p.name) = some e →
          ∀ name, e.type ≠ .unknown (some name) := by
  induction ps generalizing taken with
  | nil => simp [settle]
  | cons p rest ih =>
    rcases hp : setting map taken p with cause | ⟨s, type⟩
    · obtain ⟨-, hskipped, hwarnings⟩ := settle_cons_of_error hp rest
      rw [hskipped, hwarnings]
      simp
    · -- A parameter that is set can still be reported, for an unknown type.
      obtain ⟨-, hskipped, hwarnings⟩ := settle_cons_of_ok hp rest
      obtain ⟨e, text, he, -, -, -, -, rfl⟩ := setting_eq_ok_iff.mp hp
      rw [hskipped, hwarnings, List.append_eq_nil_iff, typeWarning_eq_nil_iff, ih,
        List.forall_mem_cons, he]
      simp only [Option.some.injEq, forall_eq']
      exact and_left_comm

end KeymapCompiler.Kconfig
