/-
KeymapCompiler/Proofs/Kconfig/Integers.lean

Integers as settings.  The value of an integer symbol is read as a floating-point
number and cut at its point, whether the document gives it as a number or as text.
So an integer goes through 53 significant bits on its way, and what is written is the
integer rounded to these (`setting_of_spells`).

`integer_kept_iff` says which integers stay what they are.  An integer with more
bits is written as another one, and near the end of the range it is refused, because
it is rounded to one that 64 bits do not hold.
-/
import KeymapCompiler.Proofs.Decimal.Rounding
import KeymapCompiler.Proofs.Kconfig.Settings

namespace KeymapCompiler.Kconfig

open KeymapCompiler.Text KeymapCompiler.Decimal

/-! ### A parameter among others -/

/-- The symbols that are set after some parameters. -/
def takenAfter (map : Map) (taken : List String) (ps : List ConfigParameter) : List String :=
  ((settle map taken ps).value.settings.map (·.symbol)).reverse ++ taken

/-- Parameters are settled one after the other, given the symbols that are set before. -/
theorem settle_append (map : Map) (taken : List String) (before after : List ConfigParameter) :
    (settle map taken (before ++ after)).value.settings
        = (settle map taken before).value.settings
          ++ (settle map (takenAfter map taken before) after).value.settings ∧
      (settle map taken (before ++ after)).value.skipped
        = (settle map taken before).value.skipped
          ++ (settle map (takenAfter map taken before) after).value.skipped ∧
      (settle map taken (before ++ after)).warnings
        = (settle map taken before).warnings
          ++ (settle map (takenAfter map taken before) after).warnings := by
  induction before generalizing taken with
  | nil => exact ⟨rfl, rfl, rfl⟩
  | cons p rest ih =>
    rw [List.cons_append]
    -- The second part starts with the symbols that are taken behind the first.
    rcases hp : setting map taken p with cause | ⟨s, type⟩
    · obtain ⟨hsettings, hskipped, hwarnings⟩ := settle_cons_of_error hp rest
      obtain ⟨hsettings', hskipped', hwarnings'⟩ := settle_cons_of_error hp (rest ++ after)
      have same : takenAfter map taken (p :: rest) = takenAfter map taken rest := by
        rw [takenAfter, hsettings, takenAfter]
      obtain ⟨ihsettings, ihskipped, ihwarnings⟩ := ih taken
      rw [same, hsettings, hsettings', hskipped, hskipped', hwarnings, hwarnings', ihsettings,
        ihskipped, ihwarnings]
      exact ⟨rfl, rfl, rfl⟩
    · obtain ⟨hsettings, hskipped, hwarnings⟩ := settle_cons_of_ok hp rest
      obtain ⟨hsettings', hskipped', hwarnings'⟩ := settle_cons_of_ok hp (rest ++ after)
      have same : takenAfter map taken (p :: rest) = takenAfter map (s.symbol :: taken) rest := by
        rw [takenAfter, hsettings, takenAfter]
        simp
      obtain ⟨ihsettings, ihskipped, ihwarnings⟩ := ih (s.symbol :: taken)
      rw [same, hsettings, hsettings', hskipped, hskipped', hwarnings, hwarnings', ihsettings,
        ihskipped, ihwarnings, List.append_assoc]
      exact ⟨rfl, rfl, rfl⟩

/-! ### The text of an integer -/

theorem trim_eq_self {cs : List Char} (h : ∀ c ∈ cs, isBlank c = false) : trim cs = cs := by
  have start : trimStart cs = cs := by
    rcases cs with - | ⟨c, rest⟩
    · rfl
    · exact trimStart_cons_of_not_blank rest (h c List.mem_cons_self)
  rw [trim, start]
  rcases List.eq_nil_or_concat cs with rfl | ⟨rest, c, rfl⟩
  · rfl
  · rw [List.concat_eq_append] at h ⊢
    exact trimEnd_append_of_not_blank rest (h c (by simp))

theorem trim_toString (n : Int) : trim (toString n).toList = (toString n).toList := by
  refine trim_eq_self fun c hc => ?_
  rcases mem_toString hc with rfl | hdigit
  · decide
  · simp only [Char.isDigit_iff_toNat, Char.reduceToNat] at hdigit
    simp only [isBlank, Bool.or_eq_false_iff, Bool.and_eq_false_iff, decide_eq_false_iff_not,
      beq_eq_false_iff_ne, ne_eq]
    omega

/-- A decimal text is no hexadecimal literal. -/
theorem hexDigits?_toString (n : Int) : hexDigits? (toString n).toList = none := by
  unfold hexDigits?
  split
  · next h => simpa using mem_toString (n := n) (c := 'x') (by rw [h]; simp)
  · next h => simpa using mem_toString (n := n) (c := 'X') (by rw [h]; simp)
  · rfl

/-- An integer rounded to 53 significant bits. -/
def roundedInt (n : Int) : Int :=
  if n < 0 then -(rounded n.natAbs : Int) else rounded n.natAbs

theorem roundedInt_eq_self_iff (n : Int) : roundedInt n = n ↔ IsShort n.natAbs := by
  rw [← rounded_eq_self_iff, roundedInt]
  split
  · omega
  · omega

/-- The decimal text of an integer is written rounded, unless 64 bits do not hold what it is rounded
to. -/
theorem renderInt_of_trim {text : String} {n : Int} (htext : trim text.toList = (toString n).toList)
    (hmax : n.natAbs < 2 ^ 64) :
    renderInt text = if Word.isSigned 64 (roundedInt n) then .ok (toString (roundedInt n))
      else .error (.tooLarge text) := by
  obtain ⟨x, hx, htruncate⟩ := Numeral.exists_nearest_toString hmax
  unfold renderInt
  simp only [htext, hexDigits?_toString, hx, htruncate]
  rfl

/-! ### Parameters -/

/-- A value in the document spells an integer: as a number, or as text with blanks around it. -/
inductive Spells : Json.Value → Int → Prop where
  /-- A number. -/
  | number (n : Int) : Spells (.number (.int n)) n
  /-- A text. -/
  | text {s : String} {n : Int} : trimmed s = toString n → Spells (.string s) n

theorem Spells.exists_valueText {value : Json.Value} {n : Int} (h : Spells value n)
    (fallback : Option Json.Value) :
    ∃ text, valueText (effective value fallback) = .ok text ∧
      trim text.toList = (toString n).toList := by
  cases h with
  | number => exact ⟨toString n, rfl, trim_toString n⟩
  | @text s n h =>
    refine ⟨s, rfl, ?_⟩
    rw [← h, trimmed, String.toList_ofList]

variable {map : Map} {taken : List String} {p : ConfigParameter} {e : Entry} {n : Int}

/-- The setting that a parameter makes if its value is written as an integer. -/
def integerSetting (p : ConfigParameter) (e : Entry) (n : Int) : Setting :=
  ⟨e.symbol, toString n, trimmed p.name, p.description.or e.description⟩

/-- What an integer makes of a parameter of an integer symbol. -/
theorem setting_of_spells (hentry : resolve? map (trimmed p.name) = some e)
    (htype : e.type = .int) (hfree : e.symbol ∉ taken) (hspells : Spells p.value n)
    (hmax : n.natAbs < 2 ^ 64) :
    ∃ text, setting map taken p
      = if Word.isSigned 64 (roundedInt n) then .ok (integerSetting p e (roundedInt n), .int)
        else .error (.tooLarge text) := by
  obtain ⟨text, hvalue, htrim⟩ := hspells.exists_valueText e.fallback
  refine ⟨text, ?_⟩
  have hrender : e.type.render text = renderInt text := by rw [htype]; rfl
  rw [renderInt_of_trim htrim hmax] at hrender
  unfold setting
  dsimp only
  -- The entry is there and its symbol is free, so only the value is left to be checked.
  rw [hentry]
  dsimp only
  rw [if_neg (by simpa using hfree), hvalue]
  show (e.type.render text >>= _) = _
  rw [hrender]
  split
  · rw [htype]
    rfl
  · rfl

/-- A parameter keeps an integer exactly when the integer has at most 53 significant bits. -/
theorem setting_eq_integerSetting_iff (hentry : resolve? map (trimmed p.name) = some e)
    (htype : e.type = .int) (hfree : e.symbol ∉ taken) (hspells : Spells p.value n)
    (hrange : Word.isSigned 64 n = true) :
    setting map taken p = .ok (integerSetting p e n, .int) ↔ IsShort n.natAbs := by
  have hmax : n.natAbs < 2 ^ 64 := by
    have bounds : -(2 ^ 63 : Int) ≤ n ∧ n < 2 ^ 63 := (Word.isSigned_iff 64 n).mp hrange
    omega
  obtain ⟨text, hsetting⟩ := setting_of_spells hentry htype hfree hspells hmax
  rw [hsetting, ← roundedInt_eq_self_iff]
  constructor
  · intro h
    split at h
    · -- Two numerals with the same text are the same number, so nothing was rounded off.
      have value := congrArg (fun s => s.1.value) (Except.ok.inj h)
      exact Numeral.eq_of_toString_eq value
    · cases h
  · intro h
    rw [h, if_pos hrange]

/-- **Integers as settings.**  A parameter of an integer symbol that no earlier parameter sets keeps
an integer of 64 bits exactly when it has at most 53 significant ones.  It then sets the symbol to
the decimal text of the integer, between what the parameters before and after it set. -/
theorem integer_kept_iff {before after : List ConfigParameter}
    (hentry : resolve? map (trimmed p.name) = some e) (htype : e.type = .int)
    (hfree : e.symbol ∉ (configure map before).value.settings.map (·.symbol))
    (hrange : Word.isSigned 64 n = true) (hspells : Spells p.value n) :
    (setting map (takenAfter map [] before) p = .ok (integerSetting p e n, .int)
        ↔ IsShort n.natAbs) ∧
      (IsShort n.natAbs →
        ∃ others : List Setting,
          (configure map (before ++ p :: after)).value.settings
              = (configure map before).value.settings ++ integerSetting p e n :: others ∧
            (configure map (before ++ p :: after)).value.text
              = (configure map before).value.text
                ++ (e.symbol ++ "=" ++ toString n ++ "\n" ++ (integerSetting p e n).origin ++ "\n")
                ++ String.join (others.map Setting.text)) := by
  have hfree : e.symbol ∉ takenAfter map [] before := by
    simpa [takenAfter, configure] using hfree
  have kept := setting_eq_integerSetting_iff hentry htype hfree hspells hrange
  refine ⟨kept, fun hshort => ?_⟩
  have settings : (configure map (before ++ p :: after)).value.settings = _ :=
    (settle_append map [] before (p :: after)).1
  -- The settings before it are those of the list alone, since a run goes from front to back.
  rw [(settle_cons_of_ok (kept.mpr hshort) after).1] at settings
  refine ⟨_, settings, ?_⟩
  rw [Output.text, settings, List.map_append, String.join_append, List.map_cons, String.join_cons,
    ← String.append_assoc]
  rfl

/-- What the parameter `n` sets in the samples. -/
def integerEntry : Entry := ⟨"CONFIG_N", some "int", none, none⟩

/-- A parameter `n` with a value. -/
def integerParameter (value : Json.Value) : ConfigParameter := ⟨"n", value, none⟩

theorem integer_kept_iff_sample :
    ∃ others,
      (configure [("n", integerEntry)]
          [integerParameter (.string " -9007199254740992\n")]).value.settings
        = integerSetting (integerParameter (.string " -9007199254740992\n")) integerEntry
            (-9007199254740992) :: others := by
  have spells : Spells (.string " -9007199254740992\n") (-9007199254740992) :=
    .text (by decide +kernel)
  have short : IsShort (-9007199254740992 : Int).natAbs := ⟨1, 53, by decide, by decide⟩
  obtain ⟨others, settings, -⟩ :=
    (@integer_kept_iff [("n", integerEntry)]
      (integerParameter (.string " -9007199254740992\n")) integerEntry (-9007199254740992) [] []
      rfl (by decide +kernel) (by simp [configure, settle]) (by decide) spells).2 short
  exact ⟨others, settings⟩

/-- An integer with 54 bits is written as its neighbour, and the greatest integer of 64 bits is
refused. -/
theorem integer_not_kept :
    (configure [("n", integerEntry)]
        [integerParameter (.number (.int 9007199254740993))]).value.settings.map (·.value)
        = ["9007199254740992"] ∧
      (configure [("n", integerEntry)]
        [integerParameter (.number (.int 9223372036854775807))]).value.settings.length = 0 := by
  constructor <;> decide +kernel

end KeymapCompiler.Kconfig
