/-
KeymapCompiler/Proofs/Config/Text.lean

A configuration is read back from its text (`ofText?_text`).

Its text has two sections.  A section is a header and the assignments of those of
its settings that are set; a setting that is not set has no line.  So reading the
text adds, for each section, the table of the settings that are set
(`readsTo_section`), and where a setting is missing in the table it was not set
(`readSection_settingEntries`).
-/
import KeymapCompiler.Config
import KeymapCompiler.Proofs.Toml.Lines

namespace KeymapCompiler.Config

open Toml

/-! ### Sections -/

/-- The settings of a section by their keys. -/
abbrev Settings := List (String × Option String)

variable {es es' : Entries} {settings : Settings} {key : String} {rest : List Char}

/-- The entries of the settings that are set. -/
def settingEntries (settings : Settings) : Entries :=
  settings.filterMap fun s => s.2.map fun value => (s.1, .string value)

/-- The lines of the settings that are set. -/
def settingLines (settings : Settings) : List Char :=
  settings.flatMap fun s => (settingLine s.1 s.2).toList

/-- The keys of a section need no quotes, and no two settings have the same. -/
structure WellKeyed (settings : Settings) : Prop where
  bare : ∀ s ∈ settings, IsBareKey s.1.toList
  distinct : (settings.map (·.1)).Nodup

theorem toList_settingLine_some (key value : String) :
    (settingLine key (some value)).toList
      = key.toList ++ ' ' :: '=' :: ' ' :: (stringChars value.toList ++ ['\n']) := by
  simp [settingLine, stringText]

/-- Settings add their entries to the table that was opened last. -/
theorem readsTo_settingLines (hkeys : WellKeyed settings) (hes : es.get? key = none)
    {inner : Entries} (hinner : ∀ s ∈ settings, inner.get? s.1 = none)
    (h : ReadsTo (es.add key (.table .explicit (inner ++ settingEntries settings))) [key]
      rest es') :
    ReadsTo (es.add key (.table .explicit inner)) [key] (settingLines settings ++ rest) es' := by
  induction settings generalizing inner with
  | nil => simpa [settingLines, settingEntries] using h
  | cons s settings ih =>
    obtain ⟨name, value⟩ := s
    obtain ⟨hbare, hdistinct⟩ := hkeys
    rw [List.map_cons, List.nodup_cons] at hdistinct
    have hkeys : WellKeyed settings :=
      ⟨fun s hs => hbare s (List.mem_cons_of_mem _ hs), hdistinct.2⟩
    have hfree : ∀ s ∈ settings, inner.get? s.1 = none :=
      fun s hs => hinner s (List.mem_cons_of_mem _ hs)
    cases value with
    | none => exact ih hkeys hfree h
    | some value =>
      have hadd := Entries.assignIn_add hes (hinner (name, some value) List.mem_cons_self)
        (.string value)
      -- The keys that follow are others, so they are still free.
      have hfree : ∀ s ∈ settings, (inner.add name (.string value)).get? s.1 = none := by
        intro s hs
        have hne : s.1 ≠ name := by
          rintro rfl
          exact hdistinct.1 (List.mem_map_of_mem (f := (·.1)) hs)
        rw [Entries.get?_add_of_ne hne]
        exact hfree s hs
      have hnext := ih hkeys hfree (by simpa [settingEntries, Entries.add] using h)
      have hstep : ReadsTo _ _ (name.toList ++ ' ' :: '=' :: ' ' :: (stringChars value.toList ++
          '\n' :: (settingLines settings ++ rest))) es' :=
        .assignment (hbare _ List.mem_cons_self) (by simpa using hadd) hnext
      simpa [settingLines, toList_settingLine_some] using hstep

/-- A section adds the table of the settings that are set. -/
theorem readsTo_section (hname : IsBareKey key.toList) (hkeys : WellKeyed settings)
    (hes : es.get? key = none) {table : List String}
    (h : ReadsTo (es.add key (.table .explicit (settingEntries settings))) [key] rest es') :
    ReadsTo es table
      ('[' :: (key.toList ++ ']' :: '\n' :: (settingLines settings ++ rest))) es' := by
  apply ReadsTo.header hname
  · rw [String.ofList_toList]
    exact Entries.openTable_of_get?_eq_none hes
  · rw [String.ofList_toList]
    exact readsTo_settingLines hkeys hes (fun _ _ => rfl) h

/-! ### Settings -/

theorem areEntriesInRange_settingEntries (settings : Settings) :
    areEntriesInRange (settingEntries settings) = true := by
  induction settings with
  | nil => rfl
  | cons s settings ih =>
    obtain ⟨name, value⟩ := s
    cases value with
    | none => exact ih
    | some value => exact ih

theorem get?_settingEntries_eq_none (h : key ∉ settings.map (·.1)) :
    (settingEntries settings).get? key = none := by
  apply List.lookup_eq_none_iff.mpr
  intro entry hentry
  obtain ⟨s, hs, hvalue⟩ := List.mem_filterMap.mp hentry
  obtain ⟨value, -, rfl⟩ := Option.map_eq_some_iff.mp hvalue
  apply bne_iff_ne.mpr
  rintro rfl
  exact h (List.mem_map_of_mem hs)

theorem readSetting_settingEntries (hdistinct : (settings.map (·.1)).Nodup) {value : Option String}
    (hmem : (key, value) ∈ settings) :
    readSetting ((settingEntries settings).get? key) = some value := by
  induction settings with
  | nil => cases hmem
  | cons s settings ih =>
    rw [List.map_cons, List.nodup_cons] at hdistinct
    rcases List.mem_cons.mp hmem with rfl | htail
    · cases value with
      | none =>
        -- No later setting has the key.
        show readSetting ((settingEntries settings).get? key) = some none
        rw [get?_settingEntries_eq_none hdistinct.1]
        rfl
      | some value => simp [settingEntries, Entries.get?, readSetting]
    · have hne : key ≠ s.1 := by
        rintro rfl
        exact hdistinct.1 (List.mem_map_of_mem (f := (·.1)) htail)
      obtain ⟨name, other⟩ := s
      cases other with
      | none => exact ih hdistinct.2 htail
      | some other =>
        have hne : (key == name) = false := beq_eq_false_iff_ne.mpr hne
        have hskip : (settingEntries ((name, some other) :: settings)).get? key
            = (settingEntries settings).get? key := by
          simp [settingEntries, Entries.get?, List.lookup_cons, hne]
        rw [hskip]
        exact ih hdistinct.2 htail

theorem mapM_keys {f : String → Option (Option String)} (h : ∀ s ∈ settings, f s.1 = some s.2) :
    (settings.map (·.1)).mapM f = some (settings.map (·.2)) := by
  induction settings with
  | nil => rfl
  | cons s settings ih =>
    have hrest := ih fun t ht => h t (List.mem_cons_of_mem s ht)
    simp [h s List.mem_cons_self, hrest]

/-- The settings of a section are what was written. -/
theorem readSection_settingEntries (hdistinct : (settings.map (·.1)).Nodup) (kind : TableKind) :
    readSection (settings.map (·.1)) (some (.table kind (settingEntries settings)))
      = some (settings.map (·.2)) := by
  rw [readSection, if_pos (areEntriesInRange_settingEntries settings)]
  exact mapM_keys fun s hs => readSetting_settingEntries hdistinct hs

/-! ### Configurations -/

/-- The settings of the first section. -/
def pathSettings (c : Config) : Settings :=
  [("layout_table", c.layoutTable), ("kconfig_map", c.kconfigMap), ("template", c.template)]

/-- The settings of the second section. -/
def buildSettings (c : Config) : Settings :=
  [("output_dir", some c.outputDirectory)]

theorem isBareKey_of_all {name : List Char} (h : name.isEmpty = false ∧ name.all isKeyChar = true) :
    IsBareKey name :=
  ⟨by simpa using h.1, List.all_eq_true.mp h.2⟩

theorem wellKeyed_pathSettings (c : Config) : WellKeyed c.pathSettings where
  bare := by
    have h : ∀ key ∈ ["layout_table", "kconfig_map", "template"], IsBareKey key.toList := by
      simp only [List.forall_mem_cons]
      exact ⟨isBareKey_of_all (by decide), isBareKey_of_all (by decide),
        isBareKey_of_all (by decide), by simp⟩
    exact fun s hs => h s.1 (List.mem_map_of_mem hs)
  distinct := by
    show ["layout_table", "kconfig_map", "template"].Nodup
    decide

theorem wellKeyed_buildSettings (c : Config) : WellKeyed c.buildSettings where
  bare := by
    have h : IsBareKey "output_dir".toList := isBareKey_of_all (by decide)
    exact List.forall_mem_singleton.mpr h
  distinct := by
    show ["output_dir"].Nodup
    decide

theorem toList_text (c : Config) :
    c.text.toList = '[' :: ("paths".toList ++ ']' :: '\n' :: (settingLines c.pathSettings ++
      '\n' :: '[' :: ("build".toList ++ ']' :: '\n' :: (settingLines c.buildSettings ++ [])))) := by
  simp [text, pathSettings, buildSettings, settingLines]

/-- **A configuration is read back from its text**, settings that are not set included. -/
theorem ofText?_text (e : Environment) (c : Config) : ofText? e c.text = some c := by
  -- The two sections are read one after the other, the last one first in the proof.
  have hbuild : ReadsTo [("paths", .table .explicit (settingEntries c.pathSettings))] ["paths"] _
      [("paths", .table .explicit (settingEntries c.pathSettings)),
        ("build", .table .explicit (settingEntries c.buildSettings))] :=
    readsTo_section (isBareKey_of_all (by decide)) (wellKeyed_buildSettings c) rfl (.nil _ _)
  have hpaths : ReadsTo [] [] _ _ :=
    readsTo_section (isBareKey_of_all (by decide)) (wellKeyed_pathSettings c) rfl hbuild.newline
  have hentries : ofString? c.text =
      some [("paths", .table .explicit (settingEntries c.pathSettings)),
        ("build", .table .explicit (settingEntries c.buildSettings))] := by
    rw [ofString?, toList_text]
    exact hpaths _ (Nat.lt_succ_self _)
  -- Then each section gives its settings back, those that are not set among them.
  have hpathSection : readSection ["layout_table", "kconfig_map", "template"]
      (some (.table .explicit (settingEntries c.pathSettings)))
        = some [c.layoutTable, c.kconfigMap, c.template] :=
    readSection_settingEntries (wellKeyed_pathSettings c).distinct .explicit
  have hbuildSection : readSection ["output_dir"]
      (some (.table .explicit (settingEntries c.buildSettings))) = some [some c.outputDirectory] :=
    readSection_settingEntries (wellKeyed_buildSettings c).distinct .explicit
  rw [ofText?, hentries]
  simp [Entries.get?, areEntriesInRange, List.lookup_cons, hpathSection, hbuildSection]

end KeymapCompiler.Config
