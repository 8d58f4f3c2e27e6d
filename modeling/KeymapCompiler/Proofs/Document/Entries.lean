/-
KeymapCompiler/Proofs/Document/Entries.lean

Entries are read one by one.  A document has five sections of entries, and each is an
array in the text:

    SectionArray kind t vs     the text of a document has this array for a section
    ReadsEach kind read vs     what is kept of an array and what is rejected

The arrays are found by name or by position, whatever else the document holds
(`sectionArray_of_ofTree?`).  An element that does not fit is rejected with its own
place, and what becomes of it depends on nothing but the element itself
(`readsEach_readEntries`).  So one bad entry neither hides nor shifts another.
-/
import KeymapCompiler.Document.Reader
import KeymapCompiler.Proofs.Record
import KeymapCompiler.Proofs.Scan

namespace KeymapCompiler

open KeymapCompiler.Json

/-! ### Sections -/

namespace EntryKind

/-- The sections in the order in which they are read. -/
def inOrder : List EntryKind :=
  [.holdTap, .userMacro, .combo, .inputListener, .configParameter]

theorem mem_inOrder (kind : EntryKind) : kind ∈ inOrder := by
  cases kind <;> decide

/-- What the entries of a section are read as. -/
def Entry : EntryKind → Type
  | .holdTap => HoldTap
  | .userMacro => UserMacro
  | .combo => Combo
  | .inputListener => InputListener
  | .configParameter => ConfigParameter

/-- How an entry of a section is read. -/
def reader : (kind : EntryKind) → Reader kind.Entry
  | .holdTap => HoldTap.reader
  | .userMacro => UserMacro.reader
  | .combo => Combo.reader
  | .inputListener => InputListener.reader
  | .configParameter => ConfigParameter.reader

/-- The names of a section in a document. -/
def fieldNames : EntryKind → List String
  | .holdTap => ["hold_taps", "holdTaps"]
  | .userMacro => ["macros"]
  | .combo => ["combos"]
  | .inputListener => ["input_listeners", "inputListeners"]
  | .configParameter => ["config_parameters", "configParameters"]

/-- The place of a section in a document that is written as an array. -/
def position : EntryKind → Nat
  | .holdTap => 4
  | .userMacro => 5
  | .combo => 6
  | .inputListener => 7
  | .configParameter => 8

end EntryKind

/-- The entries of a section that a document keeps. -/
def Document.entries (d : Document) : (kind : EntryKind) → List kind.Entry
  | .holdTap => d.holdTaps
  | .userMacro => d.userMacros
  | .combo => d.combos
  | .inputListener => d.inputListeners
  | .configParameter => d.configParameters

/-- The elements of a section before they are read. -/
def Document.Raw.entries (raw : Document.Raw) : EntryKind → List Value
  | .holdTap => raw.holdTaps
  | .userMacro => raw.userMacros
  | .combo => raw.combos
  | .inputListener => raw.inputListeners
  | .configParameter => raw.configParameters

/-- The text of a document has an array for a section: the value of the only field with a name of
the section, or the item at the section's place.  A section that is left out is empty. -/
inductive SectionArray (kind : EntryKind) : Tree → List Value → Prop where
  /-- A field of an object. -/
  | field {fields : List (Option String × Tree)} {name : Option String} {t : Tree}
    {vs : List Value} :
    fields.filter (hasName kind.fieldNames) = [(name, t)] →
      t.value? (maxDepth - 1) = some (.array vs) → SectionArray kind (.object fields) vs
  /-- An object without such a field. -/
  | noField {fields : List (Option String × Tree)} :
    fields.filter (hasName kind.fieldNames) = [] → SectionArray kind (.object fields) []
  /-- An item of an array. -/
  | item {items : List Tree} {t : Tree} {vs : List Value} :
    items[kind.position]? = some t → t.value? (maxDepth - 1) = some (.array vs) →
      SectionArray kind (.array items) vs
  /-- An array that ends before. -/
  | noItem {items : List Tree} :
    items[kind.position]? = none → SectionArray kind (.array items) []

/-! ### Entries -/

/-- An element goes by a name: the first of its naming fields that holds a string holds it. -/
inductive GoesBy (v : Value) : Option String → Prop where
  /-- One of them does. -/
  | field {before after : List String} {field name : String} :
    ["name", "code", "paramName"] = before ++ field :: after →
      (∀ other ∈ before, ∀ s, v.field? other ≠ some (.string s)) →
      v.field? field = some (.string name) → GoesBy v (some name)
  /-- None does. -/
  | nothing :
    (∀ field ∈ ["name", "code", "paramName"], ∀ s, v.field? field ≠ some (.string s)) →
      GoesBy v none

/-- What the elements of a section are read as, one by one. -/
structure ReadsEach {α : Type} (kind : EntryKind) (read : Reader α) (vs : List Value)
    (kept : List α) (rejected : List RejectedEntry) : Prop where
  /-- Kept are the elements that fit, in order, as what they are read as. -/
  forall₂_kept : List.Forall₂ (fun v x => read v = .ok x) (vs.filter fun v => (read v).isOk) kept
  /-- Rejected are the elements that do not fit, with their place, section, name and cause. -/
  rejected_iff : ∀ e, e ∈ rejected ↔
    e.kind = kind ∧ ∃ v, vs[e.index]? = some v ∧ read v = .error e.cause ∧ GoesBy v e.name
  /-- Each is rejected once, in order. -/
  ascending : rejected.Pairwise fun e e' => e.index < e'.index
  /-- None is lost. -/
  length : kept.length + rejected.length = vs.length

section

variable {α : Type} (kind : EntryKind) (read : Reader α)

theorem goesBy_iff {v : Value} {name : Option String} : GoesBy v name ↔ entryName? v = name := by
  -- A field gives a name only if its value is a text.
  have string : ∀ field s, (v.field? field).bind Value.string? = some s
      ↔ v.field? field = some (.string s) := by
    intro field s
    rcases v.field? field with - | w
    · simp
    · cases w <;> simp [Value.string?]
  have silent : ∀ field, (v.field? field).bind Value.string? = none
      ↔ ∀ s, v.field? field ≠ some (.string s) := by
    intro field
    rw [Option.eq_none_iff_forall_ne_some]
    exact forall_congr' fun s => not_congr (string field s)
  constructor
  · intro h
    cases h with
    | @field before after field name hsplit hbefore hfield =>
      exact List.findSome?_eq_some_iff.mpr ⟨before, field, after, hsplit, (string _ _).mpr hfield,
        fun other hother => (silent other).mpr (hbefore other hother)⟩
    | nothing hnone =>
      exact List.findSome?_eq_none_iff.mpr fun field hfield =>
        (silent field).mpr (hnone field hfield)
  · rintro rfl
    rcases h : entryName? v with - | name
    · exact .nothing fun field hfield =>
        (silent field).mp (List.findSome?_eq_none_iff.mp h field hfield)
    · obtain ⟨before, field, after, hsplit, hfield, hbefore⟩ := List.findSome?_eq_some_iff.mp h
      exact .field hsplit (fun other hother => (silent other).mp (hbefore other hother))
        ((string _ _).mp hfield)

/-- The rejection of an element at a place, if it does not fit. -/
def rejection? (v : Value × Nat) : Option RejectedEntry :=
  match read v.1 with
  | .ok _ => none
  | .error cause => some ⟨kind, v.2, entryName? v.1, cause⟩

theorem rejection?_eq_some_iff {v : Value × Nat} {e : RejectedEntry} :
    rejection? kind read v = some e ↔
      e.kind = kind ∧ e.index = v.2 ∧ read v.1 = .error e.cause ∧ GoesBy v.1 e.name := by
  obtain ⟨kind', index, name, cause⟩ := e
  rw [goesBy_iff]
  unfold rejection?
  rcases h : read v.1 with cause' | x
  · simp only [Option.some.injEq, RejectedEntry.mk.injEq, Except.error.injEq]
    constructor
    · rintro ⟨rfl, rfl, rfl, rfl⟩
      exact ⟨rfl, rfl, rfl, rfl⟩
    · rintro ⟨rfl, rfl, rfl, rfl⟩
      exact ⟨rfl, rfl, rfl, rfl⟩
  · simp

/-- What is kept and what is rejected are picked from the elements by two scans. -/
theorem readEntries_eq (vs : List Value) :
    readEntries kind read vs
      = (vs.filterMap fun v => (read v).toOption, vs.zipIdx.filterMap (rejection? kind read)) := by
  unfold readEntries
  dsimp only
  rw [List.mapIdx_eq_zipIdx_map, List.filterMap_map, List.filterMap_map]
  refine Prod.ext ?_ ?_
  · -- The first list does not need the places, so they are taken out of it.
    have items : vs.zipIdx.map Prod.fst = vs := List.zipIdx_map_fst 0 vs
    dsimp only
    conv_rhs => rw [← items, List.filterMap_map]
    refine List.filterMap_congr fun v _ => ?_
    simp only [Function.comp_apply, readEntry]
    rcases read v.1 with cause | x
    · rfl
    · rfl
  · refine List.filterMap_congr fun v _ => ?_
    simp only [Function.comp_apply, readEntry, rejection?]
    rcases read v.1 with cause | x
    · rfl
    · rfl

/-- Elements are read one by one. -/
theorem readsEach_readEntries (vs : List Value) :
    ReadsEach kind read vs (readEntries kind read vs).1 (readEntries kind read vs).2 := by
  -- Both lists are scans of the entries, and each rejection keeps its place.
  have hplace : ∀ v e, rejection? kind read v = some e → e.index = v.2 := fun v e he =>
    ((rejection?_eq_some_iff kind read).mp he).2.1
  refine ⟨?_, fun e => ?_, ?_, length_readEntries kind read vs⟩
  · have fits : ∀ v, ((read v).toOption).isSome = (read v).isOk := fun v => by cases read v <;> rfl
    have picked : ∀ v x, (read v).toOption = some x ↔ read v = .ok x := fun v x => by
      cases read v <;> simp [Except.toOption]
    have kept := forall₂_filterMap (fun v => (read v).toOption) vs
    simp only [fits, picked] at kept
    rwa [readEntries_eq]
  · rw [readEntries_eq, mem_scan_iff hplace]
    simp only [rejection?_eq_some_iff, true_and]
    constructor
    · rintro ⟨v, hget, hkind, hread, hname⟩
      exact ⟨hkind, v, hget, hread, hname⟩
    · rintro ⟨hkind, v, hget, hread, hname⟩
      exact ⟨v, hget, hkind, hread, hname⟩
  · rw [readEntries_eq]
    exact pairwise_scan hplace vs

end

/-! ### Documents -/

namespace Document

theorem entries_ofRaw (raw : Raw) (kind : EntryKind) :
    (ofRaw raw).entries kind = (readEntries kind kind.reader (raw.entries kind)).1 := by
  cases kind with
  | holdTap | userMacro | combo | inputListener | configParameter => rfl

theorem rejected_ofRaw (raw : Raw) :
    (ofRaw raw).rejected
      = EntryKind.inOrder.flatMap fun kind =>
        (readEntries kind kind.reader (raw.entries kind)).2 := by
  simp only [EntryKind.inOrder, List.flatMap_cons, List.flatMap_nil, List.append_nil]
  simp only [ofRaw, List.append_assoc]
  rfl

section

variable {get : Nat → Option Value} {absent : Nat → Mismatch} {raw : Raw}

/-- Each section of a document is read at its own place: an array if there is a value, and nothing
otherwise. -/
theorem entries_of_build (h : Raw.record.build get absent 0 = .ok raw) (kind : EntryKind) :
    get kind.position = none ∧ raw.entries kind = [] ∨
      get kind.position = some (.array (raw.entries kind)) := by
  unfold Raw.record at h
  simp only [Record.build_seq_eq_ok_iff, Record.build_map_eq_ok_iff] at h
  -- From the last field to the first; the sections are the fifth to the ninth.
  obtain ⟨_, ⟨_, ⟨_, ⟨_, ⟨_, ⟨_, ⟨_, ⟨_, ⟨_, ⟨_, ⟨_, -, rfl⟩, _, -, rfl⟩, _, -, rfl⟩, _, -, rfl⟩,
    _, hholdTaps, rfl⟩, _, hmacros, rfl⟩, _, hcombos, rfl⟩, _, hlisteners, rfl⟩,
    _, hparameters, rfl⟩, _, -, rfl⟩, _, -, rfl⟩ := h
  cases kind with
  | holdTap => exact build_list_any_eq_ok_iff.mp hholdTaps
  | userMacro => exact build_list_any_eq_ok_iff.mp hmacros
  | combo => exact build_list_any_eq_ok_iff.mp hcombos
  | inputListener => exact build_list_any_eq_ok_iff.mp hlisteners
  | configParameter => exact build_list_any_eq_ok_iff.mp hparameters

/-- A section without a value is empty. -/
theorem entries_eq_nil_of_build (h : Raw.record.build get absent 0 = .ok raw) {kind : EntryKind}
    (hget : get kind.position = none) : raw.entries kind = [] := by
  rcases entries_of_build h kind with ⟨-, hempty⟩ | harray
  · exact hempty
  · rw [hget] at harray
    cases harray

/-- The value of a section is an array, of the elements that are read. -/
theorem eq_array_of_build (h : Raw.record.build get absent 0 = .ok raw) {kind : EntryKind}
    {v : Value} (hget : get kind.position = some v) : v = .array (raw.entries kind) := by
  rcases entries_of_build h kind with ⟨habsent, -⟩ | harray
  · rw [hget] at habsent
    cases habsent
  · exact Option.some.inj (hget.symm.trans harray)

end

/-- Every section is a field of its own. -/
theorem exists_sectionField (kind : EntryKind) :
    ∃ f, Raw.record.fields[kind.position]? = some f ∧ f.name :: f.aliases = kind.fieldNames ∧
      ∀ name ∈ kind.fieldNames, Raw.record.fields.find? (·.accepts name) = some f := by
  cases kind with
  | holdTap | inputListener | configParameter =>
    refine ⟨_, rfl, rfl, List.forall_mem_cons.mpr ⟨rfl, List.forall_mem_singleton.mpr rfl⟩⟩
  | userMacro | combo => exact ⟨_, rfl, rfl, List.forall_mem_singleton.mpr rfl⟩

theorem position_lt (kind : EntryKind) : kind.position < Raw.record.fields.length := by
  obtain ⟨_, hposition, -⟩ := exists_sectionField kind
  exact (List.getElem?_eq_some_iff.mp hposition).1

/-- In an object a section has its own field, if any. -/
theorem sectionArray_object {fields : List (Option String × Tree)} {raw : Raw}
    (h : Raw.record.ofTree? "RawKeymapDocument" maxDepth (.object fields) = some (.ok raw))
    (kind : EntryKind) : SectionArray kind (.object fields) (raw.entries kind) := by
  obtain ⟨f, hposition, hnames, hfirst⟩ := exists_sectionField kind
  obtain ⟨values, hvalues, hread⟩ := Option.map_eq_some_iff.mp h
  have accepts : ∀ name, f.accepts name = kind.fieldNames.contains name := fun name => by
    rw [Record.accepts_eq, hnames]
  have known : ∀ name ∈ kind.fieldNames, Raw.record.fields.any (·.accepts name) = true := by
    intro name hname
    refine List.any_eq_true.mpr ⟨f, List.mem_of_getElem? hposition, ?_⟩
    rw [accepts]
    exact List.contains_iff_mem.mpr hname
  have hfields := forall₂_knownFields? known hvalues
  obtain ⟨⟨absent, hbuild⟩, hgiven⟩ := Record.ofFields_eq_ok hread hposition fun name hname =>
    hfirst name (List.contains_iff_mem.mp (by rwa [← accepts]))
  simp only [accepts] at hgiven
  -- The reader has seen no field of this section or exactly one.
  rcases hgiven with ⟨hnone, hget⟩ | ⟨g, hone, hget⟩
  · rw [hnone, List.forall₂_nil_right_iff] at hfields
    rw [entries_eq_nil_of_build hbuild hget]
    exact .noField hfields
  · rw [hone] at hfields
    obtain ⟨field, rest, ⟨-, hvalue⟩, hrest, hfields⟩ := List.forall₂_cons_right_iff.mp hfields
    obtain rfl := List.forall₂_nil_right_iff.mp hrest
    rw [eq_array_of_build hbuild hget] at hvalue
    exact .field hfields hvalue

/-- In an array a section has its own place. -/
theorem sectionArray_array {items : List Tree} {raw : Raw}
    (h : Raw.record.ofTree? "RawKeymapDocument" maxDepth (.array items) = some (.ok raw))
    (kind : EntryKind) : SectionArray kind (.array items) (raw.entries kind) := by
  obtain ⟨values, hvalues, hread⟩ := Option.map_eq_some_iff.mp h
  obtain ⟨_, hbuild, hsurplus⟩ := bind_eq_ok_iff.mp hread
  obtain rfl : _ = raw := by
    split at hsurplus
    · cases hsurplus
    · exact Except.ok.inj hsurplus
  -- Items are read up to the last field, and every section stands before it.
  have hplace : (items.take Raw.record.fields.length)[kind.position]? = items[kind.position]? :=
    List.getElem?_take_of_lt (position_lt kind)
  rcases itemValues?_eq_some hvalues kind.position with ⟨hitem, hget⟩ | ⟨t, v, hitem, hget, hv⟩
  · rw [entries_eq_nil_of_build hbuild hget]
    exact .noItem (hplace ▸ hitem)
  · rw [eq_array_of_build hbuild hget] at hv
    exact .item (hplace ▸ hitem) hv

/-- The elements of a section are those of its array. -/
theorem sectionArray_of_ofTree? {t : Tree} {raw : Raw}
    (h : Raw.record.ofTree? "RawKeymapDocument" maxDepth t = some (.ok raw)) (kind : EntryKind) :
    SectionArray kind t (raw.entries kind) := by
  cases t with
  | object fields => exact sectionArray_object h kind
  | array items => exact sectionArray_array h kind
  -- Anything else is of another kind than a record.
  | null | bool b => cases h
  | number n => rcases n with - | n <;> cases h
  | string text => rcases text with - | text <;> cases h

/-- The entries of a document come from a text that has these arrays for the sections. -/
structure ReadsSections (t : Tree) (arrays : EntryKind → List Value) (d : Document) : Prop where
  /-- The arrays are those of the text. -/
  inText : ∀ kind, SectionArray kind t (arrays kind)
  /-- Every section is read on its own, and the rejections of all are listed one section after the
  other. -/
  sections : ∃ rejected : EntryKind → List RejectedEntry,
    (∀ kind, ReadsEach kind kind.reader (arrays kind) (d.entries kind) (rejected kind)) ∧
      d.rejected = EntryKind.inOrder.flatMap rejected
  /-- Whether an element is rejected depends on its section and the element. -/
  rejects_iff : ∀ kind i v, (arrays kind)[i]? = some v →
    ((∃ e ∈ d.rejected, e.kind = kind ∧ e.index = i) ↔ ∃ cause, kind.reader v = .error cause)

/-- The rejections of a document are those of its sections. -/
theorem mem_rejected_iff {d : Document} {rejected : EntryKind → List RejectedEntry}
    {arrays : EntryKind → List Value}
    (hread : ∀ kind, ReadsEach kind kind.reader (arrays kind) (d.entries kind) (rejected kind))
    (h : d.rejected = EntryKind.inOrder.flatMap rejected) {e : RejectedEntry} :
    e ∈ d.rejected ↔ e ∈ rejected e.kind := by
  rw [h, List.mem_flatMap]
  constructor
  · rintro ⟨kind, -, he⟩
    obtain ⟨rfl, -⟩ := ((hread kind).rejected_iff e).mp he
    exact he
  · exact fun he => ⟨e.kind, EntryKind.mem_inOrder _, he⟩

/-- Entries are read one by one, from whatever text a document comes. -/
theorem ofString_reads_each {s : String} {d : Document} (h : ofString s = .ok d) :
    ∃ t arrays, Tree.ofString? s = some t ∧ ReadsSections t arrays d := by
  obtain ⟨raw, hraw, rfl⟩ := map_eq_ok_iff.mp h
  obtain ⟨t, ht, hread⟩ := readText_eq_ok_iff.mp hraw
  -- The five sections are read in the same way, each by its own reader.
  have hsections : ∀ kind, ReadsEach kind kind.reader (raw.entries kind)
      ((ofRaw raw).entries kind) (readEntries kind kind.reader (raw.entries kind)).2 := by
    intro kind
    rw [entries_ofRaw]
    exact readsEach_readEntries kind kind.reader (raw.entries kind)
  refine ⟨t, raw.entries, ht, sectionArray_of_ofTree? hread,
    ⟨_, hsections, rejected_ofRaw raw⟩, fun kind i v hv => ?_⟩
  constructor
  · rintro ⟨e, he, rfl, rfl⟩
    have he := (mem_rejected_iff hsections (rejected_ofRaw raw)).mp he
    obtain ⟨-, w, hw, hfault, -⟩ := ((hsections _).rejected_iff e).mp he
    rw [hw] at hv
    exact ⟨e.cause, Option.some.inj hv ▸ hfault⟩
  · rintro ⟨cause, hfault⟩
    have he := ((hsections kind).rejected_iff ⟨kind, i, entryName? v, cause⟩).mpr
      ⟨rfl, v, hv, hfault, goesBy_iff.mpr rfl⟩
    exact ⟨_, (mem_rejected_iff hsections (rejected_ofRaw raw)).mpr he, rfl, rfl⟩

/-- The first combo does not fit, and the second one is kept all the same. -/
theorem ofString_reads_each_sample :
    let text := "\x7b\"layer_names\": [\"Base\"], \"macros\": [5], \"combos\": ["
      ++ "\x7b\"name\": \"no_binding\"\x7d, "
      ++ "\x7b\"name\": \"esc\", \"binding\": \"&trans\"\x7d]\x7d"
    ∃ d t arrays, ofString text = .ok d ∧ Tree.ofString? text = some t ∧ ReadsSections t arrays d ∧
      d.rejected.map RejectedEntry.shown = ["macro \x230", "combo no_binding"] ∧
      d.combos.map Combo.name = ["esc"] := by
  intro text
  have hread : (ofString text).toOption.map (fun d =>
        (d.rejected.map RejectedEntry.shown, d.combos.map Combo.name))
      = some (["macro \x230", "combo no_binding"], ["esc"]) := by decide +kernel
  rcases hd : ofString text with cause | d
  · rw [hd] at hread
    cases hread
  · obtain ⟨t, arrays, ht, hsections⟩ := ofString_reads_each hd
    rw [hd] at hread
    obtain ⟨hrejected, hcombos⟩ := Prod.ext_iff.mp (Option.some.inj hread)
    exact ⟨d, t, arrays, rfl, ht, hsections, hrejected, hcombos⟩

end Document

end KeymapCompiler
