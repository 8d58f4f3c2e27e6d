/-
KeymapCompiler/Proofs/Compile/Identifiers.lean

Which generated names are identifiers.  An identifier has ASCII letters, digits and
underscores only, and starts with no digit (`IsIdentifier`).

The symbol of a name never starts with a digit, but it keeps all word characters of
the name, those of other scripts as well.  So it has the characters of identifiers
exactly when the word characters of the name are ASCII (`HasAsciiWords`).  What is
done to a symbol afterwards, a position as suffix or a lead before it, is made of such
characters itself, and one lemma for each carries the statement on to the definitions
of layers and to the nodes of layers and combos.
-/
import KeymapCompiler.Proofs.Compile.Stages
import KeymapCompiler.Proofs.Node.Combo
import KeymapCompiler.Proofs.Node.Keymap

namespace KeymapCompiler

open KeymapCompiler.Text

/-! ### Identifiers -/

/-- The characters of identifiers. -/
def isIdentifierChar (c : Char) : Bool :=
  c.isAlphanum || c == '_'

/-- A text has no characters but those of identifiers. -/
def HasIdentifierChars (s : String) : Prop :=
  ∀ c ∈ s.toList, isIdentifierChar c = true

instance : DecidablePred HasIdentifierChars := fun _ =>
  decidable_of_iff _ List.all_eq_true

/-- A text does not start with a digit. -/
def StartsWithoutDigit (s : String) : Prop :=
  ∀ c ∈ s.toList.head?, c.isDigit = false

/-- What the preprocessor and the devicetree take as a name. -/
structure IsIdentifier (s : String) : Prop where
  /-- There is a character. -/
  nonempty : s ≠ ""
  /-- All characters are those of identifiers. -/
  chars : HasIdentifierChars s
  /-- The first is no digit. -/
  start : StartsWithoutDigit s

theorem IsIdentifier.of_head {s : String} {c : Char} (hhead : s.toList.head? = some c)
    (hstart : c.isDigit = false) (hchars : HasIdentifierChars s) : IsIdentifier s := by
  refine ⟨?_, hchars, fun d hd => ?_⟩
  · rintro rfl
    cases hhead
  · rw [hhead] at hd
    cases hd
    exact hstart

/-- All word characters of a name are ASCII. -/
def HasAsciiWords (name : String) : Prop :=
  ∀ c ∈ name.toList, isWord c = true → c.toNat < 0x80

/-- The characters of identifiers are the word characters of ASCII. -/
theorem isIdentifierChar_iff (c : Char) :
    isIdentifierChar c = true ↔ isWord c = true ∧ c.toNat < 0x80 := by
  constructor
  · intro h
    have h : c.isAlphanum = true ∨ c = '_' := by simpa [isIdentifierChar] using h
    refine ⟨isWord_of_isAlphanum h, ?_⟩
    rcases h with h | rfl
    · exact toNat_lt_of_isAlphanum h
    · decide
  · rintro ⟨hword, hascii⟩
    -- The other scripts have words too, so this is checked for ASCII, code by code.
    have ascii : ∀ n < 0x80, isWord (Char.ofNat n) = true →
        isIdentifierChar (Char.ofNat n) = true := by
      decide +kernel
    have at_c := ascii c.toNat hascii
    rw [Char.ofNat_toNat] at at_c
    exact at_c hword

/-- A lead that is an identifier leaves the characters behind it to decide. -/
theorem isIdentifier_append_iff {lead : String} (hlead : IsIdentifier lead) (s : String) :
    IsIdentifier (lead ++ s) ↔ HasIdentifierChars s := by
  obtain ⟨c, rest, hcons⟩ :=
    List.exists_cons_of_ne_nil (mt String.toList_eq_nil_iff.mp hlead.nonempty)
  constructor
  · intro h c hc
    refine h.chars c ?_
    rw [String.toList_append]
    exact List.mem_append_right _ hc
  · intro h
    -- The lead is not empty, so the first character is never the text's.
    have hhead : (lead ++ s).toList.head? = some c := by
      rw [String.toList_append, hcons]
      rfl
    have hstart : c.isDigit = false := hlead.start c (by rw [hcons]; rfl)
    refine .of_head hhead hstart ?_
    unfold HasIdentifierChars
    rw [String.toList_append, List.forall_mem_append]
    exact ⟨hlead.chars, h⟩

/-! ### Symbols -/

namespace Symbol

theorem forall_mem_replaceOthers_iff (cs : List Char) :
    (∀ c ∈ replaceOthers cs, isIdentifierChar c = true)
      ↔ ∀ c ∈ cs, isWord c = true → c.toNat < 0x80 := by
  unfold replaceOthers
  rw [List.forall_mem_map]
  refine forall₂_congr fun c _ => ?_
  by_cases hword : isWord c = true
  · rw [if_pos hword, isIdentifierChar_iff]
    exact ⟨fun h _ => h.2, fun h => ⟨hword, h hword⟩⟩
  · rw [if_neg hword]
    exact iff_of_true rfl fun h => absurd h hword

theorem forall_mem_guardDigit_iff (cs : List Char) :
    (∀ c ∈ guardDigit cs, isIdentifierChar c = true)
      ↔ ∀ c ∈ cs, isIdentifierChar c = true := by
  unfold guardDigit
  split
  · split
    · rw [List.forall_mem_cons]
      exact and_iff_right rfl
    · exact Iff.rfl
  · exact Iff.rfl

theorem head?_guardDigit (cs : List Char) : ∀ c ∈ (guardDigit cs).head?, c.isDigit = false := by
  unfold guardDigit
  split
  · next c rest =>
    split
    · rintro c ⟨⟩
      decide
    · next h =>
      rintro c ⟨⟩
      exact Bool.eq_false_iff.mpr h
  · rintro c ⟨⟩

/-- The symbol of a name has the characters of identifiers exactly when the word characters of the
name are ASCII. -/
theorem hasIdentifierChars_ofName_iff (name : String) :
    HasIdentifierChars (ofName name) ↔ HasAsciiWords name := by
  unfold HasIdentifierChars ofName
  rw [String.toList_ofList, forall_mem_guardDigit_iff, forall_mem_replaceOthers_iff]
  exact Iff.rfl

/-- The symbol of a name does not start with a digit. -/
theorem startsWithoutDigit_ofName (name : String) : StartsWithoutDigit (ofName name) := by
  unfold StartsWithoutDigit ofName
  rw [String.toList_ofList]
  exact head?_guardDigit _

/-- A digit in front is kept behind an underscore. -/
example : ofName "3D-Nav" = "_3D_Nav" := by
  decide +kernel

theorem isIdentifierChar_of_mem_toDigits {n : Nat} :
    ∀ c ∈ Nat.toDigits 10 n, isIdentifierChar c = true := by
  intro c hc
  have hdigit : c.isDigit = true := Nat.isDigit_of_mem_toDigits (by decide) (by decide) hc
  rw [isIdentifierChar, Char.isAlphanum, hdigit, Bool.or_true, Bool.true_or]

/-- A position as suffix changes nothing. -/
theorem hasIdentifierChars_suffixed_iff (symbol : String) (position : Nat) :
    HasIdentifierChars (suffixed symbol position) ↔ HasIdentifierChars symbol := by
  unfold HasIdentifierChars
  rw [toList_suffixed, List.forall_mem_append, List.forall_mem_cons]
  exact and_iff_left ⟨rfl, isIdentifierChar_of_mem_toDigits⟩

theorem hasIdentifierChars_distinguish_iff (taken : List String) (symbol : String)
    (position : Nat) :
    HasIdentifierChars (distinguish taken symbol position) ↔ HasIdentifierChars symbol := by
  unfold distinguish
  split
  · exact hasIdentifierChars_suffixed_iff symbol position
  · exact Iff.rfl

/-- A symbol that stands in for the one of the empty name is as good as that. -/
theorem hasIdentifierChars_or_iff {name other : String} (hother : HasIdentifierChars other) :
    HasIdentifierChars (if ofName name = "" then other else ofName name) ↔ HasAsciiWords name := by
  split
  · next hempty =>
    obtain rfl := (ofName_eq_empty_iff name).mp hempty
    exact iff_of_true hother fun c hc => absurd hc List.not_mem_nil
  · exact hasIdentifierChars_ofName_iff name

end Symbol

/-! ### Layers -/

namespace LayerTable

theorem hasIdentifierChars_baseSymbol_iff (index : Nat) (name : String) :
    HasIdentifierChars (baseSymbol index name) ↔ HasAsciiWords name := by
  have other : HasIdentifierChars (Symbol.suffixed "" index) :=
    (Symbol.hasIdentifierChars_suffixed_iff "" index).mpr (by decide)
  exact Symbol.hasIdentifierChars_or_iff other

/-- Every layer of a table has a symbol as its name makes it. -/
theorem forall₂_assign (taken : List String) (index : Nat) (names : List String) :
    List.Forall₂ (fun name symbol => HasIdentifierChars symbol ↔ HasAsciiWords name) names
      (symbols (assign taken index names).value) := by
  induction names generalizing taken index with
  | nil => exact .nil
  | cons name rest ih =>
    have own := (Symbol.hasIdentifierChars_distinguish_iff taken (baseSymbol index name) index).trans
      (hasIdentifierChars_baseSymbol_iff index name)
    exact .cons own (ih _ _)

theorem forall₂_led {lead : String} (hlead : IsIdentifier lead) (names : List String) :
    List.Forall₂ (fun name symbol => IsIdentifier symbol ↔ HasAsciiWords name) names
      ((symbols (ofNames names).value).map (lead ++ ·)) := by
  rw [List.forall₂_map_right_iff]
  refine (forall₂_assign [] 0 names).imp fun name symbol h => ?_
  exact (isIdentifier_append_iff hlead symbol).trans h

theorem isIdentifier_defineLead : IsIdentifier defineLead :=
  .of_head (c := 'L') (by decide) (by decide) (by decide)

/-- The names that are defined for layers. -/
theorem forall₂_definitions (names : List String) :
    List.Forall₂ (fun name definition => IsIdentifier definition.1 ↔ HasAsciiWords name) names
      (Preprocessor.definitions (defines (ofNames names).value)) := by
  have led := forall₂_led isIdentifier_defineLead names
  rw [← map_fst_definitions, List.forall₂_map_right_iff] at led
  exact led

end LayerTable

namespace Node

theorem isIdentifier_layerLead : IsIdentifier layerLead :=
  .of_head (c := 'l') (by decide) (by decide) (by decide)

/-- The names of the nodes of a document's layers. -/
theorem forall₂_layerNodes (d : Document) (l : Layout) :
    List.Forall₂ (fun name n => IsIdentifier (layerLead ++ n.1) ↔ HasAsciiWords name)
      d.namesOfLayers (layerNodes d.formatter l d.layers) := by
  have symbols : (layerNodes d.formatter l d.layers).map (·.1) = d.layerTable.symbols :=
    map_fst_layerNodes d.length_layerTable.symm l
  have led : List.Forall₂ (fun name symbol => IsIdentifier symbol ↔ HasAsciiWords name)
      d.namesOfLayers (d.layerTable.symbols.map (layerLead ++ ·)) :=
    LayerTable.forall₂_led isIdentifier_layerLead d.namesOfLayers
  rw [← symbols, List.map_map, List.forall₂_map_right_iff] at led
  exact led

/-! ### Combos -/

theorem hasIdentifierChars_comboBase_iff (position : Nat) (c : Combo) :
    HasIdentifierChars (comboBase position c) ↔ HasAsciiWords (trimmed c.name) := by
  have other : HasIdentifierChars (toString position) := by
    unfold HasIdentifierChars
    rw [Nat.toString_eq_ofList_toDigits, String.toList_ofList]
    exact Symbol.isIdentifierChar_of_mem_toDigits
  unfold comboBase
  dsimp only
  exact Symbol.hasIdentifierChars_or_iff other

/-- Every combo with a node has a symbol as its name makes it. -/
theorem forall₂_ownSymbols (keyCount : Nat) (taken : List String) (position : Nat)
    (cs : List Combo) :
    List.Forall₂ (fun c symbol => HasIdentifierChars symbol ↔ HasAsciiWords (trimmed c.name))
      (cs.filter fun c => HasKeys keyCount c)
      (Symbol.distinguishAll taken (ownSymbols keyCount position cs)) := by
  induction cs generalizing taken position with
  | nil => exact .nil
  | cons c rest ih =>
    by_cases h : HasKeys keyCount c
    · have own := (Symbol.hasIdentifierChars_distinguish_iff taken (comboBase position c)
        position).trans (hasIdentifierChars_comboBase_iff position c)
      rw [List.filter_cons_of_pos (by simpa using h), ownSymbols_cons_of_hasKeys h]
      exact .cons own (ih _ _)
    · -- A combo without a node takes no symbol.
      rw [List.filter_cons_of_neg (by simpa using h), ownSymbols_cons_of_not_hasKeys h]
      exact ih taken (position + 1)

theorem isIdentifier_comboLead : IsIdentifier comboLead :=
  .of_head (c := 'c') (by decide) (by decide) (by decide)

/-- The names of the nodes of combos. -/
theorem forall₂_head_comboContents (f : Formatter) (layout : Layout) (cs : List Combo) :
    List.Forall₂ (fun c n => IsIdentifier n.head ↔ HasAsciiWords (trimmed c.name))
      (cs.filter fun c => HasKeys layout.keyCount c) (comboContents f layout cs) := by
  have led : List.Forall₂ (fun c head => IsIdentifier head ↔ HasAsciiWords (trimmed c.name))
      (cs.filter fun c => HasKeys layout.keyCount c)
      ((comboSymbols layout.keyCount cs).map (comboLead ++ ·)) := by
    rw [List.forall₂_map_right_iff]
    refine (forall₂_ownSymbols layout.keyCount [] 0 cs).imp fun c symbol h => ?_
    exact (isIdentifier_append_iff isIdentifier_comboLead symbol).trans h
  rw [← map_head_comboContents f, List.forall₂_map_right_iff] at led
  exact led

end Node

/-! ### Generated names -/

/-- **Generated names.**  The symbol of a name does not start with a digit, and only the empty name
has the empty symbol.  Its characters are those of identifiers exactly when the word characters of
the name are ASCII, and exactly then a definition or a node that is named after it has an
identifier for a name. -/
theorem identifiers_iff (name : String) (names : List String) (d : Document) (l : Layout)
    (map : Kconfig.Map) :
    ((HasIdentifierChars (Symbol.ofName name) ↔ HasAsciiWords name) ∧
        StartsWithoutDigit (Symbol.ofName name) ∧ (Symbol.ofName name = "" ↔ name = "")) ∧
      List.Forall₂ (fun name definition => IsIdentifier definition.1 ↔ HasAsciiWords name) names
        (Preprocessor.definitions (LayerTable.ofNames names).value.defines) ∧
      ∃ (layers : List (String × List String)) (combos : List Devicetree.NodeContent),
        (d.fragments l map).value.keymap = Node.keymapSource layers ∧
          List.Forall₂ (fun name n => IsIdentifier (Node.layerLead ++ n.1) ↔ HasAsciiWords name)
            d.namesOfLayers layers ∧
          (d.fragments l map).value.combos = Node.combosSource combos ∧
          List.Forall₂ (fun c n => IsIdentifier n.head ↔ HasAsciiWords (trimmed c.name))
            (d.combos.filter fun c => Node.HasKeys l.keyCount c) combos := by
  refine ⟨⟨?_, ?_, ?_⟩, LayerTable.forall₂_definitions names, ?_⟩
  · exact Symbol.hasIdentifierChars_ofName_iff name
  · exact Symbol.startsWithoutDigit_ofName name
  · exact Symbol.ofName_eq_empty_iff name
  · -- Both sections print the symbols that they are given behind a lead.
    rw [Document.value_fragments]
    exact ⟨_, _, Node.value_keymap_eq_source _ _ _, Node.forall₂_layerNodes d l,
      Node.value_combos_eq_source _ _ _, Node.forall₂_head_comboContents _ _ _⟩

/-- A letter of another script stays in the symbol, and what is defined is no identifier. -/
theorem ofName_not_identifier :
    Symbol.ofName "é" = "é" ∧ ¬ HasIdentifierChars (Symbol.ofName "é") ∧
      LayerTable.defines (LayerTable.ofNames ["é"]).value = "#define LAYER_é 0\n" := by
  decide +kernel

end KeymapCompiler
