/-
KeymapCompiler/Proofs/Binding/Bluetooth.lean

Bindings of `&bt`.  They are described by natural numbers, not by how the text of a number
is read:

    IsBluetoothCall ps        a command without index, or one with a natural number
    IsBluetoothSource text    `&bt` and a command, with decimal digits or without

An index that is given as an integer is written anew.  One that is given as a text is taken
over, and the reader of these texts differs from decimal digits in two ways
(`isIndexText_iff`): it lets a plus sign pass, and it refuses numbers of more than 32 bits.
So texts of the first kind are what makes a binding that is written no source, and texts of
either kind are all that a binding is accepted or refused for against its description.
-/
import KeymapCompiler.Proofs.Binding.Dispatch
import KeymapCompiler.Proofs.Decimal.Rounding

namespace KeymapCompiler

open KeymapCompiler.Behavior KeymapCompiler.Text

/-! ### Calls and their source -/

/-- The behavior of Bluetooth bindings. -/
def bluetoothName : String := "&bt"

/-- A text is a natural number in decimal digits. -/
def IsNumeral (s : String) : Prop :=
  s.toList ≠ [] ∧ ∀ c ∈ s.toList, c.isDigit = true

/-- A parameter is a natural number, as an integer or as a text. -/
inductive IsNatural : Param → Prop where
  /-- An integer. -/
  | number {n : Int} : 0 ≤ n → IsNatural (.int n)
  /-- A text. -/
  | text {s : String} : IsNumeral s → IsNatural (.str s)

/-- The parameters of a Bluetooth binding. -/
inductive IsBluetoothCall : List Param → Prop where
  /-- A command that takes no index. -/
  | command {name : String} : takesIndex? name = some false → IsBluetoothCall [.str name]
  /-- A command that takes an index, and a natural number. -/
  | profile {name : String} {p : Param} :
    takesIndex? name = some true → IsNatural p → IsBluetoothCall [.str name, p]

/-- A Bluetooth binding as source. -/
inductive IsBluetoothSource : String → Prop where
  /-- A command that takes no index. -/
  | command {name : String} :
    takesIndex? name = some false → IsBluetoothSource (bluetoothName ++ " " ++ name)
  /-- A command that takes an index, and decimal digits. -/
  | profile {name index : String} :
    takesIndex? name = some true → IsNumeral index →
      IsBluetoothSource (bluetoothName ++ " " ++ name ++ " " ++ index)

/-! ### Indices as texts -/

/-- A plus sign and the digits of a number of 32 bits. -/
def IsSignedIndex (s : String) : Prop :=
  ∃ digits, s.toList = '+' :: digits ∧ digits ≠ [] ∧ (∀ c ∈ digits, c.isDigit = true) ∧
    ofDigits digits < Word.count 32

/-- The digits of a number of more than 32 bits. -/
def IsWideIndex (s : String) : Prop :=
  IsNumeral s ∧ Word.count 32 ≤ ofDigits s.toList

/-- A text is given as the index of a command that takes one. -/
def GivesIndex (ps : List Param) (s : String) : Prop :=
  ∃ name, takesIndex? name = some true ∧ ps = [.str name, .str s]

theorem IsNumeral.plus_not_mem {s : String} (h : IsNumeral s) : '+' ∉ s.toList := by
  intro hplus
  exact absurd (h.2 '+' hplus) (by decide)

theorem IsSignedIndex.plus_mem {s : String} (h : IsSignedIndex s) : '+' ∈ s.toList := by
  obtain ⟨digits, hs, -⟩ := h
  rw [hs]
  exact List.mem_cons_self

theorem IsSignedIndex.not_isNumeral {s : String} (h : IsSignedIndex s) : ¬ IsNumeral s :=
  fun hnumeral => hnumeral.plus_not_mem h.plus_mem

/-- The texts that are read as indices are the digits that are not too many, and those with a plus
sign. -/
theorem isIndexText_iff (s : String) :
    IsIndexText s ↔ (IsNumeral s ∧ ¬ IsWideIndex s) ∨ IsSignedIndex s := by
  constructor
  · rintro ⟨digits, rfl | hs, hsome, hdigits, hfits⟩
    · exact .inl ⟨⟨hsome, hdigits⟩, fun hwide => Nat.not_lt.mpr hwide.2 hfits⟩
    · exact .inr ⟨digits, hs, hsome, hdigits, hfits⟩
  · rintro (⟨hnumeral, hwide⟩ | ⟨digits, hs, hsome, hdigits, hfits⟩)
    · have hfits : ofDigits s.toList < Word.count 32 :=
        Nat.not_le.mp fun hle => hwide ⟨hnumeral, hle⟩
      exact ⟨s.toList, .inl rfl, hnumeral.1, hnumeral.2, hfits⟩
    · exact ⟨digits, .inr hs, hsome, hdigits, hfits⟩

/-- The reader of indices takes decimal digits and nothing else, the two kinds of texts aside. -/
theorem isIndexText_iff_isNumeral_iff (s : String) :
    (IsIndexText s ↔ IsNumeral s) ↔ ¬ IsSignedIndex s ∧ ¬ IsWideIndex s := by
  rw [isIndexText_iff]
  constructor
  · intro h
    refine ⟨fun hsigned => hsigned.not_isNumeral (h.mp (.inr hsigned)), fun hwide => ?_⟩
    rcases h.mpr hwide.1 with hnarrow | hsigned
    · exact hnarrow.2 hwide
    · exact hsigned.not_isNumeral hwide.1
  · rintro ⟨hsigned, hwide⟩
    constructor
    · rintro (hnarrow | h)
      · exact hnarrow.1
      · exact absurd h hsigned
    · exact fun hnumeral => .inl ⟨hnumeral, hwide⟩

theorem GivesIndex.unique {ps : List Param} {s t : String} (hs : GivesIndex ps s)
    (ht : GivesIndex ps t) : s = t := by
  obtain ⟨name, -, rfl⟩ := hs
  obtain ⟨name', -, e⟩ := ht
  injection e with _ e
  injection e with e
  injection e

theorem isNumeral_toString {n : Int} (h : 0 ≤ n) : IsNumeral (toString n) := by
  rw [IsNumeral, Decimal.toList_toString, if_neg (Int.not_lt.mpr h), List.nil_append]
  exact ⟨by simp, fun c hc => Nat.isDigit_of_mem_toDigits (by decide) (by decide) hc⟩

/-! ### Source has no plus sign -/

theorem plus_not_mem_command {name : String} {takes : Bool} (h : takesIndex? name = some takes) :
    '+' ∉ name.toList := by
  have commands : ∀ p ∈ bluetoothCommands, '+' ∉ p.1.toList := by decide +kernel
  obtain ⟨before, after, e, -⟩ := List.lookup_eq_some_iff.mp h
  exact commands (name, takes) (by rw [e]; simp)

theorem IsBluetoothSource.plus_not_mem {text : String} (h : IsBluetoothSource text) :
    '+' ∉ text.toList := by
  have lead : '+' ∉ bluetoothName.toList := by decide +kernel
  have space : '+' ∉ " ".toList := by decide +kernel
  cases h with
  | command htakes =>
    simp only [String.toList_append, List.mem_append, not_or]
    exact ⟨⟨lead, space⟩, plus_not_mem_command htakes⟩
  | profile htakes hindex =>
    simp only [String.toList_append, List.mem_append, not_or]
    exact ⟨⟨⟨⟨lead, space⟩, plus_not_mem_command htakes⟩, space⟩, hindex.plus_not_mem⟩

/-! ### What is written -/

namespace Formatter

variable {f : Formatter} {ps : List Param} {text : String}

/-- A Bluetooth binding is written as its command, and the field of its index if it has one. -/
theorem format_bluetooth_eq_ok_iff :
    f.format ⟨bluetoothName, ps⟩ = .ok text ↔
      (∃ name, takesIndex? name = some false ∧ ps = [.str name] ∧
        text = bluetoothName ++ " " ++ name) ∨
      ∃ name p index, takesIndex? name = some true ∧ ps = [.str name, p] ∧ IndexField p index ∧
        text = bluetoothName ++ " " ++ name ++ " " ++ index := by
  have name : canonical bluetoothName = bluetoothName := by decide +kernel
  have family : family? (canonical bluetoothName) = some .bluetooth := by decide +kernel
  rw [format_of_family? (b := ⟨bluetoothName, ps⟩) family, builtin_eq_ok_iff]
  simp only [name]
  constructor
  · rintro ⟨fields, hfits, rfl⟩
    cases hfits with
    | command htakes => exact .inl ⟨_, htakes, rfl, cells_one _ _⟩
    | profile htakes hindex => exact .inr ⟨_, _, _, htakes, rfl, hindex, cells_two _ _ _⟩
  · rintro (⟨command, htakes, rfl, rfl⟩ | ⟨command, p, index, htakes, rfl, hindex, rfl⟩)
    · exact ⟨[command], .command htakes, (cells_one _ _).symm⟩
    · exact ⟨[command, index], .profile htakes hindex, (cells_two _ _ _).symm⟩

/-- An index that is given as a text is taken over if it is read as an index. -/
theorem exists_format_bluetooth_of_givesIndex {s : String} (h : GivesIndex ps s) :
    (∃ text, f.format ⟨bluetoothName, ps⟩ = .ok text) ↔ IsIndexText s := by
  obtain ⟨name, htakes, rfl⟩ := h
  constructor
  · rintro ⟨text, hok⟩
    obtain ⟨_, _, e, -⟩ | ⟨_, p, index, -, e, hindex, -⟩ := format_bluetooth_eq_ok_iff.mp hok
    · cases e
    · obtain ⟨-, e⟩ := List.cons.inj e
      obtain ⟨rfl, -⟩ := List.cons.inj e
      cases hindex with
      | text hs => exact hs
  · intro hs
    exact ⟨_, format_bluetooth_eq_ok_iff.mpr (.inr ⟨name, _, s, htakes, rfl, .text hs, rfl⟩)⟩

theorem isBluetoothCall_of_givesIndex {s : String} (h : GivesIndex ps s) :
    IsBluetoothCall ps ↔ IsNumeral s := by
  obtain ⟨name, htakes, rfl⟩ := h
  constructor
  · intro hcall
    cases hcall with
    | profile _ hnatural =>
      cases hnatural with
      | text hs => exact hs
  · intro hs
    exact .profile htakes (.text hs)

/-- Without a text as index, the parameters are accepted by their description. -/
theorem exists_format_bluetooth_of_not_givesIndex (h : ∀ s, ¬ GivesIndex ps s) :
    (∃ text, f.format ⟨bluetoothName, ps⟩ = .ok text) ↔ IsBluetoothCall ps := by
  constructor
  · rintro ⟨text, hok⟩
    -- An index is then an integer, and both sides ask of it to be at least zero.
    obtain ⟨name, htakes, rfl, -⟩ | ⟨name, p, index, htakes, rfl, hindex, -⟩ :=
      format_bluetooth_eq_ok_iff.mp hok
    · exact .command htakes
    · cases hindex with
      | number hn => exact .profile htakes (.number hn)
      | text hs => exact absurd ⟨name, htakes, rfl⟩ (h _)
  · intro hcall
    cases hcall with
    | command htakes => exact ⟨_, format_bluetooth_eq_ok_iff.mpr (.inl ⟨_, htakes, rfl, rfl⟩)⟩
    | profile htakes hnatural =>
      cases hnatural with
      | number hn =>
        exact ⟨_, format_bluetooth_eq_ok_iff.mpr (.inr ⟨_, _, _, htakes, rfl, .number hn, rfl⟩)⟩
      | text hs => exact absurd ⟨_, htakes, rfl⟩ (h _)

/-- What is written of an index without plus sign are digits. -/
theorem isBluetoothSource_of_format (h : ∀ s, GivesIndex ps s → ¬ IsSignedIndex s)
    (hok : f.format ⟨bluetoothName, ps⟩ = .ok text) : IsBluetoothSource text := by
  obtain ⟨name, htakes, -, rfl⟩ | ⟨name, p, index, htakes, rfl, hindex, rfl⟩ :=
    format_bluetooth_eq_ok_iff.mp hok
  · exact .command htakes
  · cases hindex with
    | number hn => exact .profile htakes (isNumeral_toString hn)
    | text hs =>
      rcases (isIndexText_iff _).mp hs with hnarrow | hsigned
      · exact .profile htakes hnarrow.1
      · exact absurd hsigned (h _ ⟨name, htakes, rfl⟩)

/-- A plus sign before an index gets into the text, which is then no source. -/
theorem exists_format_bluetooth_of_isSignedIndex {s : String} (h : GivesIndex ps s)
    (hsigned : IsSignedIndex s) :
    ∃ text, f.format ⟨bluetoothName, ps⟩ = .ok text ∧ ¬ IsBluetoothSource text := by
  obtain ⟨name, htakes, rfl⟩ := h
  have hindex : IsIndexText s := (isIndexText_iff s).mpr (.inr hsigned)
  refine ⟨_, format_bluetooth_eq_ok_iff.mpr
    (.inr ⟨name, _, s, htakes, rfl, .text hindex, rfl⟩), fun hsource => ?_⟩
  refine hsource.plus_not_mem ?_
  rw [String.toList_append]
  exact List.mem_append_right _ hsigned.plus_mem

/-! ### Bluetooth bindings -/

/-- What becomes of a Bluetooth binding. -/
structure BluetoothWritten (f : Formatter) (ps : List Param) : Prop where
  /-- It is written as its command, and the field of its index if the command takes one. -/
  text : ∀ text, f.format ⟨bluetoothName, ps⟩ = .ok text ↔
    (∃ name, takesIndex? name = some false ∧ ps = [.str name] ∧
      text = bluetoothName ++ " " ++ name) ∨
    ∃ name p index, takesIndex? name = some true ∧ ps = [.str name, p] ∧ IndexField p index ∧
      text = bluetoothName ++ " " ++ name ++ " " ++ index
  /-- It is accepted by its description, but for a text as index that has a plus sign or is a
  number of more than 32 bits. -/
  accepted : ((∃ text, f.format ⟨bluetoothName, ps⟩ = .ok text) ↔ IsBluetoothCall ps) ↔
    ∀ s, GivesIndex ps s → ¬ IsSignedIndex s ∧ ¬ IsWideIndex s
  /-- What is written is source, but for a text as index that has a plus sign. -/
  source : (∀ text, f.format ⟨bluetoothName, ps⟩ = .ok text → IsBluetoothSource text) ↔
    ∀ s, GivesIndex ps s → ¬ IsSignedIndex s

/-- **Bluetooth bindings.**  For every list of parameters, a binding is accepted exactly when it is
a command with the natural number that it takes, and written as the command and digits, unless the
number is a text of one of the two kinds that the reader of texts takes another way. -/
theorem bluetooth_written (f : Formatter) (ps : List Param) : BluetoothWritten f ps where
  text _ := format_bluetooth_eq_ok_iff
  accepted := by
    -- Only a text as index is read by a reader of its own, and there is at most one.
    by_cases h : ∃ s, GivesIndex ps s
    · obtain ⟨s, hs⟩ := h
      rw [exists_format_bluetooth_of_givesIndex hs, isBluetoothCall_of_givesIndex hs,
        isIndexText_iff_isNumeral_iff]
      constructor
      · intro hplain t ht
        exact hs.unique ht ▸ hplain
      · exact fun hplain => hplain s hs
    · have none : ∀ s, ¬ GivesIndex ps s := fun s hs => h ⟨s, hs⟩
      exact iff_of_true (exists_format_bluetooth_of_not_givesIndex none)
        fun s hs => absurd hs (none s)
  source := by
    constructor
    · intro hsource s hs hsigned
      obtain ⟨text, hok, hnot⟩ := exists_format_bluetooth_of_isSignedIndex (f := f) hs hsigned
      exact hnot (hsource text hok)
    · exact fun h text hok => isBluetoothSource_of_format h hok

/-- A plus sign is accepted and written before the index, and the number that is one too great for
32 bits is refused as a text. -/
theorem bluetooth_index_not_digits :
    (⟨.withBuiltins, []⟩ : Formatter).format ⟨bluetoothName, [.str "BT_SEL", .str "+5"]⟩
        = .ok "&bt BT_SEL +5" ∧
      ¬ IsBluetoothSource "&bt BT_SEL +5" ∧
      ¬ IsBluetoothCall [.str "BT_SEL", .str "+5"] ∧
      (⟨.withBuiltins, []⟩ : Formatter).format ⟨bluetoothName, [.str "BT_SEL", .str "4294967296"]⟩
        = .error (.indexNotNumber "BT_SEL" "4294967296") ∧
      IsBluetoothCall [.str "BT_SEL", .str "4294967296"] := by
  have takes : takesIndex? "BT_SEL" = some true := by decide +kernel
  have signed : IsSignedIndex "+5" :=
    ⟨['5'], by decide +kernel, by decide, List.forall_mem_singleton.mpr (by decide), by decide⟩
  have wide : IsNumeral "4294967296" :=
    ⟨by decide +kernel, List.all_eq_true.mp (by decide +kernel)⟩
  refine ⟨by decide +kernel, fun h => ?_, fun h => ?_, by decide +kernel, ?_⟩
  · exact h.plus_not_mem (by decide +kernel)
  · exact signed.not_isNumeral ((isBluetoothCall_of_givesIndex ⟨_, takes, rfl⟩).mp h)
  · exact .profile takes (.text wide)

end Formatter

end KeymapCompiler
