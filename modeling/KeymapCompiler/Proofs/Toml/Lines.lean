/-
KeymapCompiler/Proofs/Toml/Lines.lean

A document is read line by line.  `ReadsTo` says what a text adds to the entries
that were read before it, so a document is followed from its last line to its
first, one lemma for each kind of line:

* an empty line adds nothing (`ReadsTo.newline`);
* a header opens a table (`ReadsTo.header`);
* an assignment adds an entry to the table that was opened last
  (`ReadsTo.assignment`).

A document is put together from these by its own theory, which says which lines it
has and in what order; here each line is followed by any text that reads.
-/
import KeymapCompiler.Proofs.Toml.Strings

namespace KeymapCompiler.Toml

variable {es es' : Entries} {table : List String} {text name rest : List Char}

/-- Reading a text after some entries ends with other entries. -/
def ReadsTo (es : Entries) (table : List String) (text : List Char) (es' : Entries) : Prop :=
  ∀ fuel, text.length < fuel → readLines fuel es table text = some es'

/-- A key that is written as it is. -/
def IsBareKey (name : List Char) : Prop :=
  name ≠ [] ∧ ∀ c ∈ name, isKeyChar c = true

/-! ### Lines -/

theorem ReadsTo.nil (es : Entries) (table : List String) : ReadsTo es table [] es := by
  intro fuel hfuel
  obtain ⟨fuel, rfl⟩ := Nat.exists_eq_add_one.mpr hfuel
  rfl

theorem skipBlanks_cons {c : Char} (h : isBlank c = false) (tail : List Char) :
    skipBlanks (c :: tail) = c :: tail := by
  simp [skipBlanks, h]

theorem ReadsTo.newline (h : ReadsTo es table rest es') : ReadsTo es table ('\n' :: rest) es' := by
  intro fuel hfuel
  obtain ⟨fuel, rfl⟩ := Nat.exists_eq_add_one.mpr (Nat.zero_lt_of_lt hfuel)
  rw [← h fuel (Nat.lt_of_succ_lt_succ hfuel), readLines, skipBlanks_cons rfl]
  rfl

theorem ne_of_isKeyChar {c d : Char} (hc : isKeyChar c = true) (hd : isKeyChar d = false) :
    c ≠ d := by
  rintro rfl
  rw [hc] at hd
  cases hd

theorem isBlank_of_isKeyChar {c : Char} (h : isKeyChar c = true) : isBlank c = false := by
  rw [isBlank, Bool.or_eq_false_iff, beq_eq_false_iff_ne, beq_eq_false_iff_ne]
  exact ⟨ne_of_isKeyChar h (by decide), ne_of_isKeyChar h (by decide)⟩

theorem IsBareKey.exists_cons (h : IsBareKey name) :
    ∃ c tail, name = c :: tail ∧ isKeyChar c = true := by
  cases name with
  | nil => exact absurd rfl h.1
  | cons c tail => exact ⟨c, tail, rfl, h.2 c List.mem_cons_self⟩

theorem IsBareKey.splitKeyPart_eq (h : IsBareKey name)
    (hrest : ∀ c ∈ rest.head?, isKeyChar c = false) :
    splitKeyPart (name ++ rest) = some (String.ofList name, rest) := by
  obtain ⟨c, tail, hname, hc⟩ := h.exists_cons
  have htake := Text.takeWhile_append_of_stop h.2 hrest
  unfold splitKeyPart
  split
  · -- A key without quotes starts with none.
    next hquote =>
    rw [hname, List.cons_append] at hquote
    exact absurd (List.cons.inj hquote).1 (ne_of_isKeyChar hc (by decide))
  · next hquote =>
    rw [hname, List.cons_append] at hquote
    exact absurd (List.cons.inj hquote).1 (ne_of_isKeyChar hc (by decide))
  · dsimp only
    rw [htake, List.drop_left, if_neg (by simpa using h.1)]

/-- A key ends before blanks and the character behind them, unless that is a point. -/
theorem IsBareKey.splitKey_eq (h : IsBareKey name)
    (hrest : ∀ c ∈ rest.head?, isKeyChar c = false) {c : Char} {tail : List Char}
    (hskip : skipBlanks rest = c :: tail) (hpoint : c ≠ '.') :
    splitKey (name ++ rest) = some ([String.ofList name], c :: tail) := by
  obtain ⟨d, more, hname, hd⟩ := h.exists_cons
  have hkeep : skipBlanks (name ++ rest) = name ++ rest := by
    rw [hname, List.cons_append]
    exact skipBlanks_cons (isBlank_of_isKeyChar hd) _
  rw [splitKey, depthLimit, splitKeyParts, hkeep, h.splitKeyPart_eq hrest]
  simp [hskip, hpoint]

theorem readLines_header {c : Char} (hc : c ≠ '[') (fuel : Nat) (tail : List Char) :
    readLines (fuel + 1) es table ('[' :: c :: tail) =
      (splitHeader [']'] (c :: tail)).bind fun header =>
        (es.openTable header.1).bind fun opened =>
          (endLine? header.2).bind fun rest => readLines fuel opened header.1 rest := by
  rw [readLines, skipBlanks_cons rfl]
  simp [hc]

/-- A header opens a table. -/
theorem ReadsTo.header (hname : IsBareKey name) {opened : Entries}
    (hopen : es.openTable [String.ofList name] = some opened)
    (h : ReadsTo opened [String.ofList name] rest es') :
    ReadsTo es table ('[' :: (name ++ ']' :: '\n' :: rest)) es' := by
  intro fuel hfuel
  obtain ⟨fuel, rfl⟩ := Nat.exists_eq_add_one.mpr (Nat.zero_lt_of_lt hfuel)
  simp only [List.length_cons, List.length_append] at hfuel
  have hkey : splitKey (name ++ ']' :: '\n' :: rest)
      = some ([String.ofList name], ']' :: '\n' :: rest) :=
    hname.splitKey_eq (by simp; decide) rfl (by decide)
  have hclose : splitHeader [']'] (name ++ ']' :: '\n' :: rest)
      = some ([String.ofList name], '\n' :: rest) := by
    simp [splitHeader, hkey]
  obtain ⟨c, tail, rfl, hc⟩ := hname.exists_cons
  -- The second character is no bracket, so this is no header of several tables.
  rw [List.cons_append, readLines_header (ne_of_isKeyChar hc (by decide)), ← List.cons_append,
    hclose]
  show (es.openTable _).bind _ = _
  rw [hopen]
  exact h fuel (by omega)

theorem readLines_assignment {c : Char} (hc : isKeyChar c = true) (fuel : Nat) (tail : List Char) :
    readLines (fuel + 1) es table (c :: tail) =
      (splitPair (2 * (c :: tail).length + 2) depthLimit (c :: tail)).bind fun pair =>
        (es.assignIn table pair.1 pair.2.1).bind fun added =>
          (endLine? pair.2.2).bind fun rest => readLines fuel added table rest := by
  have hbracket : c ≠ '[' := ne_of_isKeyChar hc (by decide)
  have hnewline : c ≠ '\n' := ne_of_isKeyChar hc (by decide)
  have hreturn : c ≠ '\r' := ne_of_isKeyChar hc (by decide)
  have hcomment : c ≠ '\x23' := ne_of_isKeyChar hc (by decide)
  have hend : endLine? (c :: tail) = none := by
    simp [endLine?, skipBlanks_cons (isBlank_of_isKeyChar hc), skipComment, skipNewline?, hcomment,
      hnewline, hreturn]
  rw [readLines, skipBlanks_cons (isBlank_of_isKeyChar hc)]
  simp [hbracket, hend]

theorem exists_stringChars_cons (cs : List Char) :
    ∃ c tail, stringChars cs = c :: tail ∧ isBlank c = false := by
  unfold stringChars
  cases formOf cs with
  | basic | basicBlock => exact ⟨'\x22', _, rfl, rfl⟩
  | literal | literalBlock => exact ⟨'\x27', _, rfl, rfl⟩

theorem splitPair_assignment (hname : IsBareKey name) (value : List Char)
    (hdouble : rest.head? ≠ some '\x22') (hsingle : rest.head? ≠ some '\x27') (fuel depth : Nat) :
    splitPair (fuel + 2) depth (name ++ ' ' :: '=' :: ' ' :: (stringChars value ++ rest))
      = some ([String.ofList name], .string (String.ofList value), rest) := by
  have hkey : splitKey (name ++ ' ' :: '=' :: ' ' :: (stringChars value ++ rest))
      = some ([String.ofList name], '=' :: ' ' :: (stringChars value ++ rest)) :=
    hname.splitKey_eq (by simp; decide) rfl (by decide)
  have hskip : skipBlanks (' ' :: (stringChars value ++ rest)) = stringChars value ++ rest := by
    obtain ⟨c, tail, hcons, hc⟩ := exists_stringChars_cons value
    rw [hcons, List.cons_append]
    exact skipBlanks_cons hc _
  have hvalue := splitValue_stringChars value hdouble hsingle fuel depth
  simp [splitPair, hkey, hskip, hvalue]

/-- An assignment adds an entry to the table that was opened last. -/
theorem ReadsTo.assignment (hname : IsBareKey name) {value : List Char} {added : Entries}
    (hadd : es.assignIn table [String.ofList name] (.string (String.ofList value)) = some added)
    (h : ReadsTo added table rest es') :
    ReadsTo es table (name ++ ' ' :: '=' :: ' ' :: (stringChars value ++ '\n' :: rest)) es' := by
  intro fuel hfuel
  obtain ⟨fuel, rfl⟩ := Nat.exists_eq_add_one.mpr (Nat.zero_lt_of_lt hfuel)
  simp only [List.length_cons, List.length_append] at hfuel
  have hpair := @splitPair_assignment name ('\n' :: rest) hname value (by simp) (by simp)
  obtain ⟨c, tail, rfl, hc⟩ := hname.exists_cons
  rw [List.cons_append, readLines_assignment hc, ← List.cons_append, hpair]
  show (es.assignIn _ _ _).bind _ = _
  rw [hadd]
  exact h fuel (by omega)

/-! ### Tables -/

namespace Entries

variable {key : String} {item : Item}

theorem get?_add_self (h : es.get? key = none) (item : Item) :
    (es.add key item).get? key = some item := by
  simp only [get?] at h
  simp [get?, add, List.lookup_append, h]

theorem get?_add_of_ne {other : String} (h : other ≠ key) (item : Item) :
    (es.add key item).get? other = es.get? other := by
  have h : (other == key) = false := by simpa using h
  simp [get?, add, List.lookup_append, List.lookup_cons, h]

theorem set_add_self (h : es.get? key = none) (item other : Item) :
    (es.add key item).set key other = es.add key other := by
  have hne : ∀ e ∈ es, (if e.1 = key then (key, other) else e) = e := by
    intro e he
    have hkey := List.lookup_eq_none_iff.mp h e he
    exact if_neg fun heq => by simp [heq] at hkey
  rw [set, add, add, List.map_append, List.map_congr_left hne, List.map_id']
  simp

theorem openTable_of_get?_eq_none (h : es.get? key = none) :
    es.openTable [key] = some (es.add key (.table .explicit [])) := by
  simp [openTable, splitPath, enter, h]

theorem assignIn_add (hes : es.get? key = none) {inner : Entries} {name : String}
    (hinner : inner.get? name = none) (item : Item) :
    (es.add key (.table .explicit inner)).assignIn [key] [name] item
      = some (es.add key (.table .explicit (inner.add name item))) := by
  simp [assignIn, assign, splitPath, enter, get?_add_self hes, set_add_self hes, hinner]

end Entries

end KeymapCompiler.Toml
