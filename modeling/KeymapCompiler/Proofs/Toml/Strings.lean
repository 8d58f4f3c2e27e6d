/-
KeymapCompiler/Proofs/Toml/Strings.lean

Strings are read back as they were written.  A string has four forms, but in all of
them it is written character by character, and a reader takes the characters off
the front of the text one by one:

* `IsPiece` says that a piece of text stands for one character to a reader: an
  escaped character does (`escape_escapeChar`), and so does a plain one;
* a text on one line is a run of such pieces (`splitLine_flatMap`);
* in a text over several lines quotes stand for themselves, at most two in a row
  (`InBlock`), so that the three quotes at its end are the first that are read
  (`InBlock.splitBlock_eq`).

Which form is chosen does not matter to what is read (`splitValue_stringChars`).
-/
import KeymapCompiler.Proofs.Text.Runs
import KeymapCompiler.Toml.Printer
import KeymapCompiler.Toml.Reader
import Mathlib.Tactic.SplitIfs

namespace KeymapCompiler.Toml

variable {quote c : Char} {cs rest : List Char}

/-! ### Pieces that stand for a character -/

/-- A piece of text stands for a character to a reader of text between quotes. -/
structure IsPiece (read : Nat → List Char → Option (List Char × List Char)) (quote c : Char)
    (piece : List Char) : Prop where
  /-- The reader takes it off the front as the character, whatever follows. -/
  reads : ∀ fuel rest,
    read (fuel + 1) (piece ++ rest) = (read fuel rest).map fun p => (c :: p.1, p.2)
  /-- It starts with no quote. -/
  start : ∃ a tail, piece = a :: tail ∧ a ≠ quote
  /-- It holds an end of line only if it stands for one. -/
  newline : '\n' ∈ piece → c = '\n'

/-- The escape of a character between double quotes: it stands for itself, or a backslash stands
in front. -/
inductive Escape (keepNewline : Bool) (c : Char) : List Char → Prop
  /-- The character as it is. -/
  | plain (hplain : isPlain c = true) (hquote : c ≠ '\x22') (hslash : c ≠ '\\') :
      Escape keepNewline c [c]
  /-- An end of line in a text over several lines. -/
  | newline (hkeep : keepNewline = true) (hnewline : c = '\n') : Escape keepNewline c ['\n']
  /-- A code after a backslash. -/
  | code {code : List Char} (hcode : ∀ rest, splitEscape (code ++ rest) = some (c, rest))
      (hfold : ∀ rest, splitFold (code ++ rest) = none) (hnewline : '\n' ∉ code) :
      Escape keepNewline c ('\\' :: code)

/-- The digits of the number of a control character. -/
def controlDigits (n : Nat) : List Char :=
  let digits := (Nat.toDigits 16 n).map Char.toUpper
  List.replicate (4 - digits.length) '0' ++ digits

theorem controlDigits_spec :
    ∀ n < 128,
      (controlDigits n).length = 4 ∧ (controlDigits n).all Text.isHexDigit = true ∧
        charOf? (Text.ofHexDigits (controlDigits n)) = some (Char.ofNat n) ∧
        '\n' ∉ controlDigits n := by
  decide +kernel

theorem toNat_lt_of_isControl (h : isControl c = true) : c.toNat < 128 := by
  simp only [isControl, Bool.or_eq_true, Bool.and_eq_true, decide_eq_true_eq, beq_iff_eq] at h
  omega

theorem splitCode_controlDigits (h : c.toNat < 128) (rest : List Char) :
    splitCode 4 (controlDigits c.toNat ++ rest) = some (c, rest) := by
  obtain ⟨hlength, hhex, hchar, -⟩ := controlDigits_spec c.toNat h
  have htake : (controlDigits c.toNat ++ rest).take 4 = controlDigits c.toNat := by
    rw [← hlength, List.take_left]
  have hdrop : (controlDigits c.toNat ++ rest).drop 4 = rest := by
    rw [← hlength, List.drop_left]
  simp [splitCode, htake, hdrop, hlength, hhex, hchar, Char.ofNat_toNat]

theorem isPlain_of_not_isControl (hcontrol : isControl c = false) (hnewline : c ≠ '\n') :
    isPlain c = true := by
  by_cases htab : c = '\t'
  · subst htab
    rfl
  · have hcontrol : 32 ≤ c.toNat ∧ c.toNat ≠ 127 := by
      simpa [isControl, htab, hnewline] using hcontrol
    simp [isPlain, hcontrol]

theorem escape_escapeChar (keepNewline : Bool) (c : Char) :
    Escape keepNewline c (escapeChar keepNewline c) := by
  unfold escapeChar
  split_ifs with hb ht hn hkeep hf hr hquote hslash hcontrol
  · subst hb; exact .code (fun _ => rfl) (fun _ => rfl) (by decide)
  · subst ht; exact .code (fun _ => rfl) (fun _ => rfl) (by decide)
  · exact .newline hkeep hn
  · subst hn; exact .code (fun _ => rfl) (fun _ => rfl) (by decide)
  · subst hf; exact .code (fun _ => rfl) (fun _ => rfl) (by decide)
  · subst hr; exact .code (fun _ => rfl) (fun _ => rfl) (by decide)
  · subst hquote; exact .code (fun _ => rfl) (fun _ => rfl) (by decide)
  · subst hslash; exact .code (fun _ => rfl) (fun _ => rfl) (by decide)
  · -- The other control characters are written by their numbers.
    have hlt := toNat_lt_of_isControl hcontrol
    have hcode : ∀ rest, splitEscape (('u' :: controlDigits c.toNat) ++ rest) = some (c, rest) :=
      splitCode_controlDigits hlt
    refine .code hcode (fun _ => rfl) (List.not_mem_cons_of_ne_of_not_mem (by decide) ?_)
    exact (controlDigits_spec c.toNat hlt).2.2.2
  · exact .plain (isPlain_of_not_isControl (by simpa using hcontrol) hn) hquote hslash

/-! ### Texts on one line -/

theorem isPiece_line_plain (hplain : isPlain c = true) (hquote : c ≠ quote)
    (hslash : ¬(c = '\\' ∧ quote = '\x22')) : IsPiece (splitLine quote) quote c [c] where
  reads fuel rest := by
    have hslash : (c = '\\' && quote = '\x22') = false := by simpa using hslash
    rw [List.singleton_append, splitLine, if_neg hquote, hslash, if_neg (by simp), if_pos hplain]
    cases splitLine quote fuel rest <;> rfl
  start := ⟨c, [], rfl, hquote⟩
  newline h := (List.mem_singleton.mp h).symm

theorem Escape.isPiece_line {piece : List Char} (h : Escape false c piece) :
    IsPiece (splitLine '\x22') '\x22' c piece := by
  cases h with
  | plain hplain hquote hslash => exact isPiece_line_plain hplain hquote (by simp [hslash])
  | newline hkeep hnewline => cases hkeep
  | @code code hcode hfold hnewline =>
    refine ⟨fun fuel rest => ?_, ⟨'\\', code, rfl, by decide⟩, fun h => ?_⟩
    · rw [List.cons_append, splitLine, if_neg (by decide), if_pos (by decide), hcode]
      rcases h : splitLine '\x22' fuel rest with _ | ⟨text, after⟩ <;> simp [h]
    · exact absurd h (List.not_mem_cons_of_ne_of_not_mem (by decide) hnewline)

/-- A run of pieces up to the closing quote is read piece by piece. -/
theorem splitLine_flatMap {write : Char → List Char}
    (hwrite : ∀ c ∈ cs, IsPiece (splitLine quote) quote c (write c)) {fuel : Nat}
    (hfuel : (cs.flatMap write).length < fuel) (rest : List Char) :
    splitLine quote fuel (cs.flatMap write ++ quote :: rest) = some (cs, rest) := by
  induction cs generalizing fuel with
  | nil =>
    obtain ⟨fuel, rfl⟩ := Nat.exists_eq_add_one.mpr hfuel
    simp [splitLine]
  | cons c cs ih =>
    obtain ⟨fuel, rfl⟩ := Nat.exists_eq_add_one.mpr (Nat.zero_lt_of_lt hfuel)
    obtain ⟨a, tail, htail, -⟩ := (hwrite c List.mem_cons_self).start
    rw [List.flatMap_cons, List.length_append, htail, List.length_cons] at hfuel
    -- Each piece is read back with the text behind it, so the texts behind are read in turn.
    have hread : splitLine quote fuel (cs.flatMap write ++ quote :: rest) = some (cs, rest) :=
      ih (fun d hd => hwrite d (List.mem_cons_of_mem c hd)) (by omega)
    rw [List.flatMap_cons, List.append_assoc, (hwrite c List.mem_cons_self).reads, hread]
    rfl

/-! ### Texts over several lines -/

/-- A text over several lines as it is written after some quotes in a row: three of them never
stand together. -/
inductive InBlock (quote : Char) : Nat → List Char → List Char → Prop
  /-- The text ends. -/
  | nil {quotes : Nat} (hquotes : quotes ≤ 2) : InBlock quote quotes [] []
  /-- Another quote. -/
  | quote {quotes : Nat} {cs written : List Char} (h : InBlock quote (quotes + 1) cs written) :
      InBlock quote quotes (quote :: cs) (quote :: written)
  /-- Another character. -/
  | piece {quotes : Nat} {c : Char} {cs piece written : List Char} (hquotes : quotes ≤ 2)
      (hpiece : IsPiece (splitBlock quote) quote c piece) (h : InBlock quote 0 cs written) :
      InBlock quote quotes (c :: cs) (piece ++ written)

/-- Quotes in front of other text: three end the text, and up to two more belong to it. -/
theorem splitBlock_quotes {n fuel : Nat} (hn : 0 < n) (hle : n ≤ 5)
    (hrest : rest.head? ≠ some quote) :
    splitBlock quote (fuel + 1) (List.replicate n quote ++ rest) =
      if 3 ≤ n then some (List.replicate (n - 3) quote, rest)
      else (splitBlock quote fuel rest).map fun p => (List.replicate n quote ++ p.1, p.2) := by
  obtain ⟨m, rfl⟩ := Nat.exists_eq_add_one.mpr hn
  have htake : (List.replicate (m + 1) quote ++ rest).takeWhile (· == quote)
      = List.replicate (m + 1) quote := by
    refine Text.takeWhile_append_of_stop (fun c hc => by simpa using List.eq_of_mem_replicate hc) ?_
    rintro c hc
    exact beq_eq_false_iff_ne.mpr fun heq => hrest (heq ▸ hc)
  have hcons : List.replicate (m + 1) quote ++ rest = quote :: (List.replicate m quote ++ rest) :=
    rfl
  rw [splitBlock.eq_def, hcons]
  dsimp only
  rw [if_pos rfl, ← hcons, htake, List.length_replicate, if_neg (by omega), List.drop_replicate,
    List.drop_left' List.length_replicate]
  -- From three on the run closes the block, and the quotes before them belong to the text.
  split_ifs with h3
  · rfl
  · cases splitBlock quote fuel rest <;> rfl

theorem isPiece_block_plain (hplain : isPlain c = true ∨ c = '\n') (hquote : c ≠ quote)
    (hslash : ¬(c = '\\' ∧ quote = '\x22')) : IsPiece (splitBlock quote) quote c [c] where
  reads fuel rest := by
    have hslash : (c = '\\' && quote = '\x22') = false := by simpa using hslash
    have hreturn : c ≠ '\r' := by
      rintro rfl
      revert hplain
      decide
    rw [List.singleton_append, splitBlock.eq_def]
    dsimp only
    rw [if_neg hquote, hslash, if_neg (by simp), if_neg hreturn, if_pos (by simpa using hplain)]
    cases splitBlock quote fuel rest <;> rfl
  start := ⟨c, [], rfl, hquote⟩
  newline h := (List.mem_singleton.mp h).symm

theorem Escape.isPiece_block {piece : List Char} (h : Escape true c piece) :
    IsPiece (splitBlock '\x22') '\x22' c piece := by
  cases h with
  | plain hplain hquote hslash => exact isPiece_block_plain (.inl hplain) hquote (by simp [hslash])
  | newline hkeep hnewline =>
    subst hnewline
    exact isPiece_block_plain (.inr rfl) (by decide) (by decide)
  | @code code hcode hfold hnewline =>
    refine ⟨fun fuel rest => ?_, ⟨'\\', code, rfl, by decide⟩, fun h => ?_⟩
    · rw [List.cons_append, splitBlock.eq_def]
      dsimp only
      rw [if_neg (by decide), if_pos (by decide), hfold, hcode]
      rcases h : splitBlock '\x22' fuel rest with _ | ⟨text, after⟩ <;> simp [h]
    · exact absurd h (List.not_mem_cons_of_ne_of_not_mem (by decide) hnewline)

/-- A text over several lines is read as it was written. The quotes that were read before it belong
to it. -/
theorem InBlock.splitBlock_eq {quotes fuel : Nat} {written : List Char}
    (h : InBlock quote quotes cs written) (hrest : rest.head? ≠ some quote)
    (hfuel : quotes + written.length + 3 ≤ fuel) :
    splitBlock quote fuel
        (List.replicate quotes quote ++ (written ++ (List.replicate 3 quote ++ rest))) =
      some (List.replicate quotes quote ++ cs, rest) := by
  induction h generalizing fuel with
  | @nil quotes hquotes =>
    obtain ⟨fuel, rfl⟩ := Nat.exists_eq_add_one.mpr (show 0 < fuel by omega)
    rw [List.nil_append, ← List.append_assoc, List.replicate_append_replicate,
      splitBlock_quotes (by omega) (by omega) hrest, if_pos (by omega)]
    simp
  | @quote quotes cs written h ih =>
    -- The quote joins those that were read before.
    have hjoin : ∀ tail, List.replicate quotes quote ++ quote :: tail
        = List.replicate (quotes + 1) quote ++ tail := by
      intro tail
      rw [List.replicate_succ', List.append_assoc, List.singleton_append]
    rw [List.length_cons] at hfuel
    rw [hjoin, List.cons_append, hjoin]
    exact ih (by omega)
  | @piece quotes c cs piece written hquotes hpiece h ih =>
    obtain ⟨a, tail, rfl, ha⟩ := hpiece.start
    simp only [List.length_append, List.length_cons] at hfuel
    -- Without the quotes in front, the piece is read and then the rest.
    have hread : ∀ fuel, written.length + 4 ≤ fuel →
        splitBlock quote fuel ((a :: tail ++ written) ++ (List.replicate 3 quote ++ rest))
          = some (c :: cs, rest) := by
      intro fuel hfuel
      obtain ⟨fuel, rfl⟩ := Nat.exists_eq_add_one.mpr (show 0 < fuel by omega)
      have hrec : splitBlock quote fuel (written ++ (List.replicate 3 quote ++ rest))
          = some (cs, rest) := ih (by omega)
      rw [List.append_assoc, hpiece.reads, hrec]
      rfl
    rcases Nat.eq_zero_or_pos quotes with rfl | hpos
    · exact hread fuel (by omega)
    · obtain ⟨fuel, rfl⟩ := Nat.exists_eq_add_one.mpr (show 0 < fuel by omega)
      have hhead : ((a :: tail ++ written) ++ (List.replicate 3 quote ++ rest)).head?
          ≠ some quote := by
        simpa using ha
      rw [splitBlock_quotes hpos (by omega) hhead, if_neg (by omega), hread fuel (by omega)]
      rfl

theorem inBlock_escapeBlock (cs : List Char) {quotes : Nat} (hquotes : quotes ≤ 2) :
    InBlock '\x22' quotes cs (escapeBlock quotes cs) := by
  induction cs generalizing quotes with
  | nil => exact .nil hquotes
  | cons c cs ih =>
    rw [escapeBlock]
    split_ifs with hquote htwo
    · subst hquote
      exact .quote (ih (by omega))
    · -- The third quote in a row is escaped.
      subst hquote
      have hescape : Escape true '\x22' ['\\', '\x22'] := escape_escapeChar true '\x22'
      exact .piece hquotes hescape.isPiece_block (ih (Nat.zero_le 2))
    · exact .piece hquotes (escape_escapeChar true c).isPiece_block (ih (Nat.zero_le 2))

theorem le_two_of_hasTriple_eq_false {n : Nat}
    (h : hasTriple quote (List.replicate n quote ++ cs) = false) : n ≤ 2 := by
  match n with
  | 0 | 1 | 2 => decide
  | n + 3 => simp [List.replicate_succ, hasTriple] at h

theorem hasTriple_of_cons_eq_false (h : hasTriple quote (c :: cs) = false) :
    hasTriple quote cs = false := by
  match cs with
  | [] | [_] => rfl
  | _ :: _ :: _ =>
    rw [hasTriple, Bool.or_eq_false_iff] at h
    exact h.2

theorem hasTriple_of_append_eq_false {front : List Char}
    (h : hasTriple quote (front ++ cs) = false) : hasTriple quote cs = false := by
  induction front with
  | nil => exact h
  | cons a front ih => exact ih (hasTriple_of_cons_eq_false h)

/-- A text without three quotes in a row is written as it is. -/
theorem inBlock_self {quotes : Nat} (hsingle : quote ≠ '\x22')
    (hplain : ∀ c ∈ cs, isPlain c = true ∨ c = '\n')
    (htriple : hasTriple quote (List.replicate quotes quote ++ cs) = false) :
    InBlock quote quotes cs cs := by
  have hquotes := le_two_of_hasTriple_eq_false htriple
  induction cs generalizing quotes with
  | nil => exact .nil hquotes
  | cons c cs ih =>
    have hplain' : ∀ c ∈ cs, isPlain c = true ∨ c = '\n' :=
      fun d hd => hplain d (List.mem_cons_of_mem c hd)
    -- A quote adds to the run that is open, any other character ends it.
    by_cases hquote : c = quote
    · subst hquote
      have hnext : hasTriple c (List.replicate (quotes + 1) c ++ cs) = false := by
        rwa [List.replicate_succ', List.append_assoc, List.singleton_append]
      exact .quote (ih hplain' hnext (le_two_of_hasTriple_eq_false hnext))
    · have hnext : hasTriple quote (List.replicate 0 quote ++ cs) = false :=
        hasTriple_of_cons_eq_false (hasTriple_of_append_eq_false htriple)
      have hpiece : IsPiece (splitBlock quote) quote c [c] :=
        isPiece_block_plain (hplain c List.mem_cons_self) hquote fun h => hsingle h.2
      exact .piece hquotes hpiece (ih hplain' hnext (Nat.zero_le 2))

/-- Where there is no end of line to be read, none is written. -/
theorem InBlock.newline {quotes : Nat} {written : List Char} (h : InBlock quote quotes cs written)
    (hcs : '\n' ∉ cs) : '\n' ∉ written := by
  induction h with
  | nil hquotes => exact hcs
  | quote h ih =>
    rw [List.mem_cons, not_or] at hcs ⊢
    exact ⟨hcs.1, ih hcs.2⟩
  | piece hquotes hpiece h ih =>
    rw [List.mem_cons, not_or] at hcs
    rw [List.mem_append, not_or]
    exact ⟨fun hmem => hcs.1 (hpiece.newline hmem).symm, ih hcs.2⟩

/-! ### Strings -/

theorem splitString_of_line (hstart : ∀ tail, cs ≠ quote :: quote :: tail) :
    splitString quote (quote :: cs) =
      (splitLine quote (cs.length + 1) cs).map fun p => (String.ofList p.1, p.2) := by
  match cs with
  | [] | [_] => rfl
  | a :: b :: tail =>
    have hab : ¬(a = quote ∧ b = quote) := by
      rintro ⟨rfl, rfl⟩
      exact hstart tail rfl
    simp [splitString, hab]

theorem skipNewline?_eq_none {a b : Char} {front : List Char} (hfront : '\n' ∉ front)
    (ha : a ≠ '\n') (hb : b ≠ '\n') (tail : List Char) :
    skipNewline? (front ++ a :: b :: tail) = none := by
  match front with
  | [] => simp [skipNewline?, ha, hb]
  | [c] =>
    have hc : c ≠ '\n' := by simpa [eq_comm] using hfront
    simp [skipNewline?, ha, hc]
  | c :: d :: front =>
    obtain ⟨hc, hd, -⟩ : '\n' ≠ c ∧ '\n' ≠ d ∧ '\n' ∉ front := by simpa using hfront
    simp [skipNewline?, hc.symm, hd.symm]

/-- A text that has ends of lines starts on a line of its own, and the end of line before it does
not count. -/
theorem splitString_of_block {written : List Char} (hblock : InBlock quote 0 cs written)
    (hquote : quote ≠ '\n') (hrest : rest.head? ≠ some quote) :
    splitString quote
        (List.replicate 3 quote ++ ((if cs.contains '\n' then ['\n'] else []) ++
          (written ++ (List.replicate 3 quote ++ rest)))) = some (String.ofList cs, rest) := by
  -- In both cases the text is read from behind the quotes, or behind the end of line.
  have hskip : ((skipNewline? ((if cs.contains '\n' then ['\n'] else []) ++
      (written ++ (List.replicate 3 quote ++ rest)))).getD
        ((if cs.contains '\n' then ['\n'] else []) ++
          (written ++ (List.replicate 3 quote ++ rest))))
      = written ++ (List.replicate 3 quote ++ rest) := by
    split_ifs with hnewline
    · rfl
    · have hwritten := hblock.newline (by simpa using hnewline)
      rw [List.nil_append]
      show (skipNewline? (written ++ quote :: quote :: (quote :: rest))).getD _ = _
      rw [skipNewline?_eq_none hwritten hquote hquote]
      rfl
  generalize (if cs.contains '\n' then ['\n'] else []) ++
      (written ++ (List.replicate 3 quote ++ rest)) = text at hskip ⊢
  have hlength : 0 + written.length + 3
      ≤ (written ++ (List.replicate 3 quote ++ rest)).length + 1 := by
    simp only [List.length_append, List.length_replicate]
    omega
  have hread : splitBlock quote ((written ++ (List.replicate 3 quote ++ rest)).length + 1)
      (written ++ (List.replicate 3 quote ++ rest)) = some (cs, rest) :=
    hblock.splitBlock_eq hrest hlength
  rw [show List.replicate 3 quote ++ text = quote :: quote :: quote :: text from rfl]
  simp only [splitString, decide_true, Bool.and_self, if_true, hskip, hread]
  rfl

/-- A run of pieces between two quotes. -/
theorem splitString_flatMap {write : Char → List Char}
    (hwrite : ∀ c ∈ cs, IsPiece (splitLine quote) quote c (write c))
    (hrest : rest.head? ≠ some quote) :
    splitString quote (quote :: (cs.flatMap write ++ quote :: rest))
      = some (String.ofList cs, rest) := by
  have hlength : (cs.flatMap write).length < (cs.flatMap write ++ quote :: rest).length + 1 := by
    simp only [List.length_append, List.length_cons]
    omega
  rw [splitString_of_line, splitLine_flatMap hwrite hlength]
  · rfl
  · -- Two quotes in a row would open a text over several lines.
    intro tail h
    cases cs with
    | nil => simp_all
    | cons c cs =>
      obtain ⟨a, front, hfront, ha⟩ := (hwrite c List.mem_cons_self).start
      rw [List.flatMap_cons, hfront, List.cons_append, List.cons_append] at h
      exact ha (List.cons.inj h).1

theorem formOf_eq_literal (h : formOf cs = .literal) :
    cs.any isControl = false ∧ '\n' ∉ cs ∧ '\x27' ∉ cs := by
  unfold formOf at h
  simp only at h
  split_ifs at h with h1 h2 h3 h4 h5
  simp_all

theorem formOf_eq_literalBlock (h : formOf cs = .literalBlock) :
    cs.any isControl = false ∧ hasTriple '\x27' cs = false := by
  unfold formOf at h
  simp only at h
  split_ifs at h with h1 h2 h3 h4 h5
  simp_all

/-- Characters that need no escape are plain, or end a line. -/
theorem isPlain_or_newline (hcontrol : cs.any isControl = false) :
    ∀ c ∈ cs, isPlain c = true ∨ c = '\n' := by
  intro c hc
  by_cases hnewline : c = '\n'
  · exact .inr hnewline
  · have hcontrol : isControl c = false := by simpa using List.any_eq_false.mp hcontrol c hc
    exact .inl (isPlain_of_not_isControl hcontrol hnewline)

theorem splitValue_of_splitString {s : String} (hquote : quote = '\x22' ∨ quote = '\x27')
    (h : splitString quote (quote :: cs) = some (s, rest)) (fuel depth : Nat) :
    splitValue (fuel + 1) depth (quote :: cs) = some (.string s, rest) := by
  rw [splitValue, if_pos (by simpa using hquote), h]
  rfl

/-- **A string is read back as it was written**, whatever form it was given. -/
theorem splitValue_stringChars (cs : List Char) {rest : List Char}
    (hdouble : rest.head? ≠ some '\x22') (hsingle : rest.head? ≠ some '\x27') (fuel depth : Nat) :
    splitValue (fuel + 1) depth (stringChars cs ++ rest)
      = some (.string (String.ofList cs), rest) := by
  unfold stringChars
  -- Each form is chosen for texts that it can hold, and read back by its own reader.
  cases hform : formOf cs with
  | basic =>
    have hwrite : ∀ c ∈ cs, IsPiece (splitLine '\x22') '\x22' c (escapeChar false c) :=
      fun c _ => (escape_escapeChar false c).isPiece_line
    have hread := splitString_flatMap hwrite hdouble
    simpa using splitValue_of_splitString (.inl rfl) hread fuel depth
  | literal =>
    obtain ⟨hcontrol, hnewline, hquote⟩ := formOf_eq_literal hform
    have hwrite : ∀ c ∈ cs, IsPiece (splitLine '\x27') '\x27' c [c] := by
      intro c hc
      have hplain : isPlain c = true :=
        (isPlain_or_newline hcontrol c hc).resolve_right (ne_of_mem_of_not_mem hc hnewline)
      exact isPiece_line_plain hplain (ne_of_mem_of_not_mem hc hquote) (by simp)
    have hread := splitString_flatMap hwrite hsingle
    simpa using splitValue_of_splitString (.inr rfl) hread fuel depth
  | basicBlock =>
    have hblock := inBlock_escapeBlock cs (Nat.zero_le 2)
    have hread := splitString_of_block hblock (by decide) hdouble
    simpa using splitValue_of_splitString (.inl rfl) hread fuel depth
  | literalBlock =>
    obtain ⟨hcontrol, htriple⟩ := formOf_eq_literalBlock hform
    have hblock : InBlock '\x27' 0 cs cs :=
      inBlock_self (by decide) (isPlain_or_newline hcontrol) htriple
    have hread := splitString_of_block hblock (by decide) hsingle
    simpa using splitValue_of_splitString (.inr rfl) hread fuel depth

end KeymapCompiler.Toml
