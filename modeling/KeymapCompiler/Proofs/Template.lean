/-
KeymapCompiler/Proofs/Template.lean

Templates are filled in by one pass from left to right.  The pass is described here
without the reader that makes it:

    IsPlaceholder source name     a placeholder as it is written, and its name
    PlainFor n cs                 no placeholder starts at the first n characters
    IsCut cs slots last           a text cut at its leftmost placeholder, again and again

A text starts with at most one placeholder (`placeholder?_eq_some_iff`), so the
leftmost one is determined and a text is cut in one way only (`IsCut.unique`).  The
pieces that a template is read as are its cut (`exists_isCut_cut`).  The cut does not
depend on the texts that are filled in, which is why these are never looked at again.
-/
import KeymapCompiler.Proofs.Text.Runs
import KeymapCompiler.Template
import KeymapCompiler.Text.Category

namespace KeymapCompiler.Template

open KeymapCompiler.Text

/-! ### Placeholders -/

/-- A name: a letter or an underscore, then letters, digits and underscores. -/
structure IsName (name : List Char) : Prop where
  /-- It starts with a letter or an underscore. -/
  start : ∃ c, name.head? = some c ∧ isNameStart c = true
  /-- All of it are letters, digits and underscores. -/
  parts : ∀ c ∈ name, isNamePart c = true

/-- What follows the opening braces of a placeholder. -/
inductive IsBody : List Char → List Char → Prop where
  /-- A name with blanks around it, and the closing braces. -/
  | mk {front name back : List Char} : (∀ c ∈ front, isBlank c = true) → IsName name →
      (∀ c ∈ back, isBlank c = true) →
      IsBody (front ++ (name ++ (back ++ ['\x7d', '\x7d']))) name

/-- A placeholder as it is written, and its name. -/
inductive IsPlaceholder : List Char → List Char → Prop where
  /-- Two opening braces, a name with blanks around it, and two closing braces. -/
  | mk {body name : List Char} : IsBody body name →
      IsPlaceholder ('\x7b' :: '\x7b' :: body) name

variable {cs source source' rest rest' name name' : List Char} {length : Nat}

/-- Names have no blanks: those of ASCII are six, and names have nothing else. -/
theorem isNamePart_of_isBlank {c : Char} (h : isBlank c = true) : isNamePart c = false := by
  refine Bool.eq_false_iff.mpr fun hpart => ?_
  have hascii : c.toNat < 0x80 := by
    rcases (Bool.or_eq_true _ _).mp hpart with halphanum | hunderscore
    · exact toNat_lt_of_isAlphanum halphanum
    · rw [beq_iff_eq.mp hunderscore]
      decide
  have hcode : c.toNat ∈ [9, 10, 11, 12, 13, 32] := by
    simp only [isBlank, Bool.or_eq_true, Bool.and_eq_true, decide_eq_true_eq, beq_iff_eq] at h
    simp only [List.mem_cons, List.not_mem_nil, or_false]
    omega
  have codes : ∀ n ∈ [9, 10, 11, 12, 13, 32], isNamePart (Char.ofNat n) = false := by decide
  have hname := codes _ hcode
  rw [Char.ofNat_toNat, hpart] at hname
  cases hname

/-- Blanks in front of a name are all the blanks there are. -/
theorem IsName.head_not_isBlank (h : IsName name) (rest : List Char) :
    ∀ c ∈ (name ++ rest).head?, isBlank c = false := by
  obtain ⟨first, hfirst, -⟩ := h.start
  obtain ⟨tail, rfl⟩ := List.head?_eq_some_iff.mp hfirst
  rintro c ⟨⟩
  refine Bool.eq_false_iff.mpr fun hblank => ?_
  have hpart := h.parts first List.mem_cons_self
  rw [isNamePart_of_isBlank hblank] at hpart
  cases hpart

/-- A name ends where blanks or the closing braces follow. -/
theorem head_not_isNamePart {back : List Char} (hback : ∀ c ∈ back, isBlank c = true)
    (rest : List Char) : ∀ c ∈ (back ++ '\x7d' :: rest).head?, isNamePart c = false := by
  cases back with
  | nil =>
    rintro c ⟨⟩
    decide
  | cons b back =>
    rintro c ⟨⟩
    exact isNamePart_of_isBlank (hback b List.mem_cons_self)

/-- The reader takes a body off the front of a text, whatever follows it, and nothing else. -/
theorem placeholderBody?_eq_some_iff :
    placeholderBody? cs = some (name, length) ↔
      ∃ source rest, cs = source ++ rest ∧ IsBody source name ∧ source.length = length := by
  unfold placeholderBody?
  dsimp only
  constructor
  · intro h
    split at h
    · next rest hstart hclosing =>
      obtain ⟨rfl, rfl⟩ := Prod.mk.inj (Option.some.inj h)
      have hname : IsName ((trimStart cs).takeWhile isNamePart) :=
        ⟨(Option.any_eq_true _ _).mp hstart, fun c hc => List.mem_takeWhile_imp hc⟩
      -- What was read is the text in front of the rest: blanks, the name, blanks and the close.
      have hsource : cs = (cs.takeWhile isBlank ++ ((trimStart cs).takeWhile isNamePart
          ++ (((trimStart cs).dropWhile isNamePart).takeWhile isBlank ++ ['\x7d', '\x7d'])))
            ++ rest := by
        have front := List.takeWhile_append_dropWhile (p := isBlank) (l := cs)
        have middle := List.takeWhile_append_dropWhile (p := isNamePart) (l := trimStart cs)
        have back := List.takeWhile_append_dropWhile (p := isBlank)
          (l := (trimStart cs).dropWhile isNamePart)
        rw [trimStart] at hclosing
        rw [hclosing] at back
        simp only [List.append_assoc, List.cons_append, List.nil_append]
        rw [back, middle]
        exact front.symm
      refine ⟨_, rest, hsource, .mk (fun c hc => List.mem_takeWhile_imp hc) hname
        fun c hc => List.mem_takeWhile_imp hc, ?_⟩
      have hlength := congrArg List.length hsource
      rw [List.length_append] at hlength
      omega
    · cases h
  · rintro ⟨source, rest, rfl, hbody, rfl⟩
    obtain @⟨front, name, back, hfront, hname, hback⟩ := hbody
    have shape : (front ++ (name ++ (back ++ ['\x7d', '\x7d']))) ++ rest
        = front ++ (name ++ (back ++ '\x7d' :: '\x7d' :: rest)) := by
      simp only [List.append_assoc, List.cons_append, List.nil_append]
    have closing : isBlank '\x7d' = false := by decide
    have start : trimStart (front ++ (name ++ (back ++ '\x7d' :: '\x7d' :: rest)))
        = name ++ (back ++ '\x7d' :: '\x7d' :: rest) :=
      dropWhile_append_of_stop hfront (hname.head_not_isBlank _)
    -- Each run stops where the next one starts, so the reader cuts the text at these places.
    have stop := head_not_isNamePart hback ('\x7d' :: rest)
    rw [shape, start, takeWhile_append_of_stop hname.parts stop,
      dropWhile_append_of_stop hname.parts stop, trimStart,
      dropWhile_append_of_stop hback (by rintro c ⟨⟩; exact closing)]
    have named : name.head?.any isNameStart = true :=
      (Option.any_eq_true _ _).mpr hname.start
    rw [named]
    simp only [List.length_append, List.length_cons, List.length_nil, Option.some.injEq,
      Prod.mk.injEq, true_and]
    omega

/-- The reader takes a placeholder off the front of a text, whatever follows it, and nothing
else. -/
theorem placeholder?_eq_some_iff :
    placeholder? cs = some (name, length) ↔
      ∃ source rest, cs = source ++ rest ∧ IsPlaceholder source name ∧ source.length = length := by
  unfold placeholder?
  constructor
  · intro h
    split at h
    · next text =>
      obtain ⟨⟨name', n⟩, hread, e⟩ := Option.map_eq_some_iff.mp h
      obtain ⟨rfl, rfl⟩ := Prod.mk.inj e
      obtain ⟨source, rest, rfl, hbody, rfl⟩ := placeholderBody?_eq_some_iff.mp hread
      exact ⟨_, rest, rfl, .mk hbody, rfl⟩
    · cases h
  · rintro ⟨source, rest, rfl, ⟨hbody⟩, rfl⟩
    exact Option.map_eq_some_iff.mpr
      ⟨_, placeholderBody?_eq_some_iff.mpr ⟨_, rest, rfl, hbody, rfl⟩, rfl⟩

theorem IsPlaceholder.length_pos (h : IsPlaceholder source name) : 0 < source.length := by
  cases h
  exact Nat.succ_pos _

/-- A text starts with at most one placeholder. -/
theorem IsPlaceholder.unique (h : IsPlaceholder source name) (h' : IsPlaceholder source' name')
    (e : source ++ rest = source' ++ rest') : source = source' ∧ name = name' ∧ rest = rest' := by
  have read := placeholder?_eq_some_iff.mpr ⟨source, rest, rfl, h, rfl⟩
  rw [e, placeholder?_eq_some_iff.mpr ⟨source', rest', rfl, h', rfl⟩] at read
  obtain ⟨hname, hlength⟩ := Prod.mk.inj (Option.some.inj read)
  obtain ⟨hsource, hrest⟩ := List.append_inj e hlength.symm
  exact ⟨hsource, hname.symm, hrest⟩

/-! ### Cutting at placeholders -/

/-- A text starts with a placeholder. -/
def StartsPlaceholder (cs : List Char) : Prop :=
  ∃ source name rest, cs = source ++ rest ∧ IsPlaceholder source name

/-- No placeholder starts at the first characters of a text. -/
def PlainFor (n : Nat) (cs : List Char) : Prop :=
  ∀ k < n, ¬ StartsPlaceholder (cs.drop k)

/-- A placeholder of a template with the text before it. -/
structure Slot where
  /-- The text since the placeholder before, or since the start. -/
  before : List Char
  /-- The name. -/
  name : String
  /-- The placeholder as it is written. -/
  source : List Char

/-- A text is cut into slots and the text after the last one, each time at the leftmost placeholder
of what is left. -/
inductive IsCut : List Char → List Slot → List Char → Prop where
  /-- There is no placeholder. -/
  | plain {cs : List Char} : PlainFor cs.length cs → IsCut cs [] cs
  /-- The leftmost placeholder, and the cut of the text behind it. -/
  | slot {cs before source name rest : List Char} {slots : List Slot} {last : List Char} :
    cs = before ++ (source ++ rest) → PlainFor before.length cs → IsPlaceholder source name →
      IsCut rest slots last → IsCut cs (⟨before, String.ofList name, source⟩ :: slots) last

/-- What a slot is filled in with: the text of its name as it is, or the placeholder if there is
none. -/
def Slot.filling (fragments : Fragments) (slot : Slot) : List Char :=
  match fragments.lookup slot.name with
  | some text => text.toList
  | none => slot.source

/-- Slots that are filled in, with all the text around them. -/
def filled (fragments : Fragments) (slots : List Slot) (last : List Char) : List Char :=
  slots.flatMap (fun slot => slot.before ++ slot.filling fragments) ++ last

variable {slots slots' : List Slot} {last last' : List Char}

theorem filled_cons (fragments : Fragments) (slot : Slot) (slots : List Slot) (last : List Char) :
    filled fragments (slot :: slots) last
      = slot.before ++ (slot.filling fragments ++ filled fragments slots last) := by
  unfold filled
  rw [List.flatMap_cons, List.append_assoc, List.append_assoc]

theorem startsPlaceholder_iff : StartsPlaceholder cs ↔ placeholder? cs ≠ none := by
  constructor
  · rintro ⟨source, name, rest, e, h⟩
    rw [placeholder?_eq_some_iff.mpr ⟨source, rest, e, h, rfl⟩]
    exact Option.some_ne_none _
  · intro h
    obtain ⟨⟨name, length⟩, h⟩ := Option.ne_none_iff_exists'.mp h
    obtain ⟨source, rest, e, h, -⟩ := placeholder?_eq_some_iff.mp h
    exact ⟨source, name, rest, e, h⟩

theorem plainFor_succ_cons_iff {n : Nat} {c : Char} :
    PlainFor (n + 1) (c :: cs) ↔ ¬ StartsPlaceholder (c :: cs) ∧ PlainFor n cs := by
  unfold PlainFor
  rw [Nat.forall_lt_succ_left]
  simp only [List.drop_zero, List.drop_succ_cons]

theorem startsPlaceholder_drop_length (before rest : List Char) (h : IsPlaceholder source name) :
    StartsPlaceholder ((before ++ (source ++ rest)).drop before.length) := by
  rw [List.drop_left]
  exact ⟨source, name, rest, rfl, h⟩

/-- A text is cut in one way only: at the leftmost placeholder, of which there is one, and so on. -/
theorem IsCut.unique (h : IsCut cs slots last) (h' : IsCut cs slots' last') :
    slots = slots' ∧ last = last' := by
  induction h generalizing slots' with
  | @plain cs hplain =>
    cases h' with
    | plain => exact ⟨rfl, rfl⟩
    | @slot _ before source name rest _ _ e _ hsource _ =>
      subst e
      have hpos := hsource.length_pos
      refine absurd (startsPlaceholder_drop_length before rest hsource) (hplain _ ?_)
      simp only [List.length_append]
      omega
  | @slot cs before source name rest slots last e hplain hsource _ ih =>
    cases h' with
    | plain hplain' =>
      subst e
      have hpos := hsource.length_pos
      refine absurd (startsPlaceholder_drop_length before rest hsource) (hplain' _ ?_)
      simp only [List.length_append]
      omega
    | @slot _ before' source' name' rest' _ _ e' hplain' hsource' hrest' =>
      -- Neither text before holds a placeholder, so both end at the same place.
      have hlength : before.length = before'.length := by
        refine Nat.le_antisymm (Nat.not_lt.mp fun hlt => ?_) (Nat.not_lt.mp fun hlt => ?_)
        · exact hplain _ hlt (e' ▸ startsPlaceholder_drop_length before' rest' hsource')
        · exact hplain' _ hlt (e ▸ startsPlaceholder_drop_length before rest hsource)
      obtain ⟨rfl, e⟩ := List.append_inj (e.symm.trans e') hlength
      obtain ⟨rfl, rfl, rfl⟩ := hsource.unique hsource' e
      obtain ⟨rfl, rfl⟩ := ih hrest'
      exact ⟨rfl, rfl⟩

/-! ### Pieces -/

/-- A character at which no placeholder starts belongs to the text before the first slot. -/
theorem IsCut.exists_cons (h : IsCut cs slots last) {c : Char}
    (hc : ¬ StartsPlaceholder (c :: cs)) :
    ∃ slots' last', IsCut (c :: cs) slots' last' ∧
      ∀ fragments, filled fragments slots' last' = c :: filled fragments slots last := by
  cases h with
  | plain hplain =>
    exact ⟨[], c :: cs, .plain (plainFor_succ_cons_iff.mpr ⟨hc, hplain⟩), fun _ => rfl⟩
  | @slot _ before source name rest slots _ e hplain hsource hrest =>
    refine ⟨⟨c :: before, String.ofList name, source⟩ :: slots, last, ?_, fun _ => rfl⟩
    exact .slot (by rw [e, List.cons_append]) (plainFor_succ_cons_iff.mpr ⟨hc, hplain⟩) hsource
      hrest

/-- The pieces that a text is read as are its cut. -/
theorem exists_isCut_cut (fuel : Nat) (cs : List Char) (h : cs.length ≤ fuel) :
    ∃ slots last, IsCut cs slots last ∧ ∀ fragments,
      (cut fuel cs).flatMap (Piece.fill fragments) = filled fragments slots last := by
  have nothing : IsCut [] [] [] := .plain fun k hk => absurd hk (Nat.not_lt_zero k)
  induction fuel generalizing cs with
  | zero =>
    obtain rfl := List.length_eq_zero_iff.mp (Nat.le_zero.mp h)
    exact ⟨[], [], nothing, fun _ => rfl⟩
  | succ fuel ih =>
    cases cs with
    | nil => exact ⟨[], [], nothing, fun _ => rfl⟩
    | cons c text =>
      rw [cut]
      rcases hread : placeholder? (c :: text) with - | ⟨name, length⟩
      -- No placeholder starts here: the character joins the text before the next one.
      · obtain ⟨slots, last, hcut, hfilled⟩ := ih text (by simpa using h)
        have hplain : ¬ StartsPlaceholder (c :: text) :=
          fun hstarts => startsPlaceholder_iff.mp hstarts hread
        obtain ⟨slots', last', hcut', hfilled'⟩ := hcut.exists_cons hplain
        refine ⟨slots', last', hcut', fun fragments => ?_⟩
        rw [hfilled', ← hfilled]
        rfl
      -- One starts here, so it is the leftmost, and the pass goes on behind it.
      · obtain ⟨source, rest, e, hsource, rfl⟩ := placeholder?_eq_some_iff.mp hread
        have hshorter : rest.length ≤ fuel := by
          have hpos := hsource.length_pos
          rw [e, List.length_append] at h
          omega
        obtain ⟨slots, last, hcut, hfilled⟩ := ih rest hshorter
        refine ⟨⟨[], String.ofList name, source⟩ :: slots, last, ?_, fun fragments => ?_⟩
        · exact .slot e (fun k hk => absurd hk (Nat.not_lt_zero k)) hsource hcut
        · dsimp only
          rw [e, List.take_left, List.drop_left, List.flatMap_cons, hfilled, filled_cons]
          rfl

/-- **One pass.**  A template has one cut, into the text before its placeholders, the placeholders
and the text behind the last.  It is rendered as this text with every placeholder that has a text of
its name replaced by it and every other one kept, whatever the texts are. -/
theorem render_eq_filled (template : String) :
    ∃ slots last, IsCut template.toList slots last ∧
      (∀ slots' last', IsCut template.toList slots' last' → slots' = slots ∧ last' = last) ∧
      ∀ fragments, render template fragments = String.ofList (filled fragments slots last) := by
  obtain ⟨slots, last, hcut, hfilled⟩ := exists_isCut_cut _ template.toList (Nat.le_refl _)
  refine ⟨slots, last, hcut, fun slots' last' h => h.unique hcut, fun fragments => ?_⟩
  rw [← hfilled]
  rfl

/-- A brace too many stays where it is, and a placeholder that comes in with a text is not filled
in. -/
theorem render_eq_filled_sample :
    let template := "\x7b\x7b\x7b a \x7d\x7d\x7b\x7bb\x7d\x7d"
    let slots : List Slot :=
      [⟨['\x7b'], "a", "\x7b\x7b a \x7d\x7d".toList⟩, ⟨[], "b", "\x7b\x7bb\x7d\x7d".toList⟩]
    IsCut template.toList slots [] ∧
      render template [("a", "\x7b\x7b c \x7d\x7d"), ("c", "")]
        = "\x7b\x7b\x7b c \x7d\x7d\x7b\x7bb\x7d\x7d" := by
  intro template slots
  have named : ∀ c, isNameStart c = true → isNamePart c = true → IsName [c] :=
    fun c hstart hpart => ⟨⟨c, rfl, hstart⟩, List.forall_mem_singleton.mpr hpart⟩
  have blank : ∀ c ∈ [' '], isBlank c = true := List.forall_mem_singleton.mpr (by decide)
  have first : IsPlaceholder "\x7b\x7b a \x7d\x7d".toList ['a'] :=
    .mk (@IsBody.mk [' '] ['a'] [' '] blank (named 'a' (by decide) (by decide)) blank)
  have second : IsPlaceholder "\x7b\x7bb\x7d\x7d".toList ['b'] :=
    .mk (@IsBody.mk [] ['b'] [] (by simp) (named 'b' (by decide) (by decide)) (by simp))
  have plain : PlainFor 1 template.toList := by
    intro k hk
    obtain rfl : k = 0 := by omega
    exact fun hstarts => startsPlaceholder_iff.mp hstarts (by decide +kernel)
  have empty : ∀ cs, PlainFor 0 cs := fun cs k hk => absurd hk (Nat.not_lt_zero k)
  have hcut : IsCut template.toList slots [] :=
    .slot (by decide +kernel) plain first
      (.slot (List.append_nil _).symm (empty _) second (.plain (empty _)))
  obtain ⟨_, _, -, hunique, hrender⟩ := render_eq_filled template
  obtain ⟨rfl, rfl⟩ := hunique _ _ hcut
  exact ⟨hcut, (hrender _).trans (by decide +kernel)⟩

end KeymapCompiler.Template
