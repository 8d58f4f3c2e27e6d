/-
KeymapCompiler/Proofs/Kconfig/Lines.lean

When the text of the build's configuration sets what its settings say.  The text
is read as the build reads it: line by line, without the `#` comments, and each
line split at its first equals sign.

A setting is written as a line that sets the symbol and a comment that names the
parameter.  Descriptions are put on one line, but symbols, values and names of
parameters are written as they are.  The text sets exactly the settings unless one
of these spills over its line (`effectiveLines_eq_map_iff`): then lines appear that
no setting stands for, or a line is lost in a comment.
-/
import KeymapCompiler.Proofs.Kconfig.Settings
import KeymapCompiler.Proofs.Text.Lines
import KeymapCompiler.Proofs.Text.Runs
import Mathlib.Data.List.Basic

namespace KeymapCompiler.Kconfig

open KeymapCompiler.Text KeymapCompiler.Devicetree

/-! ### Reading the text -/

/-- The lines of the configuration that are no comments. -/
def Output.effectiveLines (o : Output) : List (List Char) :=
  (lines o.text.toList).filter fun line => !isRemark line

/-- The symbol that a line sets and its value: what stands before and after its first equals
sign. -/
def assigned (line : List Char) : String × String :=
  (String.ofList (line.takeWhile (· != '=')), String.ofList (line.dropWhile (· != '=')).tail)

/-- The text sets exactly the settings. -/
structure Output.Faithful (o : Output) : Prop where
  /-- One line for each setting, in order. -/
  lines : o.effectiveLines = o.settings.map fun s => s.assignment.toList
  /-- Each sets the symbol of the setting to its value. -/
  assigned : o.effectiveLines.map assigned = o.settings.map fun s => (s.symbol, s.value)
  /-- No symbol is set twice. -/
  once : (o.effectiveLines.map fun line => (Kconfig.assigned line).1).Nodup
  /-- All other lines are comments. -/
  remarks : ∀ line ∈ Text.lines o.text.toList,
    line ∈ o.settings.map (fun s => s.assignment.toList) ∨ isRemark line = true

/-- A setting keeps to its two lines. -/
structure Setting.OneLine (s : Setting) : Prop where
  /-- The symbol goes over one line. -/
  symbol : '\n' ∉ s.symbol.toList
  /-- The line that sets the symbol is no comment. -/
  start : s.symbol.toList.head? ≠ some '#'
  /-- The value goes over one line. -/
  value : '\n' ∉ s.value.toList
  /-- If the name of the parameter goes over several lines, they all are comments. -/
  parameter : ∀ line ∈ (splitLines s.parameter.toList).tail, isRemark line = true

/-! ### The lines of one setting -/

theorem toList_assignment (s : Setting) :
    s.assignment.toList = s.symbol.toList ++ '=' :: s.value.toList := by
  have sign : "=".toList = ['='] := by decide
  rw [Setting.assignment, String.toList_append, String.toList_append, sign, List.append_assoc,
    List.singleton_append]

/-- The line that sets the symbol is one line and no comment. -/
theorem assignment_plain_iff (s : Setting) :
    ('\n' ∉ s.assignment.toList ∧ isRemark s.assignment.toList = false) ↔
      '\n' ∉ s.symbol.toList ∧ s.symbol.toList.head? ≠ some '#' ∧ '\n' ∉ s.value.toList := by
  have start : isRemark s.assignment.toList = false ↔ s.symbol.toList.head? ≠ some '#' := by
    rw [toList_assignment, isRemark]
    rcases s.symbol.toList with - | ⟨c, rest⟩ <;> simp
  have newline : '\n' ∉ s.assignment.toList ↔ '\n' ∉ s.symbol.toList ∧ '\n' ∉ s.value.toList := by
    rw [toList_assignment]
    simp
  rw [start, newline]
  tauto

/-- Line ends of a description are replaced. -/
theorem not_mem_of_remark {description : Option String} {text : String}
    (h : Setting.remark description = some text) : '\n' ∉ text.toList := by
  unfold Setting.remark at h
  split at h
  · cases h
  · cases h
  · obtain rfl := Option.some.inj h
    rw [String.toList_ofList]
    intro hm
    obtain ⟨c, -, hc⟩ := List.mem_map.mp hm
    split at hc
    · cases hc
    · rename_i hne
      exact hne hc

/-- A comment names the parameter and goes on with a quote. -/
theorem exists_toList_origin (s : Setting) :
    ∃ rest : List Char, '\n' ∉ rest ∧
      s.origin.toList
        = "\x23 from config parameter '".toList ++ (s.parameter.toList ++ '\'' :: rest) := by
  have quote : "'".toList = ['\''] := by decide
  rcases h : Setting.remark s.description with - | text
  · refine ⟨[], List.not_mem_nil, ?_⟩
    unfold Setting.origin
    simp only [h, String.toList_append, quote, List.append_assoc]
  · refine ⟨": ".toList ++ text.toList, ?_, ?_⟩
    · intro hm
      rcases List.mem_append.mp hm with hm | hm
      · exact absurd hm (by decide)
      · exact not_mem_of_remark h hm
    · -- A remark has no line end, so the only one of the line is its own.
      unfold Setting.origin
      simp only [h, String.toList_append, quote, List.append_assoc, List.cons_append,
        List.nil_append]

/-- The lines of the comment are comments when those of the parameter's name are. -/
theorem forall_mem_splitLines_origin (s : Setting) :
    (∀ line ∈ splitLines s.origin.toList, isRemark line = true)
      ↔ ∀ line ∈ (splitLines s.parameter.toList).tail, isRemark line = true := by
  obtain ⟨rest, hrest, e⟩ := exists_toList_origin s
  have quote : '\n' ∉ '\'' :: rest := by
    rw [List.mem_cons]
    rintro (h | h)
    · cases h
    · exact hrest h
  rw [e]
  exact forall_mem_splitLines_isRemark_append (by decide) (by decide) quote (by simp) _

/-! ### The lines of the text -/

theorem toList_text (o : Output) :
    o.text.toList
      = (o.settings.flatMap fun s => [s.assignment.toList, s.origin.toList]).flatMap
          (· ++ ['\n']) := by
  have newline : "\n".toList = ['\n'] := by decide
  rw [Output.text, String.toList_join, List.flatMap_map, List.flatMap_assoc]
  refine List.flatMap_congr fun s _ => ?_
  simp only [Setting.text, String.toList_append, newline, List.flatMap_cons, List.flatMap_nil,
    List.append_assoc, List.append_nil]

theorem lines_text (o : Output) :
    lines o.text.toList
      = o.settings.flatMap fun s => splitLines s.assignment.toList
          ++ splitLines s.origin.toList := by
  rw [toList_text, lines_flatMap_closed, List.flatMap_assoc]
  refine List.flatMap_congr fun s _ => ?_
  simp

theorem effectiveLines_eq (o : Output) :
    o.effectiveLines = o.settings.flatMap fun s =>
      (splitLines s.assignment.toList).filter (fun line => !isRemark line)
        ++ (splitLines s.origin.toList).filter (fun line => !isRemark line) := by
  rw [Output.effectiveLines, lines_text, List.filter_flatMap]
  refine List.flatMap_congr fun s _ => ?_
  rw [List.filter_append]

/-- Lists that are put one after the other and together are as many as their first entries are no
longer than these. -/
theorem eq_nil_of_flatMap_cons_eq_map {α β : Type} {xs : List α} {first : α → β}
    {others : α → List β} (h : (xs.flatMap fun x => first x :: others x) = xs.map first) :
    ∀ x ∈ xs, others x = [] := by
  have long : ∀ ys : List α, ys.length ≤ (ys.flatMap fun x => first x :: others x).length := by
    intro ys
    induction ys with
    | nil => exact Nat.le_refl 0
    | cons y ys ih =>
      rw [List.flatMap_cons, List.length_append, List.length_cons, List.length_cons]
      omega
  -- The lengths alone decide: one extra item anywhere makes the left side longer.
  induction xs with
  | nil => exact fun x hx => nomatch hx
  | cons x rest ih =>
    rw [List.flatMap_cons, List.map_cons, List.cons_append] at h
    have h := (List.cons.inj h).2
    have hlen := congrArg List.length h
    rw [List.length_append, List.length_map] at hlen
    have hx : others x = [] := List.eq_nil_of_length_eq_zero (by have := long rest; omega)
    rw [hx, List.nil_append] at h
    intro y hy
    rcases List.mem_cons.mp hy with rfl | hy
    · exact hx
    · exact ih h y hy

/-- The lines that are no comments are those that set the symbols of the settings, in order,
exactly when every setting keeps to its two lines. -/
theorem effectiveLines_eq_map_iff (o : Output) :
    (o.effectiveLines = o.settings.map fun s => s.assignment.toList)
      ↔ ∀ s ∈ o.settings, s.OneLine := by
  rw [effectiveLines_eq]
  have single : ∀ s : Setting, '\n' ∉ s.assignment.toList → isRemark s.assignment.toList = false →
      (splitLines s.assignment.toList).filter (fun line => !isRemark line)
        = [s.assignment.toList] := by
    intro s hs hr
    rw [splitLines_of_not_mem hs, List.filter_cons_of_pos (by simp [hr]), List.filter_nil]
  have silent : ∀ s : Setting,
      (splitLines s.origin.toList).filter (fun line => !isRemark line) = []
        ↔ ∀ line ∈ (splitLines s.parameter.toList).tail, isRemark line = true := by
    intro s
    rw [← forall_mem_splitLines_origin, List.filter_eq_nil_iff]
    simp
  constructor
  · intro h
    -- Every line that sets a symbol is among the lines read, so it is one of them.
    have plain : ∀ s ∈ o.settings,
        '\n' ∉ s.assignment.toList ∧ isRemark s.assignment.toList = false := by
      intro s hs
      have hm : s.assignment.toList ∈ o.settings.map fun s => s.assignment.toList :=
        List.mem_map.mpr ⟨s, hs, rfl⟩
      rw [← h] at hm
      obtain ⟨s', -, hm⟩ := List.mem_flatMap.mp hm
      rcases List.mem_append.mp hm with hm | hm <;>
        obtain ⟨hline, hr⟩ := List.mem_filter.mp hm <;>
        exact ⟨not_mem_of_mem_splitLines hline, by simpa using hr⟩
    have h' : (o.settings.flatMap fun s => s.assignment.toList
        :: (splitLines s.origin.toList).filter (fun line => !isRemark line))
          = o.settings.map fun s => s.assignment.toList := by
      rw [← h]
      refine List.flatMap_congr fun s hs => ?_
      rw [single s (plain s hs).1 (plain s hs).2, List.singleton_append]
    intro s hs
    obtain ⟨hsymbol, hstart, hvalue⟩ := (assignment_plain_iff s).mp (plain s hs)
    exact ⟨hsymbol, hstart, hvalue, (silent s).mp (eq_nil_of_flatMap_cons_eq_map h' s hs)⟩
  · intro h
    have one : ∀ s ∈ o.settings,
        (splitLines s.assignment.toList).filter (fun line => !isRemark line)
          ++ (splitLines s.origin.toList).filter (fun line => !isRemark line)
        = [s.assignment.toList] := by
      intro s hs
      have hs := h s hs
      obtain ⟨hn, hr⟩ := (assignment_plain_iff s).mpr ⟨hs.symbol, hs.start, hs.value⟩
      rw [single s hn hr, (silent s).mpr hs.parameter, List.append_nil]
    rw [List.flatMap_congr one, List.map_eq_flatMap]

/-! ### What the lines set -/

/-- The line of a setting is read back as its symbol and value unless the symbol has an equals
sign. -/
theorem assigned_assignment_iff (s : Setting) :
    assigned s.assignment.toList = (s.symbol, s.value) ↔ '=' ∉ s.symbol.toList := by
  constructor
  · intro h hm
    have hsymbol : (s.assignment.toList.takeWhile (· != '=')) = s.symbol.toList := by
      have h := congrArg String.toList (congrArg Prod.fst h)
      rwa [assigned, String.toList_ofList] at h
    rw [← hsymbol] at hm
    have hsign := List.all_eq_true.mp List.all_takeWhile _ hm
    simp at hsign
  · intro h
    rw [assigned, toList_assignment, takeWhile_append_sign h, dropWhile_append_sign h,
      List.tail_cons, String.ofList_toList, String.ofList_toList]

/-- The lines read are those that were written, and each sets what its setting says, exactly
when every setting keeps to its two lines and has no equals sign in its symbol.  Then no symbol
is set twice. -/
theorem text_sets_settings_iff (map : Map) (ps : List ConfigParameter) :
    (configure map ps).value.Faithful
      ↔ ∀ s ∈ (configure map ps).value.settings, s.OneLine ∧ '=' ∉ s.symbol.toList := by
  have distinct := nodup_symbols_configure map ps
  generalize (configure map ps).value = o at distinct ⊢
  constructor
  · -- Read off one setting at a time: its line gives the shape, its assignment the symbol.
    intro h s hs
    refine ⟨(effectiveLines_eq_map_iff o).mp h.lines s hs, ?_⟩
    have h := h.assigned.symm.trans (congrArg (List.map assigned) h.lines)
    rw [List.map_map] at h
    exact (assigned_assignment_iff s).mp (List.map_inj_left.mp h s hs).symm
  · intro h
    have hlines := (effectiveLines_eq_map_iff o).mpr fun s hs => (h s hs).1
    have hassigned : o.effectiveLines.map assigned
        = o.settings.map fun s => (s.symbol, s.value) := by
      rw [hlines, List.map_map]
      exact List.map_congr_left fun s hs => (assigned_assignment_iff s).mpr (h s hs).2
    refine ⟨hlines, hassigned, ?_, ?_⟩
    · have names : (o.effectiveLines.map fun line => (assigned line).1)
          = o.settings.map Setting.symbol := by
        have := congrArg (List.map Prod.fst) hassigned
        rwa [List.map_map, List.map_map] at this
      rwa [names]
    · intro line hline
      rcases hr : isRemark line with - | -
      · refine .inl (hlines ▸ ?_)
        exact List.mem_filter.mpr ⟨hline, by rw [hr]; rfl⟩
      · exact .inr rfl

/-- A value over two lines sets a second symbol that no setting stands for. -/
theorem not_faithful_of_value_on_two_lines :
    ¬ ∀ (map : Map) (ps : List ConfigParameter), (configure map ps).value.Faithful := by
  intro h
  have h := (h [] [⟨"CONFIG_A", .string "y\nCONFIG_B=n", none⟩]).lines
  revert h
  decide +kernel

end KeymapCompiler.Kconfig
