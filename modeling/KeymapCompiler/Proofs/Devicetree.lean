/-
KeymapCompiler/Proofs/Devicetree.lean

Nodes as data.  The node of a hold-tap or a combo has a head, a description that is
written as comments, and properties, each with a value or without one.

Which properties a node has depends on the document, but their order does not.  So
the properties come from a table that lists all of them in order, with nothing
beside a name that is left out.  Those that are `present` are in the order of the
table (`sublist_present`), and a name has the value that the table gives it
(`lookup_present`).  The pieces that write single properties write the lines of a
table one after the other (`join_present`).
-/
import KeymapCompiler.Devicetree
import Mathlib.Data.List.Basic

namespace KeymapCompiler.Devicetree

/-! ### Nodes with properties -/

/-- What a node says under the name of a property. -/
inductive Property where
  /-- The name alone. -/
  | flag
  /-- A value. -/
  | value (text : String)

/-- Cells as a value. -/
def Property.cells (texts : List String) : Property :=
  .value ("<" ++ " ".intercalate texts ++ ">")

/-- What a node that is made for an entry of a document consists of. -/
structure NodeContent where
  /-- What the node opens with. -/
  head : String
  /-- What the comments say. -/
  description : Option String
  /-- The properties in order, by their names. -/
  properties : List (String × Property)

/-- The line of a property. -/
def propertyLine : String × Property → String
  | (name, .flag) => "            " ++ name ++ ";\n"
  | (name, .value text) => "            " ++ name ++ " = " ++ text ++ ";\n"

/-- The lines of a node's properties. -/
def NodeContent.lines (n : NodeContent) : String :=
  String.join (n.properties.map propertyLine)

/-! ### Tables of properties -/

/-- The properties that a table has a value for. -/
def present (table : List (String × Option Property)) : List (String × Property) :=
  table.filterMap fun entry => entry.2.map (entry.1, ·)

theorem present_cons_some (name : String) (p : Property) (rest : List (String × Option Property)) :
    present ((name, some p) :: rest) = (name, p) :: present rest := rfl

theorem present_cons_none (name : String) (rest : List (String × Option Property)) :
    present ((name, none) :: rest) = present rest := rfl

theorem sublist_present (table : List (String × Option Property)) :
    ((present table).map (·.1)).Sublist (table.map (·.1)) := by
  induction table with
  | nil => exact .slnil
  | cons entry rest ih =>
    rcases entry with ⟨name, - | p⟩
    · exact .cons name ih
    · exact .cons_cons name ih

/-- If no name is listed twice, a name has the value that the table gives it. -/
theorem lookup_present {table : List (String × Option Property)} (h : (table.map (·.1)).Nodup)
    (name : String) : (present table).lookup name = (table.lookup name).join := by
  induction table with
  | nil => rfl
  | cons entry rest ih =>
    obtain ⟨first, p⟩ := entry
    obtain ⟨hfirst, hrest⟩ := List.nodup_cons.mp h
    -- The entry is skipped or is the one that is looked for, and it may be left out or not.
    rcases heq : name == first with - | -
    · rw [List.lookup_cons, heq]
      rcases p with - | p
      · rw [present_cons_none, ih hrest]
      · rw [present_cons_some, List.lookup_cons, heq, ih hrest]
    · rw [List.lookup_cons, heq]
      obtain rfl : name = first := eq_of_beq heq
      rcases p with - | p
      · -- The name is not listed again.
        have none : (present rest).lookup name = none := by
          refine List.lookup_eq_none_iff.mpr fun q hq => ?_
          have hq : q.1 ∈ rest.map (·.1) :=
            (sublist_present rest).subset (List.mem_map_of_mem hq)
          exact bne_iff_ne.mpr fun e => hfirst (e ▸ hq)
        rw [present_cons_none, none]
        rfl
      · rw [present_cons_some, List.lookup_cons, heq]
        rfl

/-- The line of an entry of a table. -/
def entryLine : String × Option Property → String
  | (name, some p) => propertyLine (name, p)
  | (_, none) => ""

theorem join_present (table : List (String × Option Property)) :
    String.join ((present table).map propertyLine) = String.join (table.map entryLine) := by
  induction table with
  | nil => rfl
  | cons entry rest ih =>
    rw [List.map_cons, String.join_cons, ← ih]
    rcases entry with ⟨name, - | p⟩
    · rw [present_cons_none, entryLine, String.empty_append]
    · rw [present_cons_some, List.map_cons, String.join_cons, entryLine]

/-! ### Lines of single properties -/

theorem line_three (text : String) : line 3 text = "            " ++ text ++ "\n" := by
  have blanks : indent 3 = "            " := by decide +kernel
  rw [line, blanks]

theorem line_value (name text : String) :
    line 3 (name ++ " = " ++ text ++ ";") = entryLine (name, some (.value text)) := by
  have last : ";\n" = ";" ++ "\n" := by decide +kernel
  rw [line_three, entryLine, propertyLine, last]
  simp only [String.append_assoc]

theorem line_cells (name : String) (texts : List String) :
    line 3 (name ++ " = <" ++ cells texts ++ ">;") = entryLine (name, some (.cells texts)) := by
  have opening : " = <" = " = " ++ "<" := by decide +kernel
  have closing : ">;" = ">" ++ ";" := by decide +kernel
  rw [Property.cells, ← line_value, opening, closing]
  simp only [cells, String.append_assoc]

theorem numberProperty_eq_entryLine (name : String) (n : Option Nat) :
    numberProperty 3 name n = entryLine (name, n.map fun n => .cells [toString n]) := by
  rcases n with - | n
  · rfl
  · exact line_cells name [toString n]

theorem flagProperty_eq_entryLine (name : String) (flag : Option Bool) :
    flagProperty 3 name flag
      = entryLine (name, if flag = some true then some .flag else none) := by
  have last : ";\n" = ";" ++ "\n" := by decide +kernel
  unfold flagProperty
  split
  · rw [line_three, entryLine, propertyLine, last]
    simp only [String.append_assoc]
  · rfl

/-! ### Source of nodes -/

/-- A node inside one that is under the root. -/
theorem node_two (head body : String) :
    node 2 head body = "        " ++ head ++ " \x7b\n" ++ body ++ "        \x7d;\n" := by
  have blanks : indent 2 = "        " := by decide +kernel
  have opening : " \x7b\n" = " \x7b" ++ "\n" := by decide +kernel
  have closing : line 2 "\x7d;" = "        \x7d;\n" := by decide +kernel
  rw [node, closing, line, blanks, opening]
  simp only [String.append_assoc]

/-- The source of a node under the root that holds other nodes. -/
def sectionSource (head body : String) : String :=
  "/ \x7b\n" ++ "    " ++ head ++ " \x7b\n" ++ body ++ "    \x7d;\n" ++ "\x7d;\n"

theorem underRoot_node_one (head body : String) :
    underRoot (node 1 head body) = sectionSource head body := by
  have root : line 0 ("/" ++ " \x7b") = "/ \x7b\n" := by decide +kernel
  have blanks : indent 1 = "    " := by decide +kernel
  have opening : " \x7b\n" = " \x7b" ++ "\n" := by decide +kernel
  have closing : line 1 "\x7d;" = "    \x7d;\n" := by decide +kernel
  have last : line 0 "\x7d;" = "\x7d;\n" := by decide +kernel
  rw [underRoot, node, node, root, closing, last, line, blanks, sectionSource, opening]
  simp only [String.append_assoc]

/-- There is always something under the root. -/
theorem sectionSource_ne_empty (head body : String) : sectionSource head body ≠ "" := by
  intro h
  have root : ("/ \x7b\n").toList = '/' :: [' ', '\x7b', '\n'] := by decide +kernel
  have chars := congrArg String.toList h
  simp only [sectionSource, String.toList_append, root] at chars
  cases chars

end KeymapCompiler.Devicetree
