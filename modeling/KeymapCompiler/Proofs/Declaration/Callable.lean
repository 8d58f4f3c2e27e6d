/-
KeymapCompiler/Proofs/Declaration/Callable.lean

Calls of accepted hold-taps and macros.  A call finds the behavior in three steps:
the reference is made canonical, the built-in behaviors come first, and the
registry has the rest.  An accepted reference is not built in, so a call gets past
the second step (`callArity?_of_mem_declarations`), and with as many parameters as
the behavior takes it is written with the reference and these parameters.

The first step is the exception.  Only canonical names are registered from the
start, so a document can declare an alias of a built-in behavior, and every call
of it is taken for the built-in one.
-/
import KeymapCompiler.Proofs.Binding.Calls
import KeymapCompiler.Proofs.Compile.Clean
import KeymapCompiler.Proofs.Declaration.Acceptance

namespace KeymapCompiler

open KeymapCompiler.Behavior

/-! ### Names -/

namespace Behavior

/-- A canonical name that is not registered from the start is not built in. -/
theorem family?_eq_none_of_get? {name : String} (hname : canonical name = name)
    (h : Registry.withBuiltins.get? name = none) : family? name = none := by
  rw [family?, hname]
  exact (Registry.get?_withBuiltins_eq_none_iff name).mp h

end Behavior

/-! ### Calls -/

namespace Declaration

/-- A call of a behavior with as many parameters as it takes is written with its own reference
and the parameters. -/
def Callable (f : Formatter) (e : Declaration) : Prop :=
  ∀ params texts, params.length = e.arity →
    List.Forall₂ (fun p text => Param.key 0 p = .ok text) params texts →
    f.format ⟨e.reference, params⟩ = .ok (Devicetree.cells (e.reference :: texts))

theorem format_alias (f : Formatter) (params : List Param) :
    f.format ⟨"&reset", params⟩ = f.builtin "&sys_reset" .plain params := by
  have resolved : canonical "&reset" = "&sys_reset" := by decide +kernel
  have family : family? "&sys_reset" = some .plain := by decide +kernel
  unfold Formatter.format
  simp only [resolved, family]
  rw [if_neg (by decide)]

/-- A behavior that is declared under the alias cannot be called: without parameters the built-in
one is called, and with parameters there is an error. -/
theorem not_callable_of_alias {e : Declaration} (h : e.reference = "&reset") (f : Formatter) :
    ¬ e.Callable f := by
  intro hc
  -- Zeros are well-formed parameters, so a call with them would have to be written.
  have written := hc _ _ List.length_replicate (forall₂_key_zeros e.arity)
  rw [h, format_alias] at written
  generalize e.arity = n at written
  rcases n with - | n
  · have ownName : "&sys_reset" = Devicetree.cells ["&reset"] := Except.ok.inj written
    exact absurd ownName (by decide +kernel)
  · cases written

end Declaration

/-! ### Accepted behaviors -/

namespace Document

variable {d : Document} {e : Declaration}

/-- What bindings are written against once the document has declared its behaviors, with any
layers. -/
def declaredFormatter (d : Document) (layers : LayerTable) : Formatter :=
  ⟨(d.declare Registry.withBuiltins).value.registry, layers⟩

/-- An accepted behavior under its canonical name is known to the registry alone. -/
theorem callArity?_of_mem_declarations
    (he : e ∈ (d.declare Registry.withBuiltins).value.declarations)
    (hname : canonical e.reference = e.reference) (layers : LayerTable) (params : List Param) :
    (d.declaredFormatter layers).callArity? ⟨e.reference, params⟩ = some e.arity := by
  have new := (declare_declaresFirst d Registry.withBuiltins).unregistered e he
  unfold Formatter.callArity?
  rw [hname, family?_eq_none_of_get? hname new, e.isReference_reference]
  exact arity?_declare he

theorem callable_of_mem_declarations
    (he : e ∈ (d.declare Registry.withBuiltins).value.declarations)
    (hname : canonical e.reference = e.reference) (layers : LayerTable) :
    e.Callable (d.declaredFormatter layers) := by
  intro params texts hlength hwritten
  have hcall := callArity?_of_mem_declarations he hname layers params
  have htexts : texts.length = e.arity := hwritten.length_eq.symm.trans hlength
  rw [Formatter.format_of_mapM hcall ((mapM_eq_ok_iff _ _ _).mpr hwritten),
    Formatter.fitCells_of_length_eq htexts, hname]

/-- **Calls.**  A behavior that is accepted from a document can be called exactly when its
reference is canonical. -/
theorem callable_iff_canonical (he : e ∈ (d.declare Registry.withBuiltins).value.declarations)
    (layers : LayerTable) :
    e.Callable (d.declaredFormatter layers) ↔ canonical e.reference = e.reference := by
  constructor
  · intro hc
    refine canonical_eq_self_iff.mpr fun halias => ?_
    exact Declaration.not_callable_of_alias halias _ hc
  · intro hname
    exact callable_of_mem_declarations he hname layers

/-- The hold-tap of the sample can be called. -/
theorem callable_sample :
    ∃ e ∈ (sample.declare Registry.withBuiltins).value.declarations,
      e.reference = "&hm" ∧ e.Callable (sample.declaredFormatter []) := by
  refine ⟨_, List.mem_cons_self, by decide +kernel, ?_⟩
  exact (callable_iff_canonical List.mem_cons_self []).mpr (by decide +kernel)

/-- A document with a macro that is named like the alias. -/
def aliasMacro : Document :=
  { sample with
    holdTaps := []
    userMacros := [⟨"reset", none, none, [], [], none, none⟩] }

/-- The macro is accepted, and a call of it is a call of the built-in behavior. -/
theorem exists_accepted_not_callable :
    (aliasMacro.declare Registry.withBuiltins).warnings = [] ∧
      ∃ e ∈ (aliasMacro.declare Registry.withBuiltins).value.declarations,
        e.reference = "&reset" ∧ e.arity = 0 ∧
        (aliasMacro.declaredFormatter []).format ⟨"&reset", []⟩ = .ok "&sys_reset" ∧
        ¬ e.Callable (aliasMacro.declaredFormatter []) := by
  have reference : Declaration.reference (.userMacro ⟨"reset", none, none, [], [], none, none⟩)
      = "&reset" := by decide +kernel
  refine ⟨by decide +kernel, _, List.mem_cons_self, reference, rfl, by decide +kernel, ?_⟩
  exact Declaration.not_callable_of_alias reference _

end Document

end KeymapCompiler
