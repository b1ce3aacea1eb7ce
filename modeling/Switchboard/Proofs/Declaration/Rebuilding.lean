/-
**An operation is declared in one normal form.**

A declaration may list its types in any order, in any letter case, with blanks around them and more
than once. Building strikes all of this out: what is built depends on the canonical forms of the
types alone, and declaring it once more, as it was built, builds it again.

* `Operation.Normal` — what a built operation shows of its declaration;
* `OperationSpec.build_eq_of_canonical` — **declarations that differ in the spelling of their
  types** build the same;
* `OperationSpec.build_spec` — **an operation is built from its own declaration**, its identity
  included;
* `OperationSpec.built_in_normal_form` — all of it, for every declaration that is accepted.
-/

import Switchboard.Proofs.Declaration.Building

namespace Switchboard

/-- The declaration that an operation makes of itself. -/
def Operation.spec (operation : Operation) : OperationSpec where
  description := operation.description
  types := operation.types
  params := operation.params
  handler := operation.handler

/-- **An operation shows its declaration in normal form.** -/
structure Operation.Normal (operation : Operation) (spec : OperationSpec) : Prop where
  ascending : operation.types.Pairwise fun first second => Text.precedes first second = true
  trimmed : ∀ type ∈ operation.types, Text.trim type = type
  upper : ∀ type ∈ operation.types, Text.upper type = type
  token : ∀ type ∈ operation.types, Http.isToken type = true
  methods : operation.methods.map Http.Method.token = operation.types
  standard : spec.types = [] → operation.types = Declaration.standardTypes
  declared : spec.types ≠ [] → ∀ type,
    type ∈ operation.types ↔ ∃ token ∈ spec.types, Text.upper (Text.trim token) = type

namespace OperationSpec

variable {spec : OperationSpec} {operation : Operation}

theorem normal_of_build (built : spec.build = .ok operation) : operation.Normal spec := by
  obtain ⟨methods, resolved, rfl⟩ := exists_of_build built
  have canonical : ∀ type ∈ Declaration.normalTypes spec.types,
      Declaration.canonical type = type := fun _ => Declaration.canonical_of_mem_normalTypes
  refine ⟨Declaration.ascending_normalTypes _, fun type member => ?_, fun type member => ?_,
    fun type => Declaration.isToken_of_mem_normalTypes resolved,
    Declaration.tokens_of_normalTypes resolved, fun none => ?_,
    fun listed type => Declaration.mem_normalTypes_iff listed⟩
  · rw [← canonical type member]
    exact Declaration.trim_canonical type
  · rw [← canonical type member]
    exact Declaration.upper_canonical type
  · show Declaration.normalTypes spec.types = _
    rw [none]
    rfl

/-- **Declarations that differ in the spelling of their types** build the same, or are refused for
the same fault. -/
theorem build_eq_of_canonical {first second : OperationSpec}
    (handler : first.handler = second.handler)
    (description : first.description = second.description)
    (params : first.params = second.params)
    (types : ∀ type, (∃ token ∈ first.types, Declaration.canonical token = type)
      ↔ ∃ token ∈ second.types, Declaration.canonical token = type) :
    first.build = second.build := by
  unfold build symbol
  rw [handler, description, params, Declaration.normalTypes_eq_of_canonical types]

/-- **An operation is built from its own declaration.** -/
theorem build_spec (built : spec.build = .ok operation) :
    operation.spec.build = .ok operation := by
  have named := checkParams_of_build built
  obtain ⟨methods, resolved, rfl⟩ := exists_of_build built
  have required : Param.requirePath (Param.requirePath spec.params)
      = Param.requirePath spec.params := by
    unfold Param.requirePath
    rw [List.map_map]
    exact List.map_congr_left fun param _ => param.require_require
  refine build_eq_ok_iff.mpr ⟨named, methods, ?_, ?_⟩
  · show Declaration.resolveAll (Declaration.normalTypes (Declaration.normalTypes _)) = _
    rw [Declaration.normalTypes_normalTypes, resolved]
  · simp only [Operation.spec, Declaration.normalTypes_normalTypes, Param.suffix_requirePath,
      required]
    rfl

/-- **Operations have one normal form.** A built operation lists its types in strictly ascending
byte order, stripped of blanks and in upper case, each of them a token and spelled like the method
in its place; they are those declared, or the standard ones where none is. Every declaration of the
same handler, description and parameters whose types have the same canonical forms builds the same
operation, and so does the one that the operation makes of itself. -/
theorem built_in_normal_form (built : spec.build = .ok operation) :
    operation.Normal spec
      ∧ (∀ other : OperationSpec, other.handler = spec.handler →
        other.description = spec.description → other.params = spec.params →
        (∀ type, (∃ token ∈ other.types, Text.upper (Text.trim token) = type)
          ↔ ∃ token ∈ spec.types, Text.upper (Text.trim token) = type) →
        other.build = .ok operation)
      ∧ operation.spec.build = .ok operation := by
  refine ⟨normal_of_build built, ?_, build_spec built⟩
  intro other handler description params types
  rw [build_eq_of_canonical handler description params types, built]

/-- Two declarations with blanks, small letters and repetitions in their types build the operation
that lists `GET` and `POST`, and its own declaration builds it again. -/
theorem built_in_normal_form_spellings :
    let handler : Handler := ⟨"show", .skip⟩
    let params : List Param :=
      [{ name := "id", location := .path }, { name := "page", location := .query }]
    let first : OperationSpec :=
      { params, handler, types := [" post", "GET", "get\t", "Post"], description := "d" }
    let second : OperationSpec :=
      { params, handler, types := ["gEt", "\u00a0POST "], description := "d" }
    ∃ operation, first.build = .ok operation ∧ second.build = .ok operation
      ∧ operation.types = ["GET", "POST"] ∧ operation.id = "show[/:id][d][GET][POST]"
      ∧ operation.spec.build = .ok operation := by
  intro handler params first second
  have resolved : Declaration.resolveAll (Declaration.normalTypes first.types)
      = .ok [.get, ⟨"POST", by decide⟩] := by rfl
  obtain ⟨operation, built, types, id⟩ : ∃ operation, first.build = .ok operation
      ∧ operation.types = ["GET", "POST"] ∧ operation.id = "show[/:id][d][GET][POST]" :=
    ⟨_, build_eq_ok_iff.mpr ⟨rfl, _, resolved, rfl⟩, by decide +kernel, by decide +kernel⟩
  obtain ⟨-, same, again⟩ := built_in_normal_form built
  refine ⟨operation, built, same second rfl rfl rfl fun type => ?_, types, id, again⟩
  have forms : second.types.map Declaration.canonical = ["GET", "POST"]
      ∧ first.types.map Declaration.canonical = ["POST", "GET", "GET", "POST"] := by decide
  show (∃ token ∈ second.types, Declaration.canonical token = type)
    ↔ ∃ token ∈ first.types, Declaration.canonical token = type
  rw [← List.mem_map, ← List.mem_map, forms.1, forms.2]
  simp only [List.mem_cons, List.not_mem_nil, or_false]
  tauto

end OperationSpec

end Switchboard
