/-
**What building makes of a declaration.**

Building checks the parameters first and resolves the methods next. The first fault on the way
refuses the declaration; without a fault everything else follows from what is declared.

* `Declaration.checkParams_eq_error_iff` — **the first parameter without a name** is at fault;
* `Declaration.exists_resolveAll_iff`, `Declaration.resolveAll_eq_error_iff` — tokens resolve if
  each of them is one in canonical form, and otherwise **the first that is not** is at fault;
* `OperationSpec.build_eq_ok_iff`, `OperationSpec.build_eq_error_iff` — what is built of an
  operation, and what refuses it; `RouteSpec.build_eq_ok_iff`, `RouteSpec.build_eq_error_iff` — the
  same for a route;
* `OperationSpec.checkParams_of_build` — **the parameters of an operation** pass the check once
  more.
-/

import Switchboard.Declaration.Operation
import Switchboard.Declaration.Route
import Switchboard.Proofs.Declaration.Normal
import Switchboard.Proofs.Outcome

namespace Switchboard

namespace Declaration

/-! ### Faults -/

theorem checkParams_eq_error_iff {params : List Param} {fault : DeclarationError} :
    checkParams params = .error fault
      ↔ ∃ before param after, params = before ++ param :: after
        ∧ (∀ earlier ∈ before, earlier.isNameless = false) ∧ param.isNameless = true
        ∧ fault = .emptyParamName before.length := by
  unfold checkParams
  constructor
  · intro refused
    split at refused
    · rename_i index found
      cases refused
      obtain ⟨bound, nameless, first⟩ := List.findIdx?_eq_some_iff_getElem.mp found
      refine ⟨params.take index, params[index], params.drop (index + 1), ?_, ?_, nameless, ?_⟩
      · rw [List.getElem_cons_drop, List.take_append_drop]
      · intro earlier member
        obtain ⟨place, before, rfl⟩ := List.mem_take_iff_getElem.mp member
        exact Bool.eq_false_iff.mpr (first place (by omega))
      · rw [List.length_take, Nat.min_eq_left (Nat.le_of_lt bound)]
    · cases refused
  · rintro ⟨before, param, after, rfl, named, nameless, rfl⟩
    have found : (before ++ param :: after).findIdx? Param.isNameless = some before.length := by
      rw [List.findIdx?_append, List.findIdx?_eq_none_iff.mpr named, List.findIdx?_cons,
        if_pos nameless]
      simp
    rw [found]

theorem exists_resolve_iff {token : String} :
    (∃ method, resolve token = .ok method) ↔ Http.isToken (canonical token) = true := by
  constructor
  · rintro ⟨method, resolved⟩
    exact isToken_of_resolve_eq_ok resolved
  · intro valid
    refine ⟨⟨canonical token, valid⟩, ?_⟩
    unfold resolve Http.Method.ofString?
    rw [dif_pos valid]

theorem resolve_eq_error_iff {token : String} {fault : DeclarationError} :
    resolve token = .error fault
      ↔ Http.isToken (canonical token) = false ∧ fault = .invalidMethod token := by
  unfold resolve Http.Method.ofString?
  by_cases valid : Http.isToken (canonical token) = true
  · simp [valid]
  · simp [valid, eq_comm]

/-- The first token that does not resolve refuses them all. -/
theorem resolveAll_cons_eq_error_iff {head : String} {tail : List String}
    {fault : DeclarationError} :
    resolveAll (head :: tail) = .error fault
      ↔ resolve head = .error fault
        ∨ Http.isToken (canonical head) = true ∧ resolveAll tail = .error fault := by
  have opened : resolveAll (head :: tail)
      = (resolve head >>= fun method => resolveAll tail >>= fun others =>
        pure (method :: others)) := List.mapM_cons
  rw [opened, bind_eq_error_iff, ← exists_resolve_iff]
  simp only [bind_pure_eq_error_iff, exists_and_right]

/-- **The first token** that is none in canonical form is at fault. -/
theorem resolveAll_eq_error_iff {tokens : List String} {fault : DeclarationError} :
    resolveAll tokens = .error fault
      ↔ ∃ before token after, tokens = before ++ token :: after
        ∧ (∀ earlier ∈ before, Http.isToken (canonical earlier) = true)
        ∧ Http.isToken (canonical token) = false ∧ fault = .invalidMethod token := by
  induction tokens with
  | nil => exact ⟨nofun, fun ⟨_, _, _, cut, _⟩ => by simp at cut⟩
  | cons head tail hypothesis =>
    rw [resolveAll_cons_eq_error_iff, resolve_eq_error_iff, hypothesis]
    constructor
    · rintro (⟨invalid, rfl⟩ | ⟨valid, before, token, after, rfl, earlier, invalid, rfl⟩)
      · exact ⟨[], head, tail, rfl, nofun, invalid, rfl⟩
      · exact ⟨head :: before, token, after, rfl, List.forall_mem_cons.mpr ⟨valid, earlier⟩,
          invalid, rfl⟩
    · rintro ⟨before, token, after, cut, earlier, invalid, rfl⟩
      cases before with
      | nil =>
        cases cut
        exact .inl ⟨invalid, rfl⟩
      | cons first before =>
        obtain ⟨valid, others⟩ := List.forall_mem_cons.mp earlier
        cases cut
        exact .inr ⟨valid, before, token, after, rfl, others, invalid, rfl⟩

/-- **Tokens resolve** exactly if each of them is one in canonical form. -/
theorem exists_resolveAll_iff {tokens : List String} :
    (∃ methods, resolveAll tokens = .ok methods)
      ↔ ∀ token ∈ tokens, Http.isToken (canonical token) = true := by
  constructor
  · rintro ⟨methods, resolved⟩ token member
    exact exists_resolve_iff.mp (exists_resolve_of_mem resolved member)
  · intro valid
    cases resolved : resolveAll tokens with
    | ok methods => exact ⟨methods, rfl⟩
    | error fault =>
      obtain ⟨before, token, after, rfl, -, invalid, -⟩ := resolveAll_eq_error_iff.mp resolved
      rw [valid token (by simp)] at invalid
      cases invalid

/-! ### A check in front of the methods -/

section TwoSteps

variable {α β : Type} {checked : Except DeclarationError Unit}
  {resolved : Except DeclarationError α} {make : α → β}

theorem twoSteps_eq_ok_iff {built : β} :
    (do checked; let found ← resolved; return make found) = .ok built
      ↔ checked = .ok () ∧ ∃ found, resolved = .ok found ∧ built = make found := by
  rw [bind_eq_ok_iff, Unique.exists_iff, bind_eq_ok_iff]
  refine and_congr_right fun _ => exists_congr fun found => and_congr_right fun _ => ?_
  show Except.ok (make found) = .ok built ↔ _
  rw [Except.ok.injEq, eq_comm]

theorem twoSteps_eq_error_iff {fault : DeclarationError} :
    (do checked; let found ← resolved; return make found) = .error fault
      ↔ checked = .error fault ∨ checked = .ok () ∧ resolved = .error fault := by
  rw [bind_eq_error_iff, Unique.exists_iff, bind_pure_eq_error_iff]

end TwoSteps

end Declaration

/-! ### Operations -/

namespace OperationSpec

variable {spec : OperationSpec} {operation : Operation}

/-- **What is built of an operation** whose parameters have names and whose types resolve. -/
theorem build_eq_ok_iff :
    spec.build = .ok operation
      ↔ Declaration.checkParams spec.params = .ok ()
        ∧ ∃ methods, Declaration.resolveAll (Declaration.normalTypes spec.types) = .ok methods
          ∧ operation =
            { id := Declaration.operationIdentity spec.symbol (Param.suffix spec.params)
                spec.description (Declaration.normalTypes spec.types)
              description := spec.description
              types := Declaration.normalTypes spec.types
              methods
              params := Param.requirePath spec.params
              suffix := Param.suffix spec.params
              handler := spec.handler } :=
  Declaration.twoSteps_eq_ok_iff

theorem build_eq_error_iff {fault : DeclarationError} :
    spec.build = .error fault
      ↔ Declaration.checkParams spec.params = .error fault
        ∨ Declaration.checkParams spec.params = .ok ()
          ∧ Declaration.resolveAll (Declaration.normalTypes spec.types) = .error fault :=
  Declaration.twoSteps_eq_error_iff

/-- An operation is built from a declaration whose types resolve. -/
theorem exists_of_build (built : spec.build = .ok operation) :
    ∃ methods, Declaration.resolveAll (Declaration.normalTypes spec.types) = .ok methods
      ∧ operation =
        { id := Declaration.operationIdentity spec.symbol (Param.suffix spec.params)
            spec.description (Declaration.normalTypes spec.types)
          description := spec.description
          types := Declaration.normalTypes spec.types
          methods
          params := Param.requirePath spec.params
          suffix := Param.suffix spec.params
          handler := spec.handler } :=
  (build_eq_ok_iff.mp built).2

end OperationSpec

theorem Param.isNameless_require (param : Param) :
    param.require.isNameless = param.isNameless := by
  unfold isNameless
  rw [(require_name_location param).1]

/-- **The parameters of an operation** pass the check that they passed as they were declared. -/
theorem OperationSpec.checkParams_of_build {spec : OperationSpec} {operation : Operation}
    (built : spec.build = .ok operation) : Declaration.checkParams operation.params = .ok () := by
  obtain ⟨checked, methods, -, rfl⟩ := build_eq_ok_iff.mp built
  rw [Declaration.checkParams_eq_ok_iff] at checked ⊢
  intro param member
  obtain ⟨declared, listed, rfl⟩ := List.mem_map.mp member
  rw [Param.isNameless_require]
  exact checked declared listed

/-! ### Routes -/

namespace RouteSpec

variable {spec : RouteSpec} {symbol : String} {route : Route}

/-- **What is built of a route** whose parameters have names and whose methods resolve. -/
theorem build_eq_ok_iff :
    spec.build symbol = .ok route
      ↔ Declaration.checkParams spec.params = .ok ()
        ∧ ∃ methods, Declaration.resolveAll spec.methods = .ok methods
          ∧ route = Route.assemble symbol spec.declared (Declaration.keepFirst methods)
            spec.description spec.produces spec.params :=
  Declaration.twoSteps_eq_ok_iff

theorem build_eq_error_iff {fault : DeclarationError} :
    spec.build symbol = .error fault
      ↔ Declaration.checkParams spec.params = .error fault
        ∨ Declaration.checkParams spec.params = .ok ()
          ∧ Declaration.resolveAll spec.methods = .error fault :=
  Declaration.twoSteps_eq_error_iff

/-- A route is built from a declaration whose methods resolve. -/
theorem exists_of_build (built : spec.build symbol = .ok route) :
    ∃ methods, Declaration.resolveAll spec.methods = .ok methods
      ∧ route = Route.assemble symbol spec.declared (Declaration.keepFirst methods)
        spec.description spec.produces spec.params :=
  (build_eq_ok_iff.mp built).2

end RouteSpec

end Switchboard
