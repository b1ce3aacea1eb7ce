/-
**Checked declarations.**

A declaration names methods and parameters. It is refused if a parameter has a blank name, and
otherwise if the token of a method, stripped of blanks and in upper case, is no method.

* `checkParams_eq_ok_iff`: parameters are accepted exactly when each has a name.
-/

import Switchboard.Http.Method
import Switchboard.Param.Basic

namespace Switchboard

/-- Why a declaration is refused. -/
inductive DeclarationError where
  | invalidMethod (token : String)
  | emptyParamName (index : Nat)
deriving DecidableEq, Repr

/-- The text of a refusal. -/
def DeclarationError.message : DeclarationError → String
  | .invalidMethod token => "invalid method type " ++ Text.quoted token
  | .emptyParamName index => "parameter #" ++ toString index ++ " has an empty name"

namespace Declaration

/-- A token without blanks around it and in upper case. -/
def canonical (token : String) : String :=
  Text.upper (Text.trim token)

/-- The method that a token means. -/
def resolve (token : String) : Except DeclarationError Http.Method :=
  match Http.Method.ofString? (canonical token) with
  | some method => .ok method
  | none => .error (.invalidMethod token)

/-- The methods that tokens mean, in order; the first token that means none is at fault. -/
def resolveAll (tokens : List String) : Except DeclarationError (List Http.Method) :=
  tokens.mapM resolve

/-- Refuse the first parameter whose name is blank. -/
def checkParams (params : List Param) : Except DeclarationError Unit :=
  match params.findIdx? Param.isNameless with
  | some index => .error (.emptyParamName index)
  | none => .ok ()

/-- The types of a declaration that lists none. -/
def standardTypes : List String :=
  ["CONNECT", "DELETE", "GET", "HEAD", "OPTIONS", "PATCH", "POST", "PUT", "TRACE"]

/-- The types that a declaration means: in canonical form, in byte order, each once. -/
def normalTypes (declared : List String) : List String :=
  if declared.isEmpty then standardTypes
  else Text.dedupAdjacent (Text.sortBy id (declared.map canonical))

/-- The values of a list at their first occurrence. -/
def keepFirst [DecidableEq α] (values : List α) : List α :=
  values.foldl (fun kept value => if value ∈ kept then kept else kept ++ [value]) []

/-- Parameters are accepted exactly when each has a name. -/
theorem checkParams_eq_ok_iff (params : List Param) :
    checkParams params = .ok () ↔ ∀ param ∈ params, param.isNameless = false := by
  unfold checkParams
  cases found : params.findIdx? Param.isNameless with
  | none => simpa using List.findIdx?_eq_none_iff.mp found
  | some index =>
    simp only [reduceCtorEq, false_iff]
    intro named
    obtain ⟨bound, nameless, _⟩ := List.findIdx?_eq_some_iff_getElem.mp found
    simp [named _ (List.getElem_mem bound)] at nameless

end Declaration

end Switchboard
