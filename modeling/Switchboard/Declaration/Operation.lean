/-
**Operations.**

An operation is a handler that is not bound to a prefix. Building it normalizes its declaration: the
types are put in order and resolved to methods, the path parameters are required and give the
suffix, and all of it together with the description makes up the identity.
-/

import Switchboard.Declaration.Check
import Switchboard.Declaration.Identity
import Switchboard.Handler.Program

namespace Switchboard

/-- A built operation. -/
structure Operation where
  id : String
  description : String
  types : List String
  methods : List Http.Method
  params : List Param
  suffix : String
  handler : Option Handler
deriving Inhabited

/-- An operation as it is declared. -/
structure OperationSpec where
  description : String := ""
  types : List String := []
  params : List Param := []
  handler : Option Handler := none
deriving Inhabited

namespace Operation

/-- A placeholder without a handler. -/
def placeholder (description : String) : Operation :=
  { id := Declaration.operationIdentity Declaration.nilSymbol "" description []
    description
    types := []
    methods := []
    params := []
    suffix := ""
    handler := none }

/-- The members of an operation in the order of its declaration. -/
def fields (operation : Operation) (record : List (String × Json) → Json) :
    List (String × Json) :=
  [("id", .string operation.id),
    ("description", .string operation.description),
    ("types", Json.strings operation.types),
    ("methods", Json.strings (operation.methods.map Http.Method.token)),
    ("params", .array (operation.params.map fun param => record param.fields)),
    ("suffix", .string operation.suffix)]

/-- An operation as a value. -/
def toJson (operation : Operation) : Json :=
  Json.ofMembers (operation.fields Json.ofMembers)

/-- The compact text of an operation. -/
def toText (operation : Operation) : String :=
  Json.orderedText (operation.fields .object)

end Operation

namespace OperationSpec

/-- The symbol of the handler, or that of none. -/
def symbol (spec : OperationSpec) : String :=
  spec.handler.elim Declaration.nilSymbol Handler.symbol

/-- The operation that a declaration means. -/
def build (spec : OperationSpec) : Except DeclarationError Operation := do
  Declaration.checkParams spec.params
  let types := Declaration.normalTypes spec.types
  let methods ← Declaration.resolveAll types
  let suffix := Param.suffix spec.params
  return {
    id := Declaration.operationIdentity spec.symbol suffix spec.description types
    description := spec.description
    types
    methods
    params := Param.requirePath spec.params
    suffix
    handler := spec.handler }

end OperationSpec

end Switchboard
