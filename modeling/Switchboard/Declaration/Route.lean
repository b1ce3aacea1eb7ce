/-
**Routes.**

A route binds a handler to a prefix. It is described by its methods, none meaning any, its cleaned
prefix, and what the documentation says about it; its identity leaves the documentation out.

* `allows_iff`: a route allows a method if it lists no method or lists this one.
-/

import Switchboard.Declaration.Check
import Switchboard.Declaration.Identity
import Switchboard.Path.Prefix

namespace Switchboard

/-- The description of a route. -/
structure Route where
  id : String
  methods : List Http.Method
  place : Path.DeclaredPrefix
  description : String
  produces : List String
  params : List Param
deriving Inhabited

/-- A route as it is declared. -/
structure RouteSpec where
  declared : String
  methods : List String := []
  description : String := ""
  produces : List String := []
  params : List Param := []
deriving Inhabited

namespace Route

/-- The route of a handler's symbol under a prefix, with resolved methods. -/
def assemble (symbol declared : String) (methods : List Http.Method) (description : String)
    (produces : List String) (params : List Param) : Route :=
  let place := Path.decompose declared
  { id := Declaration.routeIdentity symbol place.whole methods
    methods
    place
    description
    produces
    params := Param.requirePath params }

/-- The route answers to a method. -/
def allows (route : Route) (method : Http.Method) : Bool :=
  route.methods.isEmpty || route.methods.contains method

/-- A route allows a method if it lists no method or lists this one. -/
theorem allows_iff (route : Route) (method : Http.Method) :
    route.allows method = true ↔ route.methods = [] ∨ method ∈ route.methods := by
  simp [allows]

/-- The members of a route in the order of its declaration. -/
def fields (route : Route) (record : List (String × Json) → Json) : List (String × Json) :=
  [("id", .string route.id),
    ("methods", Json.strings (route.methods.map Http.Method.token)),
    ("prefix", .string route.place.whole),
    ("prefix_path", .string route.place.fixedPart),
    ("prefix_param", .string route.place.paramPart),
    ("description", .string route.description),
    ("produces", Json.strings route.produces),
    ("params", .array (route.params.map fun param => record param.fields))]

/-- A route as a value. -/
def toJson (route : Route) : Json :=
  Json.ofMembers (route.fields Json.ofMembers)

/-- The compact text of a route. -/
def toText (route : Route) : String :=
  Json.orderedText (route.fields .object)

end Route

/-- The route that a declaration means for a handler's symbol. -/
def RouteSpec.build (spec : RouteSpec) (symbol : String) : Except DeclarationError Route := do
  Declaration.checkParams spec.params
  let methods ← Declaration.resolveAll spec.methods
  return Route.assemble symbol spec.declared (Declaration.keepFirst methods) spec.description
    spec.produces spec.params

end Switchboard
