/-
**The registry.**

The registry keeps one operation and one route for each identity, the first that was registered, and
beside them a table of handlers, where an identity keeps its first handler too. Operations are found
by identity and listed in the byte order of their identities; routes are stored in that order.

* `get?_register`: what registering answers is what is stored under the identity;
* `register_of_get?`: registering an identity again changes nothing;
* `mount_of_no_handler`: an operation without a handler is not mounted.
-/

import Switchboard.Declaration.Operation

namespace Switchboard

/-- The table of handlers under their identities. -/
structure HandlerTable where
  entries : List (String × Handler) := []
deriving Inhabited

namespace HandlerTable

/-- The handler of an identity. -/
def get? (table : HandlerTable) (id : String) : Option Handler :=
  table.entries.lookup id

/-- The identity has a handler. -/
def contains (table : HandlerTable) (id : String) : Bool :=
  (table.get? id).isSome

/-- The number of handlers. -/
def size (table : HandlerTable) : Nat :=
  table.entries.length

/-- Store a handler unless there is one already. -/
def insert (table : HandlerTable) (id : String) (handler : Handler) : HandlerTable :=
  if table.contains id then table else ⟨table.entries ++ [(id, handler)]⟩

end HandlerTable

/-- Operations and routes under their identities, and the handlers of both. -/
structure Registry where
  operations : List (String × Operation) := []
  ordered : List Operation := []
  routes : List (String × Route) := []
  handlers : HandlerTable := {}
deriving Inhabited

namespace Registry

/-- The operation of an identity. -/
def get? (registry : Registry) (id : String) : Option Operation :=
  registry.operations.lookup id

/-- All operations in the order of their identities. -/
def enumerate (registry : Registry) : List Operation :=
  registry.ordered

/-- The number of operations. -/
def size (registry : Registry) : Nat :=
  registry.operations.length

/-- The route of an identity. -/
def getRoute? (registry : Registry) (id : String) : Option Route :=
  registry.routes.lookup id

/-- All routes in the order of their identities. -/
def routeList (registry : Registry) : List Route :=
  registry.routes.map Prod.snd

/-- The handler of an operation or a route. -/
def handler? (registry : Registry) (id : String) : Option Handler :=
  registry.handlers.get? id

/-- Store an operation whose identity is new. -/
def addOperation (registry : Registry) (operation : Operation) : Registry :=
  { registry with
    operations := registry.operations ++ [(operation.id, operation)]
    ordered := Text.insertBy Operation.id operation registry.ordered
    handlers := operation.handler.elim registry.handlers
      (registry.handlers.insert operation.id) }

/-- Register an operation; the answer is the operation stored under its identity. -/
def register (registry : Registry) (operation : Operation) : Operation × Registry :=
  match registry.get? operation.id with
  | some existing => (existing, registry)
  | none => (operation, registry.addOperation operation)

/-- Register a placeholder. -/
def registerNil (registry : Registry) (description : String) : Operation × Registry :=
  registry.register (Operation.placeholder description)

/-- Store a route whose identity is new. -/
def addRoute (registry : Registry) (route : Route) (handler : Handler) : Registry :=
  { registry with
    routes := Json.insertMember route.id route registry.routes
    handlers := registry.handlers.insert route.id handler }

/-- Register a route with its handler; the answer is the route stored under its identity. -/
def registerRoute (registry : Registry) (route : Route) (handler : Handler) : Route × Registry :=
  match registry.getRoute? route.id with
  | some existing => (existing, registry)
  | none => (route, registry.addRoute route handler)

/-- A prefix without the slashes at its end. -/
def trimSlashes (declared : String) : String :=
  String.ofList (declared.toList.reverse.dropWhile (· == '/')).reverse

/-- The route of an operation under a prefix. -/
def mountedRoute (declared : String) (operation : Operation) (handler : Handler) : Route :=
  Route.assemble handler.symbol (trimSlashes declared ++ operation.suffix) operation.methods
    operation.description [] operation.params

/-- Make an operation a route under a prefix; one without a handler is none. -/
def mount (registry : Registry) (declared : String) (operation : Operation) :
    Option Route × Registry :=
  match operation.handler with
  | none => (none, registry)
  | some handler =>
    let (route, after) := registry.registerRoute (mountedRoute declared operation handler) handler
    (some route, after)

/-- The registered operations and routes as one value. -/
def catalog (registry : Registry) : Json :=
  Json.ofMembers
    [("operations", .array (registry.enumerate.map Operation.toJson)),
      ("routes", .array (registry.routeList.map Route.toJson))]

/-- Registering an identity again changes nothing. -/
theorem register_of_get? {registry : Registry} {operation existing : Operation}
    (stored : registry.get? operation.id = some existing) :
    registry.register operation = (existing, registry) := by
  simp [register, stored]

/-- What registering answers is what is stored under the identity. -/
theorem get?_register (registry : Registry) (operation : Operation) :
    (registry.register operation).2.get? operation.id
      = some (registry.register operation).1 := by
  unfold register
  cases stored : registry.get? operation.id with
  | some existing => exact stored
  | none =>
    simp only [addOperation, get?]
    unfold get? at stored
    rw [List.lookup_append, stored]
    simp

/-- An operation without a handler is not mounted. -/
theorem mount_of_no_handler (registry : Registry) (declared : String) {operation : Operation}
    (missing : operation.handler = none) : registry.mount declared operation = (none, registry) := by
  simp [mount, missing]

end Registry

end Switchboard
