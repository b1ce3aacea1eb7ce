/-
**The router.**

A router is a snapshot of the routes of a registry with their handlers. Routes with more fixed
segments come first, and among equals the one whose identity comes first. A request is for the first
route whose template matches its cleaned path and that allows its method; if only the method stands
in the way, the methods of all matching routes are on offer.

* `resolve_path`: only the cleaned path matters.
-/

import Switchboard.Path.Template
import Switchboard.Registry.Basic

namespace Switchboard

/-- A route that is ready to be matched. -/
structure CompiledRoute where
  template : Path.Template
  route : Route
  handler : Handler
deriving Inhabited

/-- An immutable table of routes. -/
structure Router where
  routes : List CompiledRoute := []
deriving Inhabited

/-- What a router finds for a request. -/
inductive Resolution where
  /-- a route takes the request -/
  | found (route : Route) (handler : Handler) (captures : Path.Captures)
  /-- routes match the path but none takes the method -/
  | methodNotAllowed (allow : List Http.Method)
  /-- no route matches the path -/
  | notFound

namespace CompiledRoute

/-- The first route comes no later than the second. -/
def comesFirst (first second : CompiledRoute) : Bool :=
  if first.template.fixedCount = second.template.fixedCount then
    !Text.precedes second.route.id first.route.id
  else decide (second.template.fixedCount < first.template.fixedCount)

end CompiledRoute

namespace Router

/-- The ready route of a registered one, if it has a handler. -/
def compile? (registry : Registry) (middleware : List Middleware) (route : Route) :
    Option CompiledRoute :=
  (registry.handler? route.id).map fun handler =>
    { template := Path.Template.compile route.place.whole
      route
      handler := Middleware.chain middleware handler }

/-- The router of a registry, every handler wrapped; the first wrapper runs outermost. -/
def build (registry : Registry) (middleware : List Middleware) : Router :=
  ⟨(registry.routeList.filterMap (compile? registry middleware)).mergeSort
    CompiledRoute.comesFirst⟩

/-- Add methods to a list, each at its first occurrence. -/
def offer (allow methods : List Http.Method) : List Http.Method :=
  methods.foldl (fun kept method => if method ∈ kept then kept else kept ++ [method]) allow

/-- Look for a route among some, with the methods that are on offer so far. -/
def search (method : Http.Method) (path : String) :
    List Http.Method → List CompiledRoute → Resolution
  | allow, [] => if allow.isEmpty then .notFound else .methodNotAllowed allow
  | allow, candidate :: rest =>
    match candidate.template.match? path with
    | none => search method path allow rest
    | some captures =>
      if candidate.route.allows method then .found candidate.route candidate.handler captures
      else search method path (offer allow candidate.route.methods) rest

/-- What the router finds for a method and a path. -/
def resolve (router : Router) (method : Http.Method) (path : String) : Resolution :=
  search method (Path.clean path) [] router.routes

/-- Only the cleaned path matters. -/
theorem resolve_path (router : Router) (method : Http.Method) {first second : String}
    (same : Path.clean first = Path.clean second) :
    router.resolve method first = router.resolve method second := by
  simp [resolve, same]

end Router

end Switchboard
