/-
**Wrappers and the resolution of requests.**

A router is built with wrappers around the handlers of its routes. They change what a route runs,
and nothing of how a route is found.

* `routes_build` — a router with wrappers has **the routes of the one without**, in the same order;
* `resolve_build` — it finds **the same route with the same captures**, or offers the same methods.
-/

import Switchboard.Router

namespace Switchboard

/-- What is found, with wrappers around the handler of the route. -/
def Resolution.under (middleware : List Middleware) : Resolution → Resolution
  | .found matched handler captures =>
    .found matched (Middleware.chain middleware handler) captures
  | .methodNotAllowed allow => .methodNotAllowed allow
  | .notFound => .notFound

namespace Router

/-- A ready route with wrappers around its handler. -/
def wrap (middleware : List Middleware) (ready : CompiledRoute) : CompiledRoute :=
  { ready with handler := Middleware.chain middleware ready.handler }

theorem compile?_eq_map (registry : Registry) (middleware : List Middleware) (route : Route) :
    compile? registry middleware route = (compile? registry [] route).map (wrap middleware) := by
  unfold compile?
  rw [Option.map_map]
  rfl

/-- **A router with wrappers** has the routes of the one without, in the same order. -/
theorem routes_build (registry : Registry) (middleware : List Middleware) :
    (build registry middleware).routes = (build registry []).routes.map (wrap middleware) := by
  unfold build
  rw [funext (compile?_eq_map registry middleware), ← List.map_filterMap]
  -- the order of routes does not look at their handlers
  have order : ∀ first ∈ (registry.routeList.filterMap (compile? registry [])),
      ∀ second ∈ (registry.routeList.filterMap (compile? registry [])),
      first.comesFirst second = (wrap middleware first).comesFirst (wrap middleware second) :=
    fun _ _ _ _ => rfl
  exact (List.map_mergeSort order).symm

theorem search_map_wrap (middleware : List Middleware) (method : Http.Method) (path : String)
    (allow : List Http.Method) (routes : List CompiledRoute) :
    search method path allow (routes.map (wrap middleware))
      = (search method path allow routes).under middleware := by
  induction routes generalizing allow with
  | nil =>
    rw [List.map_nil, search]
    split <;> rfl
  | cons ready rest hypothesis =>
    obtain ⟨template, route, handler⟩ := ready
    show search method path allow
      (⟨template, route, Middleware.chain middleware handler⟩ :: rest.map (wrap middleware)) = _
    rw [search, search]
    cases template.match? path with
    | none => exact hypothesis allow
    | some captures =>
      simp only
      split
      · rfl
      · exact hypothesis _

/-- **Wrappers leave the resolution as it is**: route, captures and methods on offer. -/
theorem resolve_build (registry : Registry) (middleware : List Middleware) (method : Http.Method)
    (path : String) :
    (build registry middleware).resolve method path
      = ((build registry []).resolve method path).under middleware := by
  unfold resolve
  rw [routes_build, search_map_wrap]

end Router

end Switchboard
