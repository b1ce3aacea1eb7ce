/-
**Mounting an operation is declaring its route.**

A route can be declared by hand with the texts that a built operation tells: the prefix with the
suffix of the operation behind it, the types of the operation, its description and its parameters.
Such a declaration is checked and normalized like any other, and mounting does neither. Both lead to
the same route, since an operation was checked and normalized when it was built.

* `Registry.decompose_mountedText` — a slash at the end of the prefix, which mounting drops and a
  declaration keeps, **is lost in cleaning**;
* `OperationSpec.resolveAll_of_build` — the types of an operation **resolve to its methods**, each
  once;
* `OperationSpec.build_routeSpec` — **the declaration builds, and what it builds is the route that
  is mounted**;
* `Registry.mount_is_declaring` — so in every registry mounting and registering the declared route
  do the same, and either after the other does nothing.
-/

import Switchboard.Proofs.Declaration.Building
import Switchboard.Proofs.Path.Climbing
import Switchboard.Proofs.Registry.Permanence
import Switchboard.Proofs.Routing.Mounting

namespace Switchboard

/-- The route of an operation under a prefix, as it is declared by hand. -/
def Operation.routeSpec (operation : Operation) (declared : String) : RouteSpec where
  declared := declared ++ operation.suffix
  methods := operation.types
  description := operation.description
  params := operation.params

/-! ### The prefix -/

/-- **A slash at the end of the prefix is lost in cleaning**, whatever path follows it. -/
theorem Registry.decompose_mountedText (declared : String) {operation : Operation}
    (path : Declaration.IsPath operation.suffix) :
    Path.decompose (mountedText declared operation)
      = Path.decompose (declared ++ operation.suffix) := by
  refine Path.decompose_of_clean (Path.clean_eq_iff.mpr ?_)
  unfold mountedText
  rw [String.toList_append, String.toList_append]
  rcases path with empty | ⟨rest, slash⟩
  · rw [empty, String.toList_empty, List.append_nil, List.append_nil, cleanSegments_trimSlashes]
  · rw [slash, Path.cleanSegments_append_slash_append, cleanSegments_trimSlashes,
      ← Path.cleanSegments_append_slash_append]

/-! ### The methods -/

namespace OperationSpec

variable {spec : OperationSpec} {operation : Operation} (built : spec.build = .ok operation)
include built

/-- **The types of an operation** resolve to its methods, and none of these is a repetition. -/
theorem resolveAll_of_build :
    Declaration.resolveAll operation.types = .ok operation.methods
      ∧ Declaration.keepFirst operation.methods = operation.methods := by
  obtain ⟨methods, resolved, rfl⟩ := exists_of_build built
  exact ⟨resolved, Declaration.keepFirst_of_nodup (Declaration.nodup_of_normalTypes resolved)⟩

/-- **The declared route builds**, and it is the mounted one. -/
theorem build_routeSpec (declared : String) (handler : Handler) :
    (operation.routeSpec declared).build handler.symbol
      = .ok (Registry.mountedRoute declared operation handler) := by
  obtain ⟨resolved, once⟩ := resolveAll_of_build built
  have place := Registry.decompose_mountedText declared (formed_build built).suffix
  refine RouteSpec.build_eq_ok_iff.mpr ⟨checkParams_of_build built, operation.methods, resolved, ?_⟩
  rw [once, Registry.mountedRoute, Route.assemble, Route.assemble]
  unfold Registry.mountedText at place
  simp only [Operation.routeSpec, place]

end OperationSpec

/-! ### Registering -/

namespace Registry

variable {registry : Registry} {declared : String} {operation : Operation} {handler : Handler}

/-- Mounting registers the route that is mounted. -/
theorem mount_of_registerRoute (handled : operation.handler = some handler) {stored : Route}
    {after : Registry}
    (registered : registry.registerRoute (mountedRoute declared operation handler) handler
      = (stored, after)) : registry.mount declared operation = (some stored, after) := by
  unfold mount
  rw [handled]
  simp only [registered]

/-- A route that is registered once more is answered as before, and nothing changes. -/
theorem registerRoute_of_registerRoute {route stored : Route} {after : Registry}
    (registered : registry.registerRoute route handler = (stored, after)) :
    after.registerRoute route handler = (stored, after) := by
  have found := registry.getRoute?_registerRoute route handler
  rw [registered] at found
  unfold registerRoute
  rw [found]

/-- **Mounting is declaring the route by hand.** The declaration with the prefix and the suffix, the
types, the description and the parameters of a built operation builds. In every registry mounting
answers and does what registering the declared route answers and does: as long as the identity is
free that is to add this route with the handler of the operation. Registered behind the mounting,
or mounted behind the registration, it is answered the same once more and nothing changes. -/
theorem mount_is_declaring (registry : Registry) (declared : String) {spec : OperationSpec}
    {operation : Operation} {handler : Handler} (built : spec.build = .ok operation)
    (handled : operation.handler = some handler) :
    ∃ route stored after,
      (operation.routeSpec declared).build handler.symbol = .ok route
      ∧ registry.mount declared operation = (some stored, after)
      ∧ registry.registerRoute route handler = (stored, after)
      ∧ (registry.getRoute? route.id = none →
        stored = route ∧ after = registry.addRoute route handler)
      ∧ after.registerRoute route handler = (stored, after)
      ∧ after.mount declared operation = (some stored, after) := by
  obtain ⟨stored, after, registered⟩ : ∃ stored after,
      registry.registerRoute (mountedRoute declared operation handler) handler = (stored, after) :=
    ⟨_, _, rfl⟩
  have again := registerRoute_of_registerRoute registered
  refine ⟨mountedRoute declared operation handler, stored, after,
    OperationSpec.build_routeSpec built declared handler, mount_of_registerRoute handled registered,
    registered, fun free => ?_, again, mount_of_registerRoute handled again⟩
  unfold registerRoute at registered
  rw [free] at registered
  obtain ⟨rfl, rfl⟩ := Prod.mk.inj registered
  exact ⟨rfl, rfl⟩

/-- An operation under a prefix with a dot segment, a query and slashes at its end. -/
theorem mount_is_declaring_user :
    let handler : Handler := ⟨"show", .skip⟩
    let declared := "/api/../user?/list//"
    ∃ (operation : Operation) (route : Route),
      OperationSpec.build
        { params := [{ name := "id", location := .path }, { name := "page", location := .query }]
          types := [" post", "GET", "get"], description := "d", handler := some handler }
          = .ok operation
      ∧ (operation.routeSpec declared).build handler.symbol = .ok route
      ∧ route.place.whole = "/user"
      ∧ route.methods.map Http.Method.token = ["GET", "POST"]
      ∧ ({} : Registry).mount declared operation
        = (some route, ({} : Registry).addRoute route handler)
      ∧ (({} : Registry).addRoute route handler).registerRoute route handler
        = (route, ({} : Registry).addRoute route handler) := by
  intro handler declared
  obtain ⟨operation, built, handled, suffix, methods⟩ : ∃ operation, OperationSpec.build
      { params := [{ name := "id", location := .path }, { name := "page", location := .query }]
        types := [" post", "GET", "get"], description := "d", handler := some handler }
        = .ok operation ∧ operation.handler = some handler ∧ operation.suffix = "/:id"
      ∧ operation.methods.map Http.Method.token = ["GET", "POST"] := ⟨_, rfl, rfl, rfl, rfl⟩
  obtain ⟨route, stored, after, builds, mounted, -, first, again, -⟩ :=
    mount_is_declaring {} declared built handled
  obtain ⟨rfl, rfl⟩ := first rfl
  have same : stored = mountedRoute declared operation handler :=
    Except.ok.inj (builds.symm.trans (OperationSpec.build_routeSpec built declared handler))
  refine ⟨operation, stored, built, builds, ?_, ?_, mounted, again⟩
  · rw [same]
    show (Path.decompose (trimSlashes declared ++ operation.suffix)).whole = "/user"
    rw [suffix]
    decide
  · rw [same]
    exact methods

end Registry

end Switchboard
