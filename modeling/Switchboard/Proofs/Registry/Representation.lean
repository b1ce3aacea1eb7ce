/-
**The containers of a registry stay in step.**

A registry keeps its operations twice, under their identities and in the order of them, its routes
once, in the order of their identities, and the handlers of both in one table. Every registration
that is not known already touches two or three of these at once.

* `Ordered`, `ordered_after` — what is listed is in strictly ascending order, **whatever was
  registered before**: an insertion finds the right place only where the order holds already, so the
  order is carried along by induction on the registrations;
* `contains_after_iff` — a handler is stored for the routes and for the operations that have one,
  and for nothing else;
* `represented_after` — **the representation invariant holds behind every list of registrations.**
-/

import Switchboard.Proofs.Registry.Callbacks
import Switchboard.Proofs.Json.Shape

namespace Switchboard

/-- A member with a new key is put where an ordered list wants it. -/
theorem insertMember_eq_insertBy {α : Type} {key : String} {value : α}
    {members : List (String × α)} (absent : members.lookup key = none) :
    Json.insertMember key value members = Text.insertBy Prod.fst (key, value) members := by
  have different : ∀ other ∈ members, other.1 ≠ key := fun _ => key_ne_of_lookup_eq_none absent
  clear absent
  induction members with
  | nil => rfl
  | cons head tail hypothesis =>
    have apart : head.1 ≠ key := different head List.mem_cons_self
    rw [Json.insertMember, if_neg apart, Text.insertBy,
      hypothesis fun other member => different other (List.mem_cons_of_mem _ member)]

namespace Registry

/-! ### The order of what is listed -/

/-- Operations and routes are stored in strictly ascending order of their identities. -/
structure Ordered (registry : Registry) : Prop where
  operations : Text.Ascending Operation.id registry.ordered
  routes : Text.Ascending Prod.fst registry.routes

theorem Ordered.addOperation {registry : Registry} (ordered : registry.Ordered)
    (filed : registry.Filed) {operation : Operation}
    (free : registry.get? operation.id = none) : (registry.addOperation operation).Ordered where
  operations := by
    refine ordered.operations.insertBy fun other member same => ?_
    have stored := filed.get?_eq_some_iff.mpr ⟨member, same⟩
    rw [free] at stored
    cases stored
  routes := ordered.routes

theorem Ordered.addRoute {registry : Registry} (ordered : registry.Ordered) (route : Route)
    (handler : Handler) : (registry.addRoute route handler).Ordered where
  operations := ordered.operations
  routes := ordered.routes.insertMember route.id route

/-- **What is listed is in order behind every list of registrations.** -/
theorem ordered_after (history : List Registration) : (after history).Ordered := by
  induction history using List.reverseRecOn with
  | nil => exact ⟨List.Pairwise.nil, List.Pairwise.nil⟩
  | append_singleton history call hypothesis =>
    rw [after_snoc]
    have made := Registration.entered (after history) call
    generalize (after history).enter call = result at made ⊢
    cases made with
    | known => exact hypothesis
    | operation operation _ _ free => exact hypothesis.addOperation (filed_after history) free
    | route route handler _ _ _ => exact hypothesis.addRoute route handler

/-- Filed in order, routes are listed in the order of their own identities. -/
theorem Ordered.routeList {registry : Registry} (ordered : registry.Ordered)
    (filed : registry.Filed) : Text.Ascending Route.id registry.routeList := by
  unfold Registry.routeList Text.Ascending
  rw [List.pairwise_map]
  refine ordered.routes.imp_of_mem fun {first second} one other before => ?_
  rw [← filed.routeId first one, ← filed.routeId second other]
  exact before

/-! ### What has a handler -/

/-- **A handler is stored for routes and for operations that have one**, and for nothing else. -/
theorem contains_after_iff (history : List Registration) (id : String) :
    (after history).handlers.contains id = true
      ↔ (∃ route ∈ (after history).routeList, route.id = id)
        ∨ ∃ operation ∈ (after history).enumerate,
          operation.id = id ∧ operation.handler.isSome = true := by
  have filed := filed_after history
  have sourced := sourced_after history
  show ((after history).handler? id).isSome = true ↔ _
  constructor
  · intro stored
    obtain ⟨handler, held⟩ := Option.isSome_iff_exists.mp stored
    rcases sourced.owner id handler held with ⟨operation, member, same, own⟩ | ⟨route, found⟩
    · exact Or.inr ⟨operation, member, same, by rw [own]; rfl⟩
    · have founded : (after history).getRoute? id = some route := by
        rw [getRoute?_after, found]
        rfl
      exact Or.inl ⟨route, filed.getRoute?_eq_some_iff.mp founded⟩
  · rintro (⟨route, member, rfl⟩ | ⟨operation, member, rfl, handled⟩)
    · obtain ⟨handler, held⟩ := filed.handler_of_mem_routeList member
      rw [held]
      rfl
    · exact sourced.stored operation member handled

/-! ### The invariant -/

/-- **The representation invariant of a registry.** -/
structure Represented (registry : Registry) : Prop where
  /-- operations are listed in strictly ascending order of their identities -/
  operations : Text.Ascending Operation.id registry.enumerate
  /-- what is found under an identity is what is listed with it -/
  get?_iff : ∀ id operation,
    registry.get? id = some operation ↔ operation ∈ registry.enumerate ∧ operation.id = id
  /-- as many operations are stored as are listed -/
  size_eq : registry.size = registry.enumerate.length
  /-- routes are listed in strictly ascending order of their identities -/
  routes : Text.Ascending Route.id registry.routeList
  /-- the route found under an identity is the one that is listed with it -/
  getRoute?_iff : ∀ id route,
    registry.getRoute? id = some route ↔ route ∈ registry.routeList ∧ route.id = id
  /-- operations are filed under their own identities -/
  operationId : ∀ entry ∈ registry.operations, entry.1 = entry.2.id
  /-- routes are filed under their own identities -/
  routeId : ∀ entry ∈ registry.routes, entry.1 = entry.2.id
  /-- handlers are stored for routes and for operations that have one -/
  handled : ∀ id, registry.handlers.contains id = true
    ↔ (∃ route ∈ registry.routeList, route.id = id)
      ∨ ∃ operation ∈ registry.enumerate, operation.id = id ∧ operation.handler.isSome = true

/-- **The containers of a registry are in step behind every list of registrations**, in any order
and with any repetition. -/
theorem represented_after (history : List Registration) : (after history).Represented := by
  have filed := filed_after history
  have ordered := ordered_after history
  exact {
    operations := ordered.operations
    get?_iff := fun id operation => filed.get?_eq_some_iff
    size_eq := by
      have listed := filed.ordered.length_eq
      rw [List.length_map] at listed
      exact listed.symm
    routes := ordered.routeList filed
    getRoute?_iff := fun id route => filed.getRoute?_eq_some_iff
    operationId := filed.operationId
    routeId := filed.routeId
    handled := contains_after_iff history }

end Registry

end Switchboard
