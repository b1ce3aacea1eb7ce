/-
**The order of registrations.**

Registrations whose identities all differ never meet: each finds its identity free, in the
operations, in the routes and in the table of handlers. So the registry holds exactly what they
bring, and what it lists it lists in the order of identities.

* `Registration.identity?` — the identity under which a registration is filed;
* `adds_of_fresh` — **one registration under a fresh identity** adds what it brings, whole;
* `stored_after` — behind registrations with different identities **all that they bring is stored**;
* `after_perm` — the same registrations in another order leave a registry that lists, finds and
  resolves the same.
-/

import Switchboard.Proofs.Registry.Callbacks
import Switchboard.Proofs.Registry.Representation

namespace Switchboard

namespace Registration

/-- The identity of what a registration brings. -/
def identity? (call : Registration) : Option String :=
  (call.operation?.map Operation.id).or (call.route?.map fun brought => brought.1.id)

/-- The registration brings a handler for an identity. -/
def Offers (call : Registration) (id : String) (handler : Handler) : Prop :=
  (∃ operation, call.operation? = some operation ∧ operation.id = id
      ∧ operation.handler = some handler)
    ∨ ∃ route, call.route? = some (route, handler) ∧ route.id = id

theorem identity?_of_operation {call : Registration} {operation : Operation}
    (brought : call.operation? = some operation) : call.identity? = some operation.id := by
  unfold identity?
  rw [brought]
  rfl

theorem identity?_of_route {call : Registration} {route : Route} {handler : Handler}
    (brought : call.route? = some (route, handler)) : call.identity? = some route.id := by
  cases call with
  | operation operation => cases brought
  | placeholder description => cases brought
  | route own founding =>
    cases brought
    rfl
  | mounting declared operation =>
    unfold identity?
    rw [brought]
    rfl

theorem offers_of_operation {call : Registration} {operation : Operation}
    (brought : call.operation? = some operation) (alone : call.route? = none) {id : String}
    {handler : Handler} :
    call.Offers id handler ↔ operation.id = id ∧ operation.handler = some handler := by
  constructor
  · rintro (⟨_, same, named, own⟩ | ⟨_, same, _⟩)
    · cases brought.symm.trans same
      exact ⟨named, own⟩
    · cases alone.symm.trans same
  · rintro ⟨named, own⟩
    exact Or.inl ⟨operation, brought, named, own⟩

theorem offers_of_route {call : Registration} {route : Route} {own : Handler}
    (brought : call.route? = some (route, own)) (alone : call.operation? = none) {id : String}
    {handler : Handler} : call.Offers id handler ↔ route.id = id ∧ own = handler := by
  constructor
  · rintro (⟨_, same, _⟩ | ⟨_, same, named⟩)
    · cases alone.symm.trans same
    · cases brought.symm.trans same
      exact ⟨named, rfl⟩
  · rintro ⟨named, rfl⟩
    exact Or.inr ⟨route, brought, named⟩

end Registration

namespace Registry

/-! ### One registration under a fresh identity -/

/-- No registration brings the identity. -/
def Fresh (history : List Registration) (id : String) : Prop :=
  ∀ call ∈ history, call.identity? ≠ some id

section Fresh

variable {history : List Registration} {id : String} (fresh : Fresh history id)
include fresh

theorem get?_of_fresh : (after history).get? id = none := by
  by_contra taken
  obtain ⟨operation, stored⟩ := Option.ne_none_iff_exists'.mp taken
  obtain ⟨listed, rfl⟩ := (filed_after history).get?_eq_some_iff.mp stored
  obtain ⟨call, member, brought⟩ := exists_call_of_mem_enumerate listed
  exact fresh call member (Registration.identity?_of_operation brought)

theorem getRoute?_of_fresh : (after history).getRoute? id = none := by
  by_contra taken
  obtain ⟨route, stored⟩ := Option.ne_none_iff_exists'.mp taken
  obtain ⟨listed, rfl⟩ := (filed_after history).getRoute?_eq_some_iff.mp stored
  obtain ⟨call, member, handler, brought⟩ := exists_call_of_mem_routeList listed
  exact fresh call member (Registration.identity?_of_route brought)

theorem handler?_of_fresh : (after history).handler? id = none := by
  by_contra taken
  obtain ⟨handler, held⟩ := Option.ne_none_iff_exists'.mp taken
  rcases (sourced_after history).owner id handler held with ⟨operation, listed, same, _⟩ | founded
  · have stored := (filed_after history).get?_eq_some_iff.mpr ⟨listed, same⟩
    rw [get?_of_fresh fresh] at stored
    cases stored
  · obtain ⟨route, found⟩ := founded
    have stored := getRoute?_after history id
    rw [found, getRoute?_of_fresh fresh] at stored
    cases stored

end Fresh

/-- What a registration brings is added, and nothing else. -/
structure Adds (before : Registry) (call : Registration) (result : Registry) : Prop where
  operation : ∀ operation, operation ∈ result.enumerate
    ↔ operation ∈ before.enumerate ∨ call.operation? = some operation
  route : ∀ route, route ∈ result.routeList
    ↔ route ∈ before.routeList ∨ ∃ handler, call.route? = some (route, handler)
  handler : ∀ id handler, result.handler? id = some handler
    ↔ before.handler? id = some handler ∨ call.Offers id handler

theorem adds_nothing (registry : Registry) {call : Registration}
    (noOperation : call.operation? = none) (noRoute : call.route? = none) :
    Adds registry call registry where
  operation brings := by rw [noOperation, or_iff_left (by rintro ⟨⟩)]
  route brings := by rw [noRoute, or_iff_left (by rintro ⟨_, ⟨⟩⟩)]
  handler id handler := by
    rw [or_iff_left]
    rintro (⟨_, brought, _⟩ | ⟨_, brought, _⟩)
    · rw [noOperation] at brought
      cases brought
    · rw [noRoute] at brought
      cases brought

theorem adds_addOperation {registry : Registry} {call : Registration} {added : Operation}
    (brought : call.operation? = some added) (alone : call.route? = none)
    (unheld : registry.handler? added.id = none) :
    Adds registry call (registry.addOperation added) where
  operation brings := by
    rw [mem_enumerate_addOperation, brought, Option.some_inj, or_comm, eq_comm]
  route brings := by
    rw [alone, or_iff_left (by rintro ⟨_, ⟨⟩⟩)]
    rfl
  handler id handler := by
    rw [handler?_addOperation, Registration.offers_of_operation brought alone]
    by_cases same : added.id = id
    · rw [if_pos same, ← same, unheld]
      simp
    · rw [if_neg same, or_iff_left fun offers => same offers.1]

theorem adds_addRoute {registry : Registry} {call : Registration} {added : Route} {own : Handler}
    (brought : call.route? = some (added, own)) (alone : call.operation? = none)
    (free : registry.getRoute? added.id = none) (unheld : registry.handler? added.id = none) :
    Adds registry call (registry.addRoute added own) where
  operation brings := by
    rw [alone, or_iff_left (by rintro ⟨⟩)]
    rfl
  route brings := by
    rw [mem_routeList_addRoute free, brought, or_comm]
    refine or_congr_right ⟨?_, ?_⟩
    · rintro rfl
      exact ⟨own, rfl⟩
    · rintro ⟨handler, same⟩
      exact (congrArg Prod.fst (Option.some.inj same)).symm
  handler id handler := by
    rw [handler?_addRoute, Registration.offers_of_route brought alone]
    by_cases same : added.id = id
    · rw [if_pos same, ← same, unheld]
      simp
    · rw [if_neg same, or_iff_left fun offers => same offers.1]

/-- **A registration under a fresh identity** adds what it brings. -/
theorem adds_of_fresh {history : List Registration} {call : Registration}
    (fresh : ∀ id, call.identity? = some id → Fresh history id) :
    Adds (after history) call ((after history).enter call) := by
  have made := Registration.entered (after history) call
  generalize (after history).enter call = result at made ⊢
  cases made with
  | known operation route =>
    -- what is fresh is not filed yet, so the registration brings nothing
    refine adds_nothing _ ?_ ?_
    · by_contra some_operation
      obtain ⟨brings, brought⟩ := Option.ne_none_iff_exists'.mp some_operation
      have taken := operation brings brought
      rw [get?_of_fresh (fresh _ (Registration.identity?_of_operation brought))] at taken
      cases taken
    · by_contra some_route
      obtain ⟨⟨brings, handler⟩, brought⟩ := Option.ne_none_iff_exists'.mp some_route
      have taken := route brings handler brought
      rw [getRoute?_of_fresh (fresh _ (Registration.identity?_of_route brought))] at taken
      cases taken
  | operation added brought alone =>
    have unheld := handler?_of_fresh (fresh _ (Registration.identity?_of_operation brought))
    exact adds_addOperation brought alone unheld
  | route added own brought alone free =>
    have unheld := handler?_of_fresh (fresh _ (Registration.identity?_of_route brought))
    exact adds_addRoute brought alone free unheld

/-! ### Registrations under different identities -/

/-- Exactly what registrations bring is stored. -/
structure Stored (history : List Registration) (registry : Registry) : Prop where
  operation : ∀ operation, operation ∈ registry.enumerate
    ↔ ∃ call ∈ history, call.operation? = some operation
  route : ∀ route, route ∈ registry.routeList
    ↔ ∃ call ∈ history, ∃ handler, call.route? = some (route, handler)
  handler : ∀ id handler, registry.handler? id = some handler
    ↔ ∃ call ∈ history, call.Offers id handler

theorem exists_mem_snoc {history : List Registration} {call : Registration}
    {property : Registration → Prop} :
    (∃ other ∈ history ++ [call], property other)
      ↔ (∃ other ∈ history, property other) ∨ property call := by
  constructor
  · rintro ⟨other, member, holds⟩
    rcases List.mem_append.mp member with earlier | last
    · exact Or.inl ⟨other, earlier, holds⟩
    · rw [List.mem_singleton.mp last] at holds
      exact Or.inr holds
  · rintro (⟨other, earlier, holds⟩ | holds)
    · exact ⟨other, List.mem_append_left _ earlier, holds⟩
    · exact ⟨call, List.mem_append_right _ (List.mem_singleton_self call), holds⟩

theorem Stored.snoc {history : List Registration} {registry result : Registry}
    {call : Registration} (stored : Stored history registry) (adds : Adds registry call result) :
    Stored (history ++ [call]) result where
  operation operation := by rw [adds.operation, stored.operation, exists_mem_snoc]
  route route := by rw [adds.route, stored.route, exists_mem_snoc]
  handler id handler := by rw [adds.handler, stored.handler, exists_mem_snoc]

/-- **All that registrations bring is stored** if their identities differ. -/
theorem stored_after {history : List Registration}
    (once : (history.filterMap Registration.identity?).Nodup) : Stored history (after history) := by
  induction history using List.reverseRecOn with
  | nil => exact ⟨by simp [enumerate], by simp [routeList], by simp [handler?, HandlerTable.get?]⟩
  | append_singleton history call hypothesis =>
    rw [List.filterMap_append, List.nodup_append] at once
    obtain ⟨earlier, _, apart⟩ := once
    have fresh : ∀ id, call.identity? = some id → Fresh history id := by
      intro id identity other member same
      have last : id ∈ [call].filterMap Registration.identity? :=
        List.mem_filterMap.mpr ⟨call, List.mem_singleton_self call, identity⟩
      exact apart id (List.mem_filterMap.mpr ⟨other, member, same⟩) id last rfl
    rw [after_snoc]
    exact (hypothesis earlier).snoc (adds_of_fresh fresh)

theorem Stored.perm {history other : List Registration} {registry : Registry}
    (stored : Stored history registry) (perm : history.Perm other) : Stored other registry where
  operation operation := by
    rw [stored.operation]
    exact exists_congr fun call => and_congr_left' perm.mem_iff
  route route := by
    rw [stored.route]
    exact exists_congr fun call => and_congr_left' perm.mem_iff
  handler id handler := by
    rw [stored.handler]
    exact exists_congr fun call => and_congr_left' perm.mem_iff

/-- **The order of registrations does not matter** if their identities differ: the registry lists
the same operations and the same routes in the same order, finds the same under each identity, has
the same catalog, and its routers are the same, whatever they wrap their handlers in. -/
theorem after_perm {history other : List Registration}
    (once : (history.filterMap Registration.identity?).Nodup) (perm : history.Perm other) :
    let registry := after history
    let registryToo := after other
    registry.enumerate = registryToo.enumerate
      ∧ registry.routeList = registryToo.routeList
      ∧ (∀ id, registry.handler? id = registryToo.handler? id)
      ∧ (∀ id, registry.get? id = registryToo.get? id)
      ∧ (∀ id, registry.getRoute? id = registryToo.getRoute? id)
      ∧ registry.catalog = registryToo.catalog
      ∧ ∀ middleware method path, (Router.build registry middleware).resolve method path
        = (Router.build registryToo middleware).resolve method path := by
  intro registry registryToo
  have onceToo : (other.filterMap Registration.identity?).Nodup :=
    (perm.filterMap _).nodup_iff.mp once
  have stored := (stored_after once).perm perm
  have storedToo := stored_after onceToo
  have represented := represented_after history
  have representedToo := represented_after other
  have operations : registry.enumerate = registryToo.enumerate :=
    represented.operations.eq_of_mem_iff representedToo.operations fun operation =>
      (stored.operation operation).trans (storedToo.operation operation).symm
  have routes : registry.routeList = registryToo.routeList :=
    represented.routes.eq_of_mem_iff representedToo.routes fun route =>
      (stored.route route).trans (storedToo.route route).symm
  have handlers : ∀ id, registry.handler? id = registryToo.handler? id := by
    intro id
    refine Option.ext fun handler => ?_
    exact (stored.handler id handler).trans (storedToo.handler id handler).symm
  refine ⟨operations, routes, handlers, fun id => ?_, fun id => ?_, ?_, fun middleware method path =>
    ?_⟩
  · refine Option.ext fun operation => ?_
    rw [represented.get?_iff, representedToo.get?_iff]
    exact and_congr_left' (by rw [operations])
  · refine Option.ext fun route => ?_
    rw [represented.getRoute?_iff, representedToo.getRoute?_iff]
    exact and_congr_left' (by rw [routes])
  · unfold catalog
    rw [operations, routes]
  · have compiled : Router.compile? registry middleware
        = Router.compile? registryToo middleware := by
      funext route
      unfold Router.compile?
      rw [handlers]
    unfold Router.build
    rw [compiled, routes]

/-- An operation, a route and a placeholder, registered there and back. -/
theorem after_perm_reverse :
    ∃ (operation : Operation) (route : Route),
      OperationSpec.build { types := ["GET"], handler := some ⟨"show", .skip⟩ } = .ok operation
      ∧ RouteSpec.build { declared := "/page" } "page" = .ok route
      ∧ let history := [.operation operation, .route route ⟨"page", .skip⟩, .placeholder "todo"]
        (history.filterMap Registration.identity?).Nodup
        ∧ (after history).enumerate = (after history.reverse).enumerate
        ∧ (after history).routeList = (after history.reverse).routeList
        ∧ (after history).handler? route.id = (after history.reverse).handler? route.id
        ∧ (after history).catalog = (after history.reverse).catalog
        ∧ (Router.build (after history) []).resolve .get "/page"
          = (Router.build (after history.reverse) []).resolve .get "/page" := by
  obtain ⟨operation, built, id⟩ : ∃ operation, OperationSpec.build
      { types := ["GET"], handler := some ⟨"show", .skip⟩ } = .ok operation
      ∧ operation.id = "show[][][GET]" := ⟨_, rfl, rfl⟩
  obtain ⟨route, routed, place⟩ : ∃ route,
      RouteSpec.build { declared := "/page" } "page" = .ok route
      ∧ route.id = "page[/page]" := ⟨_, rfl, rfl⟩
  have once : ([.operation operation, .route route ⟨"page", .skip⟩,
      .placeholder "todo"].filterMap Registration.identity?).Nodup := by
    show [operation.id, route.id, (Operation.placeholder "todo").id].Nodup
    rw [id, place]
    decide
  obtain ⟨operations, routes, handlers, -, -, catalogs, routers⟩ :=
    after_perm once (List.reverse_perm _).symm
  exact ⟨operation, route, built, routed, once, operations, routes, handlers route.id, catalogs,
    routers [] .get "/page"⟩

end Registry

end Switchboard
