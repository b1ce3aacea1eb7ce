/-
**Whose callback stands under an identity.**

Operations and routes share one table of handlers. An identity keeps the first handler stored for
it, so what an operation or a route finds there is its own handler as long as the other kind had
not taken the identity before.

* `founder?` — the first registration that brings a route with an identity; it is the one that
  created the stored route, `getRoute?_after`;
* `sourced_after` — **every stored handler has an owner**: the stored operation with this identity,
  or the founder of the stored route;
* `handler_of_owner` — **operations and routes keep their own handlers** under an identity that the
  other kind had not taken before, and a request routed there runs the founder's handler;
* `handler_shared` — an operation and a route can share an identity, and then the one that comes
  first gives the other one its handler.
-/

import Switchboard.Proofs.Registry.History
import Switchboard.Proofs.Routing.Reference

namespace Switchboard.Registry

/-! ### The founder of a route -/

/-- The route of an identity that a registration brings, with its handler. -/
def founding? (id : String) (call : Registration) : Option (Route × Handler) :=
  call.route?.filter fun brought => decide (brought.1.id = id)

/-- The first registration that brings a route with an identity. -/
def founder? (history : List Registration) (id : String) : Option (Route × Handler) :=
  history.findSome? (founding? id)

theorem founding?_eq_some_iff {id : String} {call : Registration} {route : Route}
    {handler : Handler} :
    founding? id call = some (route, handler)
      ↔ call.route? = some (route, handler) ∧ route.id = id := by
  unfold founding?
  rw [Option.filter_eq_some_iff]
  simp

theorem founder?_append (first second : List Registration) (id : String) :
    founder? (first ++ second) id = (founder? first id).or (founder? second id) :=
  List.findSome?_append

theorem founder?_append_of_some {history : List Registration} {id : String}
    {founder : Route × Handler} (found : founder? history id = some founder)
    (later : List Registration) : founder? (history ++ later) id = some founder := by
  rw [founder?_append, found]
  rfl

theorem founder?_singleton (call : Registration) (id : String) :
    founder? [call] id = founding? id call :=
  List.findSome?_singleton

theorem getRoute?_addRoute {registry : Registry} {route : Route}
    (free : registry.getRoute? route.id = none) (filed : registry.Filed) (handler : Handler)
    (id : String) :
    (registry.addRoute route handler).getRoute? id
      = if route.id = id then some route else registry.getRoute? id := by
  have filedToo := filed.addRoute free handler
  by_cases same : route.id = id
  · rw [if_pos same, filedToo.getRoute?_eq_some_iff, mem_routeList_addRoute free]
    exact ⟨Or.inl rfl, same⟩
  · rw [if_neg same]
    refine Option.ext fun other => ?_
    rw [filedToo.getRoute?_eq_some_iff, filed.getRoute?_eq_some_iff, mem_routeList_addRoute free]
    constructor
    · rintro ⟨rfl | listed, named⟩
      · exact absurd named same
      · exact ⟨listed, named⟩
    · rintro ⟨listed, named⟩
      exact ⟨Or.inr listed, named⟩

/-- **One registration and the stored routes**: an identity keeps its route, and a free one takes
the route that the registration brings. -/
theorem getRoute?_enter {registry : Registry} (filed : registry.Filed) (call : Registration)
    (id : String) :
    (registry.enter call).getRoute? id
      = (registry.getRoute? id).or ((founding? id call).map Prod.fst) := by
  have made := Registration.entered registry call
  generalize registry.enter call = result at made ⊢
  cases made with
  | known _ route =>
    cases stored : registry.getRoute? id with
    | some kept => rfl
    | none =>
      cases brings : founding? id call with
      | none => rfl
      | some founder =>
        obtain ⟨brought, named⟩ := founding?_eq_some_iff.mp brings
        have taken := route _ _ brought
        rw [named, stored] at taken
        cases taken
  | operation operation _ alone =>
    have nothing : founding? id call = none := by rw [founding?, alone]; rfl
    rw [nothing, Option.map_none, Option.or_none]
    rfl
  | route route handler brought _ free =>
    rw [getRoute?_addRoute free filed]
    by_cases same : route.id = id
    · subst same
      rw [if_pos rfl, free, founding?_eq_some_iff.mpr ⟨brought, rfl⟩]
      rfl
    · have nothing : founding? id call = none := by
        rw [founding?, brought]
        simp [same]
      rw [if_neg same, nothing, Option.map_none, Option.or_none]

/-- **A stored route is the one that its founder brought.** -/
theorem getRoute?_after (history : List Registration) (id : String) :
    (after history).getRoute? id = (founder? history id).map Prod.fst := by
  induction history using List.reverseRecOn with
  | nil => rfl
  | append_singleton history call hypothesis =>
    rw [after_snoc, getRoute?_enter (filed_after history), hypothesis, founder?_append,
      founder?_singleton, Option.map_or]

/-! ### The owners of handlers -/

/-- Behind a history, each stored handler has an owner, and operations have theirs stored. -/
structure Sourced (history : List Registration) : Prop where
  stored : ∀ operation ∈ (after history).enumerate, operation.handler.isSome →
    ((after history).handler? operation.id).isSome
  owner : ∀ id handler, (after history).handler? id = some handler →
    (∃ operation ∈ (after history).enumerate, operation.id = id
      ∧ operation.handler = some handler)
    ∨ ∃ route, founder? history id = some (route, handler)

/-- **One more registration leaves the handlers of operations stored.** -/
theorem Sourced.stored_snoc {history : List Registration} (sourced : Sourced history)
    (call : Registration) {operation : Operation}
    (member : operation ∈ (after (history ++ [call])).enumerate)
    (handled : operation.handler.isSome) :
    ((after (history ++ [call])).handler? operation.id).isSome := by
  have earlier (old : operation ∈ (after history).enumerate) :
      ((after (history ++ [call])).handler? operation.id).isSome := by
    obtain ⟨handler, held⟩ := Option.isSome_iff_exists.mp (sourced.stored operation old handled)
    rw [handler?_after_append held [call]]
    rfl
  have made := Registration.entered (after history) call
  rw [after_snoc] at member earlier ⊢
  generalize (after history).enter call = result at made member earlier ⊢
  cases made with
  | known => exact earlier member
  | route route handler => exact earlier member
  | operation added =>
    rcases (mem_enumerate_addOperation _ _ _).mp member with rfl | old
    · obtain ⟨handler, own⟩ := Option.isSome_iff_exists.mp handled
      rw [handler?_addOperation, if_pos rfl, own]
      cases (after history).handler? operation.id <;> rfl
    · exact earlier old

/-- **One more registration leaves no handler without an owner.** -/
theorem Sourced.owner_snoc {history : List Registration} (sourced : Sourced history)
    (call : Registration) {id : String} {handler : Handler}
    (held : (after (history ++ [call])).handler? id = some handler) :
    (∃ operation ∈ (after (history ++ [call])).enumerate, operation.id = id
      ∧ operation.handler = some handler)
    ∨ ∃ route, founder? (history ++ [call]) id = some (route, handler) := by
  have made := Registration.entered (after history) call
  rw [after_snoc] at held ⊢
  generalize (after history).enter call = result at made held ⊢
  -- an owner from before is still there, since nothing that is listed is ever dropped
  have earlier (listed : ∀ operation ∈ (after history).enumerate, operation ∈ result.enumerate)
      (old : (after history).handler? id = some handler) :
      (∃ operation ∈ result.enumerate, operation.id = id ∧ operation.handler = some handler)
        ∨ ∃ route, founder? (history ++ [call]) id = some (route, handler) := by
    rcases sourced.owner id handler old with ⟨operation, member, owns⟩ | ⟨route, found⟩
    · exact Or.inl ⟨operation, listed operation member, owns⟩
    · exact Or.inr ⟨route, founder?_append_of_some found [call]⟩
  cases made with
  | known => exact earlier (fun _ member => member) held
  | operation added =>
    have listed : ∀ operation ∈ (after history).enumerate,
        operation ∈ ((after history).addOperation added).enumerate :=
      fun operation member => (mem_enumerate_addOperation _ _ _).mpr (Or.inr member)
    rw [handler?_addOperation] at held
    by_cases same : added.id = id
    · rw [if_pos same] at held
      cases old : (after history).handler? id with
      | some kept =>
        rw [old] at held
        exact earlier listed (old.trans held)
      | none =>
        rw [old] at held
        exact Or.inl ⟨added, (mem_enumerate_addOperation _ _ _).mpr (Or.inl rfl), same, held⟩
    · rw [if_neg same] at held
      exact earlier listed held
  | route added own brought _ free =>
    rw [handler?_addRoute] at held
    by_cases same : added.id = id
    · rw [if_pos same] at held
      cases old : (after history).handler? id with
      | some kept =>
        rw [old] at held
        exact earlier (fun _ member => member) (old.trans held)
      | none =>
        -- the identity had no route, so its founder is the registration at hand
        rw [old] at held
        cases held
        rw [same, getRoute?_after, Option.map_eq_none_iff] at free
        refine Or.inr ⟨added, ?_⟩
        rw [founder?_append, free, founder?_singleton, Option.none_or]
        exact founding?_eq_some_iff.mpr ⟨brought, same⟩
    · rw [if_neg same] at held
      exact earlier (fun _ member => member) held

/-- **Every stored handler has an owner.** -/
theorem sourced_after (history : List Registration) : Sourced history := by
  induction history using List.reverseRecOn with
  | nil => exact ⟨by rintro operation ⟨⟩, by rintro id handler ⟨⟩⟩
  | append_singleton history call hypothesis =>
    refine ⟨?_, ?_⟩
    · intro operation member handled
      exact hypothesis.stored_snoc call member handled
    · intro id handler held
      exact hypothesis.owner_snoc call held

/-- A stored operation keeps its own handler where no route had its identity. -/
theorem handler?_of_mem_enumerate {history : List Registration} {operation : Operation}
    {handler : Handler} (member : operation ∈ (after history).enumerate)
    (own : operation.handler = some handler)
    (apart : (after history).getRoute? operation.id = none) (later : List Registration) :
    (after (history ++ later)).handler? operation.id = some handler := by
  have sourced := sourced_after history
  obtain ⟨stored, held⟩ := Option.isSome_iff_exists.mp
    (sourced.stored operation member (by rw [own]; rfl))
  refine handler?_after_append ?_ later
  rcases sourced.owner _ _ held with ⟨other, listed, same, owns⟩ | ⟨route, found⟩
  · rw [(filed_after history).eq_of_operation_id_eq listed member same, own] at owns
    rw [held, owns]
  · rw [getRoute?_after, found] at apart
    cases apart

/-- A stored route keeps its founder's handler where no operation had one under its identity. -/
theorem handler?_of_mem_routeList {history : List Registration} {route : Route}
    (member : route ∈ (after history).routeList)
    (apart : ∀ operation ∈ (after history).enumerate, operation.id = route.id →
      operation.handler = none) (later : List Registration) :
    ∃ handler, founder? (history ++ later) route.id = some (route, handler)
      ∧ (after (history ++ later)).handler? route.id = some handler := by
  have filed := filed_after history
  obtain ⟨handler, held⟩ := filed.handler_of_mem_routeList member
  have stored : (after history).getRoute? route.id = some route :=
    filed.getRoute?_eq_some_iff.mpr ⟨member, rfl⟩
  rw [getRoute?_after, Option.map_eq_some_iff] at stored
  obtain ⟨⟨_, founding⟩, found, rfl⟩ := stored
  refine ⟨founding, founder?_append_of_some found later, handler?_after_append ?_ later⟩
  rcases (sourced_after history).owner _ _ held with ⟨other, listed, same, owns⟩ | ⟨_, foundToo⟩
  · rw [apart other listed same] at owns
    cases owns
  · rw [found] at foundToo
    cases foundToo
    exact held

/-- The only route takes a request that it can take. -/
theorem resolve_of_lone {history : List Registration} {route : Route} {handler : Handler}
    (lone : (after history).routeList = [route])
    (held : (after history).handler? route.id = some handler) {method : Http.Method}
    {path : String} (takes : route.Takes method path) :
    ∃ captures, (Router.build (after history) []).resolve method path
      = .found route handler captures := by
  obtain ⟨captures, matched⟩ := Option.isSome_iff_exists.mp takes.1
  refine ⟨captures, (Router.resolve_eq_found_iff (filed_after _) _ _ _ _ _).mpr ⟨?_, ?_, matched⟩⟩
  · refine ⟨by simp [lone], takes, ?_⟩
    intro other member _ apart
    rw [lone] at member
    exact absurd (List.mem_singleton.mp member) apart
  · exact ⟨handler, held, rfl⟩

/-- **Operations and routes keep their own handlers**: under an identity that no route had before, a
stored operation finds its own; under one that no operation with a handler had before, a stored
route finds its founder's, and every request routed to it runs that one, wrapped. Whatever is
registered later does not change it. -/
theorem handler_of_owner (earlier later : List Registration) :
    let before := after earlier
    let registry := after (earlier ++ later)
    (∀ operation ∈ before.enumerate, ∀ handler, operation.handler = some handler →
      before.getRoute? operation.id = none → registry.handler? operation.id = some handler)
    ∧ ∀ route ∈ before.routeList,
      (∀ operation ∈ before.enumerate, operation.id = route.id → operation.handler = none) →
      ∃ handler, founder? (earlier ++ later) route.id = some (route, handler)
        ∧ registry.handler? route.id = some handler
        ∧ ∀ middleware method path runs captures,
          (Router.build registry middleware).resolve method path = .found route runs captures →
          runs = Middleware.chain middleware handler := by
  intro before registry
  refine ⟨?_, ?_⟩
  · intro operation member handler own apart
    exact handler?_of_mem_enumerate member own apart later
  · intro route member apart
    obtain ⟨handler, found, held⟩ := handler?_of_mem_routeList member apart later
    refine ⟨handler, found, held, ?_⟩
    intro middleware method path runs captures resolved
    rw [Router.resolve_eq_found_iff (filed_after _)] at resolved
    obtain ⟨_, ⟨own, heldToo, rfl⟩, _⟩ := resolved
    rw [show registry.handler? route.id = some own from heldToo, Option.some.injEq] at held
    rw [held]

/-- An operation and the route of a page keep their handlers when a placeholder follows. -/
theorem handler_of_owner_page :
    ∃ (operation : Operation) (route : Route) (registry : Registry) (captures : Path.Captures),
      OperationSpec.build { types := ["GET"], handler := some ⟨"show", .skip⟩ } = .ok operation
      ∧ RouteSpec.build { declared := "/page" } "page" = .ok route
      ∧ registry = after ([.operation operation, .route route ⟨"page", .skip⟩]
        ++ [.placeholder "todo"])
      ∧ registry.handler? operation.id = some ⟨"show", .skip⟩
      ∧ (Router.build registry []).resolve .get "/page"
        = .found route ⟨"page", .skip⟩ captures := by
  obtain ⟨operation, built, id, own⟩ : ∃ operation, OperationSpec.build
      { types := ["GET"], handler := some ⟨"show", .skip⟩ } = .ok operation
      ∧ operation.id = "show[][][GET]" ∧ operation.handler = some ⟨"show", .skip⟩ :=
    ⟨_, rfl, rfl, rfl⟩
  obtain ⟨route, routed, place, takes⟩ : ∃ route,
      RouteSpec.build { declared := "/page" } "page" = .ok route
      ∧ route.id = "page[/page]" ∧ route.Takes .get "/page" := ⟨_, rfl, rfl, rfl, rfl⟩
  have apart : operation.id ≠ route.id := by
    rw [id, place]
    decide
  have owners := handler_of_owner [.operation operation, .route route ⟨"page", .skip⟩]
    [.placeholder "todo"]
  have free : (after [.operation operation, .route route ⟨"page", .skip⟩]).getRoute? operation.id
      = none := by
    rw [getRoute?_after]
    simp [founder?, founding?, Registration.route?, Ne.symm apart]
  have finds := owners.1 operation (List.mem_singleton_self operation) _ own free
  obtain ⟨handler, found, held, runs⟩ := owners.2 route (List.mem_singleton_self route) (by
    intro other member same
    exact absurd (List.mem_singleton.mp member ▸ same) apart)
  have lone : (after ([.operation operation, .route route ⟨"page", .skip⟩]
      ++ [.placeholder "todo"])).routeList = [route] := by
    rw [after_snoc]
    show (register _ _).2.routeList = [route]
    unfold register
    split <;> rfl
  obtain ⟨captures, resolved⟩ := resolve_of_lone lone held takes
  have first : founder? [.operation operation, .route route ⟨"page", .skip⟩] route.id
      = some (route, ⟨"page", .skip⟩) := by
    have founds : founding? route.id (.route route ⟨"page", .skip⟩)
        = some (route, ⟨"page", .skip⟩) := founding?_eq_some_iff.mpr ⟨rfl, rfl⟩
    have passes : founding? route.id (.operation operation) = none := rfl
    rw [founder?, List.findSome?_cons, passes]
    show List.findSome? _ _ = _
    rw [List.findSome?_singleton, founds]
  rw [founder?_append_of_some first] at found
  obtain ⟨_, rfl⟩ := Prod.mk.inj (Option.some.inj found)
  rw [runs [] .get "/page" _ captures resolved] at resolved
  exact ⟨operation, route, _, captures, built, routed, rfl, finds, resolved⟩

/-! ### Identities of both kinds -/

/-- The registry of one operation and one route, in the order of their registration. -/
theorem handler?_of_shared {operation : Operation} {route : Route} {own : Handler}
    (founding : Handler) (handled : operation.handler = some own)
    (same : operation.id = route.id) :
    (after [.operation operation, .route route founding]).handler? route.id = some own
      ∧ (after [.route route founding, .operation operation]).handler? operation.id
        = some founding := by
  constructor
  · rw [← same]
    have member : operation ∈ (after [.operation operation]).enumerate :=
      List.mem_singleton_self operation
    exact handler?_of_mem_enumerate member handled rfl [.route route founding]
  · rw [same]
    have held : (after [.route route founding]).handler? route.id = some founding := by
      show (addRoute {} route founding).handler? route.id = some founding
      rw [handler?_addRoute, if_pos rfl]
      rfl
    exact handler?_after_append held [.operation operation]

/-- An operation and a route share an identity. The one that is registered first gives the other
one its handler, and a request for the route runs the handler of the operation. -/
def Shared (spec : OperationSpec) (routed : RouteSpec) (own founding : Handler) (path : String) :
    Prop :=
  ∃ operation route, OperationSpec.build { spec with handler := some own } = .ok operation
    ∧ routed.build founding.symbol = .ok route ∧ own ≠ founding
    ∧ route ∈ (after [.operation operation, .route route founding]).routeList
    ∧ (after [.operation operation, .route route founding]).handler? route.id = some own
    ∧ (∃ captures, (Router.build (after [.operation operation, .route route founding]) []).resolve
      .get path = .found route own captures)
    ∧ operation ∈ (after [.route route founding, .operation operation]).enumerate
    ∧ (after [.route route founding, .operation operation]).handler? operation.id = some founding

theorem shared_of_id_eq {spec : OperationSpec} {routed : RouteSpec} {own founding : Handler}
    {path : String} {operation : Operation} {route : Route}
    (built : OperationSpec.build { spec with handler := some own } = .ok operation)
    (builtToo : routed.build founding.symbol = .ok route)
    (handled : operation.handler = some own) (same : operation.id = route.id)
    (different : own ≠ founding) (takes : route.Takes .get path) :
    Shared spec routed own founding path := by
  obtain ⟨routeFinds, operationFinds⟩ := handler?_of_shared founding handled same
  exact ⟨operation, route, built, builtToo, different, List.mem_singleton_self route, routeFinds,
    resolve_of_lone rfl routeFinds takes, List.mem_singleton_self operation, operationFinds⟩

/-- **An operation and a route can share an identity**: without any bracket in their texts, and with
different symbols. -/
theorem handler_shared :
    Shared
      { description := "GET", types := ["HEAD"], params := [{ name := "id", location := .path }] }
      { declared := "/:id", methods := ["GET", "HEAD"] } ⟨"h", .skip⟩ ⟨"h", .panic "route"⟩ "/7"
    ∧ Shared { description := "d", types := ["GET"] } { declared := "/x][][d", methods := ["GET"] }
      ⟨"a[/x]", .skip⟩ ⟨"a", .skip⟩ "/x][][d" := by
  constructor
  · exact shared_of_id_eq rfl rfl rfl rfl nofun ⟨rfl, rfl⟩
  · refine shared_of_id_eq rfl rfl rfl rfl ?_ ⟨rfl, rfl⟩
    intro same
    exact absurd (congrArg Handler.symbol same) (by decide)

end Switchboard.Registry
