/-
**Routing against its reference definition.**

A router scans a sorted table and takes the first route that fits. What it finds is told here
without the table and without the scan, from the registered routes alone:

* a route *takes* a request if its template matches the cleaned path and it allows the method;
* of two routes one is *ahead* if it has more fixed segments, or as many and the smaller identity.

The main statements:

* `Router.search_eq` — the scan is one look-up of the first candidate that takes the request, and
  otherwise collects the methods of the candidates that match;
* `Router.routes_build_perm` — **the router drops no registered route**;
* `Router.resolve_eq_found_iff` — **what is found** is the one route ahead of all others that take
  the request, with its handler and its own captures;
* `Router.resolve_reference` — all answers of a router against the registered routes.
-/

import Switchboard.Proofs.Registry.History
import Switchboard.Router
import Mathlib.Data.List.Basic

namespace Switchboard

/-! ### What a route says about a request -/

namespace Route

/-- The template under which a route is looked for. -/
def template (route : Route) : Path.Template :=
  Path.Template.compile route.place.whole

/-- What a route captures of a path, if it matches the cleaned path. -/
def captures? (route : Route) (path : String) : Option Path.Captures :=
  route.template.match? (Path.clean path)

/-- A route takes a request. -/
def Takes (route : Route) (method : Http.Method) (path : String) : Prop :=
  (route.captures? path).isSome ∧ route.allows method = true

/-- A route goes before another one that takes the same request. -/
def Ahead (first second : Route) : Prop :=
  second.template.fixedCount < first.template.fixedCount
    ∨ first.template.fixedCount = second.template.fixedCount
      ∧ Text.precedes first.id second.id = true

end Route

/-! ### The order of the table -/

namespace CompiledRoute

theorem comesFirst_iff (first second : CompiledRoute) :
    first.comesFirst second = true
      ↔ second.template.fixedCount < first.template.fixedCount
        ∨ first.template.fixedCount = second.template.fixedCount
          ∧ Text.precedes second.route.id first.route.id = false := by
  unfold comesFirst
  split
  · rename_i same
    simp [same]
  · rename_i different
    simp [different]

theorem comesFirst_trans (first second third : CompiledRoute)
    (left : first.comesFirst second = true) (right : second.comesFirst third = true) :
    first.comesFirst third = true := by
  rw [comesFirst_iff] at left right ⊢
  rcases left with left | ⟨sameLeft, left⟩
  · rcases right with right | ⟨sameRight, _⟩
    · exact Or.inl (Nat.lt_trans right left)
    · exact Or.inl (sameRight ▸ left)
  · rcases right with right | ⟨sameRight, right⟩
    · exact Or.inl (sameLeft ▸ right)
    · exact Or.inr ⟨sameLeft.trans sameRight, Text.not_precedes_trans left right⟩

theorem comesFirst_total (first second : CompiledRoute) :
    (first.comesFirst second || second.comesFirst first) = true := by
  rw [Bool.or_eq_true, comesFirst_iff, comesFirst_iff]
  rcases Nat.lt_trichotomy first.template.fixedCount second.template.fixedCount
    with less | same | more
  · exact Or.inr (Or.inl less)
  · cases before : Text.precedes second.route.id first.route.id with
    | false => exact Or.inl (Or.inr ⟨same, rfl⟩)
    | true =>
      exact Or.inr (Or.inr ⟨same.symm, Text.not_precedes_of_precedes before⟩)
  · exact Or.inl (Or.inl more)

/-- The candidate takes a request whose path is clean already. -/
def takes (method : Http.Method) (path : String) (candidate : CompiledRoute) : Bool :=
  (candidate.template.match? path).isSome && candidate.route.allows method

/-- The candidate matches a path that is clean already. -/
def fits (path : String) (candidate : CompiledRoute) : Bool :=
  (candidate.template.match? path).isSome

end CompiledRoute

namespace Router

/-! ### The scan -/

/-- The methods on offer behind some candidates. -/
def offerAll (allow : List Http.Method) (candidates : List CompiledRoute) : List Http.Method :=
  candidates.foldl (fun allow candidate => offer allow candidate.route.methods) allow

/-- The answer to a request that nothing takes. -/
def refuse (offered : List Http.Method) : Resolution :=
  if offered.isEmpty then .notFound else .methodNotAllowed offered

theorem refuse_ne_found (offered : List Http.Method) (route : Route) (handler : Handler)
    (captures : Path.Captures) : refuse offered ≠ .found route handler captures := by
  unfold refuse
  split <;> simp

theorem refuse_eq_notFound_iff (offered : List Http.Method) :
    refuse offered = .notFound ↔ offered.isEmpty = true := by
  unfold refuse
  split <;> simp_all

theorem exists_refuse_eq_methodNotAllowed_iff (offered : List Http.Method) :
    (∃ allow, refuse offered = .methodNotAllowed allow) ↔ ¬ offered.isEmpty = true := by
  unfold refuse
  split <;> simp_all

/-- **The scan** finds the first candidate that takes the request, and otherwise offers the methods
of the candidates that fit the path. -/
theorem search_eq (method : Http.Method) (path : String) (allow : List Http.Method)
    (candidates : List CompiledRoute) :
    search method path allow candidates
      = match candidates.find? (CompiledRoute.takes method path) with
        | some candidate =>
          .found candidate.route candidate.handler ((candidate.template.match? path).getD [])
        | none =>
          refuse (offerAll allow (candidates.filter (CompiledRoute.fits path))) := by
  induction candidates generalizing allow with
  | nil => rfl
  | cons candidate rest hypothesis =>
    rw [search]
    cases matched : candidate.template.match? path with
    | none =>
      have passed : CompiledRoute.takes method path candidate = false := by
        simp [CompiledRoute.takes, matched]
      have misfit : CompiledRoute.fits path candidate = false := by
        simp [CompiledRoute.fits, matched]
      simp only [List.find?_cons, passed, List.filter_cons, misfit, hypothesis]
      rfl
    | some captures =>
      have fit : CompiledRoute.fits path candidate = true := by
        simp [CompiledRoute.fits, matched]
      cases allowed : candidate.route.allows method with
      | true =>
        have taken : CompiledRoute.takes method path candidate = true := by
          simp [CompiledRoute.takes, matched, allowed]
        simp [taken, matched]
      | false =>
        have passed : CompiledRoute.takes method path candidate = false := by
          simp [CompiledRoute.takes, allowed]
        simp only [List.find?_cons, passed, List.filter_cons, fit, hypothesis]
        rfl

theorem mem_offer (method : Http.Method) (allow methods : List Http.Method) :
    method ∈ offer allow methods ↔ method ∈ allow ∨ method ∈ methods := by
  induction methods generalizing allow with
  | nil => simp [offer]
  | cons head tail hypothesis =>
    have step : offer allow (head :: tail)
        = offer (if head ∈ allow then allow else allow ++ [head]) tail := rfl
    rw [step, hypothesis]
    split
    · rename_i known
      constructor
      · rintro (old | new)
        · exact Or.inl old
        · exact Or.inr (List.mem_cons_of_mem _ new)
      · rintro (old | new)
        · exact Or.inl old
        · rcases List.mem_cons.mp new with rfl | new
          · exact Or.inl known
          · exact Or.inr new
    · simp [or_assoc]

/-- **On offer are the methods of all the candidates.** -/
theorem mem_offerAll (method : Http.Method) (allow : List Http.Method)
    (candidates : List CompiledRoute) :
    method ∈ offerAll allow candidates
      ↔ method ∈ allow ∨ ∃ candidate ∈ candidates, method ∈ candidate.route.methods := by
  induction candidates generalizing allow with
  | nil => simp [offerAll]
  | cons candidate rest hypothesis =>
    have step : offerAll allow (candidate :: rest)
        = offerAll (offer allow candidate.route.methods) rest := rfl
    rw [step, hypothesis, mem_offer]
    simp [or_assoc]

/-! ### The table and the registered routes -/

variable {registry : Registry} {middleware : List Middleware}

/-- A candidate is a registered route with its own template and its wrapped handler. -/
theorem compile?_eq_some_iff {route : Route} {candidate : CompiledRoute} :
    compile? registry middleware route = some candidate
      ↔ ∃ handler, registry.handler? route.id = some handler
        ∧ candidate = ⟨route.template, route, Middleware.chain middleware handler⟩ := by
  unfold compile?
  rw [Option.map_eq_some_iff]
  constructor
  · rintro ⟨handler, held, rfl⟩
    exact ⟨handler, held, rfl⟩
  · rintro ⟨handler, held, rfl⟩
    exact ⟨handler, held, rfl⟩

theorem mem_routes_build {candidate : CompiledRoute} :
    candidate ∈ (build registry middleware).routes
      ↔ candidate.route ∈ registry.routeList
        ∧ compile? registry middleware candidate.route = some candidate := by
  show candidate ∈ (registry.routeList.filterMap (compile? registry middleware)).mergeSort
    CompiledRoute.comesFirst ↔ _
  rw [List.mem_mergeSort, List.mem_filterMap]
  constructor
  · rintro ⟨route, member, ready⟩
    obtain ⟨handler, held, rfl⟩ := compile?_eq_some_iff.mp ready
    exact ⟨member, ready⟩
  · rintro ⟨member, ready⟩
    exact ⟨_, member, ready⟩

theorem pairwise_routes_build (registry : Registry) (middleware : List Middleware) :
    (build registry middleware).routes.Pairwise fun first second =>
      first.comesFirst second = true :=
  List.pairwise_mergeSort CompiledRoute.comesFirst_trans CompiledRoute.comesFirst_total _

/-- **The router drops no registered route** and holds each once. -/
theorem routes_build_perm (filed : registry.Filed) :
    ((build registry middleware).routes.map CompiledRoute.route).Perm registry.routeList := by
  have ready : ∀ route ∈ registry.routeList,
      (compile? registry middleware route).map CompiledRoute.route = some route := by
    intro route member
    obtain ⟨handler, held⟩ := filed.handler_of_mem_routeList member
    rw [compile?_eq_some_iff.mpr ⟨handler, held, rfl⟩, Option.map_some]
  have all : (registry.routeList.filterMap (compile? registry middleware)).map CompiledRoute.route
      = registry.routeList := by
    rw [List.map_filterMap, List.filterMap_congr ready, List.filterMap_some]
  have sorted := (List.mergeSort_perm
    (registry.routeList.filterMap (compile? registry middleware))
    CompiledRoute.comesFirst).map CompiledRoute.route
  rw [all] at sorted
  exact sorted

theorem exists_mem_routes_build (filed : registry.Filed) (middleware : List Middleware)
    {route : Route} (member : route ∈ registry.routeList) :
    ∃ candidate ∈ (build registry middleware).routes, candidate.route = route :=
  List.mem_map.mp ((routes_build_perm filed).mem_iff.mpr member)

theorem takes_iff {candidate : CompiledRoute}
    (member : candidate ∈ (build registry middleware).routes) (method : Http.Method)
    (path : String) :
    candidate.takes method (Path.clean path) = true ↔ candidate.route.Takes method path := by
  obtain ⟨handler, _, same⟩ := compile?_eq_some_iff.mp (mem_routes_build.mp member).2
  rw [same]
  simp [CompiledRoute.takes, Route.Takes, Route.captures?]

theorem fits_iff {candidate : CompiledRoute}
    (member : candidate ∈ (build registry middleware).routes) (path : String) :
    candidate.fits (Path.clean path) = true ↔ (candidate.route.captures? path).isSome := by
  obtain ⟨handler, _, same⟩ := compile?_eq_some_iff.mp (mem_routes_build.mp member).2
  rw [same]
  rfl

/-- Of two registered routes, the one whose candidate comes first is ahead. -/
theorem ahead_of_comesFirst (filed : registry.Filed) {first second : CompiledRoute}
    (one : first ∈ (build registry middleware).routes)
    (other : second ∈ (build registry middleware).routes)
    (different : second.route ≠ first.route) (order : first.comesFirst second = true) :
    first.route.Ahead second.route := by
  obtain ⟨_, _, sameFirst⟩ := compile?_eq_some_iff.mp (mem_routes_build.mp one).2
  obtain ⟨_, _, sameSecond⟩ := compile?_eq_some_iff.mp (mem_routes_build.mp other).2
  have apart : second.route.id ≠ first.route.id := fun same =>
    different (filed.eq_of_id_eq (mem_routes_build.mp other).1 (mem_routes_build.mp one).1 same)
  rw [CompiledRoute.comesFirst_iff, sameFirst, sameSecond] at order
  rcases order with more | ⟨same, notBehind⟩
  · exact Or.inl more
  · refine Or.inr ⟨same, ?_⟩
    rcases Text.precedes_or_precedes apart with behind | before
    · exact absurd behind (by simp [notBehind])
    · exact before

/-! ### The route that is found -/

/-- A registered route takes a request and is ahead of all others that do. -/
structure Leads (registry : Registry) (method : Http.Method) (path : String) (route : Route) :
    Prop where
  member : route ∈ registry.routeList
  takes : route.Takes method path
  ahead : ∀ other ∈ registry.routeList, other.Takes method path → other ≠ route →
    route.Ahead other

theorem not_ahead_of_ahead {first second : Route} (ahead : first.Ahead second) :
    ¬ second.Ahead first := by
  rintro (less | ⟨same, behind⟩)
  · rcases ahead with more | ⟨same, _⟩
    · exact absurd more (Nat.lt_asymm less)
    · omega
  · rcases ahead with more | ⟨_, before⟩
    · omega
    · rw [Text.not_precedes_of_precedes before] at behind
      cases behind

theorem Leads.unique {method : Http.Method} {path : String} {first second : Route}
    (one : Leads registry method path first) (other : Leads registry method path second) :
    first = second := by
  by_cases same : first = second
  · exact same
  · have ahead := one.ahead second other.member other.takes (Ne.symm same)
    exact absurd (other.ahead first one.member one.takes same) (not_ahead_of_ahead ahead)

/-- The first candidate of the table that takes a request is the route that leads. -/
theorem leads_of_find? (filed : registry.Filed) {method : Http.Method} {path : String}
    {candidate : CompiledRoute}
    (found : (build registry middleware).routes.find?
      (CompiledRoute.takes method (Path.clean path)) = some candidate) :
    Leads registry method path candidate.route := by
  obtain ⟨taken, before, behind, split, passed⟩ := List.find?_eq_some_iff_append.mp found
  have inside : candidate ∈ (build registry middleware).routes := List.mem_of_find?_eq_some found
  refine ⟨(mem_routes_build.mp inside).1, (takes_iff inside method path).mp taken, ?_⟩
  intro other member takes different
  obtain ⟨rival, rivalInside, rfl⟩ := exists_mem_routes_build filed middleware member
  have rivalTakes := (takes_iff rivalInside method path).mpr takes
  have order := pairwise_routes_build registry middleware
  rw [split] at order
  -- a rival in front of the candidate was passed, and one behind it is not ahead of it
  have placed : rival ∈ before ++ candidate :: behind := split ▸ rivalInside
  rcases List.mem_append.mp placed with early | late
  · have refused := passed rival early
    rw [rivalTakes] at refused
    cases refused
  · rcases List.mem_cons.mp late with same | late
    · exact absurd (congrArg CompiledRoute.route same) different
    · have comesFirst := List.rel_of_pairwise_cons (List.pairwise_append.mp order).2.1 late
      exact ahead_of_comesFirst filed inside rivalInside different comesFirst

/-- A route that leads is the first candidate of the table that takes the request. -/
theorem find?_of_leads (filed : registry.Filed) (middleware : List Middleware)
    {method : Http.Method} {path : String} {route : Route}
    (leads : Leads registry method path route) :
    ∃ candidate, candidate.route = route ∧ (build registry middleware).routes.find?
      (CompiledRoute.takes method (Path.clean path)) = some candidate := by
  obtain ⟨candidate, inside, rfl⟩ :=
    exists_mem_routes_build filed middleware leads.member
  cases found : (build registry middleware).routes.find?
      (CompiledRoute.takes method (Path.clean path)) with
  | none =>
    have refused := List.find?_eq_none.mp found candidate inside
    exact absurd ((takes_iff inside method path).mpr leads.takes) refused
  | some first => exact ⟨first, (leads_of_find? filed found).unique leads, rfl⟩

/-- **What is found** is the route that leads, with its handler and its own captures. -/
theorem resolve_eq_found_iff (filed : registry.Filed) (method : Http.Method) (path : String)
    (route : Route) (handler : Handler) (captures : Path.Captures) :
    (build registry middleware).resolve method path = .found route handler captures
      ↔ Leads registry method path route
        ∧ (∃ own, registry.handler? route.id = some own
          ∧ handler = Middleware.chain middleware own)
        ∧ route.captures? path = some captures := by
  rw [resolve, search_eq]
  constructor
  · intro resolved
    split at resolved
    · rename_i candidate found
      have leads := leads_of_find? filed found
      have inside := List.mem_of_find?_eq_some found
      obtain ⟨own, held, ready⟩ := compile?_eq_some_iff.mp (mem_routes_build.mp inside).2
      rw [ready] at resolved leads
      simp only [Resolution.found.injEq] at resolved
      obtain ⟨rfl, rfl, rfl⟩ := resolved
      obtain ⟨captured, matched⟩ := Option.isSome_iff_exists.mp leads.takes.1
      refine ⟨leads, ⟨own, held, rfl⟩, ?_⟩
      rw [matched]
      unfold Route.captures? at matched
      simp [matched]
    · exact absurd resolved (refuse_ne_found _ _ _ _)
  · rintro ⟨leads, ⟨own, held, rfl⟩, matched⟩
    obtain ⟨candidate, rfl, found⟩ := find?_of_leads filed middleware leads
    obtain ⟨kept, heldToo, ready⟩ :=
      compile?_eq_some_iff.mp (mem_routes_build.mp (List.mem_of_find?_eq_some found)).2
    rw [held, Option.some.injEq] at heldToo
    subst heldToo
    unfold Route.captures? at matched
    rw [found]
    simp only
    rw [ready]
    simp [matched]

/-- Some route leads exactly when some registered route takes the request. -/
theorem exists_leads_iff (filed : registry.Filed) (method : Http.Method) (path : String) :
    (∃ route, Leads registry method path route)
      ↔ ∃ route ∈ registry.routeList, route.Takes method path := by
  constructor
  · rintro ⟨route, leads⟩
    exact ⟨route, leads.member, leads.takes⟩
  · rintro ⟨route, member, takes⟩
    obtain ⟨candidate, inside, rfl⟩ := exists_mem_routes_build filed [] member
    cases found : (build registry []).routes.find?
        (CompiledRoute.takes method (Path.clean path)) with
    | none =>
      have refused := List.find?_eq_none.mp found candidate inside
      exact absurd ((takes_iff inside method path).mpr takes) refused
    | some first => exact ⟨first.route, leads_of_find? filed found⟩

theorem find?_eq_none_iff (filed : registry.Filed) (method : Http.Method) (path : String) :
    (build registry middleware).routes.find? (CompiledRoute.takes method (Path.clean path)) = none
      ↔ ∀ route ∈ registry.routeList, ¬ route.Takes method path := by
  rw [List.find?_eq_none]
  constructor
  · intro refused route member takes
    obtain ⟨candidate, inside, rfl⟩ :=
      exists_mem_routes_build filed middleware member
    exact refused candidate inside ((takes_iff inside method path).mpr takes)
  · intro refused candidate inside taken
    exact refused candidate.route (mem_routes_build.mp inside).1
      ((takes_iff inside method path).mp taken)

/-- Where no route takes a request, a method is on offer exactly when some route matches. -/
theorem offerAll_isEmpty_iff (filed : registry.Filed) {method : Http.Method} {path : String}
    (refused : ∀ route ∈ registry.routeList, ¬ route.Takes method path) :
    (offerAll [] ((build registry middleware).routes.filter
      (CompiledRoute.fits (Path.clean path)))).isEmpty = true
      ↔ ∀ route ∈ registry.routeList, route.captures? path = none := by
  rw [List.isEmpty_iff, List.eq_nil_iff_forall_not_mem]
  constructor
  · intro nothing route member
    by_contra matched
    have matches? := Option.isSome_iff_ne_none.mpr matched
    obtain ⟨candidate, inside, rfl⟩ :=
      exists_mem_routes_build filed middleware member
    have allowed : candidate.route.allows method = false := by
      cases allows : candidate.route.allows method with
      | false => rfl
      | true => exact absurd ⟨matches?, allows⟩ (refused _ member)
    -- a route that refuses a method lists others
    obtain ⟨listed, rest, methods⟩ := List.exists_cons_of_ne_nil
      (l := candidate.route.methods) (by intro none; simp [Route.allows, none] at allowed)
    refine nothing listed ((mem_offerAll _ _ _).mpr (Or.inr ⟨candidate, ?_, by simp [methods]⟩))
    exact List.mem_filter.mpr ⟨inside, (fits_iff inside path).mpr matches?⟩
  · intro unmatched listed offered
    rcases (mem_offerAll _ _ _).mp offered with impossible | ⟨candidate, inside, _⟩
    · cases impossible
    · obtain ⟨inTable, fits⟩ := List.mem_filter.mp inside
      have matched := (fits_iff inTable path).mp fits
      rw [unmatched _ (mem_routes_build.mp inTable).1] at matched
      cases matched

/-- **No route is found** exactly when none matches the path. -/
theorem resolve_eq_notFound_iff (filed : registry.Filed) (method : Http.Method) (path : String) :
    (build registry middleware).resolve method path = .notFound
      ↔ ∀ route ∈ registry.routeList, route.captures? path = none := by
  rw [resolve, search_eq]
  constructor
  · intro resolved
    split at resolved
    · cases resolved
    · rename_i found
      have refused := (find?_eq_none_iff filed method path).mp found
      have empty := (refuse_eq_notFound_iff _).mp resolved
      exact (offerAll_isEmpty_iff filed refused).mp empty
  · intro unmatched
    have refused : ∀ route ∈ registry.routeList, ¬ route.Takes method path := by
      rintro route member ⟨matched, _⟩
      rw [unmatched route member] at matched
      cases matched
    rw [(find?_eq_none_iff filed method path).mpr refused]
    show refuse _ = _
    rw [refuse_eq_notFound_iff]
    exact (offerAll_isEmpty_iff filed refused).mpr unmatched

/-- **Only the method stands in the way** exactly when some route matches and none takes the
request. -/
theorem exists_resolve_eq_methodNotAllowed_iff (filed : registry.Filed) (method : Http.Method)
    (path : String) :
    (∃ allow, (build registry middleware).resolve method path = .methodNotAllowed allow)
      ↔ (∃ route ∈ registry.routeList, (route.captures? path).isSome)
        ∧ ∀ route ∈ registry.routeList, ¬ route.Takes method path := by
  rw [resolve, search_eq]
  constructor
  · rintro ⟨allow, resolved⟩
    split at resolved
    · cases resolved
    · rename_i found
      have refused := (find?_eq_none_iff filed method path).mp found
      have offered := (exists_refuse_eq_methodNotAllowed_iff _).mp ⟨allow, resolved⟩
      refine ⟨?_, refused⟩
      by_contra unmatched
      refine offered ((offerAll_isEmpty_iff filed refused).mpr fun route member => ?_)
      by_contra matched
      exact unmatched ⟨route, member, Option.isSome_iff_ne_none.mpr matched⟩
  · rintro ⟨⟨route, member, matched⟩, refused⟩
    rw [(find?_eq_none_iff filed method path).mpr refused]
    show ∃ allow, refuse _ = _
    rw [exists_refuse_eq_methodNotAllowed_iff]
    intro empty
    rw [(offerAll_isEmpty_iff filed refused).mp empty route member] at matched
    cases matched

/-- **Routing against its reference definition**, for every list of registrations and every
request: all registered routes take part; what is found is the route ahead of all others that take
the request; a request is refused for its method or for its path exactly when some route matches,
or none. -/
theorem resolve_reference (history : List Registration) (method : Http.Method) (path : String) :
    let registry := Registry.after history
    let router := build registry []
    (router.routes.map CompiledRoute.route).Perm registry.routeList
      ∧ ((∃ route handler captures, router.resolve method path = .found route handler captures)
        ↔ ∃ route ∈ registry.routeList, route.Takes method path)
      ∧ (∀ route handler captures, router.resolve method path = .found route handler captures
        ↔ Leads registry method path route ∧ registry.handler? route.id = some handler
          ∧ route.captures? path = some captures)
      ∧ ((∃ allow, router.resolve method path = .methodNotAllowed allow)
        ↔ (∃ route ∈ registry.routeList, (route.captures? path).isSome)
          ∧ ∀ route ∈ registry.routeList, ¬ route.Takes method path)
      ∧ (router.resolve method path = .notFound
        ↔ ∀ route ∈ registry.routeList, route.captures? path = none) := by
  intro registry router
  have filed : registry.Filed := Registry.filed_after history
  have found : ∀ route handler captures,
      router.resolve method path = .found route handler captures
        ↔ Leads registry method path route ∧ registry.handler? route.id = some handler
          ∧ route.captures? path = some captures := by
    intro route handler captures
    rw [resolve_eq_found_iff filed]
    constructor
    · rintro ⟨leads, ⟨own, held, rfl⟩, matched⟩
      exact ⟨leads, held, matched⟩
    · rintro ⟨leads, held, matched⟩
      exact ⟨leads, ⟨handler, held, rfl⟩, matched⟩
  refine ⟨routes_build_perm filed, ?_, found, exists_resolve_eq_methodNotAllowed_iff filed _ _,
    resolve_eq_notFound_iff filed _ _⟩
  rw [← exists_leads_iff filed]
  constructor
  · rintro ⟨route, handler, captures, resolved⟩
    exact ⟨route, ((found route handler captures).mp resolved).1⟩
  · rintro ⟨route, leads⟩
    obtain ⟨handler, held⟩ := filed.handler_of_mem_routeList leads.member
    obtain ⟨captures, matched⟩ := Option.isSome_iff_exists.mp leads.takes.1
    exact ⟨route, handler, captures, (found route handler captures).mpr ⟨leads, held, matched⟩⟩

end Router

end Switchboard
