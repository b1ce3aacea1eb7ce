/-
**The methods on offer for a path.**

A router that refuses a method tells the methods that the path takes. It collects them from all the
routes that match, and no route that matches takes the refused method, so each of them lists its
methods: what is on offer is what would be found.

* `Router.resolve_eq_methodNotAllowed_iff` — when a router refuses a method, and what it offers then;
* `Router.mem_offer_iff_found` — **a method is on offer exactly if a request with it is found**;
* `World.response_of_refused` — the response to a refused request, field by field;
* `allow_is_exact` — **the list of a refusal is sound and complete**, and the response names it in
  one field, also behind the gateway.
-/

import Switchboard.Proofs.Dispatch.BodyGate
import Switchboard.Proofs.Dispatch.Failure
import Switchboard.Proofs.Http.Members

namespace Switchboard

namespace Router

/-! ### What is on offer -/

theorem nodup_offer {allow methods : List Http.Method} (once : allow.Nodup) :
    (offer allow methods).Nodup := by
  induction methods generalizing allow with
  | nil => exact once
  | cons head tail hypothesis =>
    show (offer (if head ∈ allow then allow else allow ++ [head]) tail).Nodup
    apply hypothesis
    split
    · exact once
    · rename_i unknown
      rw [← List.concat_eq_append, List.nodup_concat]
      exact ⟨unknown, once⟩

theorem nodup_offerAll {allow : List Http.Method} (once : allow.Nodup)
    (candidates : List CompiledRoute) : (offerAll allow candidates).Nodup := by
  induction candidates generalizing allow with
  | nil => exact once
  | cons candidate rest hypothesis => exact hypothesis (nodup_offer once)

section Refused

variable {table : Router} {method : Http.Method} {path : String} {allow : List Http.Method}

/-- **A method is refused** where no route takes it and the routes that match list others. -/
theorem resolve_eq_methodNotAllowed_iff :
    table.resolve method path = .methodNotAllowed allow
      ↔ (∀ candidate ∈ table.routes, ¬ candidate.takes method (Path.clean path) = true)
        ∧ allow ≠ []
        ∧ offerAll [] (table.routes.filter (CompiledRoute.fits (Path.clean path))) = allow := by
  rw [resolve, search_eq]
  cases first : table.routes.find? (CompiledRoute.takes method (Path.clean path)) with
  | some candidate =>
    constructor
    · intro refused
      cases refused
    · rintro ⟨passed, -, -⟩
      exact absurd (List.find?_some first) (passed _ (List.mem_of_find?_eq_some first))
  | none =>
    have passed := List.find?_eq_none.mp first
    generalize offerAll [] (table.routes.filter (CompiledRoute.fits (Path.clean path))) = offered
    show refuse offered = _ ↔ _
    unfold refuse
    by_cases empty : offered = []
    · rw [if_pos (List.isEmpty_iff.mpr empty)]
      constructor
      · intro refused
        cases refused
      · rintro ⟨-, some_method, same⟩
        exact absurd (same.symm.trans empty) some_method
    · rw [if_neg (mt List.isEmpty_iff.mp empty)]
      constructor
      · intro refused
        cases refused
        exact ⟨passed, empty, rfl⟩
      · rintro ⟨-, -, rfl⟩
        rfl

theorem exists_found_iff (table : Router) (method : Http.Method) (path : String) :
    (∃ route handler captures, table.resolve method path = .found route handler captures)
      ↔ ∃ candidate ∈ table.routes, candidate.takes method (Path.clean path) = true := by
  rw [resolve, search_eq]
  constructor
  · rintro ⟨route, handler, captures, found⟩
    cases first : table.routes.find? (CompiledRoute.takes method (Path.clean path)) with
    | some candidate =>
      exact ⟨candidate, List.mem_of_find?_eq_some first, List.find?_some first⟩
    | none =>
      rw [first] at found
      exact absurd found (refuse_ne_found _ _ _ _)
  · rintro ⟨candidate, member, takes⟩
    obtain ⟨leader, first⟩ := Option.isSome_iff_exists.mp
      (List.find?_isSome.mpr ⟨candidate, member, takes⟩)
    rw [first]
    exact ⟨_, _, _, rfl⟩

/-- **A method is on offer exactly if a request with it is found.** A route that matches but does
not take the refused method takes no method but those that it lists. -/
theorem mem_offer_iff_found (refused : table.resolve method path = .methodNotAllowed allow)
    (other : Http.Method) :
    other ∈ allow
      ↔ ∃ route handler captures, table.resolve other path = .found route handler captures := by
  obtain ⟨passed, -, rfl⟩ := resolve_eq_methodNotAllowed_iff.mp refused
  rw [exists_found_iff, mem_offerAll]
  constructor
  · rintro (nothing | ⟨candidate, matching, lists⟩)
    · cases nothing
    · obtain ⟨member, fits⟩ := List.mem_filter.mp matching
      have allowed := (candidate.route.allows_iff other).mpr (Or.inr lists)
      exact ⟨candidate, member, Bool.and_eq_true_iff.mpr ⟨fits, allowed⟩⟩
  · rintro ⟨candidate, member, takes⟩
    obtain ⟨fits, allowed⟩ := Bool.and_eq_true_iff.mp takes
    refine Or.inr ⟨candidate, List.mem_filter.mpr ⟨member, fits⟩, ?_⟩
    rcases (candidate.route.allows_iff other).mp allowed with any | lists
    · have takesAny : candidate.route.allows method = true :=
        (candidate.route.allows_iff method).mpr (Or.inl any)
      exact absurd (Bool.and_eq_true_iff.mpr ⟨fits, takesAny⟩) (passed candidate member)
    · exact lists

theorem not_mem_offer (refused : table.resolve method path = .methodNotAllowed allow) :
    method ∉ allow := by
  intro offered
  obtain ⟨route, handler, captures, found⟩ := (mem_offer_iff_found refused method).mp offered
  rw [found] at refused
  cases refused

end Refused

end Router

/-! ### The response to a refused method -/

/-- The response refuses a method and names others in one field, one after another. -/
structure Offers (allow : List Http.Method) (response : Http.Response) : Prop where
  status : response.status = .methodNotAllowed
  field : ∃ value text, response.header.getAll Http.allow.text = [value]
    ∧ value.text? = some text ∧ Http.members text = allow.map Http.Method.token

theorem Offers.congr {allow : List Http.Method} {response other : Http.Response}
    (offers : Offers allow response) (status : other.status = response.status)
    (field : other.header.getAll Http.allow.text = response.header.getAll Http.allow.text) :
    Offers allow other where
  status := status.trans offers.status
  field := by
    rw [field]
    exact offers.field

/-- The text of the field can be sent, and its members are the tokens of the methods. -/
theorem exists_value_of_offer {allow : List Http.Method} (some_method : allow ≠ []) :
    ∃ value text,
      Http.FieldValue.ofString? (String.intercalate ", " (allow.map Http.Method.token)) = some value
      ∧ value.text? = some text ∧ Http.members text = allow.map Http.Method.token := by
  have plain : ∀ token ∈ allow.map Http.Method.token, ∀ character ∈ token.toList,
      Http.Plain character := by
    intro token member
    obtain ⟨method, _, rfl⟩ := List.mem_map.mp member
    exact Http.plain_of_isToken method.isToken_token
  obtain ⟨value, made, shown⟩ :=
    Http.FieldValue.exists_ofString?_of_visible (Http.visible_intercalate plain)
  exact ⟨value, _, made, shown,
    Http.members_intercalate (mt List.map_eq_nil_iff.mp some_method) plain⟩

/-- A router that refuses a method writes its refusal and runs nothing. -/
theorem Charge.route_of_refused {table : Router} {cycle : Cycle} {allow : List Http.Method}
    {value : Http.FieldValue}
    (refused : table.resolve cycle.request.method cycle.request.uri.path = .methodNotAllowed allow)
    (made : Http.FieldValue.ofString? (String.intercalate ", " (allow.map Http.Method.token))
      = some value) (serve : World → Http.Exchange → Served) (world : World) :
    route serve table cycle world
      = cycle.afterWriting world ((cycle.response.setField Http.allow value).writeText
        .methodNotAllowed "Method Not Allowed") () := by
  unfold route
  simp only [refused]
  unfold refuseMethod
  simp only [made]

/-- **The response to a refused request**: a fresh cycle has room for the text, so it always comes. -/
theorem World.response_of_refused {world : World} {table : Router} {exchange : Http.Exchange}
    {allow : List Http.Method} {value : Http.FieldValue}
    (routes : world.dispatcher.charge = .router table)
    (refused : table.resolve exchange.request.method exchange.request.uri.path
      = .methodNotAllowed allow)
    (made : Http.FieldValue.ofString? (String.intercalate ", " (allow.map Http.Method.token))
      = some value) (depth : Nat) :
    (world.dispatch (depth + 1) exchange).abort = none
      ∧ (world.dispatch (depth + 1) exchange).exchange.response
        = { status := .methodNotAllowed
            header := (exchange.response.header.set Http.allow value).set Http.contentType
              Http.plainText
            body := exchange.response.body ++ Text.bytes "Method Not Allowed" } := by
  have opened : (world.opened exchange).lease.Complete :=
    (world.dispatcher.pools.lease_lent exchange).2
  obtain ⟨inside, complete⟩ := opened.insideResponse
  let offered := (world.opened exchange).response.setField Http.allow value
  have uncommitted : offered.committed = false := rfl
  have whole : offered.serial? = some inside :=
    (Wrapper.Response.serial?_mapHeader _ _).trans complete
  obtain ⟨lends, overflow⟩ := Wrapper.Response.writeText_of_uncommitted uncommitted whole
    .methodNotAllowed "Method Not Allowed"
  have fits : (offered.writeText .methodNotAllowed "Method Not Allowed").overflow = false := by
    refine Bool.eq_false_iff.mpr fun overflows => overflow.mp overflows ?_
    show 0 + _ ≤ _
    decide
  have handled : world.handled (World.dispatch depth) exchange
      = (world.opened exchange).afterWriting (world.entered exchange)
        (offered.writeText .methodNotAllowed "Method Not Allowed") () := by
    unfold World.handled
    rw [routes]
    exact Charge.route_of_refused refused made _ _
  have ended : world.dispatch (depth + 1) exchange
      = World.conclude exchange (world.handled (World.dispatch depth) exchange) := rfl
  rw [ended, handled]
  unfold World.conclude Cycle.afterWriting
  rw [fits]
  refine ⟨rfl, ?_⟩
  have header : offered.header = exchange.response.header.set Http.allow value :=
    Wrapper.Response.header_setField complete Http.allow value
  rw [← header]
  exact lends

/-! ### The gateway -/

namespace Gateway

theorem identify_keeps (fresh : Http.FieldValue) (request : Http.Request) :
    (identify fresh request).method = request.method
      ∧ (identify fresh request).uri = request.uri := by
  unfold identify
  split
  · exact ⟨rfl, rfl⟩
  · exact ⟨rfl, rfl⟩

/-- A dispatch that comes to an end has its response completed. -/
theorem serve_of_collected {limit : Nat} (fresh : Http.FieldValue) (world : World)
    {request : Http.Request} {chunks : List Chunk} {body : List UInt8}
    (collects : collect limit chunks = .ok body)
    (ended : (world.serve { request := { identify fresh request with body } }).abort = none) :
    serve limit fresh world request chunks
      = { world.serve { request := { identify fresh request with body } } with
          exchange.response := propagate
            ((identify fresh request).header.get? Http.requestId.text)
            (complete request.method
              (world.serve { request := { identify fresh request with body } }).exchange.response) } := by
  have served : serve limit fresh world request chunks = delivered fresh request _ :=
    dispatches_of_collected collects
  rw [served, delivered, if_neg (by rw [ended]; exact Bool.false_ne_true)]
  rfl

theorem offers_complete {allow : List Http.Method} {response : Http.Response}
    (offers : Offers allow response) (method : Http.Method) :
    Offers allow (complete method response) :=
  offers.congr (complete_keeps _ _).1 ((complete_keeps _ _).2 _ (by decide))

theorem offers_propagate {allow : List Http.Method} {response : Http.Response}
    (offers : Offers allow response) (id : Option Http.FieldValue) :
    Offers allow (propagate id response) :=
  offers.congr (propagate_keeps _ _).1 ((propagate_keeps _ _).2 _ (by decide))

end Gateway

/-! ### Allow is exact -/

/-- **The list of a refusal is sound and complete**: it is not empty, names no method twice and not
the refused one, and names exactly the methods with which a request for the path would be found. The
response of a dispatch, and the one that the gateway gives to the transport, refuses the method and
names the list in its one field. -/
theorem allow_is_exact {table : Router} {method : Http.Method} {path : String}
    {allow : List Http.Method} (refused : table.resolve method path = .methodNotAllowed allow) :
    allow ≠ [] ∧ allow.Nodup ∧ method ∉ allow
      ∧ (∀ other, other ∈ allow
        ↔ ∃ route handler captures, table.resolve other path = .found route handler captures)
      ∧ (∀ world depth exchange, world.dispatcher.charge = .router table →
        exchange.request.method = method → exchange.request.uri.path = path →
        (World.dispatch (depth + 1) world exchange).abort = none
          ∧ Offers allow (World.dispatch (depth + 1) world exchange).exchange.response)
      ∧ ∀ world limit fresh request chunks body, world.dispatcher.charge = .router table →
        request.method = method → request.uri.path = path →
        Gateway.collect limit chunks = .ok body →
        (Gateway.serve limit fresh world request chunks).abort = none
          ∧ Offers allow (Gateway.serve limit fresh world request chunks).exchange.response := by
  obtain ⟨-, some_method, collected⟩ := Router.resolve_eq_methodNotAllowed_iff.mp refused
  have dispatched : ∀ world depth exchange, world.dispatcher.charge = .router table →
      exchange.request.method = method → exchange.request.uri.path = path →
      (World.dispatch (depth + 1) world exchange).abort = none
        ∧ Offers allow (World.dispatch (depth + 1) world exchange).exchange.response := by
    intro world depth exchange routes asked target
    rw [← asked, ← target] at refused
    obtain ⟨value, text, made, shown, listed⟩ := exists_value_of_offer some_method
    obtain ⟨ended, response⟩ := World.response_of_refused routes refused made depth
    refine ⟨ended, ?_⟩
    rw [response]
    refine ⟨rfl, value, text, ?_, shown, listed⟩
    rw [Http.Header.getAll_set_ne _ _ (by decide), Http.Header.getAll_set]
  refine ⟨some_method, ?_, Router.not_mem_offer refused, Router.mem_offer_iff_found refused,
    dispatched, ?_⟩
  · rw [← collected]
    exact Router.nodup_offerAll List.nodup_nil _
  · intro world limit fresh request chunks body routes asked target collects
    obtain ⟨asks, targets⟩ := Gateway.identify_keeps fresh request
    obtain ⟨ended, offers⟩ := dispatched world 999
      { request := { Gateway.identify fresh request with body } } routes (asks.trans asked)
      ((congrArg Http.Uri.path targets).trans target)
    have served := Gateway.serve_of_collected fresh world collects ended
    rw [served]
    exact ⟨ended, Gateway.offers_propagate (Gateway.offers_complete offers _) _⟩

/-- Two routes match a path, and both list `GET`: a request with `PUT` is offered `GET` and `POST`. -/
theorem allow_is_exact_overlapping :
    let post : Http.Method := ⟨"POST", by decide⟩
    let put : Http.Method := ⟨"PUT", by decide⟩
    let handler : Handler := ⟨"h", .skip⟩
    let table := Router.mk
      [⟨.compile "/a", .assemble "h" "/a" [.get] "" [] [], handler⟩,
        ⟨.compile "/:x", .assemble "h" "/:x" [post, .get] "" [] [], handler⟩]
    let world := (World.new {}).setCharge (.router table)
    let request : Http.Request := { method := put, uri := ⟨none, "", "/a", none⟩ }
    table.resolve put "/a" = .methodNotAllowed [.get, post]
      ∧ (∃ route handler captures, table.resolve post "/a" = .found route handler captures)
      ∧ (world.dispatch 1 { request }).abort = none
      ∧ Offers [.get, post] (world.dispatch 1 { request }).exchange.response
      ∧ (Gateway.serve 0 Http.plainText world request []).abort = none
      ∧ Offers [.get, post] (Gateway.serve 0 Http.plainText world request []).exchange.response := by
  intro post put handler table world request
  have refused : table.resolve put "/a" = .methodNotAllowed [.get, post] := rfl
  obtain ⟨-, -, -, exact, dispatched, delivered⟩ := allow_is_exact refused
  have found := (exact post).mp (List.mem_cons_of_mem _ List.mem_cons_self)
  have response := dispatched world 0 { request } rfl rfl rfl
  have completed := delivered world 0 Http.plainText request [] [] rfl rfl rfl rfl
  rw [Nat.zero_add] at response
  exact ⟨refused, found, response.1, response.2, completed⟩

end Switchboard
