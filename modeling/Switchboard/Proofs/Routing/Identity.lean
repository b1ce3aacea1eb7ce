/-
**Identities of routes against their templates.**

A registry tells routes apart by their identities, which hold the prefix as the cut of its query
leaves it. A router tells them apart by their templates, which are compiled from that prefix cleaned
once more. Between routes of one symbol and one list of methods:

* `Declaration.routeIdentity_eq_iff` — equal identities are equal prefixes;
* `Route.template_eq_iff` — equal templates are equal prefixes up to cleaning;
* `RouteSpec.settled_iff` — so the identity of a route tells it from settled routes as its template
  does **exactly if its own prefix is settled**;
* `Route.identity_tells_template` — all of it, and the registry behind every list of registrations:
  it holds settled routes of one symbol, one list of methods and one template once;
* `Route.identity_splits_template` — a prefix that is not settled is filed a second time.
-/

import Switchboard.Proofs.Path.Query
import Switchboard.Proofs.Registry.Separation
import Switchboard.Proofs.Routing.Reference

namespace Switchboard

/-- **Identities of one symbol and one list of methods** are equal where the prefixes are. -/
theorem Declaration.routeIdentity_eq_iff {symbol first second : String}
    {methods : List Http.Method} :
    routeIdentity symbol first methods = routeIdentity symbol second methods ↔ first = second := by
  constructor
  · intro same
    have texts := congrArg String.toList same
    unfold routeIdentity at texts
    rw [toList_identity, toList_identity] at texts
    have inside := List.append_cancel_left (List.append_cancel_right texts)
    have parts := List.append_cancel_right (List.cons.inj inside).2
    exact String.toList_inj.mp parts
  · rintro rfl
    rfl

/-! ### What building makes of a declaration -/

theorem RouteSpec.place_of_build {spec : RouteSpec} {symbol : String} {route : Route}
    (built : spec.build symbol = .ok route) : route.place = Path.decompose spec.declared := by
  obtain ⟨methods, _, rfl⟩ := exists_of_build built
  rfl

theorem RouteSpec.methods_eq_of_build {first second : RouteSpec} {symbol symbolToo : String}
    {one other : Route} (tokens : first.methods = second.methods)
    (built : first.build symbol = .ok one) (builtToo : second.build symbolToo = .ok other) :
    one.methods = other.methods := by
  obtain ⟨methods, resolved, rfl⟩ := exists_of_build built
  obtain ⟨others, resolvedToo, rfl⟩ := exists_of_build builtToo
  rw [tokens, resolvedToo] at resolved
  cases resolved
  rfl

/-- A declaration that is accepted is accepted under every other prefix. -/
theorem RouteSpec.exists_build_under {spec : RouteSpec} {symbol : String} {route : Route}
    (built : spec.build symbol = .ok route) (declared : String) :
    ∃ (second : RouteSpec) (other : Route), second.declared = declared
      ∧ second.methods = spec.methods ∧ second.build symbol = .ok other := by
  obtain ⟨methods, resolved, _⟩ := exists_of_build built
  refine ⟨{ declared, methods := spec.methods },
    Route.assemble symbol declared (Declaration.keepFirst methods) "" [] [], rfl, rfl, ?_⟩
  unfold build
  rw [(Declaration.checkParams_eq_ok_iff []).mpr (by simp)]
  simp only [resolved]
  rfl

namespace Route

/-! ### Two routes -/

theorem id_eq_iff {one other : Route} {symbol : String} (formed : one.Formed symbol)
    (formedToo : other.Formed symbol) (methods : one.methods = other.methods) :
    one.id = other.id ↔ one.place.whole = other.place.whole := by
  rw [formed.id, formedToo.id, methods]
  exact Declaration.routeIdentity_eq_iff

theorem template_eq_iff {one other : Route} :
    one.template = other.template ↔ Path.clean one.place.whole = Path.clean other.place.whole :=
  Path.Template.compile_eq_iff

/-- The prefix of the route is still clean in front of the cut of its query. -/
def Settled (route : Route) : Prop :=
  Path.Settled route.place.whole

theorem clean_of_settled {route : Route} {declared : String}
    (place : route.place = Path.decompose declared) (settled : route.Settled) :
    Path.clean route.place.whole = route.place.whole := by
  unfold Settled at settled
  rw [place] at settled ⊢
  exact (Path.settled_whole_iff declared).mp settled

/-- **Identities of settled routes** agree with their templates. -/
theorem id_eq_iff_template_eq {one other : Route} {symbol : String} (formed : one.Formed symbol)
    (formedToo : other.Formed symbol) (methods : one.methods = other.methods)
    (clean : Path.clean one.place.whole = one.place.whole)
    (cleanToo : Path.clean other.place.whole = other.place.whole) :
    one.id = other.id ↔ one.template = other.template := by
  rw [id_eq_iff formed formedToo methods, template_eq_iff, clean, cleanToo]

end Route

namespace RouteSpec

variable {first second : RouteSpec} {symbol : String} {one other : Route}

/-- **A route is settled** exactly if its identity tells it from the settled routes of its symbol
and its methods as its template does. -/
theorem settled_iff (built : first.build symbol = .ok one) :
    one.Settled ↔ ∀ (second : RouteSpec) (other : Route), second.methods = first.methods →
      second.build symbol = .ok other → other.Settled →
      (one.id = other.id ↔ one.template = other.template) := by
  constructor
  · intro settled second other tokens builtToo settledToo
    exact Route.id_eq_iff_template_eq (formed_build built) (formed_build builtToo)
      (methods_eq_of_build tokens.symm built builtToo)
      (Route.clean_of_settled (place_of_build built) settled)
      (Route.clean_of_settled (place_of_build builtToo) settledToo)
  · intro tells
    -- the cleaned prefix has the same template, so it has to be the prefix itself
    have place := place_of_build built
    obtain ⟨second, other, declared, tokens, builtToo⟩ :=
      exists_build_under built (Path.clean one.place.whole)
    have whole : other.place.whole = Path.clean one.place.whole := by
      rw [place_of_build builtToo, declared, place]
      exact Path.whole_clean_whole first.declared
    have settled : other.Settled := by
      unfold Route.Settled
      rw [whole]
      exact Path.settled_clean _
    have template : one.template = other.template := by
      rw [Route.template_eq_iff, whole, Path.clean_clean]
    have same := (tells second other tokens builtToo settled).mpr template
    rw [Route.id_eq_iff (formed_build built) (formed_build builtToo)
      (methods_eq_of_build tokens.symm built builtToo), whole] at same
    unfold Route.Settled
    rw [same]
    exact Path.settled_clean _

end RouteSpec

namespace Route

/-! ### Routes of a registry -/

/-- The prefix of a declared route is what a cut leaves of a cleaned path. -/
theorem exists_declared_of_route {call : Registration} (declared : call.Declared) {route : Route}
    {handler : Handler} (brought : call.route? = some (route, handler)) :
    ∃ text, route.place = Path.decompose text := by
  cases declared with
  | operation built => cases brought
  | placeholder description => cases brought
  | route built =>
    cases brought
    exact ⟨_, RouteSpec.place_of_build built⟩
  | mounting prefixed mounted =>
    obtain ⟨own, _, same⟩ := Option.map_eq_some_iff.mp brought
    cases same
    exact ⟨_, rfl⟩

/-- **Identities against templates.** Among declarations of one symbol and one list of method
tokens, identities are equal where the prefixes are, and templates where the cleaned prefixes are.
So equal identities always mean equal templates; a route is told from the settled ones by its
identity as by its template exactly if it is settled itself; and no registry behind declarations
holds two settled routes of one symbol, one list of methods and one template. -/
theorem identity_tells_template (symbol : String) :
    (∀ (first second : RouteSpec) (one other : Route), first.methods = second.methods →
      first.build symbol = .ok one → second.build symbol = .ok other →
      (one.id = other.id ↔ one.place.whole = other.place.whole)
        ∧ (one.template = other.template
          ↔ Path.clean one.place.whole = Path.clean other.place.whole)
        ∧ (one.id = other.id → one.template = other.template)
        ∧ (one.Settled → other.Settled → (one.id = other.id ↔ one.template = other.template)))
    ∧ (∀ (spec : RouteSpec) (route : Route), spec.build symbol = .ok route →
      (route.Settled ↔ ∀ (second : RouteSpec) (other : Route), second.methods = spec.methods →
        second.build symbol = .ok other → other.Settled →
        (route.id = other.id ↔ route.template = other.template)))
    ∧ ∀ history : List Registration, (∀ call ∈ history, call.Declared) →
      ∀ call ∈ history, ∀ callToo ∈ history, ∀ one other handler handlerToo,
        call.route? = some (one, handler) → callToo.route? = some (other, handlerToo) →
        one ∈ (Registry.after history).routeList → other ∈ (Registry.after history).routeList →
        handler.symbol = symbol → handlerToo.symbol = symbol → one.methods = other.methods →
        one.Settled → other.Settled → (one.template = other.template ↔ one = other) := by
  refine ⟨?_, fun spec route built => RouteSpec.settled_iff built, ?_⟩
  · intro first second one other tokens built builtToo
    have methods := RouteSpec.methods_eq_of_build tokens built builtToo
    have identities := id_eq_iff (RouteSpec.formed_build built) (RouteSpec.formed_build builtToo)
      methods
    refine ⟨identities, template_eq_iff, fun same => ?_, fun settled settledToo => ?_⟩
    · rw [template_eq_iff, identities.mp same]
    · exact (RouteSpec.settled_iff built).mp settled second other tokens.symm builtToo settledToo
  · intro history declared call member callToo memberToo one other handler handlerToo brought
      broughtToo listed listedToo named namedToo methods settled settledToo
    have formed := (declared call member).route_formed brought
    have formedToo := (declared callToo memberToo).route_formed broughtToo
    rw [named] at formed
    rw [namedToo] at formedToo
    obtain ⟨text, place⟩ := exists_declared_of_route (declared call member) brought
    obtain ⟨textToo, placeToo⟩ := exists_declared_of_route (declared callToo memberToo) broughtToo
    have tells := id_eq_iff_template_eq formed formedToo methods (clean_of_settled place settled)
      (clean_of_settled placeToo settledToo)
    rw [← tells]
    exact ⟨(Registry.filed_after history).eq_of_id_eq listed listedToo, congrArg Route.id⟩

/-- Two routes of different identities are both listed. -/
theorem routeList_of_two {one other : Route} (before : Text.precedes one.id other.id = true)
    (handler handlerToo : Handler) :
    (Registry.after [.route one handler, .route other handlerToo]).routeList = [one, other] := by
  have different : one.id ≠ other.id := by
    intro same
    rw [same, Text.precedes_irrefl] at before
    cases before
  have free : (Registry.after [.route one handler]).getRoute? other.id = none := by
    show ([(one.id, one)] : List (String × Route)).lookup other.id = none
    rw [List.lookup_cons, beq_false_of_ne (Ne.symm different)]
    rfl
  show ((Registry.after [.route one handler]).registerRoute other handlerToo).2.routeList = _
  unfold Registry.registerRoute
  rw [free]
  show (Json.insertMember other.id other [(one.id, one)]).map Prod.snd = _
  rw [Json.insertMember, if_neg different, if_pos before]
  rfl

/-- Two spellings of a prefix, one of them with a query, share template and identity; a registry
tells the route from that of a shorter prefix by both. -/
theorem identity_tells_template_spellings :
    let first : RouteSpec := { declared := "/user/:id?page=1", methods := ["get"] }
    let second : RouteSpec := { declared := "user/./:id/", methods := ["get"] }
    let third : RouteSpec := { declared := "/user", methods := ["get"] }
    ∃ one other shorter : Route, first.build "show" = .ok one ∧ second.build "show" = .ok other
      ∧ third.build "show" = .ok shorter ∧ one.Settled ∧ other.Settled ∧ shorter.Settled
      ∧ one.template = other.template ∧ one.id = other.id
      ∧ (Registry.after [.route one ⟨"show", .skip⟩, .route shorter ⟨"show", .skip⟩]).routeList
        = [one, shorter]
      ∧ (one.template = shorter.template ↔ one = shorter) := by
  intro first second third
  obtain ⟨one, built⟩ : ∃ one, first.build "show" = .ok one := ⟨_, rfl⟩
  obtain ⟨other, builtToo⟩ : ∃ other, second.build "show" = .ok other := ⟨_, rfl⟩
  obtain ⟨shorter, builtShorter⟩ : ∃ shorter, third.build "show" = .ok shorter := ⟨_, rfl⟩
  have whole : one.place.whole = "/user/:id" := by
    rw [RouteSpec.place_of_build built]
    decide
  have wholeToo : other.place.whole = "/user/:id" := by
    rw [RouteSpec.place_of_build builtToo]
    decide
  have wholeShorter : shorter.place.whole = "/user" := by
    rw [RouteSpec.place_of_build builtShorter]
    decide
  have methodsShorter : shorter.methods = [.get] := by
    obtain ⟨methods, resolved, rfl⟩ := RouteSpec.exists_of_build builtShorter
    have known : Declaration.resolveAll third.methods = .ok [Http.Method.get] := by rfl
    rw [known] at resolved
    cases resolved
    decide
  have tokens : first.methods = third.methods := rfl
  have methods := RouteSpec.methods_eq_of_build tokens built builtShorter
  have before : Text.precedes one.id shorter.id = true := by
    rw [(RouteSpec.formed_build built).id, (RouteSpec.formed_build builtShorter).id, whole,
      wholeShorter, methods, methodsShorter]
    decide
  have list := routeList_of_two before ⟨"show", .skip⟩ ⟨"show", .skip⟩
  have clean : Path.clean "/user/:id" = "/user/:id" := by decide
  have settled : one.Settled := by
    rw [Settled, whole, ← clean]
    exact Path.settled_clean _
  have settledToo : other.Settled := by
    rw [Settled, RouteSpec.place_of_build builtToo]
    exact Path.settled_of_unqueried (by decide)
  have settledShorter : shorter.Settled := by
    rw [Settled, RouteSpec.place_of_build builtShorter]
    exact Path.settled_of_unqueried (by decide)
  have declared : ∀ call ∈
      [Registration.route one ⟨"show", .skip⟩, .route shorter ⟨"show", .skip⟩], call.Declared := by
    intro call member
    rcases List.mem_cons.mp member with rfl | member
    · exact .route built
    · rw [List.mem_singleton.mp member]
      exact .route builtShorter
  obtain ⟨pairs, alone, registered⟩ := identity_tells_template "show"
  obtain ⟨-, templates, -, tells⟩ := pairs first second one other rfl built builtToo
  have template : one.template = other.template := templates.mpr (by rw [whole, wholeToo])
  have identity := ((alone first one built).mp settled second other rfl builtToo
    settledToo).mpr template
  refine ⟨one, other, shorter, built, builtToo, builtShorter, settled, settledToo, settledShorter,
    (tells settled settledToo).mp identity, identity, list, ?_⟩
  exact registered _ declared _ List.mem_cons_self _ (List.mem_cons_of_mem _ List.mem_cons_self)
    one shorter _ _ rfl rfl (by rw [list]; exact List.mem_cons_self)
    (by rw [list]; exact List.mem_cons_of_mem _ List.mem_cons_self) rfl rfl
    methods settled settledShorter

/-- **A prefix that is not settled is filed a second time**: a query behind a slash, or behind `..`,
leaves a route with the template, the symbol and the methods of another. -/
theorem identity_splits_template :
    let handler : Handler := ⟨"h", .skip⟩
    let filedTwice (declared declaredToo : String) : Prop :=
      ∃ one other : Route, RouteSpec.build { declared } handler.symbol = .ok one
        ∧ RouteSpec.build { declared := declaredToo } handler.symbol = .ok other
        ∧ one.template = other.template ∧ one.id ≠ other.id
        ∧ (Registry.after [.route one handler, .route other handler]).routeList = [one, other]
    filedTwice "/a/?x" "/a" ∧ filedTwice "/" "/a/..?x" := by
  intro handler filedTwice
  constructor
  · exact ⟨_, _, rfl, rfl, by decide, by decide, rfl⟩
  · exact ⟨_, _, rfl, rfl, by decide, by decide, rfl⟩

end Route

end Switchboard
