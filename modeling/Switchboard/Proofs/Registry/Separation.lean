/-
**Declarations and the identities that they share.**

An identity is made of unescaped texts, so different declarations can come to share one; the later
one is then answered with the earlier. It happens only to texts that hide a bracket of the identity,
and to handlers whose symbol is that of an operation without one.

* `Operation.Legible`, `Route.Legible` — the texts hide no bracket, and no handler passes for none;
* `Registration.identity_separates` — **legible declarations with one identity agree**, and
  registering one is answered with a declaration that agrees with it;
* `identity_shared` — each condition is needed: without it, different declarations share an
  identity and the later one is dropped.
-/

import Switchboard.Proofs.Declaration.Brackets
import Switchboard.Proofs.Declaration.Building
import Switchboard.Proofs.Registry.History

namespace Switchboard

/-! ### What building guarantees -/

namespace Operation

/-- The symbol of the handler, or that of none. -/
def symbol (operation : Operation) : String :=
  operation.handler.elim Declaration.nilSymbol Handler.symbol

/-- The operation has the identity and the texts of a declaration. -/
structure Formed (operation : Operation) : Prop where
  id : operation.id = Declaration.operationIdentity operation.symbol operation.suffix
    operation.description operation.types
  suffix : Declaration.IsPath operation.suffix
  types : ∀ type ∈ operation.types, Http.isToken type = true

/-- The texts of the operation hide no bracket, and its handler does not pass for none. -/
structure Legible (operation : Operation) : Prop where
  texts : Declaration.LegibleOperation operation.symbol operation.suffix operation.description
  named : ∀ handler, operation.handler = some handler → handler.symbol ≠ Declaration.nilSymbol

/-- Two operations are declared alike. -/
structure Agrees (first second : Operation) : Prop where
  symbol : first.handler.map Handler.symbol = second.handler.map Handler.symbol
  suffix : first.suffix = second.suffix
  description : first.description = second.description
  types : first.types = second.types

theorem formed_placeholder (description : String) : (placeholder description).Formed where
  id := rfl
  suffix := Or.inl rfl
  types := by simp [placeholder]

/-- Symbols tell handlers apart if none passes for that of no handler. -/
theorem map_symbol_eq {first second : Operation} (one : first.Legible) (other : second.Legible)
    (same : first.symbol = second.symbol) :
    first.handler.map Handler.symbol = second.handler.map Handler.symbol := by
  unfold symbol at same
  cases held : first.handler with
  | none =>
    cases heldToo : second.handler with
    | none => rfl
    | some handler =>
      rw [held, heldToo] at same
      exact absurd same.symm (other.named handler heldToo)
  | some handler =>
    cases heldToo : second.handler with
    | none =>
      rw [held, heldToo] at same
      exact absurd same (one.named handler held)
    | some another =>
      rw [held, heldToo] at same
      exact congrArg some same

theorem legible_of_bracketless {operation : Operation}
    (symbolFree : '[' ∉ operation.symbol.toList) (suffixFree : ']' ∉ operation.suffix.toList)
    (descriptionFree : ']' ∉ operation.description.toList)
    (named : operation.handler.map Handler.symbol ≠ some Declaration.nilSymbol) :
    operation.Legible where
  texts := Declaration.legibleOperation_of_bracketless symbolFree suffixFree descriptionFree
  named handler held same := named (by rw [held, Option.map_some, same])

/-- **Legible operations with one identity agree.** -/
theorem Formed.agrees {first second : Operation} (one : first.Formed) (other : second.Formed)
    (legible : first.Legible) (legibleToo : second.Legible) (same : first.id = second.id) :
    first.Agrees second := by
  rw [one.id, other.id] at same
  obtain ⟨symbols, suffixes, descriptions, types⟩ :=
    Declaration.operationIdentity_inj legible.texts legibleToo.texts one.suffix other.suffix
      one.types other.types same
  exact ⟨map_symbol_eq legible legibleToo symbols, suffixes, descriptions, types⟩

end Operation

/-- The suffix of parameters is empty or begins with a slash. -/
theorem Param.isPath_suffix (params : List Param) : Declaration.IsPath (suffix params) := by
  unfold suffix
  cases params.filter isPath with
  | nil => exact Or.inl rfl
  | cons param rest =>
    refine Or.inr ⟨':' :: param.name.toList ++ (String.join (rest.map segment)).toList, ?_⟩
    rw [List.map_cons, String.join_cons, String.toList_append, segment, String.toList_append]
    rfl

/-- **A built operation is formed.** -/
theorem OperationSpec.formed_build {spec : OperationSpec} {operation : Operation}
    (built : spec.build = .ok operation) : operation.Formed := by
  obtain ⟨methods, resolved, rfl⟩ := exists_of_build built
  exact ⟨rfl, Param.isPath_suffix spec.params, fun type =>
    Declaration.isToken_of_mem_normalTypes resolved⟩

namespace Route

/-- The route has the identity of a declaration for a handler's symbol. -/
structure Formed (route : Route) (symbol : String) : Prop where
  id : route.id = Declaration.routeIdentity symbol route.place.whole route.methods
  path : ∃ rest, route.place.whole.toList = '/' :: rest

/-- The texts of the route hide no bracket. -/
def Legible (route : Route) (symbol : String) : Prop :=
  Declaration.LegibleRoute symbol route.place.whole

/-- **Legible routes with one identity agree**, and so do the symbols of their handlers. -/
theorem Formed.agrees {first second : Route} {symbol symbolToo : String}
    (one : first.Formed symbol) (other : second.Formed symbolToo) (legible : first.Legible symbol)
    (legibleToo : second.Legible symbolToo) (same : first.id = second.id) :
    symbol = symbolToo ∧ first.place.whole = second.place.whole
      ∧ first.methods = second.methods := by
  rw [one.id, other.id] at same
  exact Declaration.routeIdentity_inj legible legibleToo one.path other.path same

theorem formed_assemble (symbol declared : String) (methods : List Http.Method)
    (description : String) (produces : List String) (params : List Param) :
    (assemble symbol declared methods description produces params).Formed symbol := by
  refine ⟨rfl, ?_⟩
  unfold assemble Path.decompose Path.clean Path.render Path.dropQuery
  simp only [String.toList_ofList]
  cases Path.cleanSegments declared.toList with
  | nil => exact ⟨[], rfl⟩
  | cons segment rest =>
    exact ⟨(segment ++ rest.flatMap ('/' :: ·)).takeWhile (· != '?'), rfl⟩

end Route

/-- **A built route is formed.** -/
theorem RouteSpec.formed_build {spec : RouteSpec} {symbol : String} {route : Route}
    (built : spec.build symbol = .ok route) : route.Formed symbol := by
  obtain ⟨methods, _, rfl⟩ := exists_of_build built
  exact Route.formed_assemble _ _ _ _ _ _

/-! ### Registrations of declarations -/

namespace Registration

/-- What the call brings was built from a declaration. -/
inductive Declared : Registration → Prop
  | operation {spec : OperationSpec} {operation : Operation} (built : spec.build = .ok operation) :
    Declared (.operation operation)
  | placeholder (description : String) : Declared (.placeholder description)
  | route {spec : RouteSpec} {handler : Handler} {route : Route}
    (built : spec.build handler.symbol = .ok route) : Declared (.route route handler)
  | mounting (declared : String) (operation : Operation) : Declared (.mounting declared operation)

/-- What the call brings is legible. -/
structure Legible (call : Registration) : Prop where
  operation : ∀ operation, call.operation? = some operation → operation.Legible
  route : ∀ route handler, call.route? = some (route, handler) → route.Legible handler.symbol

theorem Declared.operation_formed {call : Registration} (declared : call.Declared)
    {operation : Operation} (brought : call.operation? = some operation) : operation.Formed := by
  cases declared with
  | operation built =>
    cases brought
    exact OperationSpec.formed_build built
  | placeholder description =>
    cases brought
    exact Operation.formed_placeholder description
  | route built => cases brought
  | mounting prefixed mounted => cases brought

theorem Declared.route_formed {call : Registration} (declared : call.Declared) {route : Route}
    {handler : Handler} (brought : call.route? = some (route, handler)) :
    route.Formed handler.symbol := by
  cases declared with
  | operation built => cases brought
  | placeholder description => cases brought
  | route built =>
    cases brought
    exact RouteSpec.formed_build built
  | mounting prefixed mounted =>
    unfold route? at brought
    obtain ⟨own, _, same⟩ := Option.map_eq_some_iff.mp brought
    cases same
    exact Route.formed_assemble _ _ _ _ _ _

end Registration

namespace Registry

/-- What registering an operation answers has its identity and is listed behind it. -/
theorem register_answer (registry : Registry) (filed : registry.Filed) (operation : Operation) :
    (registry.register operation).1.id = operation.id
      ∧ ((registry.register operation).1 = operation
        ∨ (registry.register operation).1 ∈ registry.enumerate) := by
  unfold register
  cases stored : registry.get? operation.id with
  | none => exact ⟨rfl, Or.inl rfl⟩
  | some existing =>
    obtain ⟨listed, same⟩ := filed.get?_eq_some_iff.mp stored
    exact ⟨same, Or.inr listed⟩

theorem registerRoute_answer (registry : Registry) (filed : registry.Filed) (route : Route)
    (handler : Handler) :
    (registry.registerRoute route handler).1.id = route.id
      ∧ ((registry.registerRoute route handler).1 = route
        ∨ (registry.registerRoute route handler).1 ∈ registry.routeList) := by
  unfold registerRoute
  cases stored : registry.getRoute? route.id with
  | none => exact ⟨rfl, Or.inl rfl⟩
  | some existing =>
    obtain ⟨listed, same⟩ := filed.getRoute?_eq_some_iff.mp stored
    exact ⟨same, Or.inr listed⟩

/-- An operation with the identity of the only one is answered with that one, and dropped. -/
theorem register_of_id_eq {first second : Operation} (same : first.id = second.id) :
    (after [.operation first]).register second = (first, after [.operation first]) := by
  refine register_of_get? ?_
  rw [← same]
  exact get?_register {} first

end Registry

namespace Registration

/-! ### What identities separate -/

/-- **Legible declarations with one identity agree**, of operations and of routes; and behind
legible registrations of declarations, another one is answered with a declaration that agrees
with it. -/
theorem identity_separates :
    (∀ (first second : OperationSpec) (one other : Operation),
      first.build = .ok one → second.build = .ok other → one.Legible → other.Legible →
      one.id = other.id → one.Agrees other)
    ∧ (∀ (first second : RouteSpec) (symbol symbolToo : String) (one other : Route),
      first.build symbol = .ok one → second.build symbolToo = .ok other →
      one.Legible symbol → other.Legible symbolToo → one.id = other.id →
      symbol = symbolToo ∧ one.place.whole = other.place.whole ∧ one.methods = other.methods)
    ∧ (∀ (history : List Registration) (call : Registration),
      (∀ each ∈ history ++ [call], each.Declared ∧ each.Legible) →
      (∀ operation, call.operation? = some operation →
        ((Registry.after history).register operation).1.Agrees operation)
      ∧ ∀ route handler, call.route? = some (route, handler) →
        ∃ each ∈ history ++ [call], ∃ kept own, each.route? = some (kept, own)
          ∧ ((Registry.after history).registerRoute route handler).1 = kept
          ∧ own.symbol = handler.symbol ∧ kept.place.whole = route.place.whole
          ∧ kept.methods = route.methods) := by
  refine ⟨?_, ?_, ?_⟩
  · intro first second one other built builtToo legible legibleToo same
    exact (OperationSpec.formed_build built).agrees (OperationSpec.formed_build builtToo)
      legible legibleToo same
  · intro first second symbol symbolToo one other built builtToo legible legibleToo same
    exact (RouteSpec.formed_build built).agrees (RouteSpec.formed_build builtToo)
      legible legibleToo same
  · intro history call sound
    have filed := Registry.filed_after history
    obtain ⟨declared, legible⟩ := sound call (by simp)
    constructor
    · intro operation brought
      obtain ⟨same, here | listed⟩ :=
        Registry.register_answer (Registry.after history) filed operation
      · rw [here]
        exact ⟨rfl, rfl, rfl, rfl⟩
      · obtain ⟨each, member, stored⟩ := Registry.exists_call_of_mem_enumerate listed
        obtain ⟨declaredToo, legibleToo⟩ := sound each (List.mem_append_left _ member)
        exact (declaredToo.operation_formed stored).agrees (declared.operation_formed brought)
          (legibleToo.operation _ stored) (legible.operation _ brought) same
    · intro route handler brought
      obtain ⟨same, here | listed⟩ :=
        Registry.registerRoute_answer (Registry.after history) filed route handler
      · exact ⟨call, by simp, route, handler, brought, here, rfl, rfl, rfl⟩
      · obtain ⟨each, member, own, stored⟩ := Registry.exists_call_of_mem_routeList listed
        obtain ⟨declaredToo, legibleToo⟩ := sound each (List.mem_append_left _ member)
        refine ⟨each, List.mem_append_left _ member, _, own, stored, rfl, ?_⟩
        exact (declaredToo.route_formed stored).agrees (declared.route_formed brought)
          (legibleToo.route _ _ stored) (legible.route _ _ brought) same

/-- Two spellings of `GET` share their identity, agree, and the second one is answered with the
first; so it is for routes. -/
theorem identity_separates_spellings :
    ∃ (one other : Operation) (route routeToo : Route),
      OperationSpec.build
        { description := "user", types := ["GET"], handler := some ⟨"show", .skip⟩ } = .ok one
      ∧ OperationSpec.build
        { description := "user", types := [" get"], handler := some ⟨"show", .skip⟩ } = .ok other
      ∧ one.Agrees other
      ∧ RouteSpec.build { declared := "/user", methods := ["GET"] } "show" = .ok route
      ∧ RouteSpec.build { declared := "/user/", methods := ["get", "GET"] } "show" = .ok routeToo
      ∧ route.methods = routeToo.methods
      ∧ ((Registry.after [.route route ⟨"show", .skip⟩, .operation one]).register other).1.Agrees
        other := by
  obtain ⟨one, built, id, suffix, description, held⟩ : ∃ one, OperationSpec.build
      { description := "user", types := ["GET"], handler := some ⟨"show", .skip⟩ } = .ok one
      ∧ one.id = "show[][user][GET]" ∧ one.suffix = "" ∧ one.description = "user"
      ∧ one.handler = some ⟨"show", .skip⟩ := ⟨_, rfl, rfl, rfl, rfl, rfl⟩
  obtain ⟨other, builtToo, idToo, suffixToo, descriptionToo, heldToo⟩ : ∃ other,
      OperationSpec.build
        { description := "user", types := [" get"], handler := some ⟨"show", .skip⟩ } = .ok other
      ∧ other.id = "show[][user][GET]" ∧ other.suffix = "" ∧ other.description = "user"
      ∧ other.handler = some ⟨"show", .skip⟩ := ⟨_, rfl, rfl, rfl, rfl, rfl⟩
  obtain ⟨route, routed, place, whole⟩ : ∃ route,
      RouteSpec.build { declared := "/user", methods := ["GET"] } "show" = .ok route
      ∧ route.id = "show[/user][GET]" ∧ route.place.whole = "/user" := ⟨_, rfl, rfl, rfl⟩
  obtain ⟨routeToo, routedToo, placeToo, wholeToo⟩ : ∃ route,
      RouteSpec.build { declared := "/user/", methods := ["get", "GET"] } "show" = .ok route
      ∧ route.id = "show[/user][GET]" ∧ route.place.whole = "/user" := ⟨_, rfl, rfl, rfl⟩
  have plain : ∀ {operation : Operation}, operation.suffix = "" → operation.description = "user" →
      operation.handler = some ⟨"show", .skip⟩ → operation.Legible := by
    intro operation suffix description held
    refine Operation.legible_of_bracketless ?_ ?_ ?_ ?_
    · rw [Operation.symbol, held]
      decide
    · rw [suffix]
      decide
    · rw [description]
      decide
    · rw [held]
      decide
  have legible := plain suffix description held
  have legibleToo := plain suffixToo descriptionToo heldToo
  have wholes : Declaration.LegibleRoute "show" "/user" :=
    Declaration.legibleRoute_of_bracketless (by decide) (by decide)
  have legibleRoute : route.Legible "show" := by
    rw [Route.Legible, whole]
    exact wholes
  have legibleRouteToo : routeToo.Legible "show" := by
    rw [Route.Legible, wholeToo]
    exact wholes
  have sound : ∀ each ∈
      [Registration.route route ⟨"show", .skip⟩, .operation one] ++ [.operation other],
      each.Declared ∧ each.Legible := by
    intro each member
    simp only [List.cons_append, List.nil_append, List.mem_cons, List.not_mem_nil,
      or_false] at member
    rcases member with rfl | rfl | rfl
    · exact ⟨.route routed, by rintro _ ⟨⟩, by rintro _ _ ⟨⟩; exact legibleRoute⟩
    · exact ⟨.operation built, by rintro _ ⟨⟩; exact legible, by rintro _ _ ⟨⟩⟩
    · exact ⟨.operation builtToo, by rintro _ ⟨⟩; exact legibleToo, by rintro _ _ ⟨⟩⟩
  have separates := identity_separates
  refine ⟨one, other, route, routeToo, built, builtToo, ?_, routed, routedToo, ?_, ?_⟩
  · exact separates.1 _ _ one other built builtToo legible legibleToo
      (id.trans idToo.symm)
  · exact (separates.2.1 _ _ "show" "show" route routeToo routed routedToo
      legibleRoute legibleRouteToo (place.trans placeToo.symm)).2.2
  · exact (separates.2.2 _ _ sound).1 other rfl

/-! ### What identities do not separate -/

end Registration

/-- Two declared operations are not alike but share an identity, and the second one is dropped. -/
def OperationSpec.Clashes (first second : OperationSpec) : Prop :=
  ∃ one other, first.build = .ok one ∧ second.build = .ok other ∧ one.id = other.id
    ∧ ¬ one.Agrees other
    ∧ (Registry.after [.operation one]).register other = (one, Registry.after [.operation one])

/-- Two declared routes are not alike but share an identity, and the second one is dropped. -/
def RouteSpec.Clashes (first second : RouteSpec) (handler handlerToo : Handler) : Prop :=
  ∃ one other, first.build handler.symbol = .ok one ∧ second.build handlerToo.symbol = .ok other
    ∧ one.id = other.id
    ∧ ¬ (handler.symbol = handlerToo.symbol ∧ one.place.whole = other.place.whole
      ∧ one.methods = other.methods)
    ∧ (Registry.after [.route one handler]).registerRoute other handlerToo
      = (one, Registry.after [.route one handler])

/-- **Different declarations share an identity** if a description, a suffix, a prefix or a symbol
hides a bracket, or if the symbol of a handler is that of none. -/
theorem identity_shared :
    let named (symbol : String) : Option Handler := some ⟨symbol, .skip⟩
    let path (name : String) : List Param := [{ name, location := .path }]
    let plain : Handler := ⟨"h", .skip⟩
    -- a boundary in a description, and one in a suffix
    OperationSpec.Clashes { description := "x][GET", types := ["HEAD"], handler := plain }
      { description := "x", types := ["GET", "HEAD"], handler := plain }
    ∧ OperationSpec.Clashes
      { description := "c c", types := ["GET"], params := path "a][b", handler := plain }
      { description := "b][c c", types := ["GET"], params := path "a", handler := plain }
    -- the bracket of a suffix in a symbol, and the bracket of an empty one
    ∧ OperationSpec.Clashes
      { description := "d d", types := ["GET"], handler := named "h[/:a]" }
      { description := "][d d", types := ["GET"], params := path "a", handler := plain }
    ∧ OperationSpec.Clashes { description := "d d", types := ["GET"], handler := named "h[]" }
      { description := "][d d", types := ["GET"], handler := plain }
    -- a symbol that is that of no handler
    ∧ OperationSpec.Clashes { description := "x", types := ["GET"] }
      { description := "x", types := ["GET"], handler := named Declaration.nilSymbol }
    -- a boundary in a prefix, and the bracket of a prefix in a symbol
    ∧ RouteSpec.Clashes { declared := "/a][GET" } { declared := "/a", methods := ["GET"] }
      plain plain
    ∧ RouteSpec.Clashes { declared := "/a" } { declared := "/b[/a" } ⟨"h[/b", .skip⟩ plain := by
  intro named path plain
  refine ⟨?_, ?_, ?_, ?_, ?_, ?_, ?_⟩
  · exact ⟨_, _, rfl, rfl, rfl, fun agrees => absurd agrees.description (by decide), rfl⟩
  · exact ⟨_, _, rfl, rfl, rfl, fun agrees => absurd agrees.description (by decide), rfl⟩
  · exact ⟨_, _, rfl, rfl, rfl, fun agrees => absurd agrees.description (by decide), rfl⟩
  · exact ⟨_, _, rfl, rfl, rfl, fun agrees => absurd agrees.description (by decide), rfl⟩
  · exact ⟨_, _, rfl, rfl, rfl, fun agrees => absurd agrees.symbol (by decide), rfl⟩
  · exact ⟨_, _, rfl, rfl, rfl, fun agrees => absurd agrees.2.1 (by decide), rfl⟩
  · exact ⟨_, _, rfl, rfl, rfl, fun agrees => absurd agrees.2.1 (by decide), rfl⟩

end Switchboard
