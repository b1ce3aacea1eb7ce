/-
**Registries and the registrations behind them.**

A registry is what a list of registrations makes of the empty one: operations, placeholders, routes
with their handlers, and operations that are mounted under a prefix, in any order and with any
repetition.

* `Registration.entered` — **one registration.** It files one operation, or one route with its
  handler, under an identity that was free; or its identity is taken and nothing changes.
* `Registry.Filed` — the representation invariant: operations and routes stand under their own
  identities, no identity stands twice in one of the two, and every route has a handler.
* `Registry.filed_after` — the invariant holds behind every list of registrations.
* `Registry.handler?_enter` — an identity keeps its handler.
-/

import Switchboard.Proofs.Text.Order
import Switchboard.Registry.Basic
import Mathlib.Data.List.Induction

namespace Switchboard

/-! ### Lists of entries under keys -/

section Entries

variable {α : Type}

/-- **With different keys, a key finds exactly what is entered under it.** -/
theorem lookup_eq_some_iff_mem {entries : List (String × α)}
    (different : (entries.map Prod.fst).Nodup) {key : String} {value : α} :
    entries.lookup key = some value ↔ (key, value) ∈ entries := by
  induction entries with
  | nil => simp
  | cons entry rest hypothesis =>
    obtain ⟨name, stored⟩ := entry
    rw [List.map_cons, List.nodup_cons] at different
    by_cases same : key = name
    · subst same
      have absent : (key, value) ∉ rest := fun member =>
        different.1 (List.mem_map.mpr ⟨_, member, rfl⟩)
      simp [absent, eq_comm]
    · have apart : (key == name) = false := by simpa using same
      simp [List.lookup_cons, apart, same, hypothesis different.2]

theorem key_ne_of_lookup_eq_none {entries : List (String × α)} {key : String}
    (absent : entries.lookup key = none) {entry : String × α} (member : entry ∈ entries) :
    entry.1 ≠ key := by
  have apart := List.lookup_eq_none_iff.mp absent entry member
  intro same
  simp [same] at apart

/-- A new member joins the others, wherever it is put. -/
theorem insertMember_perm {members : List (String × α)} {key : String}
    (absent : members.lookup key = none) (value : α) :
    (Json.insertMember key value members).Perm ((key, value) :: members) := by
  induction members with
  | nil => exact List.Perm.refl _
  | cons member rest hypothesis =>
    obtain ⟨name, other⟩ := member
    have apart : name ≠ key := key_ne_of_lookup_eq_none absent List.mem_cons_self
    have absentBehind : rest.lookup key = none := by
      rw [List.lookup_cons] at absent
      have unequal : (key == name) = false := by simpa using Ne.symm apart
      simpa [unequal] using absent
    rw [Json.insertMember, if_neg apart]
    split
    · exact ((hypothesis absentBehind).cons _).trans (List.Perm.swap _ _ _)
    · exact List.Perm.refl _

end Entries

/-! ### The table of handlers -/

/-- **An identity keeps the handler that it was given first.** -/
theorem HandlerTable.get?_insert (table : HandlerTable) (id other : String) (handler : Handler) :
    (table.insert id handler).get? other
      = if other = id then some ((table.get? id).getD handler) else table.get? other := by
  unfold insert contains
  by_cases taken : (table.get? id).isSome = true
  · rw [if_pos taken]
    obtain ⟨kept, found⟩ := Option.isSome_iff_exists.mp taken
    by_cases same : other = id
    · simp [same, found]
    · simp [same]
  · rw [if_neg taken]
    have free : table.get? id = none := by simpa using taken
    show (table.entries ++ [(id, handler)]).lookup other = _
    rw [List.lookup_append]
    by_cases same : other = id
    · subst same
      rw [show table.entries.lookup other = none from free]
      simp [free]
    · have apart : (other == id) = false := by simpa using same
      simp [same, apart, get?, List.lookup_cons]

/-! ### Registrations -/

/-- A call that registers something. -/
inductive Registration where
  /-- register an operation -/
  | operation (operation : Operation)
  /-- register a placeholder -/
  | placeholder (description : String)
  /-- register a route with its handler -/
  | route (route : Route) (handler : Handler)
  /-- make an operation a route under a prefix -/
  | mounting (declared : String) (operation : Operation)

namespace Registration

/-- The operation that a call brings. -/
def operation? : Registration → Option Operation
  | .operation brought => some brought
  | .placeholder description => some (Operation.placeholder description)
  | .route _ _ => none
  | .mounting _ _ => none

/-- The route that a call brings, with its handler. -/
def route? : Registration → Option (Route × Handler)
  | .operation _ => none
  | .placeholder _ => none
  | .route brought handler => some (brought, handler)
  | .mounting declared mounted =>
    mounted.handler.map fun handler =>
      (Registry.mountedRoute declared mounted handler, handler)

end Registration

namespace Registry

/-- What a call makes of a registry. -/
def enter (registry : Registry) : Registration → Registry
  | .operation operation => (registry.register operation).2
  | .placeholder description => (registry.registerNil description).2
  | .route route handler => (registry.registerRoute route handler).2
  | .mounting declared operation => (registry.mount declared operation).2

/-- What calls make of the empty registry. -/
def after (history : List Registration) : Registry :=
  history.foldl enter {}

@[simp] theorem after_nil : after [] = {} := rfl

@[simp] theorem after_snoc (history : List Registration) (call : Registration) :
    after (history ++ [call]) = (after history).enter call := by
  simp [after]

end Registry

/-- All that a call can make of a registry. -/
inductive Registration.Entered (registry : Registry) (call : Registration) : Registry → Prop
  /-- what the call brings is filed already, or it brings nothing -/
  | known
    (operation : ∀ operation, call.operation? = some operation →
      (registry.get? operation.id).isSome)
    (route : ∀ route handler, call.route? = some (route, handler) →
      (registry.getRoute? route.id).isSome) :
    Entered registry call registry
  /-- the operation of the call is filed under an identity that was free -/
  | operation (operation : Operation) (brought : call.operation? = some operation)
    (alone : call.route? = none) (free : registry.get? operation.id = none) :
    Entered registry call (registry.addOperation operation)
  /-- the route of the call is filed under an identity that was free -/
  | route (route : Route) (handler : Handler) (brought : call.route? = some (route, handler))
    (alone : call.operation? = none) (free : registry.getRoute? route.id = none) :
    Entered registry call (registry.addRoute route handler)

theorem Registration.entered_register (registry : Registry) {call : Registration}
    {operation : Operation} (brought : call.operation? = some operation)
    (alone : call.route? = none) :
    Entered registry call (registry.register operation).2 := by
  unfold Registry.register
  cases stored : registry.get? operation.id with
  | none => exact .operation operation brought alone stored
  | some existing =>
    refine .known (fun other same => ?_) fun route handler same => ?_
    · rw [brought, Option.some.injEq] at same
      rw [← same, stored]
      rfl
    · rw [alone] at same
      cases same

theorem Registration.entered_registerRoute (registry : Registry) {call : Registration}
    {route : Route} {handler : Handler} (brought : call.route? = some (route, handler))
    (alone : call.operation? = none) :
    Entered registry call (registry.registerRoute route handler).2 := by
  unfold Registry.registerRoute
  cases stored : registry.getRoute? route.id with
  | none => exact .route route handler brought alone stored
  | some existing =>
    refine .known (fun operation same => ?_) fun other otherHandler same => ?_
    · rw [alone] at same
      cases same
    · rw [brought, Option.some.injEq, Prod.mk.injEq] at same
      rw [← same.1, stored]
      rfl

/-- **One registration.** -/
theorem Registration.entered (registry : Registry) (call : Registration) :
    Entered registry call (registry.enter call) := by
  cases call with
  | operation operation => exact entered_register registry rfl rfl
  | placeholder description => exact entered_register registry rfl rfl
  | route route handler => exact entered_registerRoute registry rfl rfl
  | mounting declared operation =>
    cases handled : operation.handler with
    | none =>
      rw [Registry.enter, Registry.mount_of_no_handler registry declared handled]
      refine .known (fun other same => ?_) fun route handler same => ?_
      · cases same
      · simp [route?, handled] at same
    | some handler =>
      have brought : (mounting declared operation).route?
          = some (Registry.mountedRoute declared operation handler, handler) := by
        simp [route?, handled]
      have mounted : registry.enter (.mounting declared operation)
          = (registry.registerRoute (Registry.mountedRoute declared operation handler)
            handler).2 := by
        simp [Registry.enter, Registry.mount, handled]
      rw [mounted]
      exact entered_registerRoute registry brought rfl

namespace Registry

/-! ### The representation invariant -/

/-- Operations and routes stand under their own identities, each once, and routes have handlers. -/
structure Filed (registry : Registry) : Prop where
  operationId : ∀ entry ∈ registry.operations, entry.1 = entry.2.id
  operationOnce : (registry.operations.map Prod.fst).Nodup
  ordered : registry.ordered.Perm (registry.operations.map Prod.snd)
  routeId : ∀ entry ∈ registry.routes, entry.1 = entry.2.id
  routeOnce : (registry.routes.map Prod.fst).Nodup
  routeHandled : ∀ entry ∈ registry.routes, (registry.handler? entry.1).isSome

theorem handler?_addOperation (registry : Registry) (operation : Operation) (id : String) :
    (registry.addOperation operation).handler? id
      = if operation.id = id then registry.handler? id <|> operation.handler
        else registry.handler? id := by
  unfold addOperation handler?
  cases handled : operation.handler with
  | none => simp
  | some handler =>
    simp only [Option.elim_some, HandlerTable.get?_insert]
    by_cases same : id = operation.id
    · subst same
      cases registry.handlers.get? operation.id <;> simp
    · simp [same, Ne.symm same]

theorem handler?_addRoute (registry : Registry) (route : Route) (handler : Handler) (id : String) :
    (registry.addRoute route handler).handler? id
      = if route.id = id then registry.handler? id <|> some handler
        else registry.handler? id := by
  unfold addRoute handler?
  simp only [HandlerTable.get?_insert]
  by_cases same : id = route.id
  · subst same
    cases registry.handlers.get? route.id <;> simp
  · simp [same, Ne.symm same]

/-- **An identity keeps its handler.** -/
theorem handler?_enter {registry : Registry} {id : String} {handler : Handler}
    (held : registry.handler? id = some handler) (call : Registration) :
    (registry.enter call).handler? id = some handler := by
  have made := Registration.entered registry call
  generalize registry.enter call = result at made ⊢
  cases made with
  | known => exact held
  | operation operation => rw [handler?_addOperation, held]; simp
  | route route added => rw [handler?_addRoute, held]; simp

/-- Whatever is registered later, an identity keeps its handler. -/
theorem handler?_after_append {history : List Registration} {id : String} {handler : Handler}
    (held : (after history).handler? id = some handler) (later : List Registration) :
    (after (history ++ later)).handler? id = some handler := by
  induction later using List.reverseRecOn with
  | nil => simpa using held
  | append_singleton later call hypothesis =>
    rw [← List.append_assoc, after_snoc]
    exact handler?_enter hypothesis call

theorem Filed.empty : Filed {} where
  operationId := by simp
  operationOnce := by simp
  ordered := by simp
  routeId := by simp
  routeOnce := by simp
  routeHandled := by simp

theorem Filed.addOperation {registry : Registry} (filed : registry.Filed) {operation : Operation}
    (free : registry.get? operation.id = none) : (registry.addOperation operation).Filed where
  operationId entry member := by
    rcases List.mem_append.mp member with old | new
    · exact filed.operationId entry old
    · rw [List.mem_singleton.mp new]
  operationOnce := by
    show ((registry.operations ++ [(operation.id, operation)]).map Prod.fst).Nodup
    rw [List.map_append, List.nodup_append]
    refine ⟨filed.operationOnce, by simp, fun key old other new => ?_⟩
    obtain ⟨entry, member, rfl⟩ := List.mem_map.mp old
    rw [List.map_singleton, List.mem_singleton] at new
    rw [new]
    exact key_ne_of_lookup_eq_none free member
  ordered := by
    show (Text.insertBy Operation.id operation registry.ordered).Perm
      ((registry.operations ++ [(operation.id, operation)]).map Prod.snd)
    rw [List.map_append]
    exact ((Text.insertBy_perm _ _ _).trans (filed.ordered.cons _)).trans
      (List.perm_append_singleton _ _).symm
  routeId := filed.routeId
  routeOnce := filed.routeOnce
  routeHandled entry member := by
    obtain ⟨handler, held⟩ := Option.isSome_iff_exists.mp (filed.routeHandled entry member)
    rw [handler?_addOperation, held]
    simp

theorem Filed.addRoute {registry : Registry} (filed : registry.Filed) {route : Route}
    (free : registry.getRoute? route.id = none) (handler : Handler) :
    (registry.addRoute route handler).Filed := by
  have joined : (registry.addRoute route handler).routes.Perm
      ((route.id, route) :: registry.routes) := insertMember_perm free route
  refine ⟨filed.operationId, filed.operationOnce, filed.ordered, fun entry member => ?_, ?_,
    fun entry member => ?_⟩
  · rcases List.mem_cons.mp (joined.mem_iff.mp member) with rfl | old
    · rfl
    · exact filed.routeId entry old
  · rw [(joined.map Prod.fst).nodup_iff, List.map_cons, List.nodup_cons]
    refine ⟨fun taken => ?_, filed.routeOnce⟩
    obtain ⟨entry, member, same⟩ := List.mem_map.mp taken
    exact key_ne_of_lookup_eq_none free member same
  · rw [handler?_addRoute]
    rcases List.mem_cons.mp (joined.mem_iff.mp member) with rfl | old
    · cases registry.handler? route.id <;> simp
    · obtain ⟨kept, held⟩ := Option.isSome_iff_exists.mp (filed.routeHandled entry old)
      simp [held]

/-- **The invariant holds behind every list of registrations.** -/
theorem filed_after (history : List Registration) : (after history).Filed := by
  induction history using List.reverseRecOn with
  | nil => exact .empty
  | append_singleton history call hypothesis =>
    rw [after_snoc]
    have made := Registration.entered (after history) call
    generalize (after history).enter call = result at made ⊢
    cases made with
    | known => exact hypothesis
    | operation operation _ _ free => exact hypothesis.addOperation free
    | route route handler _ _ free => exact hypothesis.addRoute free handler

/-! ### Where the entries come from -/

theorem mem_enumerate_addOperation (registry : Registry) (added operation : Operation) :
    operation ∈ (registry.addOperation added).enumerate
      ↔ operation = added ∨ operation ∈ registry.enumerate := by
  show operation ∈ Text.insertBy Operation.id added registry.ordered ↔ _
  rw [(Text.insertBy_perm _ _ _).mem_iff, List.mem_cons]
  rfl

theorem mem_routeList_addRoute {registry : Registry} {added : Route}
    (free : registry.getRoute? added.id = none) (handler : Handler) (route : Route) :
    route ∈ (registry.addRoute added handler).routeList
      ↔ route = added ∨ route ∈ registry.routeList := by
  show route ∈ (Json.insertMember added.id added registry.routes).map Prod.snd ↔ _
  rw [((insertMember_perm free added).map Prod.snd).mem_iff, List.map_cons, List.mem_cons]
  rfl

/-- **A listed operation was brought by a registration.** -/
theorem exists_call_of_mem_enumerate {history : List Registration} {operation : Operation}
    (member : operation ∈ (after history).enumerate) :
    ∃ call ∈ history, call.operation? = some operation := by
  induction history using List.reverseRecOn with
  | nil => cases member
  | append_singleton history call hypothesis =>
    have earlier (old : operation ∈ (after history).enumerate) :
        ∃ other ∈ history ++ [call], other.operation? = some operation := by
      obtain ⟨other, listed, brought⟩ := hypothesis old
      exact ⟨other, List.mem_append_left _ listed, brought⟩
    rw [after_snoc] at member
    have made := Registration.entered (after history) call
    generalize (after history).enter call = result at made member
    cases made with
    | known => exact earlier member
    | route route handler => exact earlier member
    | operation added brought =>
      rcases (mem_enumerate_addOperation _ _ _).mp member with rfl | old
      · exact ⟨call, by simp, brought⟩
      · exact earlier old

/-- **A listed route was brought by a registration**, with a handler. -/
theorem exists_call_of_mem_routeList {history : List Registration} {route : Route}
    (member : route ∈ (after history).routeList) :
    ∃ call ∈ history, ∃ handler, call.route? = some (route, handler) := by
  induction history using List.reverseRecOn with
  | nil => cases member
  | append_singleton history call hypothesis =>
    have earlier (old : route ∈ (after history).routeList) :
        ∃ other ∈ history ++ [call], ∃ handler, other.route? = some (route, handler) := by
      obtain ⟨other, listed, brought⟩ := hypothesis old
      exact ⟨other, List.mem_append_left _ listed, brought⟩
    rw [after_snoc] at member
    have made := Registration.entered (after history) call
    generalize (after history).enter call = result at made member
    cases made with
    | known => exact earlier member
    | operation operation => exact earlier member
    | route added handler brought _ free =>
      rcases (mem_routeList_addRoute free handler route).mp member with rfl | old
      · exact ⟨call, by simp, handler, brought⟩
      · exact earlier old

/-! ### Reading a filed registry -/

theorem Filed.get?_eq_some_iff {registry : Registry} (filed : registry.Filed) {id : String}
    {operation : Operation} :
    registry.get? id = some operation ↔ operation ∈ registry.enumerate ∧ operation.id = id := by
  unfold get? enumerate
  rw [lookup_eq_some_iff_mem filed.operationOnce, filed.ordered.mem_iff, List.mem_map]
  constructor
  · intro member
    exact ⟨⟨_, member, rfl⟩, (filed.operationId _ member).symm⟩
  · rintro ⟨⟨entry, member, rfl⟩, rfl⟩
    rw [← filed.operationId entry member]
    exact member

theorem Filed.getRoute?_eq_some_iff {registry : Registry} (filed : registry.Filed) {id : String}
    {route : Route} :
    registry.getRoute? id = some route ↔ route ∈ registry.routeList ∧ route.id = id := by
  unfold getRoute? routeList
  rw [lookup_eq_some_iff_mem filed.routeOnce, List.mem_map]
  constructor
  · intro member
    exact ⟨⟨_, member, rfl⟩, (filed.routeId _ member).symm⟩
  · rintro ⟨⟨entry, member, rfl⟩, rfl⟩
    rw [← filed.routeId entry member]
    exact member

theorem Filed.handler_of_mem_routeList {registry : Registry} (filed : registry.Filed)
    {route : Route} (member : route ∈ registry.routeList) :
    ∃ handler, registry.handler? route.id = some handler := by
  obtain ⟨entry, inside, rfl⟩ := List.mem_map.mp member
  rw [← filed.routeId entry inside]
  exact Option.isSome_iff_exists.mp (filed.routeHandled entry inside)

theorem Filed.eq_of_operation_id_eq {registry : Registry} (filed : registry.Filed)
    {first second : Operation} (one : first ∈ registry.enumerate)
    (other : second ∈ registry.enumerate) (same : first.id = second.id) : first = second :=
  Option.some.inj ((filed.get?_eq_some_iff.mpr ⟨one, same⟩).symm.trans
    (filed.get?_eq_some_iff.mpr ⟨other, rfl⟩))

theorem Filed.eq_of_id_eq {registry : Registry} (filed : registry.Filed) {first second : Route}
    (one : first ∈ registry.routeList) (other : second ∈ registry.routeList)
    (same : first.id = second.id) : first = second :=
  Option.some.inj ((filed.getRoute?_eq_some_iff.mpr ⟨one, same⟩).symm.trans
    (filed.getRoute?_eq_some_iff.mpr ⟨other, rfl⟩))

end Registry

end Switchboard
