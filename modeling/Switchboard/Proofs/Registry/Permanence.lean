/-
**What is registered stays as it is.**

An identity belongs to the first that asks for it. A later registration may bring other parameters,
another description or another handler under the same identity; nothing of it reaches what is
stored.

* `Registry.answer?` — the descriptor with which a registration is answered: `find?_enter`, it is
  the one that is stored behind it;
* `Registry.Within` — **one registry within a later one**: every descriptor and every handler is
  still found under its identity, and every listing holds what it held, in the same order;
* `get?_enter` — an identity keeps its operation, and a free one takes the operation that is
  brought;
* `grows_enter` — **one registration** keeps what is there and adds one descriptor at most, its own;
* `Registration.Known` — a registration whose identity is taken. It changes nothing,
  `enter_of_known`; every registration is known behind itself, `known_enter`, and stays known,
  `Known.within`;
* `entries_are_permanent` — **what is stored is permanent, and to register it again is to do
  nothing**, whatever was registered in between.
-/

import Switchboard.Proofs.Registry.Representation
import Switchboard.Proofs.Registry.Separation

namespace Switchboard

/-! ### Answers -/

/-- A descriptor of either kind. -/
inductive Descriptor where
  | operation (operation : Operation)
  | route (route : Route)

/-- The descriptor that a registration brings. To mount an operation without a handler brings
none. -/
def Registration.descriptor? : Registration → Option Descriptor
  | .operation brought => some (.operation brought)
  | .placeholder description => some (.operation (Operation.placeholder description))
  | .route brought _ => some (.route brought)
  | .mounting declared mounted =>
    mounted.handler.map fun handler => .route (Registry.mountedRoute declared mounted handler)

namespace Registration

theorem descriptor?_of_operation {call : Registration} {operation : Operation}
    (brought : call.operation? = some operation) :
    call.descriptor? = some (.operation operation) := by
  cases call with
  | operation own => exact congrArg (Option.map Descriptor.operation) brought
  | placeholder description => exact congrArg (Option.map Descriptor.operation) brought
  | route route handler => cases brought
  | mounting declared operation => cases brought

theorem descriptor?_of_route {call : Registration} {route : Route} {handler : Handler}
    (brought : call.route? = some (route, handler)) : call.descriptor? = some (.route route) := by
  cases call with
  | operation operation => cases brought
  | placeholder description => cases brought
  | route own founding =>
    cases brought
    rfl
  | mounting declared operation =>
    obtain ⟨own, handled, same⟩ := Option.map_eq_some_iff.mp brought
    obtain ⟨rfl, rfl⟩ := Prod.mk.inj same
    exact Option.map_eq_some_iff.mpr ⟨own, handled, rfl⟩

end Registration

namespace Registry

/-- The stored descriptor with the kind and the identity of another. -/
def find? (registry : Registry) : Descriptor → Option Descriptor
  | .operation brought => (registry.get? brought.id).map .operation
  | .route brought => (registry.getRoute? brought.id).map .route

/-- The descriptor with which a registration is answered. -/
def answer? (registry : Registry) : Registration → Option Descriptor
  | .operation operation => some (.operation (registry.register operation).1)
  | .placeholder description => some (.operation (registry.registerNil description).1)
  | .route route handler => some (.route (registry.registerRoute route handler).1)
  | .mounting declared operation => (registry.mount declared operation).1.map .route

theorem getRoute?_registerRoute (registry : Registry) (route : Route) (handler : Handler) :
    (registry.registerRoute route handler).2.getRoute? route.id
      = some (registry.registerRoute route handler).1 := by
  unfold registerRoute
  cases stored : registry.getRoute? route.id with
  | some existing => exact stored
  | none => exact Json.lookup_insertMember route.id route registry.routes

/-- **A registration is answered with what is stored behind it** under its identity, and with
nothing if it brings nothing. -/
theorem find?_enter (registry : Registry) (call : Registration) :
    registry.answer? call = call.descriptor?.bind (registry.enter call).find? := by
  cases call with
  | operation operation =>
    exact congrArg (Option.map Descriptor.operation) (registry.get?_register operation).symm
  | placeholder description =>
    have stored := registry.get?_register (.placeholder description)
    exact congrArg (Option.map Descriptor.operation) stored.symm
  | route route handler =>
    have stored := registry.getRoute?_registerRoute route handler
    exact congrArg (Option.map Descriptor.route) stored.symm
  | mounting declared operation =>
    cases handled : operation.handler with
    | none => simp [answer?, Registration.descriptor?, mount, handled]
    | some handler =>
      have stored := registry.getRoute?_registerRoute (mountedRoute declared operation handler)
        handler
      simp [answer?, Registration.descriptor?, find?, enter, mount, handled, stored]

/-! ### One registry within a later one -/

/-- **What is in a registry is in a later one**, unchanged. -/
structure Within (before after : Registry) : Prop where
  operation : ∀ id operation, before.get? id = some operation → after.get? id = some operation
  route : ∀ id route, before.getRoute? id = some route → after.getRoute? id = some route
  handler : ∀ id handler, before.handler? id = some handler → after.handler? id = some handler
  enumerate : before.enumerate.Sublist after.enumerate
  routeList : before.routeList.Sublist after.routeList

namespace Within

theorem refl (registry : Registry) : registry.Within registry :=
  ⟨fun _ _ => id, fun _ _ => id, fun _ _ => id, .refl _, .refl _⟩

variable {first second third : Registry}

theorem trans (left : first.Within second) (right : second.Within third) : first.Within third where
  operation id operation stored := right.operation id operation (left.operation id operation stored)
  route id route stored := right.route id route (left.route id route stored)
  handler id handler held := right.handler id handler (left.handler id handler held)
  enumerate := left.enumerate.trans right.enumerate
  routeList := left.routeList.trans right.routeList

/-- A stored descriptor is the same one later. -/
theorem find? (within : first.Within second) {brought stored : Descriptor}
    (found : first.find? brought = some stored) : second.find? brought = some stored := by
  cases brought with
  | operation brought =>
    obtain ⟨existing, kept, rfl⟩ := Option.map_eq_some_iff.mp found
    exact Option.map_eq_some_iff.mpr ⟨existing, within.operation _ _ kept, rfl⟩
  | route brought =>
    obtain ⟨existing, kept, rfl⟩ := Option.map_eq_some_iff.mp found
    exact Option.map_eq_some_iff.mpr ⟨existing, within.route _ _ kept, rfl⟩

end Within

/-- **One registration and the stored operations**: an identity keeps its operation, and a free one
takes the operation that the registration brings. -/
theorem get?_enter (registry : Registry) (call : Registration) (id : String) :
    (registry.enter call).get? id
      = (registry.get? id).or (call.operation?.filter fun brought => decide (brought.id = id)) := by
  have made := Registration.entered registry call
  generalize registry.enter call = result at made ⊢
  cases made with
  | known operation _ =>
    cases stored : registry.get? id with
    | some kept => rfl
    | none =>
      cases brings : call.operation?.filter fun brought => decide (brought.id = id) with
      | none => rfl
      | some brought =>
        obtain ⟨own, named⟩ := Option.filter_eq_some_iff.mp brings
        have taken := operation brought own
        rw [of_decide_eq_true named, stored] at taken
        cases taken
  | operation operation brought _ free =>
    show (registry.operations ++ [(operation.id, operation)]).lookup id = _
    rw [List.lookup_append, brought]
    by_cases same : operation.id = id
    · subst same
      have absent : registry.operations.lookup operation.id = none := free
      simp [get?, absent, Option.filter_some]
    · have apart : (id == operation.id) = false := by simpa using Ne.symm same
      simp [get?, same, apart, List.lookup_cons, Option.filter_some]
  | route route handler _ alone =>
    rw [alone, Option.filter_none, Option.or_none]
    rfl

/-- **A registry grows** by one descriptor at most, the one that a registration brings. -/
structure Grows (before : Registry) (call : Registration) (after : Registry) : Prop where
  within : before.Within after
  operation : ∀ operation ∈ after.enumerate,
    operation ∈ before.enumerate ∨ call.descriptor? = some (.operation operation)
  route : ∀ route ∈ after.routeList,
    route ∈ before.routeList ∨ call.descriptor? = some (.route route)
  one : after.enumerate.length + after.routeList.length
    ≤ before.enumerate.length + before.routeList.length + 1

/-- **One registration** keeps what is there and adds its own descriptor at most. -/
theorem grows_enter {registry : Registry} (filed : registry.Filed) (call : Registration) :
    registry.Grows call (registry.enter call) := by
  have operations : ∀ id operation, registry.get? id = some operation →
      (registry.enter call).get? id = some operation := by
    intro id operation stored
    rw [get?_enter, stored]
    rfl
  have routes : ∀ id route, registry.getRoute? id = some route →
      (registry.enter call).getRoute? id = some route := by
    intro id route stored
    rw [getRoute?_enter filed, stored]
    rfl
  have handlers : ∀ id handler, registry.handler? id = some handler →
      (registry.enter call).handler? id = some handler :=
    fun id handler held => handler?_enter held call
  have made := Registration.entered registry call
  generalize registry.enter call = result at made operations routes handlers ⊢
  cases made with
  | known =>
    exact ⟨.refl _, fun _ => Or.inl, fun _ => Or.inl, Nat.le_succ _⟩
  | operation added brought =>
    have listed : (registry.addOperation added).enumerate.Perm (added :: registry.enumerate) :=
      Text.insertBy_perm _ _ _
    refine ⟨⟨operations, routes, handlers, Text.sublist_insertBy _ _ _, .refl _⟩, ?_,
      fun _ => Or.inl, ?_⟩
    · intro operation member
      rcases List.mem_cons.mp (listed.mem_iff.mp member) with rfl | old
      · exact Or.inr (Registration.descriptor?_of_operation brought)
      · exact Or.inl old
    · rw [listed.length_eq, List.length_cons]
      show _ + registry.routeList.length ≤ _
      omega
  | route added handler brought _ free =>
    have joined : (registry.addRoute added handler).routeList.Perm (added :: registry.routeList) :=
      (insertMember_perm free added).map Prod.snd
    have inserted : registry.routeList.Sublist (registry.addRoute added handler).routeList := by
      show (registry.routes.map Prod.snd).Sublist
        ((Json.insertMember added.id added registry.routes).map Prod.snd)
      rw [insertMember_eq_insertBy free]
      exact (Text.sublist_insertBy _ _ _).map _
    refine ⟨⟨operations, routes, handlers, .refl _, inserted⟩, fun _ => Or.inl, ?_, ?_⟩
    · intro route member
      rcases List.mem_cons.mp (joined.mem_iff.mp member) with rfl | old
      · exact Or.inr (Registration.descriptor?_of_route brought)
      · exact Or.inl old
    · rw [joined.length_eq, List.length_cons]
      show registry.enumerate.length + _ ≤ _
      omega

/-- **What is stored stays** behind any further registrations. -/
theorem within_after_append (earlier later : List Registration) :
    (after earlier).Within (after (earlier ++ later)) := by
  induction later using List.reverseRecOn with
  | nil =>
    rw [List.append_nil]
    exact .refl _
  | append_singleton later call hypothesis =>
    rw [← List.append_assoc, after_snoc]
    exact hypothesis.trans (grows_enter (filed_after _) call).within

end Registry

/-! ### Known registrations -/

/-- The identity of what the registration brings is taken. -/
def Registration.Known (call : Registration) (registry : Registry) : Prop :=
  ∀ brought, call.descriptor? = some brought → (registry.find? brought).isSome

namespace Registration

variable {call : Registration} {registry later : Registry}

/-- **A registration is known behind itself.** -/
theorem known_enter (registry : Registry) (call : Registration) :
    call.Known (registry.enter call) := by
  intro brought brings
  have answered := registry.find?_enter call
  rw [brings, Option.bind_some] at answered
  rw [← answered]
  cases call with
  | operation operation => rfl
  | placeholder description => rfl
  | route route handler => rfl
  | mounting declared operation =>
    obtain ⟨handler, handled, -⟩ := Option.map_eq_some_iff.mp brings
    simp [Registry.answer?, Registry.mount, handled]

/-- A known registration stays known. -/
theorem Known.within (known : call.Known registry) (within : registry.Within later) :
    call.Known later := by
  intro brought brings
  obtain ⟨stored, found⟩ := Option.isSome_iff_exists.mp (known brought brings)
  rw [within.find? found]
  rfl

/-- **A known registration changes nothing.** -/
theorem enter_of_known (known : call.Known registry) : registry.enter call = registry := by
  have made := Registration.entered registry call
  generalize registry.enter call = result at made ⊢
  cases made with
  | known => rfl
  | operation operation brought _ free =>
    have taken := known _ (descriptor?_of_operation brought)
    rw [Registry.find?, free] at taken
    cases taken
  | route route handler brought _ free =>
    have taken := known _ (descriptor?_of_route brought)
    rw [Registry.find?, free] at taken
    cases taken

/-- A known registration is answered with what is stored. -/
theorem answer?_of_known (known : call.Known registry) :
    registry.answer? call = call.descriptor?.bind registry.find? := by
  rw [Registry.find?_enter, enter_of_known known]

end Registration

namespace Registry

/-- **What is stored is permanent, and to register it again is to do nothing.** Behind any
registrations, whatever follows keeps every stored descriptor and every handler under its identity,
and each registration adds at most one descriptor, its own. One that was made before leaves the
whole registry as it is, and is answered once more with what it was answered the first time, which
is what is stored under its identity. To mount an operation without a handler answers nothing and
changes nothing. -/
theorem entries_are_permanent (earlier later : List Registration) :
    let registry := after (earlier ++ later)
    (after earlier).Within registry
      ∧ (∀ call, registry.Grows call (registry.enter call))
      ∧ (∀ front call back, earlier = front ++ call :: back →
        registry.enter call = registry
        ∧ registry.answer? call = call.descriptor?.bind registry.find?
        ∧ registry.answer? call = (after front).answer? call)
      ∧ ∀ declared operation, operation.handler = none →
        registry.mount declared operation = (none, registry) := by
  intro registry
  refine ⟨within_after_append earlier later, grows_enter (filed_after _), ?_, ?_⟩
  · rintro front call back rfl
    have within : ((after front).enter call).Within registry := by
      have kept := within_after_append (front ++ [call]) (back ++ later)
      rw [after_snoc, List.append_assoc, List.singleton_append, ← List.cons_append,
        ← List.append_assoc] at kept
      exact kept
    have known : call.Known registry := (Registration.known_enter (after front) call).within within
    have answered := Registration.answer?_of_known known
    refine ⟨Registration.enter_of_known known, answered, answered.trans ?_⟩
    rw [find?_enter]
    cases brings : call.descriptor? with
    | none => rfl
    | some brought =>
      obtain ⟨stored, found⟩ := Option.isSome_iff_exists.mp
        (Registration.known_enter (after front) call brought brings)
      rw [Option.bind_some, Option.bind_some, found, within.find? found]
  · intro declared operation missing
    exact registry.mount_of_no_handler declared missing

/-- An operation stays as it was registered when another one with its identity brings a parameter
and a handler of its own, and both are answered with it when they come back. -/
theorem entries_are_permanent_contested :
    ∃ first second : Operation,
      OperationSpec.build { types := ["GET"], handler := some ⟨"show", .skip⟩ } = .ok first
      ∧ OperationSpec.build
        { types := ["GET"]
          params := [{ name := "q", location := .query }]
          handler := some ⟨"show", .panic "second"⟩ } = .ok second
      ∧ first.params ≠ second.params
      ∧ let registry := after ([.operation first, .operation second] ++ [.mounting "/page" second])
        registry.get? first.id = some first
        ∧ registry.handler? first.id = some ⟨"show", .skip⟩
        ∧ registry.enter (.operation second) = registry
        ∧ registry.answer? (.operation second) = some (.operation first) := by
  obtain ⟨first, built, id, plain, own⟩ : ∃ first,
      OperationSpec.build { types := ["GET"], handler := some ⟨"show", .skip⟩ } = .ok first
      ∧ first.id = "show[][][GET]" ∧ first.params = [] ∧ first.handler = some ⟨"show", .skip⟩ :=
    ⟨_, rfl, rfl, rfl, rfl⟩
  obtain ⟨second, builtToo, idToo, asks⟩ : ∃ second,
      OperationSpec.build
        { types := ["GET"]
          params := [{ name := "q", location := .query }]
          handler := some ⟨"show", .panic "second"⟩ } = .ok second
      ∧ second.id = "show[][][GET]"
      ∧ second.params = [{ name := "q", location := .query }] := ⟨_, rfl, rfl, rfl⟩
  have same : first.id = second.id := id.trans idToo.symm
  obtain ⟨within, -, again, -⟩ := entries_are_permanent
    [.operation first, .operation second] [.mounting "/page" second]
  obtain ⟨unchanged, -, answered⟩ := again [.operation first] (.operation second) [] rfl
  have alone : after [.operation first, .operation second] = after [.operation first] :=
    congrArg Prod.snd (register_of_id_eq same)
  rw [alone] at within
  refine ⟨first, second, built, builtToo, ?_, ?_, ?_, unchanged, answered.trans ?_⟩
  · rw [plain, asks]
    exact List.cons_ne_nil _ _ ∘ Eq.symm
  · exact within.operation _ _ (get?_register {} first)
  · exact within.handler _ _ ((handler?_addOperation {} first first.id).trans (by
      rw [if_pos rfl, own]
      rfl))
  · exact congrArg (fun answer => some (Descriptor.operation answer.1)) (register_of_id_eq same)

end Registry

end Switchboard
