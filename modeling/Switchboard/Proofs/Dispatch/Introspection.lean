/-
**The introspection endpoint.**

The handler that serves the catalog may be registered in the registry that it shows. The router that
finds it is a snapshot, but the catalog is that of the registry at the time of the request.

* `World.registered` — what the handlers of a dispatch register, those of the dispatches inside it
  included; `World.registry_dispatch` — **a dispatch leaves the registry that these make** of the
  one before it;
* `World.play`, `World.history` — registrations, routers put in charge and requests, one after
  another, and all that is registered on the way;
* `World.response_of_introspection` — **the response of the handler** is the text of the catalog;
* `introspection_is_live` — **whatever happened before a request**, the response shows exactly what
  was registered up to it.
-/

import Switchboard.Proofs.Dispatch.Failure
import Switchboard.Proofs.Registry.Catalog

namespace Switchboard

/-! ### What handlers register -/

/-- What an operation registers. -/
def Op.registered : Op → List Registration
  | .registerNil description => [.placeholder description]
  | _ => []

theorem World.registry_registerNil (world : World) (description : String) :
    (world.registerNil description).registry = (world.registry.registerNil description).2 := by
  unfold registerNil
  simp only
  split <;> rfl

theorem Op.registry_perform (op : Op) (cycle : Cycle) (world : World) :
    (op.perform cycle world).world.registry
      = op.registered.foldl Registry.enter world.registry := by
  cases op with
  | native callback =>
    show (cycle.runCallback world callback).world.registry = _
    unfold Cycle.runCallback
    simp only
    split <;> rfl
  | registerNil description => exact world.registry_registerNil description
  | _ => rfl

section Run

variable {serve : World → Http.Exchange → Served}
  {nested : World → Http.Exchange → List Registration}

/-- **A program leaves the registry** that what is registered on its way makes. -/
theorem Program.registry_run
    (inside : ∀ world exchange, (serve world exchange).world.registry
      = (nested world exchange).foldl Registry.enter world.registry)
    (program : Program) (cycle : Cycle) (world : World) :
    (program.run serve cycle world).world.registry
      = (program.trace serve (fun op _ _ => op.registered) nested cycle world).foldl
        Registry.enter world.registry := by
  induction program generalizing cycle world with
  | done verdict => rfl
  | panic message => rfl
  | step op next hypothesis =>
    rw [run, trace, List.foldl_append, ← op.registry_perform cycle world]
    cases (op.perform cycle world).result with
    | ok answer => exact hypothesis answer _ _
    | error abort => rfl
  | setHandler handler next _ hypothesis => exact hypothesis _ _
  | dispatch exchange next hypothesis =>
    rw [run, trace, List.foldl_append, ← inside]
    cases (serve world exchange).abort with
    | none => exact hypothesis _ _ _
    | some abort => rfl

theorem Charge.registry_settle (ran : Ran) (before : HandlerError → List Event) :
    (settle ran before).world.registry = ran.world.registry := by
  unfold settle
  split <;> rfl

theorem Charge.registry_handle
    (inside : ∀ world exchange, (serve world exchange).world.registry
      = (nested world exchange).foldl Registry.enter world.registry)
    (charge : Charge) (cycle : Cycle) (world : World) :
    (charge.handle serve cycle world).world.registry
      = (charge.trace serve (fun op _ _ => op.registered) nested cycle world).foldl
        Registry.enter world.registry := by
  unfold trace
  cases task : charge.task? cycle with
  | some found =>
    obtain ⟨program, start⟩ := found
    obtain ⟨before, handled⟩ := handle_of_task? task serve world
    rw [handled, registry_settle]
    exact program.registry_run inside start world
  | none =>
    obtain ⟨events, reported⟩ := exists_report_of_no_task task serve world
    rw [reported]
    rfl

end Run

namespace World

/-- What the handlers of a dispatch register, those of the dispatches inside it included. -/
def registered : Nat → World → Http.Exchange → List Registration
  | 0, _, _ => []
  | depth + 1, world, exchange =>
    world.dispatcher.charge.trace (dispatch depth) (fun op _ _ => op.registered) (registered depth)
      (world.opened exchange) (world.entered exchange)

/-- **A dispatch leaves the registry** that what is registered in it makes. -/
theorem registry_dispatch (depth : Nat) (world : World) (exchange : Http.Exchange) :
    (world.dispatch depth exchange).world.registry
      = (world.registered depth exchange).foldl Registry.enter world.registry := by
  induction depth generalizing world exchange with
  | zero => rfl
  | succ depth hypothesis =>
    have concluded : ∀ handled : Handled,
        (conclude exchange handled).world.registry = handled.world.registry := by
      intro handled
      unfold conclude
      split <;> rfl
    rw [dispatch, dispatchWith_eq, concluded]
    exact Charge.registry_handle hypothesis _ _ _

end World

/-! ### Histories -/

/-- What happens to a dispatcher and its registry. -/
inductive Episode where
  /-- something is registered -/
  | register (call : Registration)
  /-- a router of the routes that are registered is put in charge -/
  | route
  /-- an exchange is dispatched -/
  | serve (exchange : Http.Exchange)

namespace World

/-- The world behind an episode. -/
def play (world : World) : Episode → World
  | .register call => { world with registry := world.registry.enter call }
  | .route => world.setCharge (.router (Router.build world.registry []))
  | .serve exchange => (world.serve exchange).world

/-- The world behind some episodes. -/
def playAll (world : World) (episodes : List Episode) : World :=
  episodes.foldl play world

/-- What is registered in an episode. -/
def calls (world : World) : Episode → List Registration
  | .register call => [call]
  | .route => []
  | .serve exchange => world.registered nestingDepth exchange

/-- What is registered in some episodes, in order. -/
def history (world : World) : List Episode → List Registration
  | [] => []
  | episode :: rest => world.calls episode ++ (world.play episode).history rest

theorem registry_play (world : World) (episode : Episode) :
    (world.play episode).registry = (world.calls episode).foldl Registry.enter world.registry := by
  cases episode with
  | register call => rfl
  | route => rfl
  | serve exchange => exact registry_dispatch nestingDepth world exchange

/-- **The registry is what the whole history makes of it.** -/
theorem registry_playAll (world : World) (episodes : List Episode) :
    (world.playAll episodes).registry
      = (world.history episodes).foldl Registry.enter world.registry := by
  unfold playAll
  induction episodes generalizing world with
  | nil => rfl
  | cons episode rest hypothesis =>
    rw [List.foldl_cons, history, List.foldl_append, ← registry_play]
    exact hypothesis _

theorem registry_of_history (settings : PoolSettings) (episodes : List Episode) :
    ((World.new settings).playAll episodes).registry
      = Registry.after ((World.new settings).history episodes) :=
  registry_playAll (World.new settings) episodes

/-! ### The response -/

/-- **The introspection handler** writes the catalog as it stands, if there is room for its text. -/
theorem run_introspection (serve : World → Http.Exchange → Served) {world : World} {cycle : Cycle}
    (room : (cycle.response.writeJson .ok world.registry.catalog).overflow = false) :
    let written := cycle.response.writeJson .ok world.registry.catalog
    Handler.introspection.program.run serve cycle world
      = ⟨cycle.setResponse written.response, world.report written.events, .ok (.ok ())⟩ := by
  intro written
  have performed : (Op.writeJson .ok world.registry.catalog).perform cycle world
      = ⟨cycle.setResponse written.response, world.report written.events, .ok ()⟩ := by
    show cycle.afterWriting world written () = _
    unfold Cycle.afterWriting
    rw [show written.overflow = false from room]
    rfl
  unfold Handler.introspection
  rw [Program.run]
  show (Program.step (.writeJson .ok world.registry.catalog) fun _ => .skip).run serve cycle world
    = _
  rw [Program.run, performed]
  rfl

/-- **The response of the introspection handler** is the text of the catalog as it stands. -/
theorem response_of_introspection {world : World} {table : Router} {request : Http.Request}
    {matched : Route} {captures : Path.Captures}
    (charged : world.dispatcher.charge = .router table)
    (found : table.resolve request.method request.uri.path
      = .found matched .introspection captures)
    (fits : (Text.bytes world.registry.catalog.toText).length ≤ Text.greatestWord) (depth : Nat) :
    (world.dispatch (depth + 1) { request }).abort = none
      ∧ (world.dispatch (depth + 1) { request }).exchange.response
        = { status := .ok
            header := Http.Header.set {} Http.contentType Http.jsonText
            body := Text.bytes world.registry.catalog.toText } := by
  let start : Cycle := { world.opened { request } with routed := ⟨some matched, captures⟩ }
  have task : world.dispatcher.charge.task? (world.opened { request })
      = some (Handler.introspection.program, start) := by
    rw [charged]
    exact Charge.task?_router found
  obtain ⟨inside, complete⟩ :=
    (world.dispatcher.pools.lease_lent { request }).2.insideResponse
  obtain ⟨lends, overflow⟩ := Wrapper.Response.lend_writeAs_of_uncommitted
    (show start.response.committed = false from rfl) complete Http.jsonText .ok
    (Text.bytes world.registry.catalog.toText)
  have room : (start.response.writeJson .ok world.registry.catalog).overflow = false := by
    refine Bool.eq_false_iff.mpr fun overflows => overflow.mp overflows ?_
    show 0 + _ ≤ _
    rw [Nat.zero_add]
    exact fits
  have ran : Handler.introspection.program.run (dispatch depth) start
      (world.entered { request }) = _ := run_introspection (dispatch depth) room
  obtain ⟨-, -, ended, response⟩ := dispatch_of_done task ran
  -- the wrapper comes from the pool with an empty response in it
  have empty : start.response.lend = {} := rfl
  have header : start.response.header = {} := congrArg Http.Response.header empty
  have body : start.response.body = [] := congrArg Http.Response.body empty
  rw [header, body, List.nil_append] at lends
  have taken : ∀ response, (start.setResponse response).response = response := fun _ => rfl
  rw [taken] at response
  exact ⟨ended, response.trans lends⟩

end World

/-- The numbers in the formats of all parameters are integers. -/
def Registry.Integral (registry : Registry) : Prop :=
  ∀ param ∈ registry.params, Json.Every Json.Whole param.format.value

/-- The text of the catalog is read back by every reader that allows its nesting. -/
theorem Registry.Integral.parseWithin {registry : Registry} (integral : registry.Integral)
    {depth limit : Nat} (shallow : ∀ param ∈ registry.params, param.format.value.nesting < depth)
    (allowed : depth + 5 ≤ limit) :
    Json.parseWithin limit (Text.bytes registry.catalog.toText) = .ok registry.catalog := by
  have printable : Json.Printable (depth + 5) registry.catalog :=
    Registry.printable_catalog fun param member =>
      ⟨param.format.tidy, integral param member, shallow param member⟩
  exact Json.parseWithin_toText printable.tidy printable.whole
    (Nat.lt_of_lt_of_le printable.shallow allowed)

/-- **The introspection endpoint is live and faithful.** Let anything be registered, any exchange be
dispatched and any router be put in charge, in any order, and then let a request come for which the
router in charge, however old, finds the introspection handler. If the formats of the parameters
hold no doubles and the text of the catalog is one that a word can count, the response has the status
200 and says that it is JSON, and its body is the text of a catalog of all that was registered up to
the request: by the caller, and by handlers on the way. A reader of JSON finds this catalog in the
body if it allows enough nesting; one that opens at most 127 lists and objects around one another
does unless a format takes more than 122 of them. -/
theorem introspection_is_live (settings : PoolSettings) (episodes : List Episode) (depth : Nat)
    {table : Router} {request : Http.Request} {matched : Route} {captures : Path.Captures}
    (charged : ((World.new settings).playAll episodes).dispatcher.charge = .router table)
    (found : table.resolve request.method request.uri.path
      = .found matched .introspection captures)
    (integral : ((World.new settings).playAll episodes).registry.Integral)
    (fits : (Text.bytes ((World.new settings).playAll episodes).registry.catalog.toText).length
      ≤ Text.greatestWord) :
    let world := (World.new settings).playAll episodes
    let served := world.dispatch (depth + 1) { request }
    let body := served.exchange.response.body
    served.abort = none ∧ served.exchange.response.status = .ok
      ∧ served.exchange.response.header.getText? "content-type" = some "application/json"
      ∧ ∃ catalog operations routes,
        (∃ needed, ∀ limit, needed ≤ limit → Json.parseWithin limit body = .ok catalog)
          ∧ ((∀ param ∈ world.registry.params, param.format.value.nesting ≤ 122) →
            Json.parse body = .ok catalog)
          ∧ Registry.Catalogued ((World.new settings).history episodes) catalog operations
            routes := by
  intro world served body
  obtain ⟨ended, response⟩ := World.response_of_introspection charged found fits depth
  have status : served.exchange.response.status = .ok := congrArg Http.Response.status response
  have header : served.exchange.response.header
      = Http.Header.set {} Http.contentType Http.jsonText :=
    congrArg Http.Response.header response
  have text : body = Text.bytes world.registry.catalog.toText :=
    congrArg Http.Response.body response
  have typed : (Http.Header.set {} Http.contentType Http.jsonText).getText? "content-type"
      = some "application/json" := by decide +kernel
  rw [header, text]
  refine ⟨ended, status, typed, world.registry.catalog, world.registry.enumerate,
    world.registry.routeList,
    ⟨Json.itemsNesting (world.registry.params.map fun param => param.format.value) + 6, ?_⟩, ?_, ?_⟩
  · refine fun limit allowed => integral.parseWithin (fun param member => ?_) allowed
    exact Nat.lt_succ_of_le (Json.itemsNesting_le_iff.mp (Nat.le_refl _) _
      (List.mem_map_of_mem member))
  · intro shallow
    rw [Json.parse_eq_parseWithin]
    exact integral.parseWithin (fun param member => Nat.lt_succ_of_le (shallow param member))
      (show 123 + 5 ≤ Json.nestingLimit by decide)
  · rw [show world.registry = _ from World.registry_of_history settings episodes]
    exact Registry.catalogued_after _

/-- The catalog has a route, and a router of that route is in charge when an operation and a
placeholder are registered. A request is shown all three. -/
theorem introspection_is_live_later :
    let route := Route.assemble "routing::introspect" "/catalog" [.get] "" ["application/json"] []
    let format : Json.Stored :=
      .ofMembers [("é", ⟨.array [.integer 9, .string "\n"], by decide⟩)]
    let operation : Operation :=
      ⟨"later", "", [], [], [{ name := "n", location := .query, format }], "", none⟩
    let episodes : List Episode := [.register (.route route .introspection), .route,
      .register (.operation operation), .register (.placeholder "todo")]
    let world := (World.new {}).playAll episodes
    let request : Http.Request := { uri := ⟨none, "", "/catalog", none⟩ }
    let body := (world.dispatch 1 { request }).exchange.response.body
    ∃ table captures, world.dispatcher.charge = .router table
      ∧ table.resolve request.method request.uri.path = .found route .introspection captures
      ∧ world.registry.Integral
      ∧ (Text.bytes world.registry.catalog.toText).length ≤ Text.greatestWord
      ∧ ∃ catalog operations routes, Json.parse body = .ok catalog
        ∧ Registry.Catalogued [.route route .introspection, .operation operation,
          .placeholder "todo"] catalog operations routes := by
  intro route format operation episodes world request body
  have params : world.registry.params = operation.params := rfl
  have integral : world.registry.Integral := by
    unfold Registry.Integral
    rw [params]
    exact List.forall_mem_singleton.mpr (show Json.Every Json.Whole format.value by decide)
  have shallow : ∀ param ∈ world.registry.params, param.format.value.nesting ≤ 122 := by
    rw [params]
    exact List.forall_mem_singleton.mpr (by decide)
  have fits : (Text.bytes world.registry.catalog.toText).length ≤ Text.greatestWord := by
    decide +kernel
  have takes : route.Takes .get "/catalog" := ⟨by decide +kernel, by decide +kernel⟩
  let earlier := Registry.after [.route route .introspection]
  obtain ⟨captures, found⟩ : ∃ captures,
      (Router.build earlier []).resolve request.method request.uri.path
        = .found route .introspection captures :=
    Registry.resolve_of_lone (show earlier.routeList = [route] from rfl)
      (show earlier.handler? route.id = some .introspection from rfl) takes
  obtain ⟨-, -, -, catalog, operations, routes, -, parsed, catalogued⟩ :=
    introspection_is_live {} episodes 0 rfl found integral fits
  exact ⟨_, captures, rfl, found, integral, fits, catalog, operations, routes, parsed shallow,
    catalogued⟩

end Switchboard
