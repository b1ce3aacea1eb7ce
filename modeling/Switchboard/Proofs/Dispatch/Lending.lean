/-
**Wrappers that are lent come back.**

* `Op.perform_lends` — no operation of a handler touches the pools or swaps a wrapper;
* `Pools.Keeps` — two states of the pools between which everything lent has come back;
* `dispatch_keeps` — **a dispatch brings all five wrappers back**, however it ends and whatever is
  dispatched inside it;
* `Pools.TakesBack`, `Lent.takesBack` — the pools take the wrappers of a cycle back without a
  complaint;
* `Dispatcher.sound_after` — **the pools of a dispatcher are sound** behind any cycles whatever.
-/

import Switchboard.Proofs.Pool.Sound
import Switchboard.Server.Dispatch

namespace Switchboard

namespace Wrapper

/-! ### The serial numbers of a lease -/

/-- The serial number of the header wrapper inside a response wrapper. -/
def Response.serial? (response : Response) : Option Nat :=
  response.fields.map Instance.serial

/-- The serial numbers of the wrappers inside a request wrapper. -/
def Request.serials (request : Request) : Option Nat × Option Nat :=
  (request.fields.map Instance.serial, request.url.map Instance.serial)

namespace Request

theorem serials_restore (request : Request) (native : Http.Request) :
    (request.restore native).serials = request.serials := by
  unfold restore serials
  cases request.fields <;> cases request.url <;> rfl

theorem serials_queryPairs (request : Request) : request.queryPairs.2.serials = request.serials := by
  obtain ⟨method, version, body, peer, fields, url⟩ := request
  cases url <;> rfl

end Request

namespace Response

theorem serial?_mapHeader (response : Response) (change : Http.Header → Http.Header) :
    (response.mapHeader change).serial? = response.serial? := by
  unfold mapHeader serial?
  cases response.fields <;> rfl

theorem serial?_restore (response : Response) (native : Http.Response) :
    (response.restore native).serial? = response.serial? := by
  unfold restore serial?
  cases response.fields <;> rfl

theorem serial?_writeHeader (response : Response) (status : Http.Status) :
    (response.writeHeader status).response.serial? = response.serial? := by
  unfold writeHeader
  split <;> rfl

theorem serial?_write (response : Response) (data : List UInt8) :
    (response.write data).response.serial? = response.serial? := by
  unfold write
  by_cases committed : response.committed = true
  · simp only [if_pos committed]
    split <;> rfl
  · simp only [if_neg committed]
    split
    · exact serial?_writeHeader response .ok
    · exact serial?_writeHeader response .ok

theorem serial?_writeAs (response : Response) (type : Http.FieldValue) (status : Http.Status)
    (data : List UInt8) :
    (response.writeAs type status data).response.serial? = response.serial? := by
  show (((response.setField Http.contentType type).writeHeader status).response.write
    data).response.serial? = _
  rw [serial?_write, serial?_writeHeader]
  exact serial?_mapHeader response _

end Response

/-- The serial numbers of the wrappers of a cycle. -/
structure Lease.SameSerials (first second : Lease) : Prop where
  request : second.request.serial = first.request.serial
  response : second.response.serial = first.response.serial
  insideRequest : second.request.value.serials = first.request.value.serials
  insideResponse : second.response.value.serial? = first.response.value.serial?

namespace Lease.SameSerials

theorem refl (lease : Lease) : lease.SameSerials lease :=
  ⟨rfl, rfl, rfl, rfl⟩

theorem trans {first second third : Lease} (left : first.SameSerials second)
    (right : second.SameSerials third) : first.SameSerials third :=
  ⟨right.request.trans left.request, right.response.trans left.response,
    right.insideRequest.trans left.insideRequest, right.insideResponse.trans left.insideResponse⟩

end Lease.SameSerials

end Wrapper

/-! ### Operations -/

/-- What an operation leaves has the wrappers and the pools that it found. -/
structure Stepped.Lends {α : Type} (stepped : Stepped α) (cycle : Cycle) (world : World) :
    Prop where
  serials : cycle.lease.SameSerials stepped.cycle.lease
  pools : stepped.world.dispatcher.pools = world.dispatcher.pools

namespace Cycle

theorem sameSerials_setRequest (cycle : Cycle) {request : Wrapper.Request}
    (same : request.serials = cycle.request.serials) :
    cycle.lease.SameSerials (cycle.setRequest request).lease :=
  ⟨rfl, rfl, same, rfl⟩

theorem sameSerials_setResponse (cycle : Cycle) {response : Wrapper.Response}
    (same : response.serial? = cycle.response.serial?) :
    cycle.lease.SameSerials (cycle.setResponse response).lease :=
  ⟨rfl, rfl, rfl, same⟩

theorem lends_afterWriting {α : Type} (cycle : Cycle) (world : World) {written : Wrapper.Written}
    (same : written.response.serial? = cycle.response.serial?) (answer : α) :
    (cycle.afterWriting world written answer).Lends cycle world :=
  ⟨cycle.sameSerials_setResponse same, rfl⟩

theorem lends_runCallback (cycle : Cycle) (world : World) (callback : Callback) :
    (cycle.runCallback world callback).Lends cycle world := by
  unfold runCallback
  obtain ⟨observed, outcome⟩ := callback ⟨cycle.request.lend, cycle.response.lend⟩
  cases outcome with
  | ok exchange =>
    refine ⟨?_, rfl⟩
    have request := cycle.sameSerials_setRequest
      (cycle.request.serials_restore exchange.request)
    exact request.trans ((cycle.setRequest _).sameSerials_setResponse
      (cycle.response.serial?_restore exchange.response))
  | error message => exact ⟨.refl _, rfl⟩

end Cycle

/-- **No operation touches the pools or swaps a wrapper.** -/
theorem Op.perform_lends (op : Op) (cycle : Cycle) (world : World) :
    (op.perform cycle world).Lends cycle world := by
  have fixed : ∀ {α : Type} (world' : World) (result : Except Abort α),
      world'.dispatcher.pools = world.dispatcher.pools →
      (Stepped.mk cycle world' result).Lends cycle world :=
    fun world' result same => ⟨.refl _, same⟩
  cases op with
  | request => exact fixed world _ rfl
  | queryPairs => exact ⟨cycle.sameSerials_setRequest cycle.request.serials_queryPairs, rfl⟩
  | routed => exact fixed world _ rfl
  | response => exact fixed world _ rfl
  | writeHeader status =>
    exact cycle.lends_afterWriting world (cycle.response.serial?_writeHeader status) _
  | write data => exact cycle.lends_afterWriting world (cycle.response.serial?_write data) _
  | writeText status text =>
    exact cycle.lends_afterWriting world (cycle.response.serial?_writeAs _ status _) _
  | writeJson status value =>
    exact cycle.lends_afterWriting world (cycle.response.serial?_writeAs _ status _) _
  | setField name value =>
    exact ⟨cycle.sameSerials_setResponse (cycle.response.serial?_mapHeader _), rfl⟩
  | addField name value =>
    exact ⟨cycle.sameSerials_setResponse (cycle.response.serial?_mapHeader _), rfl⟩
  | removeField name =>
    exact ⟨cycle.sameSerials_setResponse (cycle.response.serial?_mapHeader _), rfl⟩
  | native callback => exact cycle.lends_runCallback world callback
  | observe entry => exact fixed _ _ rfl
  | poolStats => exact fixed world _ rfl
  | catalog => exact fixed world _ rfl
  | registerNil description =>
    refine fixed _ _ ?_
    show (if _ then _ else _ : World).dispatcher.pools = _
    split <;> rfl

/-! ### Programs -/

namespace Wrapper.Pools

/-- All five pools are sound. -/
structure Sound (pools : Pools) : Prop where
  request : pools.request.Sound
  response : pools.response.Sound
  requestFields : pools.requestFields.Sound
  responseFields : pools.responseFields.Sound
  url : pools.url.Sound

/-- **Everything that was lent between two states has come back**, and nothing else has. -/
structure Keeps (before after : Pools) : Prop where
  sound : before.Sound → after.Sound
  request : after.request.leased = before.request.leased
  response : after.response.leased = before.response.leased
  requestFields : after.requestFields.leased = before.requestFields.leased
  responseFields : after.responseFields.leased = before.responseFields.leased
  url : after.url.leased = before.url.leased

namespace Keeps

theorem refl (pools : Pools) : pools.Keeps pools :=
  ⟨id, rfl, rfl, rfl, rfl, rfl⟩

theorem of_eq {before after : Pools} (same : after = before) : before.Keeps after :=
  same ▸ refl after

theorem trans {first second third : Pools} (left : first.Keeps second)
    (right : second.Keeps third) : first.Keeps third where
  sound := fun sound => right.sound (left.sound sound)
  request := right.request.trans left.request
  response := right.response.trans left.response
  requestFields := right.requestFields.trans left.requestFields
  responseFields := right.responseFields.trans left.responseFields
  url := right.url.trans left.url

end Keeps

end Wrapper.Pools

/-- What a run leaves has the wrappers that it found, and everything else that was lent is back. -/
structure Stepped.Returns {α : Type} (stepped : Stepped α) (cycle : Cycle) (world : World) :
    Prop where
  serials : cycle.lease.SameSerials stepped.cycle.lease
  pools : world.dispatcher.pools.Keeps stepped.world.dispatcher.pools

theorem Stepped.Lends.returns {α : Type} {stepped : Stepped α} {cycle : Cycle} {world : World}
    (lends : stepped.Lends cycle world) : stepped.Returns cycle world :=
  ⟨lends.serials, .of_eq lends.pools⟩

theorem Stepped.Returns.trans {α β : Type} {first : Stepped α} {second : Stepped β}
    {cycle : Cycle} {world : World} (left : first.Returns cycle world)
    (right : second.Returns first.cycle first.world) : second.Returns cycle world :=
  ⟨left.serials.trans right.serials, left.pools.trans right.pools⟩

section Served

variable {serve : World → Http.Exchange → Served}
  (kept : ∀ (world : World) (exchange : Http.Exchange),
    world.dispatcher.pools.Keeps (serve world exchange).world.dispatcher.pools)

include kept

/-- **A run brings back whatever is lent inside it** and swaps no wrapper of its cycle. -/
theorem Program.run_returns (program : Program) (cycle : Cycle) (world : World) :
    (program.run serve cycle world).Returns cycle world := by
  induction program generalizing cycle world with
  | done verdict => exact ⟨.refl _, .refl _⟩
  | panic message => exact ⟨.refl _, .refl _⟩
  | step op next hypothesis =>
    have lends := (op.perform_lends cycle world).returns
    simp only [run]
    cases (op.perform cycle world).result with
    | ok answer => exact lends.trans (hypothesis answer _ _)
    | error abort => exact ⟨lends.serials, lends.pools⟩
  | setHandler handler next _ hypothesis =>
    have rest := hypothesis cycle (world.setCharge (.program handler))
    exact ⟨rest.serials, rest.pools⟩
  | dispatch exchange next hypothesis =>
    simp only [run]
    cases (serve world exchange).abort with
    | none =>
      have rest := hypothesis (serve world exchange).exchange cycle (serve world exchange).world
      exact ⟨rest.serials, (kept world exchange).trans rest.pools⟩
    | some abort => exact ⟨.refl _, kept world exchange⟩

namespace Charge

omit kept in
theorem settle_returns {ran : Ran} {cycle : Cycle} {world : World}
    (returns : ran.Returns cycle world) (before : HandlerError → List Event) :
    (settle ran before).Returns cycle world := by
  unfold settle
  split
  · exact ⟨returns.serials, returns.pools⟩
  · exact ⟨returns.serials, returns.pools⟩
  · rename_i error _
    refine returns.trans (Stepped.Lends.returns ?_)
    have same : (error.writeTo ran.cycle.response).response.serial?
        = ran.cycle.response.serial? := by
      unfold HandlerError.writeTo
      split
      · rfl
      · exact ran.cycle.response.serial?_writeAs _ _ _
    have lends := ran.cycle.lends_afterWriting (ran.world.report (before error)) same ()
    exact ⟨lends.serials, lends.pools⟩

omit kept in
theorem refuseMethod_returns (cycle : Cycle) (world : World) (allow : List Http.Method) :
    (refuseMethod cycle world allow).Returns cycle world := by
  refine Stepped.Lends.returns (cycle.lends_afterWriting world ?_ ())
  split
  · rename_i value _
    exact ((cycle.response.setField Http.allow value).serial?_writeAs _ _ _).trans
      (cycle.response.serial?_mapHeader _)
  · exact cycle.response.serial?_writeAs _ _ _

/-- **Whatever is in charge brings back what is lent inside its cycle.** -/
theorem handle_returns (charge : Charge) (cycle : Cycle) (world : World) :
    (charge.handle serve cycle world).Returns cycle world := by
  cases charge with
  | unset => exact ⟨.refl _, .refl _⟩
  | program body => exact settle_returns (body.run_returns kept cycle world) _
  | router table =>
    show (route serve table cycle world).Returns cycle world
    unfold route
    simp only
    split
    · rename_i matched handler captures _
      refine settle_returns ?_ _
      have ran := handler.program.run_returns kept
        { cycle with routed := ⟨some matched, captures⟩ } world
      exact ⟨ran.serials, ran.pools⟩
    · exact refuseMethod_returns cycle world _
    · have lends := cycle.lends_afterWriting
        (world.report [.noRoute cycle.request.method cycle.request.uri.path])
        (cycle.response.serial?_writeAs Http.plainText .notFound (Text.bytes "Not Found")) ()
      exact ⟨lends.serials, .of_eq lends.pools⟩

end Charge

end Served

/-! ### Leasing and releasing -/

namespace Wrapper

/-- No wrapper is missing inside the other two. -/
structure Lease.Complete (lease : Lease) : Prop where
  insideRequest : ∃ fields url, lease.request.value.serials = (some fields, some url)
  insideResponse : ∃ fields, lease.response.value.serial? = some fields

theorem Lease.Complete.transfer {first second : Lease} (complete : first.Complete)
    (same : first.SameSerials second) : second.Complete where
  insideRequest := same.insideRequest ▸ complete.insideRequest
  insideResponse := same.insideResponse ▸ complete.insideResponse

namespace Pools

/-- **The wrappers of a lease are what was lent** between two states. -/
structure Lent (before after : Pools) (lease : Lease) : Prop where
  request : after.request.leased = lease.request.serial :: before.request.leased
  response : after.response.leased = lease.response.serial :: before.response.leased
  requestFields : after.requestFields.leased
    = lease.request.value.serials.1.toList ++ before.requestFields.leased
  responseFields : after.responseFields.leased
    = lease.response.value.serial?.toList ++ before.responseFields.leased
  url : after.url.leased = lease.request.value.serials.2.toList ++ before.url.leased

/-- What was lent stays lent while everything else comes back and no wrapper is swapped. -/
theorem Lent.transfer {before after later : Pools} {lease changed : Lease}
    (lent : before.Lent after lease) (keeps : after.Keeps later)
    (same : lease.SameSerials changed) : before.Lent later changed where
  request := by rw [keeps.request, same.request, lent.request]
  response := by rw [keeps.response, same.response, lent.response]
  requestFields := by rw [keeps.requestFields, same.insideRequest, lent.requestFields]
  responseFields := by rw [keeps.responseFields, same.insideResponse, lent.responseFields]
  url := by rw [keeps.url, same.insideRequest, lent.url]

/-- **Leasing lends the wrappers of the lease**, all five of them. -/
theorem lease_lent (pools : Pools) (exchange : Http.Exchange) :
    pools.Lent (pools.lease exchange).pools (pools.lease exchange).lease
      ∧ (pools.lease exchange).lease.Complete :=
  ⟨⟨pools.request.leased_acquire, pools.response.leased_acquire,
    pools.requestFields.leased_acquire, pools.responseFields.leased_acquire,
    pools.url.leased_acquire⟩, ⟨_, _, rfl⟩, ⟨_, rfl⟩⟩

theorem Sound.lease {pools : Pools} (sound : pools.Sound) (exchange : Http.Exchange) :
    (pools.lease exchange).pools.Sound :=
  ⟨sound.request.acquire, sound.response.acquire, sound.requestFields.acquire,
    sound.responseFields.acquire, sound.url.acquire⟩

theorem sound_takeBack? {α : Type} [Recycle α] {pool : Pool α} (sound : pool.Sound)
    (item : Option (Instance α)) : (takeBack? pool item).Sound := by
  cases item with
  | none => exact sound
  | some item => exact sound.takeBack item

/-- Releasing keeps pools sound, whatever is released. -/
theorem Sound.release {pools : Pools} (sound : pools.Sound) (lease : Lease) :
    (pools.release lease).Sound :=
  ⟨sound.request.takeBack _, sound.response.takeBack _, sound_takeBack? sound.requestFields _,
    sound_takeBack? sound.responseFields _, sound_takeBack? sound.url _⟩

/-- Taking back what was lent last leaves the ledger from before. -/
theorem leased_takeBack?_of_lent {α : Type} [Recycle α] {pool : Pool α}
    {item : Option (Instance α)} {rest : List Nat}
    (lent : pool.leased = (item.map Instance.serial).toList ++ rest) :
    (takeBack? pool item).leased = rest := by
  cases item with
  | none => exact lent
  | some item =>
    show (pool.takeBack item).leased = rest
    rw [Pool.leased_takeBack, lent]
    exact List.erase_cons_head _ _

/-- **Releasing the wrappers of a lease leaves the ledgers from before.** -/
theorem Lent.release {before after : Pools} {lease : Lease} (lent : before.Lent after lease)
    (sound : before.Sound → after.Sound) : before.Keeps (after.release lease) where
  sound := fun soundBefore => (sound soundBefore).release lease
  request := by
    show (after.request.takeBack lease.request).leased = _
    rw [Pool.leased_takeBack, lent.request, List.erase_cons_head]
  response := by
    show (after.response.takeBack lease.response).leased = _
    rw [Pool.leased_takeBack, lent.response, List.erase_cons_head]
  requestFields := leased_takeBack?_of_lent lent.requestFields
  responseFields := leased_takeBack?_of_lent lent.responseFields
  url := leased_takeBack?_of_lent lent.url

/-- The pools take all five wrappers of a lease back without a complaint. -/
structure TakesBack (pools : Pools) (lease : Lease) : Prop where
  request : pools.request.release lease.request = .ok (pools.release lease).request
  response : pools.response.release lease.response = .ok (pools.release lease).response
  requestFields : ∃ fields, lease.request.value.fields = some fields
    ∧ pools.requestFields.release fields = .ok (pools.release lease).requestFields
  responseFields : ∃ fields, lease.response.value.fields = some fields
    ∧ pools.responseFields.release fields = .ok (pools.release lease).responseFields
  url : ∃ url, lease.request.value.url = some url
    ∧ pools.url.release url = .ok (pools.release lease).url

theorem exists_release_of_lent {α : Type} [Recycle α] {pool : Pool α}
    {item : Option (Instance α)} {serial : Nat} {rest : List Nat}
    (there : item.map Instance.serial = some serial)
    (lent : pool.leased = (item.map Instance.serial).toList ++ rest) :
    ∃ value, item = some value ∧ pool.release value = .ok (takeBack? pool item) := by
  obtain ⟨value, rfl, _⟩ := Option.map_eq_some_iff.mp there
  refine ⟨value, rfl, Pool.release_of_leased ?_⟩
  rw [lent]
  exact List.mem_cons_self

/-- **What was lent is taken back.** -/
theorem Lent.takesBack {before after : Pools} {lease : Lease} (lent : before.Lent after lease)
    (complete : lease.Complete) : after.TakesBack lease := by
  obtain ⟨fields, url, inside⟩ := complete.insideRequest
  obtain ⟨header, insideResponse⟩ := complete.insideResponse
  refine ⟨Pool.release_of_leased ?_, Pool.release_of_leased ?_,
    exists_release_of_lent (congrArg Prod.fst inside) lent.requestFields,
    exists_release_of_lent insideResponse lent.responseFields,
    exists_release_of_lent (congrArg Prod.snd inside) lent.url⟩
  · rw [lent.request]
    exact List.mem_cons_self
  · rw [lent.response]
    exact List.mem_cons_self

/-- No wrapper of a lease is lent already. -/
structure Unlent (pools : Pools) (lease : Lease) : Prop where
  request : lease.request.serial ∉ pools.request.leased
  response : lease.response.serial ∉ pools.response.leased
  requestFields : ∀ serial ∈ lease.request.value.serials.1, serial ∉ pools.requestFields.leased
  responseFields : ∀ serial ∈ lease.response.value.serial?, serial ∉ pools.responseFields.leased
  url : ∀ serial ∈ lease.request.value.serials.2, serial ∉ pools.url.leased

/-- **Sound pools lease wrappers that nobody holds.** -/
theorem Sound.unlent_lease {pools : Pools} (sound : pools.Sound) (exchange : Http.Exchange) :
    pools.Unlent (pools.lease exchange).lease where
  request := sound.request.not_mem_leased_acquire
  response := sound.response.not_mem_leased_acquire
  requestFields := by
    rintro serial ⟨⟩
    exact sound.requestFields.not_mem_leased_acquire
  responseFields := by
    rintro serial ⟨⟩
    exact sound.responseFields.not_mem_leased_acquire
  url := by
    rintro serial ⟨⟩
    exact sound.url.not_mem_leased_acquire

/-- **New pools are sound.** -/
theorem sound_new (settings : PoolSettings) : (new settings).Sound :=
  ⟨(Pool.sound_empty _ _).prewarm _, (Pool.sound_empty _ _).prewarm _,
    (Pool.sound_empty _ _).prewarm _, (Pool.sound_empty _ _).prewarm _,
    (Pool.sound_empty _ _).prewarm _⟩

end Pools

end Wrapper

/-! ### Dispatches -/

namespace World

/-- The world in which the handler of a cycle starts. -/
def entered (world : World) (exchange : Http.Exchange) : World :=
  (world.setPools (world.dispatcher.pools.lease exchange).pools).mapMeters
    (·.recordBuilt (world.dispatcher.pools.lease exchange).built)

/-- The cycle with which the handler starts. -/
def opened (world : World) (exchange : Http.Exchange) : Cycle :=
  { lease := (world.dispatcher.pools.lease exchange).lease }

/-- What the handler in charge leaves of its cycle. -/
def handled (serve : World → Http.Exchange → Served) (world : World) (exchange : Http.Exchange) :
    Handled :=
  world.dispatcher.charge.handle serve (world.opened exchange) (world.entered exchange)

/-- How a dispatch ends behind its handler. -/
def conclude (exchange : Http.Exchange) (handled : Handled) : Served :=
  let released :=
    handled.world.setPools (handled.world.dispatcher.pools.release handled.cycle.lease)
  let response := handled.cycle.response.lend
  match handled.result with
  | .ok () =>
    { world := released.mapMeters (·.recordDispatch exchange.request.method response.status)
      exchange := { vacated exchange with response } }
  | .error abort => { world := released, exchange := vacated exchange, abort := some abort }

/-- **A dispatch** enters its cycle, lets the handler run and concludes. -/
theorem dispatchWith_eq (serve : World → Http.Exchange → Served) (world : World)
    (exchange : Http.Exchange) :
    world.dispatchWith serve exchange = conclude exchange (world.handled serve exchange) := rfl

theorem pools_conclude (exchange : Http.Exchange) (handled : Handled) :
    (conclude exchange handled).world.dispatcher.pools
      = handled.world.dispatcher.pools.release handled.cycle.lease := by
  unfold conclude
  cases handled.result <;> rfl

/-- **The wrappers of a cycle are still lent when its handler has ended**, all five of them, and
everything else is back. -/
theorem handled_lent {serve : World → Http.Exchange → Served}
    (kept : ∀ (world : World) (exchange : Http.Exchange),
      world.dispatcher.pools.Keeps (serve world exchange).world.dispatcher.pools)
    (world : World) (exchange : Http.Exchange) :
    world.dispatcher.pools.Lent (world.handled serve exchange).world.dispatcher.pools
        (world.handled serve exchange).cycle.lease
      ∧ (world.handled serve exchange).cycle.lease.Complete
      ∧ (world.dispatcher.pools.Sound →
        (world.handled serve exchange).world.dispatcher.pools.Sound) := by
  have returns := Charge.handle_returns kept world.dispatcher.charge (world.opened exchange)
    (world.entered exchange)
  obtain ⟨lent, complete⟩ := world.dispatcher.pools.lease_lent exchange
  refine ⟨lent.transfer returns.pools returns.serials, complete.transfer returns.serials, ?_⟩
  intro sound
  exact returns.pools.sound (sound.lease exchange)

/-- **A dispatch brings back all that it lends**, however it ends and whatever is dispatched
inside it. -/
theorem dispatch_keeps (depth : Nat) (world : World) (exchange : Http.Exchange) :
    world.dispatcher.pools.Keeps (dispatch depth world exchange).world.dispatcher.pools := by
  induction depth generalizing world exchange with
  | zero => exact .refl _
  | succ depth hypothesis =>
    -- what is dispatched inside the cycle is nested one level less
    obtain ⟨lent, _, sound⟩ := handled_lent hypothesis world exchange
    show world.dispatcher.pools.Keeps (dispatchWith _ world exchange).world.dispatcher.pools
    rw [dispatchWith_eq, pools_conclude]
    exact lent.release sound

end World

/-! ### Dispatchers with a history -/

/-- A turn in the life of a dispatcher. -/
inductive Turn where
  /-- somebody is put in charge -/
  | charge (charge : Charge)
  /-- a cycle, in some surroundings -/
  | cycle (registry : Registry) (depth : Nat) (exchange : Http.Exchange)

namespace Dispatcher

/-- A new dispatcher. -/
def new (settings : PoolSettings) : Dispatcher :=
  { pools := .new settings }

/-- What a turn makes of a dispatcher. -/
def turn (dispatcher : Dispatcher) : Turn → Dispatcher
  | .charge charge => { dispatcher with charge }
  | .cycle registry depth exchange =>
    (World.dispatch depth { dispatcher, registry } exchange).world.dispatcher

/-- What turns make of a new dispatcher. -/
def after (settings : PoolSettings) (turns : List Turn) : Dispatcher :=
  turns.foldl turn (new settings)

theorem turn_keeps (dispatcher : Dispatcher) (turn : Turn) :
    dispatcher.pools.Keeps (dispatcher.turn turn).pools := by
  cases turn with
  | charge charge => exact .refl _
  | cycle registry depth exchange =>
    exact World.dispatch_keeps depth { dispatcher, registry } exchange

/-- **Between turns nothing is lent**, and the pools are sound. -/
theorem after_keeps (settings : PoolSettings) (turns : List Turn) :
    (Wrapper.Pools.new settings).Keeps (after settings turns).pools := by
  -- the fold starts at the new dispatcher, so the induction is over all dispatchers
  have onward : ∀ (turns : List Turn) (dispatcher : Dispatcher),
      dispatcher.pools.Keeps (turns.foldl turn dispatcher).pools := by
    intro turns
    induction turns with
    | nil => exact fun dispatcher => .refl _
    | cons first rest hypothesis =>
      exact fun dispatcher => (dispatcher.turn_keeps first).trans (hypothesis _)
  exact onward turns (new settings)

theorem sound_after (settings : PoolSettings) (turns : List Turn) :
    (after settings turns).pools.Sound :=
  (after_keeps settings turns).sound (Wrapper.Pools.sound_new settings)

end Dispatcher

end Switchboard
