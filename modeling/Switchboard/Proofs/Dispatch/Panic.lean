/-
**What a panic leaves behind.**

A handler can panic anywhere: between two writes, inside a callback to which everything is lent, or
behind dispatches of its own. The wrappers go back into their pools all the same, and nothing of
what they hold comes out.

* `Dispatcher.Steady` — a relation between states of a dispatcher that looks past who is in charge;
  `Program.run_steady`, `Charge.handle_steady`: **a run keeps to it** where the dispatches inside
  the run do, or where there are none;
* `Pools.lentOut` — how many wrappers of each kind are lent; `lentOut_dispatch`: **no dispatch
  changes that**, however it ends;
* `Pools.release_congr` — pools look at the serial numbers of what they take back, and never at what
  it holds;
* `Cycle.lentToCallback` — a cycle whose wrappers have been emptied for a callback;
* `Pools.turnOver` — what one lease and its return make of pools; `pools_dispatch_of_flat`: **every
  flat cycle does just that**;
* `panic_publishes_nothing` — **a panic publishes nothing and costs nothing.**
-/

import Switchboard.Proofs.Dispatch.Accounts

namespace Switchboard

/-! ### What a run keeps -/

/-- **A relation between states of a dispatcher** that looks past who is in charge. -/
structure Dispatcher.Steady (related : Dispatcher → Dispatcher → Prop) : Prop where
  refl : ∀ dispatcher, related dispatcher dispatcher
  trans : ∀ {first second third}, related first second → related second third → related first third
  charge : ∀ dispatcher charge, related dispatcher { dispatcher with charge }

section Steady

variable {related : Dispatcher → Dispatcher → Prop} (steady : Dispatcher.Steady related)
  {serve : World → Http.Exchange → Served}

include steady

/-- **A run keeps to a steady relation**, unless a dispatch inside it does not. -/
theorem Program.run_steady (program : Program)
    (inside : program.Flat ∨ ∀ (world : World) (exchange : Http.Exchange),
      related world.dispatcher (serve world exchange).world.dispatcher)
    (cycle : Cycle) (world : World) :
    related world.dispatcher (program.run serve cycle world).world.dispatcher := by
  induction program generalizing cycle world with
  | done verdict => exact steady.refl _
  | panic message => exact steady.refl _
  | step op next hypothesis =>
    simp only [run]
    cases (op.perform cycle world).result with
    | ok answer =>
      have rest := hypothesis answer (inside.imp_left fun flat => flat answer)
        (op.perform cycle world).cycle (op.perform cycle world).world
      rw [op.perform_dispatcher] at rest
      exact rest
    | error abort =>
      show related world.dispatcher (op.perform cycle world).world.dispatcher
      rw [op.perform_dispatcher]
      exact steady.refl _
  | setHandler handler next _ hypothesis =>
    have rest := hypothesis (inside.imp_left And.right) cycle (world.setCharge (.program handler))
    exact steady.trans (steady.charge _ _) rest
  | dispatch exchange next hypothesis =>
    obtain flat | kept := inside
    · exact flat.elim
    · simp only [run]
      cases (serve world exchange).abort with
      | none => exact steady.trans (kept world exchange) (hypothesis _ (Or.inr kept) cycle _)
      | some abort => exact kept world exchange

/-- **Whatever is in charge of a cycle keeps to a steady relation**, unless a dispatch inside the
cycle does not. -/
theorem Charge.handle_steady (charge : Charge)
    (inside : charge.Flat ∨ ∀ (world : World) (exchange : Http.Exchange),
      related world.dispatcher (serve world exchange).world.dispatcher)
    (cycle : Cycle) (world : World) :
    related world.dispatcher (charge.handle serve cycle world).world.dispatcher := by
  cases found : charge.task? cycle with
  | none =>
    rw [handle_of_no_task found]
    exact steady.refl _
  | some pair =>
    obtain ⟨task, start⟩ := pair
    obtain ⟨before, handled⟩ := handle_of_task? found serve world
    rw [handled, settle_dispatcher]
    exact task.run_steady steady (inside.imp_left fun flat => flat_of_task? flat found) start world

end Steady

/-! ### How many wrappers are lent -/

namespace Wrapper.Pools

variable {pools : Pools}

/-- The number of wrappers that are lent, kind by kind. -/
def lentOut (pools : Pools) : List Nat :=
  [pools.requestFields.inUse, pools.url.inUse, pools.request.inUse, pools.responseFields.inUse,
    pools.response.inUse]

theorem lentOut_lease (pools : Pools) (exchange : Http.Exchange) :
    (pools.lease exchange).pools.lentOut = pools.lentOut.map (· + 1) := by
  simp only [lentOut, lease, Pool.inUse_acquire, List.map_cons, List.map_nil]

theorem lentOut_release {lease : Lease} (takes : pools.TakesBack lease) :
    (pools.release lease).lentOut = pools.lentOut.map (· - 1) := by
  obtain ⟨fields, -, fieldsBack⟩ := takes.requestFields
  obtain ⟨header, -, headerBack⟩ := takes.responseFields
  obtain ⟨url, -, urlBack⟩ := takes.url
  simp only [lentOut, Pool.inUse_of_release takes.request, Pool.inUse_of_release takes.response,
    Pool.inUse_of_release fieldsBack, Pool.inUse_of_release headerBack,
    Pool.inUse_of_release urlBack, List.map_cons, List.map_nil]

/-! ### What wrappers hold when they come back -/

theorem takeBack?_congr {α : Type} [Recycle α] {pool : Pool α}
    (forgets : ∀ first second : α, Recycle.recycle first = Recycle.recycle second)
    {first second : Option (Instance α)}
    (same : second.map Instance.serial = first.map Instance.serial) :
    takeBack? pool first = takeBack? pool second := by
  cases first with
  | none =>
    rw [Option.map_none, Option.map_eq_none_iff] at same
    rw [same]
  | some first =>
    obtain ⟨second, rfl, serial⟩ := Option.map_eq_some_iff.mp same
    exact Pool.takeBack_congr forgets serial

/-- **Pools never look at what the wrappers hold** that they take back. -/
theorem release_congr (pools : Pools) {first second : Lease} (same : first.SameSerials second) :
    pools.release first = pools.release second := by
  have fields := congrArg Prod.fst same.insideRequest
  have url := congrArg Prod.snd same.insideRequest
  unfold release
  rw [Pool.takeBack_congr (fun _ _ => rfl) same.request,
    Pool.takeBack_congr (fun _ _ => rfl) same.response, takeBack?_congr (fun _ _ => rfl) fields,
    takeBack?_congr (fun _ _ => rfl) same.insideResponse, takeBack?_congr (fun _ _ => rfl) url]

/-- What one lease and its return make of pools. -/
def turnOver (pools : Pools) : Pools :=
  (pools.lease {}).pools.release (pools.lease {}).lease

theorem release_lease {exchange : Http.Exchange} {lease : Lease}
    (same : (pools.lease exchange).lease.SameSerials lease) :
    (pools.lease exchange).pools.release lease = pools.turnOver := by
  -- no pool looks at the exchange when it lends
  have alike : (pools.lease {}).lease.SameSerials (pools.lease exchange).lease :=
    ⟨rfl, rfl, rfl, rfl⟩
  exact (release_congr _ (alike.trans same)).symm

end Wrapper.Pools

namespace Dispatcher

theorem steady_lentOut :
    Steady fun before after => after.pools.lentOut = before.pools.lentOut where
  refl _ := rfl
  trans left right := right.trans left
  charge _ _ := rfl

theorem steady_unmoved :
    Steady fun before after => after.pools = before.pools ∧ after.meters = before.meters where
  refl _ := ⟨rfl, rfl⟩
  trans left right := ⟨right.1.trans left.1, right.2.trans left.2⟩
  charge _ _ := ⟨rfl, rfl⟩

end Dispatcher

/-- A wrapper whose contents have been taken out. -/
def Wrapper.emptied {α : Type} [Recycle α] (item : Option (Instance α)) : Option (Instance α) :=
  item.map fun item => { item with value := Recycle.fresh }

theorem Wrapper.serial_emptied {α : Type} [Recycle α] (item : Option (Instance α)) :
    (emptied item).map Instance.serial = item.map Instance.serial := by
  cases item <;> rfl

namespace Cycle

/-- A cycle while a callback has what it lends: the fields of both messages, the target of the
request and the body of the response are out of their wrappers. -/
def lentToCallback (cycle : Cycle) : Cycle :=
  (cycle.setRequest
    { cycle.request with
      fields := Wrapper.emptied cycle.request.fields
      url := Wrapper.emptied cycle.request.url }).setResponse
    { cycle.response with
      body := []
      fields := Wrapper.emptied cycle.response.fields }

theorem sameSerials_lentToCallback (cycle : Cycle) :
    cycle.lease.SameSerials cycle.lentToCallback.lease where
  request := rfl
  response := rfl
  insideRequest := Prod.ext (Wrapper.serial_emptied _) (Wrapper.serial_emptied _)
  insideResponse := Wrapper.serial_emptied _

end Cycle

namespace World

/-- **No dispatch changes how many wrappers are lent**, however it ends and whatever is dispatched
inside it. -/
theorem lentOut_dispatch (depth : Nat) (world : World) (exchange : Http.Exchange) :
    (dispatch depth world exchange).world.dispatcher.pools.lentOut
      = world.dispatcher.pools.lentOut := by
  induction depth generalizing world exchange with
  | zero => rfl
  | succ depth hypothesis =>
    have inside : (world.handled (dispatch depth) exchange).world.dispatcher.pools.lentOut
        = (world.dispatcher.pools.lease exchange).pools.lentOut :=
      Charge.handle_steady Dispatcher.steady_lentOut world.dispatcher.charge (Or.inr hypothesis)
        (world.opened exchange) (world.entered exchange)
    obtain ⟨lent, complete, -⟩ := handled_lent (dispatch_keeps depth) world exchange
    show (dispatchWith _ world exchange).world.dispatcher.pools.lentOut = _
    rw [dispatchWith_eq, pools_conclude, Wrapper.Pools.lentOut_release (lent.takesBack complete),
      inside, Wrapper.Pools.lentOut_lease, List.map_map]
    exact List.map_id _

/-- A flat cycle leaves the pools and the counters of the dispatcher alone while it is handled. -/
theorem handled_of_flat (world : World) (flat : world.dispatcher.charge.Flat) (depth : Nat)
    (exchange : Http.Exchange) :
    (world.handled (dispatch depth) exchange).world.dispatcher.pools
        = (world.dispatcher.pools.lease exchange).pools
      ∧ (world.handled (dispatch depth) exchange).world.dispatcher.meters
        = (world.entered exchange).dispatcher.meters :=
  Charge.handle_steady Dispatcher.steady_unmoved world.dispatcher.charge (Or.inl flat)
    (world.opened exchange) (world.entered exchange)

/-- **All that a flat cycle does to the pools** is to lend one wrapper of each kind and to take it
back. -/
theorem pools_dispatch_of_flat (world : World) (flat : world.dispatcher.charge.Flat) (depth : Nat)
    (exchange : Http.Exchange) :
    (world.dispatch (depth + 1) exchange).world.dispatcher.pools
      = world.dispatcher.pools.turnOver := by
  have returns := Charge.handle_returns (dispatch_keeps depth) world.dispatcher.charge
    (world.opened exchange) (world.entered exchange)
  show (dispatchWith _ world exchange).world.dispatcher.pools = _
  rw [dispatchWith_eq, pools_conclude, (world.handled_of_flat flat depth exchange).1]
  exact Wrapper.Pools.release_lease returns.serials

/-- How a dispatch ends behind a handler that was cut short. -/
theorem conclude_of_error {exchange : Http.Exchange} {handled : Handled} {abort : Abort}
    (cut : handled.result = .error abort) :
    conclude exchange handled
      = { world :=
            handled.world.setPools (handled.world.dispatcher.pools.release handled.cycle.lease)
          exchange := vacated exchange
          abort := some abort } := by
  unfold conclude
  rw [cut]

/-- What the wrappers of a cycle hold is lost behind a handler that was cut short. -/
theorem conclude_congr {exchange : Http.Exchange} {handled : Handled} {abort : Abort}
    (cut : handled.result = .error abort) {lease : Wrapper.Lease}
    (same : handled.cycle.lease.SameSerials lease) :
    conclude exchange { handled with cycle := { handled.cycle with lease } }
      = conclude exchange handled := by
  have changed : { handled with cycle := { handled.cycle with lease } }.result = .error abort := cut
  rw [conclude_of_error changed, conclude_of_error cut,
    handled.world.dispatcher.pools.release_congr same]

end World

/-- **A panic publishes nothing and costs nothing.** Where the handler of a cycle panics, at any
point and in whatever dispatcher: the response has the status with which it came, no fields and no
body, and the cycle is not counted. The pools take all five wrappers back, and as many of each kind
are lent as before. It does not matter what the wrappers hold at that point, or whether their
contents are lent to a callback, and the pools are left as if the handler had returned there. Where
nothing is dispatched inside the cycle, no cycle at all is counted, and the pools are left as any
other flat handler leaves them with any other exchange. -/
theorem panic_publishes_nothing (world : World) (depth : Nat) (exchange : Http.Exchange)
    {message : String}
    (panics : (world.handled (World.dispatch depth) exchange).result = .error (.panic message)) :
    let handled := world.handled (World.dispatch depth) exchange
    let served := world.dispatch (depth + 1) exchange
    served.abort = some (.panic message)
      ∧ served.exchange.response
        = { status := exchange.response.status, header := {}, body := [] }
      ∧ served.world.dispatcher.meters = handled.world.dispatcher.meters
      ∧ handled.world.dispatcher.pools.TakesBack handled.cycle.lease
      ∧ world.dispatcher.pools.Keeps served.world.dispatcher.pools
      ∧ served.world.dispatcher.pools.lentOut = world.dispatcher.pools.lentOut
      ∧ (∀ lease, handled.cycle.lease.SameSerials lease →
        World.conclude exchange { handled with cycle := { handled.cycle with lease } } = served)
      ∧ served.world.dispatcher.pools
        = (World.conclude exchange { handled with result := .ok () }).world.dispatcher.pools
      ∧ (world.dispatcher.charge.Flat →
        served.world.dispatcher.meters.dispatches = world.dispatcher.meters.dispatches
        ∧ ∀ (calm : Charge) (depth' : Nat) (other : Http.Exchange), calm.Flat →
          served.world.dispatcher.pools
            = ((world.setCharge calm).dispatch (depth' + 1) other).world.dispatcher.pools) := by
  intro handled served
  have concluded : served = World.conclude exchange handled := rfl
  have cut : handled.result = .error (.panic message) := panics
  have ended := concluded.trans (World.conclude_of_error cut)
  obtain ⟨lent, complete, -⟩ := World.handled_lent (World.dispatch_keeps depth) world exchange
  refine ⟨?_, ?_, ?_, lent.takesBack complete, World.dispatch_keeps (depth + 1) world exchange,
    World.lentOut_dispatch (depth + 1) world exchange, fun lease => World.conclude_congr cut, ?_,
    ?_⟩
  · rw [ended]
  · rw [ended]
    rfl
  · rw [ended]
    rfl
  · rw [concluded, World.pools_conclude, World.pools_conclude]
  · intro flat
    obtain ⟨-, meters⟩ := world.handled_of_flat flat depth exchange
    constructor
    · rw [ended]
      exact (congrArg Meters.dispatches meters).trans (world.dispatches_entered exchange)
    · intro calm depth' other calmly
      rw [(world.setCharge calm).pools_dispatch_of_flat calmly]
      exact world.pools_dispatch_of_flat flat depth exchange

/-- A callback panics behind a field and a part of the body, with the contents of the wrappers in its
hands. -/
theorem panic_publishes_nothing_lent :
    let spoilt : Program :=
      .perform (.setField Http.contentType Http.plainText)
        (.perform (.write [1, 2, 3]) (.ofCallback fun _ => { outcome := .error "spoilt" }))
    let world := (World.new { prewarm := 1 }).setCharge (.program spoilt)
    let exchange : Http.Exchange := { response := { status := .notFound } }
    let handled := world.handled (World.dispatch 0) exchange
    let served := world.dispatch 1 exchange
    handled.result = .error (.panic "spoilt")
      ∧ served.exchange.response = { status := .notFound, header := {}, body := [] }
      ∧ served.world.dispatcher.meters.dispatches = []
      ∧ World.conclude exchange { handled with cycle := handled.cycle.lentToCallback } = served
      ∧ served.world.dispatcher.pools
        = ((world.setCharge .unset).dispatch 1 {}).world.dispatcher.pools := by
  intro spoilt world exchange handled served
  have panics : handled.result = .error (.panic "spoilt") := by decide +kernel
  have flat : world.dispatcher.charge.Flat := fun _ _ _ => trivial
  obtain ⟨-, response, -, -, -, -, whatever, -, flatly⟩ :=
    panic_publishes_nothing world 0 exchange panics
  obtain ⟨uncounted, alike⟩ := flatly flat
  exact ⟨panics, response, uncounted, whatever _ handled.cycle.sameSerials_lentToCallback,
    alike .unset 0 {} trivial⟩

end Switchboard
