/-
**What runs in a cycle.**

Whoever is in charge of a cycle either has a program for it, its task, or answers on the spot: a
program that takes every request is its own task, and a router has the handler of the route that
takes the request.

* `handle_of_task?`, `handle_of_no_task` — **a cycle runs its task**, and an error of the task
  becomes the response; without a task nothing runs, and the world is left with reports alone,
  `exists_report_of_no_task`;
* `Program.trace`, `Charge.trace` — what a run shows on its way, read off operation by operation;
* `World.dispatch_of_done`, `World.dispatch_of_failed`, `World.dispatch_of_aborted` — **how a
  dispatch ends** after its task;
* `Router.mem_of_resolve` — the handler that a router finds is one of its own;
* `Op.perform_dispatcher` — **no operation of a handler touches the dispatcher**: neither its pools,
  nor its meters, nor who is in charge.
-/

import Switchboard.Proofs.Dispatch.Lending
import Switchboard.Proofs.Routing.Reference

namespace Switchboard

/-! ### Tasks -/

namespace Charge

/-- The program that is run in a cycle, and the cycle with which it starts. -/
def task? (charge : Charge) (cycle : Cycle) : Option (Program × Cycle) :=
  match charge with
  | .unset => none
  | .program body => some (body, cycle)
  | .router table =>
    match table.resolve cycle.request.method cycle.request.uri.path with
    | .found matched handler captures =>
      some (handler.program, { cycle with routed := ⟨some matched, captures⟩ })
    | .methodNotAllowed _ => none
    | .notFound => none

theorem task?_router {table : Router} {cycle : Cycle} {matched : Route} {handler : Handler}
    {captures : Path.Captures}
    (found : table.resolve cycle.request.method cycle.request.uri.path
      = .found matched handler captures) :
    (Charge.router table).task? cycle
      = some (handler.program, { cycle with routed := ⟨some matched, captures⟩ }) := by
  simp only [task?, found]

/-- A task starts with the wrappers of its cycle. -/
theorem lease_of_task? {charge : Charge} {cycle start : Cycle} {program : Program}
    (task : charge.task? cycle = some (program, start)) : start.lease = cycle.lease := by
  cases charge with
  | unset => cases task
  | program body =>
    cases task
    rfl
  | router table =>
    simp only [task?] at task
    split at task
    · cases task
      rfl
    · cases task
    · cases task

theorem settle_dispatcher (ran : Ran) (before : HandlerError → List Event) :
    (settle ran before).world.dispatcher = ran.world.dispatcher := by
  unfold settle
  split <;> rfl

/-- **A cycle runs its task**, and an error becomes the response behind some reports. -/
theorem handle_of_task? {charge : Charge} {cycle start : Cycle} {program : Program}
    (task : charge.task? cycle = some (program, start))
    (serve : World → Http.Exchange → Served) (world : World) :
    ∃ before, charge.handle serve cycle world = settle (program.run serve start world) before := by
  cases charge with
  | unset => cases task
  | program body =>
    cases task
    exact ⟨_, rfl⟩
  | router table =>
    show ∃ before, route serve table cycle world = _
    simp only [task?] at task
    unfold route
    split at task
    · rename_i found
      cases task
      simp only [found]
      exact ⟨_, rfl⟩
    · cases task
    · cases task

/-- **A cycle without a task** leaves the world with some reports, and otherwise as it was. -/
theorem exists_report_of_no_task {charge : Charge} {cycle : Cycle}
    (none : charge.task? cycle = none) (serve : World → Http.Exchange → Served) (world : World) :
    ∃ events, (charge.handle serve cycle world).world = world.report events := by
  cases charge with
  | unset => exact ⟨_, rfl⟩
  | program body => cases none
  | router table =>
    show ∃ events, (route serve table cycle world).world = _
    simp only [task?] at none
    unfold route
    split at none
    · cases none
    · rename_i found
      simp only [found]
      exact ⟨_, rfl⟩
    · rename_i found
      simp only [found]
      exact ⟨_, congrArg (World.mk _ _ _) (List.append_assoc _ _ _)⟩

theorem handle_of_no_task {charge : Charge} {cycle : Cycle} (none : charge.task? cycle = none)
    (serve : World → Http.Exchange → Served) (world : World) :
    (charge.handle serve cycle world).world.dispatcher = world.dispatcher := by
  obtain ⟨events, reported⟩ := exists_report_of_no_task none serve world
  rw [reported]
  rfl

end Charge

theorem Router.mem_of_resolve {table : Router} {method : Http.Method} {path : String}
    {matched : Route} {handler : Handler} {captures : Path.Captures}
    (found : table.resolve method path = .found matched handler captures) :
    ∃ candidate ∈ table.routes, candidate.handler = handler := by
  unfold resolve at found
  rw [search_eq] at found
  split at found
  · rename_i candidate first
    cases found
    exact ⟨candidate, List.mem_of_find?_eq_some first, rfl⟩
  · exact absurd found (refuse_ne_found _ _ _ _)

/-! ### Traces -/

/-- **The trace of a run**: what each operation shows in the cycle and the world that it finds, and
what the dispatches inside the run show. -/
def Program.trace {α : Type} (serve : World → Http.Exchange → Served)
    (shown : Op → Cycle → World → List α) (nested : World → Http.Exchange → List α) :
    Program → Cycle → World → List α
  | .done _, _, _ => []
  | .panic _, _, _ => []
  | .step op next, cycle, world =>
    let stepped := op.perform cycle world
    shown op cycle world
      ++ match stepped.result with
        | .ok answer => trace serve shown nested (next answer) stepped.cycle stepped.world
        | .error _ => []
  | .setHandler handler next, cycle, world =>
    trace serve shown nested next cycle (world.setCharge (.program handler))
  | .dispatch exchange next, cycle, world =>
    let served := serve world exchange
    nested world exchange
      ++ match served.abort with
        | none => trace serve shown nested (next served.exchange) cycle served.world
        | some _ => []

/-- The trace of the task of a cycle, if it has one. -/
def Charge.trace {α : Type} (serve : World → Http.Exchange → Served)
    (shown : Op → Cycle → World → List α) (nested : World → Http.Exchange → List α)
    (charge : Charge) (cycle : Cycle) (world : World) : List α :=
  match charge.task? cycle with
  | some (task, start) => task.trace serve shown nested start world
  | none => []

/-! ### The end of a dispatch -/

namespace World

variable {world later : World} {exchange : Http.Exchange} {task : Program} {start onward : Cycle}
  {depth : Nat}

/-- **Where the task succeeds**, the dispatch gives back the response that it leaves. -/
theorem dispatch_of_done
    (found : world.dispatcher.charge.task? (world.opened exchange) = some (task, start))
    (ran : task.run (dispatch depth) start (world.entered exchange)
      = ⟨onward, later, .ok (.ok ())⟩) :
    (world.handled (dispatch depth) exchange).cycle = onward
      ∧ (world.dispatch (depth + 1) exchange).world.observations = later.observations
      ∧ (world.dispatch (depth + 1) exchange).abort = none
      ∧ (world.dispatch (depth + 1) exchange).exchange.response = onward.response.lend := by
  obtain ⟨before, handled⟩ :=
    Charge.handle_of_task? found (dispatch depth) (world.entered exchange)
  rw [ran] at handled
  replace handled : world.handled (dispatch depth) exchange = ⟨onward, later, .ok ()⟩ := handled
  rw [dispatch, dispatchWith_eq, handled]
  exact ⟨rfl, rfl, rfl, rfl⟩

/-- **Where the task fails**, the dispatch gives back what its error makes of the response, and
panics if the error overflows it. -/
theorem dispatch_of_failed {ran : Ran} {error : HandlerError}
    (found : world.dispatcher.charge.task? (world.opened exchange) = some (task, start))
    (runs : task.run (dispatch depth) start (world.entered exchange) = ran)
    (failed : ran.result = .ok (.error error)) :
    ((error.writeTo ran.cycle.response).overflow = false →
        (world.dispatch (depth + 1) exchange).abort = none
          ∧ (world.dispatch (depth + 1) exchange).exchange.response
            = (error.writeTo ran.cycle.response).response.lend)
      ∧ ((error.writeTo ran.cycle.response).overflow = true →
        (world.dispatch (depth + 1) exchange).abort = some (.panic Wrapper.overflowMessage)) := by
  obtain ⟨before, handled⟩ :=
    Charge.handle_of_task? found (dispatch depth) (world.entered exchange)
  rw [runs] at handled
  have settled : Charge.settle ran before = ran.cycle.afterWriting
      (ran.world.report (before error)) (error.writeTo ran.cycle.response) () := by
    unfold Charge.settle
    rw [failed]
  replace handled : world.handled (dispatch depth) exchange = _ := handled.trans settled
  rw [dispatch, dispatchWith_eq, handled]
  unfold conclude Cycle.afterWriting
  refine ⟨fun fits => ?_, fun overflows => ?_⟩
  · rw [fits]
    exact ⟨rfl, rfl⟩
  · rw [overflows]
    rfl

/-- **Where the task is cut short**, so is the dispatch. -/
theorem dispatch_of_aborted {abort : Abort}
    (found : world.dispatcher.charge.task? (world.opened exchange) = some (task, start))
    (ran : task.run (dispatch depth) start (world.entered exchange)
      = ⟨onward, later, .error abort⟩) :
    (world.dispatch (depth + 1) exchange).world.observations = later.observations
      ∧ (world.dispatch (depth + 1) exchange).abort = some abort := by
  obtain ⟨before, handled⟩ :=
    Charge.handle_of_task? found (dispatch depth) (world.entered exchange)
  rw [ran] at handled
  replace handled : world.handled (dispatch depth) exchange = ⟨onward, later, .error abort⟩ :=
    handled
  rw [dispatch, dispatchWith_eq, handled]
  exact ⟨rfl, rfl⟩

end World

/-! ### Operations and the dispatcher -/

theorem World.registerNil_dispatcher (world : World) (description : String) :
    (world.registerNil description).dispatcher = world.dispatcher := by
  unfold registerNil
  simp only
  split <;> rfl

/-- **No operation touches the dispatcher.** -/
theorem Op.perform_dispatcher (op : Op) (cycle : Cycle) (world : World) :
    (op.perform cycle world).world.dispatcher = world.dispatcher := by
  cases op with
  | native callback =>
    show (cycle.runCallback world callback).world.dispatcher = _
    unfold Cycle.runCallback
    simp only
    split <;> rfl
  | registerNil description => exact world.registerNil_dispatcher description
  | _ => rfl

end Switchboard
