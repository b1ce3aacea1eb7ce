/-
**The bridge to callbacks of the transport.**

A callback of the transport knows nothing of wrappers: it is lent an exchange that is put together
from them, and what it leaves is taken apart again. Between two callbacks everything passes through
the wrappers, and the last response passes through them on its way back to the transport. Nothing is
lost or left behind on the way.

* `Callback.runAll` — the callbacks one after another, with no wrappers between them;
* `Program.lent` — the exchanges that a program lends to callbacks;
* `Cycle.Holds` — **the simulation**: the wrappers of a cycle hold an exchange, and lend that one;
* `Holds.runCallback`, `Holds.run_natives_of_ok` — a callback on wrappers does to the exchange they
  hold what it does directly, and so do callbacks in front of any program, by induction on their
  list;
* `bridge_is_transparent` — **dispatching a chain of callbacks is running them one after another.**
-/

import Switchboard.Proofs.Dispatch.Task

namespace Switchboard

/-! ### Callbacks without wrappers -/

namespace Callback

/-- Run callbacks one after another; one that panics is the last. -/
def runAll : List Callback → Http.Exchange → CallbackRun
  | [], exchange => { outcome := .ok exchange }
  | callback :: rest, exchange =>
    match (callback exchange).outcome with
    | .ok after =>
      { observed := (callback exchange).observed ++ (runAll rest after).observed
        outcome := (runAll rest after).outcome }
    | .error _ => callback exchange

/-- What each of the callbacks sees, as far as they come. -/
def sights : List Callback → Http.Exchange → List Http.Exchange
  | [], _ => []
  | callback :: rest, exchange =>
    exchange :: match (callback exchange).outcome with
      | .ok after => sights rest after
      | .error _ => []

variable {callback : Callback} {rest : List Callback} {exchange after : Http.Exchange}
  {message : String}

theorem runAll_cons_of_ok (ok : (callback exchange).outcome = .ok after) :
    runAll (callback :: rest) exchange
      = { observed := (callback exchange).observed ++ (runAll rest after).observed
          outcome := (runAll rest after).outcome } := by
  simp only [runAll, ok]

theorem runAll_cons_of_error (panicked : (callback exchange).outcome = .error message) :
    runAll (callback :: rest) exchange = callback exchange := by
  simp only [runAll, panicked]

theorem sights_cons_of_ok (ok : (callback exchange).outcome = .ok after) :
    sights (callback :: rest) exchange = exchange :: sights rest after := by
  simp only [sights, ok]

theorem sights_cons_of_error (panicked : (callback exchange).outcome = .error message) :
    sights (callback :: rest) exchange = [exchange] := by
  simp only [sights, panicked]

theorem length_sights_le (callbacks : List Callback) (exchange : Http.Exchange) :
    (sights callbacks exchange).length ≤ callbacks.length := by
  induction callbacks generalizing exchange with
  | nil => exact Nat.le_refl 0
  | cons callback rest hypothesis =>
    cases outcome : (callback exchange).outcome with
    | ok after =>
      rw [sights_cons_of_ok outcome]
      exact Nat.succ_le_succ (hypothesis after)
    | error message =>
      rw [sights_cons_of_error outcome]
      exact Nat.succ_le_succ (Nat.zero_le _)

/-- **A callback sees what those in front of it leave**, and nothing if one of them panics. -/
theorem getElem?_sights (callbacks : List Callback) (exchange : Http.Exchange) {position : Nat}
    (inside : position < callbacks.length) :
    (sights callbacks exchange)[position]?
      = (runAll (callbacks.take position) exchange).outcome.toOption := by
  induction callbacks generalizing exchange position with
  | nil => exact absurd inside (Nat.not_lt_zero _)
  | cons callback rest hypothesis =>
    cases position with
    | zero => rfl
    | succ position =>
      rw [List.take_succ_cons]
      cases outcome : (callback exchange).outcome with
      | ok after =>
        rw [sights_cons_of_ok outcome, runAll_cons_of_ok outcome, List.getElem?_cons_succ]
        exact hypothesis after (Nat.lt_of_succ_lt_succ inside)
      | error message =>
        rw [sights_cons_of_error outcome, runAll_cons_of_error outcome, outcome]
        rfl

end Callback

/-! ### What a program lends -/

/-- The exchange that the wrappers of a cycle lend. -/
def Cycle.lend (cycle : Cycle) : Http.Exchange :=
  ⟨cycle.request.lend, cycle.response.lend⟩

/-- The exchange that an operation lends to a callback. -/
def Op.lent (op : Op) (cycle : Cycle) : List Http.Exchange :=
  match op with
  | .native _ => [cycle.lend]
  | _ => []

/-- The exchanges that a program lends to callbacks in its own cycle. -/
def Program.lent (serve : World → Http.Exchange → Served) :
    Program → Cycle → World → List Http.Exchange :=
  trace serve (fun op cycle _ => op.lent cycle) fun _ _ => []

/-- The exchanges that are lent to callbacks in the cycle of a dispatch. -/
def World.lent (depth : Nat) (world : World) (exchange : Http.Exchange) : List Http.Exchange :=
  world.dispatcher.charge.trace (dispatch depth) (fun op cycle _ => op.lent cycle) (fun _ _ => [])
    (world.opened exchange) (world.entered exchange)

/-! ### Wrappers that hold an exchange -/

namespace Wrapper

theorem Request.lend_restore {request : Request} {fields url : Nat}
    (complete : request.serials = (some fields, some url)) (native : Http.Request) :
    (request.restore native).lend = native := by
  obtain ⟨method, version, body, peer, inside, target⟩ := request
  cases inside with
  | none => cases complete
  | some inside =>
    cases target with
    | none => cases complete
    | some target => rfl

theorem Response.lend_restore {response : Response} {fields : Nat}
    (complete : response.serial? = some fields) (native : Http.Response) :
    (response.restore native).lend = native := by
  obtain ⟨status, size, committed, body, inside⟩ := response
  cases inside with
  | none => cases complete
  | some inside => rfl

end Wrapper

namespace Cycle

/-- What a cycle is when a callback has left an exchange. -/
def takeOver (cycle : Cycle) (exchange : Http.Exchange) : Cycle :=
  (cycle.setRequest (cycle.request.restore exchange.request)).setResponse
    (cycle.response.restore exchange.response)

/-- **The wrappers of a cycle hold an exchange**, each of its parts. -/
structure Holds (cycle : Cycle) (exchange : Http.Exchange) : Prop where
  complete : cycle.lease.Complete
  lend : cycle.lend = exchange

/-- The size that the response wrapper keeps is the length of the response. -/
def Sized (cycle : Cycle) : Prop :=
  cycle.response.size = cycle.response.lend.contentLength

variable {cycle : Cycle} {exchange after : Http.Exchange} {callback : Callback}

/-- **What a callback leaves is what the wrappers hold next**, the size of its response too. -/
theorem Holds.takeOver (holds : cycle.Holds exchange) (after : Http.Exchange) :
    (cycle.takeOver after).Holds after ∧ (cycle.takeOver after).Sized := by
  obtain ⟨fields, url, insideRequest⟩ := holds.complete.insideRequest
  obtain ⟨header, insideResponse⟩ := holds.complete.insideResponse
  have request : (cycle.takeOver after).request.lend = after.request :=
    Wrapper.Request.lend_restore insideRequest after.request
  have response : (cycle.takeOver after).response.lend = after.response :=
    Wrapper.Response.lend_restore insideResponse after.response
  refine ⟨⟨⟨⟨fields, url, ?_⟩, header, ?_⟩, ?_⟩, ?_⟩
  · exact (cycle.request.serials_restore after.request).trans insideRequest
  · exact (cycle.response.serial?_restore after.response).trans insideResponse
  · exact congr (congrArg Http.Exchange.mk request) response
  · unfold Sized
    rw [response]
    rfl

/-- **A callback does to the wrappers what it does to the exchange they hold.** -/
theorem Holds.runCallback (holds : cycle.Holds exchange) (callback : Callback) (world : World) :
    cycle.runCallback world callback
      = match (callback exchange).outcome with
        | .ok after => ⟨cycle.takeOver after, world.observe (callback exchange).observed, .ok ()⟩
        | .error message =>
          ⟨cycle, world.observe (callback exchange).observed, .error (.panic message)⟩ := by
  obtain ⟨-, rfl⟩ := holds
  rfl

/-- The wrappers of a new cycle hold the exchange for which they are leased. -/
theorem holds_opened (world : World) (exchange : Http.Exchange) :
    (world.opened exchange).Holds exchange :=
  ⟨(world.dispatcher.pools.lease_lent exchange).2, rfl⟩

end Cycle

namespace World

theorem observe_nil (world : World) : world.observe [] = world := by
  simp only [observe, List.append_nil]

theorem observe_observe (world : World) (first second : List Json) :
    (world.observe first).observe second = world.observe (first ++ second) := by
  simp only [observe, List.append_assoc]

end World

/-! ### Chains of callbacks -/

namespace Program

/-- Run callbacks in front of a program. -/
def natives (callbacks : List Callback) (inner : Program) : Program :=
  callbacks.foldr (fun callback program => .perform (.native callback) program) inner

/-- A chain of wrappers that run callbacks is a program with callbacks in front. -/
theorem chain_ofCallback (front : List (String × Callback)) (symbol : String) (last : Callback) :
    (Middleware.chain (front.map fun link => .ofCallback link.1 link.2)
        ⟨symbol, ofCallback last⟩).program
      = natives (front.map Prod.snd ++ [last]) skip := by
  induction front with
  | nil => rfl
  | cons link rest hypothesis =>
    show perform (.native link.2) (Middleware.chain _ _).program = _
    rw [hypothesis]
    rfl

end Program

namespace Cycle.Holds

variable {cycle : Cycle} {callback : Callback} {callbacks : List Callback}
  {exchange after : Http.Exchange} {message : String}
  (serve : World → Http.Exchange → Served)

/-- Behind a callback a program goes on with what the callback left. -/
theorem run_native_of_ok (holds : cycle.Holds exchange)
    (ok : (callback exchange).outcome = .ok after) (inner : Program) (world : World) :
    (Program.perform (.native callback) inner).run serve cycle world
        = inner.run serve (cycle.takeOver after) (world.observe (callback exchange).observed)
      ∧ (Program.perform (.native callback) inner).lent serve cycle world
        = exchange :: inner.lent serve (cycle.takeOver after)
          (world.observe (callback exchange).observed) := by
  have stepped : (Op.native callback).perform cycle world
      = ⟨cycle.takeOver after, world.observe (callback exchange).observed, .ok ()⟩ := by
    show cycle.runCallback world callback = _
    rw [holds.runCallback, ok]
  refine ⟨?_, ?_⟩
  · simp only [Program.perform, Program.run, stepped]
  · simp only [Program.perform, Program.lent, Program.trace, Op.lent, stepped, holds.lend]
    rfl

/-- Behind a callback that panics nothing runs. -/
theorem run_native_of_error (holds : cycle.Holds exchange)
    (panicked : (callback exchange).outcome = .error message) (inner : Program) (world : World) :
    (Program.perform (.native callback) inner).run serve cycle world
        = ⟨cycle, world.observe (callback exchange).observed, .error (.panic message)⟩
      ∧ (Program.perform (.native callback) inner).lent serve cycle world = [exchange] := by
  have stepped : (Op.native callback).perform cycle world
      = ⟨cycle, world.observe (callback exchange).observed, .error (.panic message)⟩ := by
    show cycle.runCallback world callback = _
    rw [holds.runCallback, panicked]
  refine ⟨?_, ?_⟩
  · simp only [Program.perform, Program.run, stepped]
  · simp only [Program.perform, Program.lent, Program.trace, Op.lent, stepped, holds.lend,
      List.append_nil]

/-- **Callbacks in front of a program** leave it what they leave directly. -/
theorem run_natives_of_ok (holds : cycle.Holds exchange)
    (ok : (Callback.runAll callbacks exchange).outcome = .ok after) (inner : Program)
    (world : World) :
    ∃ onward : Cycle, onward.Holds after ∧ (cycle.Sized ∨ callbacks ≠ [] → onward.Sized)
      ∧ (Program.natives callbacks inner).run serve cycle world
        = inner.run serve onward (world.observe (Callback.runAll callbacks exchange).observed)
      ∧ (Program.natives callbacks inner).lent serve cycle world
        = Callback.sights callbacks exchange
          ++ inner.lent serve onward
            (world.observe (Callback.runAll callbacks exchange).observed) := by
  -- the cycle and the exchange that it holds go from callback to callback together
  induction callbacks generalizing cycle exchange world with
  | nil =>
    cases ok
    have same : world.observe [] = world := world.observe_nil
    refine ⟨cycle, holds, fun sized => sized.resolve_right (absurd rfl), ?_, ?_⟩
    · exact congrArg (inner.run serve cycle) same.symm
    · exact congrArg (inner.lent serve cycle) same.symm
  | cons callback rest hypothesis =>
    cases outcome : (callback exchange).outcome with
    | error message =>
      rw [Callback.runAll_cons_of_error outcome, outcome] at ok
      cases ok
    | ok between =>
      rw [Callback.runAll_cons_of_ok outcome] at ok ⊢
      rw [Callback.sights_cons_of_ok outcome, ← World.observe_observe]
      obtain ⟨held, sized⟩ := holds.takeOver between
      obtain ⟨onward, holdsLater, sizedLater, ran, lent⟩ :=
        hypothesis held ok (world.observe (callback exchange).observed)
      obtain ⟨first, seen⟩ :=
        holds.run_native_of_ok serve outcome (Program.natives rest inner) world
      refine ⟨onward, holdsLater, fun _ => sizedLater (.inl sized), ?_, ?_⟩
      · exact first.trans ran
      · exact seen.trans (congrArg (exchange :: ·) lent)

/-- **Callbacks of which one panics** end the program behind them. -/
theorem run_natives_of_error (holds : cycle.Holds exchange)
    (panicked : (Callback.runAll callbacks exchange).outcome = .error message) (inner : Program)
    (world : World) :
    (∃ onward, (Program.natives callbacks inner).run serve cycle world
        = ⟨onward, world.observe (Callback.runAll callbacks exchange).observed,
          .error (.panic message)⟩)
      ∧ (Program.natives callbacks inner).lent serve cycle world
        = Callback.sights callbacks exchange := by
  induction callbacks generalizing cycle exchange world with
  | nil => cases panicked
  | cons callback rest hypothesis =>
    cases outcome : (callback exchange).outcome with
    | error text =>
      rw [Callback.runAll_cons_of_error outcome] at panicked ⊢
      rw [Callback.sights_cons_of_error outcome]
      obtain ⟨first, seen⟩ :=
        holds.run_native_of_error serve panicked (Program.natives rest inner) world
      exact ⟨⟨cycle, first⟩, seen⟩
    | ok between =>
      rw [Callback.runAll_cons_of_ok outcome] at panicked ⊢
      rw [Callback.sights_cons_of_ok outcome, ← World.observe_observe]
      obtain ⟨⟨onward, ran⟩, lent⟩ := hypothesis (holds.takeOver between).1 panicked
        (world.observe (callback exchange).observed)
      obtain ⟨first, seen⟩ :=
        holds.run_native_of_ok serve outcome (Program.natives rest inner) world
      exact ⟨⟨onward, first.trans ran⟩, seen.trans (congrArg (exchange :: ·) lent)⟩

end Cycle.Holds

/-! ### Dispatches of callbacks -/

/-- **A dispatch does what callbacks do directly**: it makes the same observations, and gives back
the same response or panics alike. The wrappers of its cycle hold what the callbacks left, with the
status and the length of the response. -/
structure World.Mirrors (world : World) (depth : Nat) (exchange : Http.Exchange)
    (direct : CallbackRun) : Prop where
  observed : (world.dispatch (depth + 1) exchange).world.observations
    = world.observations ++ direct.observed
  response : ∀ after, direct.outcome = .ok after →
    (world.dispatch (depth + 1) exchange).abort = none
      ∧ (world.dispatch (depth + 1) exchange).exchange.response = after.response
  wrappers : ∀ after, direct.outcome = .ok after →
    (world.handled (dispatch depth) exchange).cycle.lend = after
      ∧ (world.handled (dispatch depth) exchange).cycle.responseView.status = after.response.status
      ∧ (world.handled (dispatch depth) exchange).cycle.responseView.size
        = after.response.contentLength
  panic : ∀ message, direct.outcome = .error message →
    (world.dispatch (depth + 1) exchange).abort = some (.panic message)

namespace World

theorem lent_of_task? {world : World} {exchange : Http.Exchange} {task : Program} {start : Cycle}
    (found : world.dispatcher.charge.task? (world.opened exchange) = some (task, start))
    (depth : Nat) :
    world.lent depth exchange = task.lent (dispatch depth) start (world.entered exchange) := by
  simp only [lent, Charge.trace, found]
  rfl

/-- **The task of a cycle starts with wrappers that hold its exchange.** -/
theorem holds_of_task? {world : World} {exchange : Http.Exchange} {task : Program} {start : Cycle}
    (found : world.dispatcher.charge.task? (world.opened exchange) = some (task, start)) :
    start.Holds exchange := by
  obtain ⟨complete, lend⟩ := Cycle.holds_opened world exchange
  have same := Charge.lease_of_task? found
  refine ⟨same ▸ complete, ?_⟩
  rw [← lend]
  simp only [Cycle.lend, Cycle.request, Cycle.response, same]

/-- **A task of callbacks** does what they do directly, and lends what they see directly. -/
theorem mirrors_natives {world : World} {exchange : Http.Exchange} {callbacks : List Callback}
    {start : Cycle} (nonempty : callbacks ≠ [])
    (found : world.dispatcher.charge.task? (world.opened exchange)
      = some (Program.natives callbacks .skip, start)) (depth : Nat) :
    world.Mirrors depth exchange (Callback.runAll callbacks exchange)
      ∧ world.lent depth exchange = Callback.sights callbacks exchange := by
  have holds := holds_of_task? found
  rw [lent_of_task? found]
  cases outcome : (Callback.runAll callbacks exchange).outcome with
  | ok after =>
    obtain ⟨onward, held, sized, ran, lent⟩ :=
      holds.run_natives_of_ok (dispatch depth) outcome .skip (world.entered exchange)
    obtain ⟨cycle, observed, ended, response⟩ := dispatch_of_done found ran
    have lends : onward.response.lend = after.response := congrArg Http.Exchange.response held.lend
    refine ⟨⟨observed, ?_, ?_, ?_⟩, lent.trans (List.append_nil _)⟩
    · rw [outcome]
      rintro _ ⟨⟩
      exact ⟨ended, response.trans lends⟩
    · rw [outcome, cycle]
      rintro _ ⟨⟩
      refine ⟨held.lend, congrArg Http.Response.status lends, ?_⟩
      exact (sized (.inr nonempty)).trans (congrArg Http.Response.contentLength lends)
    · rw [outcome]
      rintro _ ⟨⟩
  | error message =>
    obtain ⟨⟨onward, ran⟩, lent⟩ :=
      holds.run_natives_of_error (dispatch depth) outcome .skip (world.entered exchange)
    obtain ⟨observed, aborted⟩ := dispatch_of_aborted found ran
    refine ⟨⟨observed, ?_, ?_, ?_⟩, lent⟩
    · rw [outcome]
      rintro _ ⟨⟩
    · rw [outcome]
      rintro _ ⟨⟩
    · rw [outcome]
      rintro _ ⟨⟩
      exact aborted

/-- **A cycle in which nothing is done** gives back the response as it came. -/
theorem response_of_idle {world : World} {exchange : Http.Exchange}
    (idle : world.dispatcher.charge = .unset
      ∨ ∃ start, world.dispatcher.charge.task? (world.opened exchange) = some (.skip, start))
    (depth : Nat) :
    (world.dispatch (depth + 1) exchange).abort = none
      ∧ (world.dispatch (depth + 1) exchange).exchange.response = exchange.response := by
  rcases idle with unset | ⟨start, found⟩
  · rw [dispatch, dispatchWith_eq]
    unfold handled
    rw [unset]
    exact ⟨rfl, rfl⟩
  · have ran : Program.skip.run (dispatch depth) start (world.entered exchange)
        = ⟨start, world.entered exchange, .ok (.ok ())⟩ := rfl
    obtain ⟨-, -, ended, response⟩ := dispatch_of_done found ran
    exact ⟨ended, response.trans (congrArg Http.Exchange.response (holds_of_task? found).lend)⟩

end World

/-- **The bridge is transparent.** Let the task of a cycle be a chain of callbacks, one wrapped as a
handler and the others around it, whether it is in charge itself or reached by a route. Then each of
them sees exactly what the callbacks in front of it make of the exchange, and the dispatch gives
back the response that all of them leave, with the status and the length of it in the wrappers.
Where nothing is done, the response is given back as it came. -/
theorem bridge_is_transparent (world : World) (depth : Nat) (exchange : Http.Exchange) :
    (∀ (front : List (String × Callback)) (symbol : String) (last : Callback) (start : Cycle),
      let callbacks := front.map Prod.snd ++ [last]
      let handler := Middleware.chain (front.map fun link => .ofCallback link.1 link.2)
        ⟨symbol, .ofCallback last⟩
      world.dispatcher.charge.task? (world.opened exchange) = some (handler.program, start) →
        (∀ position < callbacks.length, (world.lent depth exchange)[position]?
          = (Callback.runAll (callbacks.take position) exchange).outcome.toOption)
        ∧ (world.lent depth exchange).length ≤ callbacks.length
        ∧ world.Mirrors depth exchange (Callback.runAll callbacks exchange))
      ∧ (world.dispatcher.charge = .unset
          ∨ (∃ start, world.dispatcher.charge.task? (world.opened exchange)
            = some (.skip, start)) →
        (world.dispatch (depth + 1) exchange).abort = none
          ∧ (world.dispatch (depth + 1) exchange).exchange.response = exchange.response) := by
  refine ⟨?_, fun idle => world.response_of_idle idle depth⟩
  intro front symbol last start callbacks handler found
  rw [Program.chain_ofCallback] at found
  have some : callbacks ≠ [] := List.append_ne_nil_of_right_ne_nil _ (List.cons_ne_nil _ _)
  obtain ⟨mirrors, lent⟩ := World.mirrors_natives some found depth
  rw [lent]
  exact ⟨fun position inside => Callback.getElem?_sights callbacks exchange inside,
    Callback.length_sights_le callbacks exchange, mirrors⟩

/-- Two callbacks on a route, of which the second sees what the first left, and a route on which
nothing is done. -/
theorem bridge_is_transparent_routed :
    let first : Callback := fun exchange =>
      { outcome := .ok { exchange with request.body := [1], response.body := [2] } }
    let last : Callback := fun exchange =>
      { outcome := .ok { exchange with
          response.status := .notFound
          response.body := exchange.response.body ++ exchange.request.body } }
    let handler := Middleware.chain [.ofCallback "first" first] ⟨"last", .ofCallback last⟩
    let route := Route.assemble "last" "/" [] "" [] []
    let world (handler : Handler) : World :=
      (World.new {}).setCharge (.router ⟨[⟨.compile "/", route, handler⟩]⟩)
    (∃ start, (world handler).dispatcher.charge.task? ((world handler).opened {})
        = some (handler.program, start))
      ∧ ((world handler).lent 0 {})[1]?
        = some { request := { body := [1] }, response := { body := [2] } }
      ∧ ((world handler).dispatch 1 {}).exchange.response = { status := .notFound, body := [2, 1] }
      ∧ (∃ start, (world ⟨"last", .skip⟩).dispatcher.charge.task?
        ((world ⟨"last", .skip⟩).opened {}) = some (.skip, start))
      ∧ ((world ⟨"last", .skip⟩).dispatch 1 {}).exchange.response = {} := by
  intro first last handler route world
  have taken (handler : Handler) :
      (Router.mk [⟨.compile "/", route, handler⟩]).resolve .get "/" = .found route handler [] := rfl
  have found (handler : Handler) : ∃ start,
      (world handler).dispatcher.charge.task? ((world handler).opened {})
        = some (handler.program, start) :=
    ⟨_, Charge.task?_router (taken handler)⟩
  obtain ⟨start, task⟩ := found handler
  obtain ⟨seen, -, mirrors⟩ := (bridge_is_transparent (world handler) 0 {}).1
    [("first", first)] "last" last start task
  have second := seen 1 (by decide)
  have response := (mirrors.response _ rfl).2
  have idle := (bridge_is_transparent (world ⟨"last", .skip⟩) 0 {}).2 (.inr (found _))
  rw [Nat.zero_add] at response idle
  exact ⟨⟨start, task⟩, second, response, found _, idle.2⟩

end Switchboard
