/-
**Running a program in a cycle.**

A cycle holds the leased wrappers and what routing found out. Each operation of a program changes
the cycle and the world and answers; a panic, of the program, of a callback, or of an addition that
does not fit, ends the run at once and leaves the rest undone.

* `run_andThen`: following up a program runs it first, and the follow-up in what it left.
-/

import Switchboard.Server.World

namespace Switchboard

/-- One dispatch cycle. -/
structure Cycle where
  lease : Wrapper.Lease
  routed : Routed := {}

/-- Why a run was cut short. -/
inductive Abort where
  /-- something panicked with a message -/
  | panic (message : String)
  /-- dispatches were nested too deeply -/
  | tooDeep
deriving DecidableEq, Repr

/-- What an operation leaves, with its answer unless it was cut short. -/
structure Stepped (α : Type) where
  cycle : Cycle
  world : World
  result : Except Abort α

/-- What a run leaves, with its verdict unless it was cut short. -/
abbrev Ran := Stepped Verdict

/-- What a dispatch of its own leaves: the world, and the exchange unless it was cut short. -/
structure Served where
  world : World
  exchange : Http.Exchange
  abort : Option Abort := none

namespace Cycle

/-- The request wrapper. -/
def request (cycle : Cycle) : Wrapper.Request :=
  cycle.lease.request.value

/-- The response wrapper. -/
def response (cycle : Cycle) : Wrapper.Response :=
  cycle.lease.response.value

/-- Put another state into the request wrapper. -/
def setRequest (cycle : Cycle) (request : Wrapper.Request) : Cycle :=
  { cycle with
    lease := { cycle.lease with request := { cycle.lease.request with value := request } } }

/-- Put another state into the response wrapper. -/
def setResponse (cycle : Cycle) (response : Wrapper.Response) : Cycle :=
  { cycle with
    lease := { cycle.lease with response := { cycle.lease.response with value := response } } }

/-- The readable state of the request. -/
def requestView (cycle : Cycle) : RequestView :=
  { method := cycle.request.method
    version := cycle.request.version
    uri := cycle.request.uri
    header := cycle.request.header
    body := cycle.request.body
    peer := cycle.request.peer }

/-- The readable state of the response. -/
def responseView (cycle : Cycle) : ResponseView :=
  { status := cycle.response.status
    size := cycle.response.size
    committed := cycle.response.committed
    body := cycle.response.body
    header := cycle.response.header }

/-- Take over what an operation made of the response. -/
def afterWriting (cycle : Cycle) (world : World) (written : Wrapper.Written) (answer : α) :
    Stepped α :=
  { cycle := cycle.setResponse written.response
    world := world.report written.events
    result := if written.overflow then .error (.panic Wrapper.overflowMessage) else .ok answer }

/-- Lend request and response to a callback and take back what it leaves. -/
def runCallback (cycle : Cycle) (world : World) (callback : Callback) : Stepped Unit :=
  let ran := callback ⟨cycle.request.lend, cycle.response.lend⟩
  let observed := world.observe ran.observed
  match ran.outcome with
  | .ok exchange =>
    { cycle :=
        (cycle.setRequest (cycle.request.restore exchange.request)).setResponse
          (cycle.response.restore exchange.response)
      world := observed
      result := .ok () }
  | .error message => { cycle, world := observed, result := .error (.panic message) }

end Cycle

/-- Perform one operation. -/
def Op.perform (op : Op) (cycle : Cycle) (world : World) : Stepped op.Answer :=
  match op with
  | .request => ⟨cycle, world, .ok cycle.requestView⟩
  | .queryPairs =>
    let (pairs, wrapper) := cycle.request.queryPairs
    ⟨cycle.setRequest wrapper, world, .ok pairs⟩
  | .routed => ⟨cycle, world, .ok cycle.routed⟩
  | .response => ⟨cycle, world, .ok cycle.responseView⟩
  | .writeHeader status => cycle.afterWriting world (cycle.response.writeHeader status) ()
  | .write data => cycle.afterWriting world (cycle.response.write data) data.length
  | .writeText status text => cycle.afterWriting world (cycle.response.writeText status text) ()
  | .writeJson status value => cycle.afterWriting world (cycle.response.writeJson status value) ()
  | .setField name value => ⟨cycle.setResponse (cycle.response.setField name value), world, .ok ()⟩
  | .addField name value => ⟨cycle.setResponse (cycle.response.addField name value), world, .ok ()⟩
  | .removeField name =>
    let (first, wrapper) := cycle.response.removeField name
    ⟨cycle.setResponse wrapper, world, .ok first⟩
  | .native callback => cycle.runCallback world callback
  | .observe entry => ⟨cycle, world.observe [entry], .ok ()⟩
  | .poolStats => ⟨cycle, world, .ok world.dispatcher.pools.stats⟩
  | .catalog => ⟨cycle, world, .ok world.registry.catalog⟩
  | .registerNil description => ⟨cycle, world.registerNil description, .ok ()⟩

/-- Run a program; `serve` is how an exchange of its own is dispatched. -/
def Program.run (serve : World → Http.Exchange → Served) :
    Program → Cycle → World → Ran
  | .done verdict, cycle, world => ⟨cycle, world, .ok verdict⟩
  | .panic message, cycle, world => ⟨cycle, world, .error (.panic message)⟩
  | .step op next, cycle, world =>
    let stepped := op.perform cycle world
    match stepped.result with
    | .ok answer => run serve (next answer) stepped.cycle stepped.world
    | .error abort => ⟨stepped.cycle, stepped.world, .error abort⟩
  | .setHandler handler next, cycle, world =>
    run serve next cycle (world.setCharge (.program handler))
  | .dispatch exchange next, cycle, world =>
    let served := serve world exchange
    match served.abort with
    | none => run serve (next served.exchange) cycle served.world
    | some abort => ⟨cycle, served.world, .error abort⟩

/-- Following up a program runs it first, and the follow-up in what it left. -/
theorem Program.run_andThen (serve : World → Http.Exchange → Served) (program : Program)
    (follow : Verdict → Program) (cycle : Cycle) (world : World) :
    (program.andThen follow).run serve cycle world
      = match (program.run serve cycle world).result with
        | .ok verdict =>
          (follow verdict).run serve (program.run serve cycle world).cycle
            (program.run serve cycle world).world
        | .error abort =>
          ⟨(program.run serve cycle world).cycle, (program.run serve cycle world).world,
            .error abort⟩ := by
  induction program generalizing cycle world with
  | done => rfl
  | panic => rfl
  | step op next hypothesis =>
    simp only [andThen, run]
    cases (op.perform cycle world).result with
    | ok answer => exact hypothesis answer _ _
    | error => rfl
  | setHandler handler next _ hypothesis => exact hypothesis _ _
  | dispatch exchange next hypothesis =>
    simp only [andThen, run]
    cases (serve world exchange).abort with
    | none => exact hypothesis _ _ _
    | some => rfl

end Switchboard
