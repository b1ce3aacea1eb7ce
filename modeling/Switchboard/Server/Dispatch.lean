/-
**Dispatching an exchange.**

A dispatch leases a wrapper of each kind, moves the exchange into them, runs the handler that was in
charge when the cycle began, moves the response back, returns the wrappers and counts the cycle. A
handler that panics still returns its wrappers, but its response is lost and the cycle is not
counted. Dispatches inside a handler run the same way, nested up to a given depth.
-/

import Switchboard.Server.Cycle

namespace Switchboard

/-- What a handler leaves of its cycle. -/
abbrev Handled := Stepped Unit

namespace Charge

/-- Take over what making an error the response leaves. -/
def settle (ran : Ran) (before : HandlerError → List Event) : Handled :=
  match ran.result with
  | .error abort => ⟨ran.cycle, ran.world, .error abort⟩
  | .ok (.ok ()) => ⟨ran.cycle, ran.world, .ok ()⟩
  | .ok (.error error) =>
    ran.cycle.afterWriting (ran.world.report (before error)) (error.writeTo ran.cycle.response) ()

/-- Answer with the methods that a path takes. -/
def refuseMethod (cycle : Cycle) (world : World) (allow : List Http.Method) : Handled :=
  let offered := String.intercalate ", " (allow.map Http.Method.token)
  let response := match Http.FieldValue.ofString? offered with
    | some value => cycle.response.setField Http.allow value
    | none => cycle.response
  cycle.afterWriting world (response.writeText .methodNotAllowed "Method Not Allowed") ()

/-- Let a router handle a cycle. -/
def route (serve : World → Http.Exchange → Served) (table : Router) (cycle : Cycle)
    (world : World) : Handled :=
  let method := cycle.request.method
  let path := cycle.request.uri.path
  match table.resolve method path with
  | .found matched handler captures =>
    let ran := handler.program.run serve { cycle with routed := ⟨some matched, captures⟩ } world
    settle ran fun error => [.handlerFailed matched.id error.status error.message]
  | .methodNotAllowed allow => refuseMethod cycle world allow
  | .notFound =>
    cycle.afterWriting (world.report [.noRoute method path])
      (cycle.response.writeText .notFound "Not Found") ()

/-- Handle a cycle. -/
def handle (serve : World → Http.Exchange → Served) (charge : Charge) (cycle : Cycle)
    (world : World) : Handled :=
  match charge with
  | .unset =>
    ⟨cycle, world.report [.handlerNotSet cycle.request.method cycle.request.uri.path], .ok ()⟩
  | .program body => settle (body.run serve cycle world) fun _ => []
  | .router table => route serve table cycle world

end Charge

/-- What is left of an exchange whose parts have moved into wrappers. -/
def vacated (exchange : Http.Exchange) : Http.Exchange :=
  { request := { exchange.request with header := {}, uri := .root, body := [] }
    response := { exchange.response with header := {}, body := [] } }

namespace World

/-- Dispatch one exchange; `serve` is how a handler dispatches its own. -/
def dispatchWith (serve : World → Http.Exchange → Served) (world : World)
    (exchange : Http.Exchange) : Served :=
  let leased := world.dispatcher.pools.lease exchange
  let entered := (world.setPools leased.pools).mapMeters (·.recordBuilt leased.built)
  let handled := world.dispatcher.charge.handle serve { lease := leased.lease } entered
  let released :=
    handled.world.setPools (handled.world.dispatcher.pools.release handled.cycle.lease)
  match handled.result with
  | .ok () =>
    let response := handled.cycle.response.lend
    { world := released.mapMeters (·.recordDispatch exchange.request.method response.status)
      exchange := { vacated exchange with response } }
  | .error abort => { world := released, exchange := vacated exchange, abort := some abort }

/-- Dispatch one exchange with dispatches inside it nested up to a depth. -/
def dispatch : Nat → World → Http.Exchange → Served
  | 0, world, exchange => { world, exchange, abort := some .tooDeep }
  | depth + 1, world, exchange => dispatchWith (dispatch depth) world exchange

/-- The depth up to which dispatches are nested. -/
def nestingDepth : Nat := 1000

/-- Dispatch one exchange. -/
def serve (world : World) (exchange : Http.Exchange) : Served :=
  dispatch nestingDepth world exchange

end World

end Switchboard
