/-
**What becomes of an error.**

The error of a handler becomes the response unless a status is committed. Everything a handler
writes commits one, but what a callback of the transport leaves does not: a body that it leaves
stays uncommitted, and an error behind it is appended to that body.

* `Response.Clean` — the response is committed or its body is empty, so an error spoils nothing;
* `Program.Discreet` — the callbacks of a program leave an empty body empty;
* `Op.perform_clean`, `Program.run_clean` — **discreet programs keep a response clean**, by
  induction on the program;
* `writeText_of_uncommitted` — the exact response that a first text makes of an uncommitted one;
* `response_of_failure` — **what becomes of the error of a routed handler**: the response stays as
  it is or is the error alone exactly where it is clean and the text fits, so behind discreet
  handlers nothing is ever spliced;
* `error_is_spliced` — behind a callback that leaves a body the error is appended to it.
-/

import Switchboard.Proofs.Dispatch.Task

namespace Switchboard

/-! ### Clean responses -/

namespace Wrapper.Response

/-- **The response is committed or its body is empty.** -/
def Clean (response : Response) : Prop :=
  response.committed = true ∨ response.body = []

variable {response : Response}

theorem committed_writeHeader (response : Response) (status : Http.Status) :
    (response.writeHeader status).response.committed = true := by
  unfold writeHeader
  split
  · assumption
  · rfl

theorem committed_write (response : Response) (data : List UInt8) :
    (response.write data).response.committed = true := by
  unfold write
  by_cases committed : response.committed = true
  · simp only [if_pos committed]
    split <;> exact committed
  · simp only [if_neg committed]
    split <;> exact response.committed_writeHeader .ok

/-- A callback leaves the flag of the commitment alone, so the body decides. -/
theorem Clean.restore (clean : response.Clean) {native : Http.Response}
    (discreet : response.body = [] → native.body = []) : (response.restore native).Clean :=
  clean.imp id discreet

theorem header_setField {inside : Nat} (complete : response.serial? = some inside)
    (name : Http.FieldName) (value : Http.FieldValue) :
    (response.setField name value).header = response.header.set name value := by
  obtain ⟨status, size, committed, body, fields⟩ := response
  cases fields with
  | none => cases complete
  | some fields => rfl

/-- Writing to a committed response appends to its body, and overflows if the sizes do not fit into
a word. -/
theorem write_of_committed (committed : response.committed = true) (data : List UInt8) :
    (response.write data).response.lend = { response.lend with body := response.body ++ data }
      ∧ ((response.write data).overflow = true
        ↔ Text.greatestWord < response.size + data.length) := by
  unfold write
  simp only [if_pos committed]
  split
  · rename_i overflows
    exact ⟨rfl, fun _ => overflows, fun _ => rfl⟩
  · rename_i fits
    exact ⟨rfl, fun overflow => absurd overflow Bool.false_ne_true, fun more => absurd more fits⟩

/-- **What is written first is committed with its status and its type**, and comes behind what the
body holds already. -/
theorem lend_writeAs_of_uncommitted (uncommitted : response.committed = false) {inside : Nat}
    (complete : response.serial? = some inside) (type : Http.FieldValue) (status : Http.Status)
    (data : List UInt8) :
    (response.writeAs type status data).response.lend
        = { status
            header := response.header.set Http.contentType type
            body := response.body ++ data }
      ∧ ((response.writeAs type status data).overflow = true
        ↔ ¬response.size + data.length ≤ Text.greatestWord) := by
  have opened : (response.setField Http.contentType type).writeHeader status
      = { response := { response.setField Http.contentType type with
          status, committed := true } } := by
    unfold writeHeader
    exact if_neg (Bool.eq_false_iff.mp uncommitted)
  have header := header_setField complete Http.contentType type
  unfold writeAs
  simp only [opened]
  refine ⟨(write_of_committed rfl _).1.trans ?_, (write_of_committed rfl _).2.trans Nat.not_le.symm⟩
  rw [← header]
  rfl

/-- **A first text** is plain. -/
theorem writeText_of_uncommitted (uncommitted : response.committed = false) {inside : Nat}
    (complete : response.serial? = some inside) (status : Http.Status) (text : String) :
    (response.writeText status text).response.lend
        = { status
            header := response.header.set Http.contentType Http.plainText
            body := response.body ++ Text.bytes text }
      ∧ ((response.writeText status text).overflow = true
        ↔ ¬response.size + (Text.bytes text).length ≤ Text.greatestWord) :=
  lend_writeAs_of_uncommitted uncommitted complete Http.plainText status (Text.bytes text)

end Wrapper.Response

/-! ### Discreet programs -/

/-- **The callback leaves an empty body empty.** -/
def Callback.Discreet (callback : Callback) : Prop :=
  ∀ exchange after, (callback exchange).outcome = .ok after →
    exchange.response.body = [] → after.response.body = []

/-- The operation runs no callback but a discreet one. -/
def Op.Discreet : Op → Prop
  | .native callback => callback.Discreet
  | _ => True

/-- **The program runs no callback but discreet ones** in its own cycle. -/
def Program.Discreet : Program → Prop
  | .done _ => True
  | .panic _ => True
  | .step op next => op.Discreet ∧ ∀ answer, (next answer).Discreet
  | .setHandler _ next => next.Discreet
  | .dispatch _ next => ∀ after, (next after).Discreet

/-- The wrapper makes discreet handlers of discreet ones. -/
def Middleware.Discreet (middleware : Middleware) : Prop :=
  ∀ inner : Program, inner.Discreet → (middleware.wrap inner).Discreet

theorem Middleware.discreet_ofCallback (name : String) {callback : Callback}
    (discreet : callback.Discreet) : (ofCallback name callback).Discreet :=
  fun _ inner => ⟨discreet, fun _ => inner⟩

/-- **Discreet wrappers around a discreet handler** are discreet. -/
theorem Middleware.discreet_chain {middleware : List Middleware} {handler : Handler}
    (wrappers : ∀ wrapper ∈ middleware, wrapper.Discreet) (discreet : handler.program.Discreet) :
    (chain middleware handler).program.Discreet := by
  induction middleware with
  | nil => exact discreet
  | cons first rest hypothesis =>
    refine wrappers first List.mem_cons_self _ (hypothesis fun wrapper member => ?_)
    exact wrappers wrapper (List.mem_cons_of_mem _ member)

/-- **A discreet operation keeps a response clean.** -/
theorem Op.perform_clean {op : Op} (discreet : op.Discreet) {cycle : Cycle}
    (clean : cycle.response.Clean) (world : World) :
    (op.perform cycle world).cycle.response.Clean := by
  -- what writes a body commits first; only a callback can leave one with nothing committed
  cases op with
  | writeHeader status => exact .inl (cycle.response.committed_writeHeader status)
  | write data => exact .inl (cycle.response.committed_write data)
  | writeText status text => exact .inl (Wrapper.Response.committed_write _ _)
  | writeJson status value => exact .inl (Wrapper.Response.committed_write _ _)
  | native callback =>
    show (cycle.runCallback world callback).cycle.response.Clean
    unfold Cycle.runCallback
    simp only
    split
    · rename_i after outcome
      exact clean.restore fun empty => discreet _ after outcome empty
    · exact clean
  | _ => exact clean

/-- **A discreet program keeps the response of its cycle clean**, however it ends. -/
theorem Program.run_clean {program : Program} (discreet : program.Discreet)
    (serve : World → Http.Exchange → Served) {cycle : Cycle} (clean : cycle.response.Clean)
    (world : World) : (program.run serve cycle world).cycle.response.Clean := by
  induction program generalizing cycle world with
  | done verdict => exact clean
  | panic message => exact clean
  | step op next hypothesis =>
    have stepped := op.perform_clean discreet.1 clean world
    simp only [run]
    cases (op.perform cycle world).result with
    | ok answer => exact hypothesis answer (discreet.2 answer) stepped _
    | error abort => exact stepped
  | setHandler handler next _ hypothesis => exact hypothesis discreet clean _
  | dispatch exchange next hypothesis =>
    -- the inner cycle has a response of its own
    simp only [run]
    cases (serve world exchange).abort with
    | none => exact hypothesis _ (discreet _) clean _
    | some abort => exact clean

/-! ### Errors and responses -/

namespace HandlerError

/-- The message of the error can be appended to the response. -/
def Fits (error : HandlerError) (response : Wrapper.Response) : Prop :=
  response.size + (Text.bytes error.message).length ≤ Text.greatestWord

/-- The response is the one that stood before the error, or the error alone. -/
def Alone (error : HandlerError) (stood response : Http.Response) : Prop :=
  response = stood ∨ response.status = error.status ∧ response.body = Text.bytes error.message

/-- What an error makes of an uncommitted response. -/
def appended (error : HandlerError) (stood : Wrapper.Response) : Http.Response :=
  { status := error.status
    header := stood.header.set Http.contentType Http.plainText
    body := stood.body ++ Text.bytes error.message }

variable {error : HandlerError} {stood : Wrapper.Response}

theorem writeTo_of_uncommitted (uncommitted : stood.committed = false) {inside : Nat}
    (complete : stood.serial? = some inside) :
    (error.writeTo stood).response.lend = error.appended stood
      ∧ ((error.writeTo stood).overflow = true ↔ ¬error.Fits stood) := by
  unfold writeTo
  rw [if_neg (Bool.eq_false_iff.mp uncommitted)]
  exact Wrapper.Response.writeText_of_uncommitted uncommitted complete error.status error.message

theorem alone_appended (empty : stood.body = []) :
    error.Alone stood.lend (error.appended stood) := by
  refine .inr ⟨rfl, ?_⟩
  show stood.body ++ _ = _
  rw [empty, List.nil_append]

/-- **A message behind a body is no error alone.** -/
theorem alone_appended_iff (named : error.message ≠ "") :
    error.Alone stood.lend (error.appended stood) ↔ stood.body = [] := by
  have spoken : Text.bytes error.message ≠ [] := fun empty => named (Text.bytes_injective empty)
  refine ⟨?_, alone_appended⟩
  rintro (same | ⟨-, same⟩)
  · have unchanged : stood.body ++ Text.bytes error.message = stood.body :=
      congrArg Http.Response.body same
    exact absurd (List.append_right_eq_self.mp unchanged) spoken
  · exact List.append_left_eq_self.mp same

end HandlerError

/-! ### The error of a routed handler -/

/-- What the handler of a route leaves of the cycle of a new request. -/
def World.routeRan (depth : Nat) (world : World) (request : Http.Request) (matched : Route)
    (handler : Handler) (captures : Path.Captures) : Ran :=
  handler.program.run (dispatch depth)
    { world.opened { request } with routed := ⟨some matched, captures⟩ }
    (world.entered { request })

section Routed

variable {world : World} {depth : Nat} {request : Http.Request} {table : Router} {matched : Route}
  {handler : Handler} {captures : Path.Captures} {error : HandlerError}

/-- The handler of a route leaves the header of its response in place. -/
theorem World.complete_routeRan (depth : Nat) (world : World) (request : Http.Request)
    (matched : Route) (handler : Handler) (captures : Path.Captures) :
    (world.routeRan depth request matched handler captures).cycle.lease.Complete := by
  have opened : (world.opened { request }).lease.Complete := (world.dispatcher.pools.lease_lent _).2
  have returns := handler.program.run_returns (dispatch_keeps depth)
    { world.opened { request } with routed := ⟨some matched, captures⟩ }
    (world.entered { request })
  exact opened.transfer returns.serials

theorem World.clean_routeRan (discreet : handler.program.Discreet) (depth : Nat) (world : World)
    (request : Http.Request) (matched : Route) (captures : Path.Captures) :
    (world.routeRan depth request matched handler captures).cycle.response.Clean :=
  handler.program.run_clean discreet (dispatch depth) (.inr rfl) _

/-- **The error of a routed handler** is written to the response that the handler leaves. -/
theorem World.dispatch_of_routeRan (routes : world.dispatcher.charge = .router table)
    (found : table.resolve request.method request.uri.path = .found matched handler captures)
    (failed : (world.routeRan depth request matched handler captures).result
      = .ok (.error error)) :
    let ran := world.routeRan depth request matched handler captures
    let written := error.writeTo ran.cycle.response
    (written.overflow = false →
        (world.dispatch (depth + 1) { request }).abort = none
          ∧ (world.dispatch (depth + 1) { request }).exchange.response = written.response.lend)
      ∧ (written.overflow = true →
        (world.dispatch (depth + 1) { request }).abort
          = some (.panic Wrapper.overflowMessage)) := by
  have task : world.dispatcher.charge.task? (world.opened { request })
      = some (handler.program, _) :=
    routes ▸ Charge.task?_router found
  exact dispatch_of_failed task rfl failed

/-- **What becomes of the error of a routed handler.** A committed response is given back as it
stood. Otherwise the error takes status and content type and its message is appended to the body,
or the cycle panics where the message does not fit. So the response is the one that stood or the
error alone exactly where it was committed, or the body was empty and the message fits; behind a
discreet handler it always is if the message fits. -/
theorem response_of_failure (routes : world.dispatcher.charge = .router table)
    (found : table.resolve request.method request.uri.path = .found matched handler captures)
    (failed : (world.routeRan depth request matched handler captures).result
      = .ok (.error error)) :
    let stood := (world.routeRan depth request matched handler captures).cycle.response
    let served := world.dispatch (depth + 1) { request }
    (stood.committed = true → served.abort = none ∧ served.exchange.response = stood.lend)
      ∧ (stood.committed = false → error.Fits stood →
        served.abort = none ∧ served.exchange.response = error.appended stood)
      ∧ (stood.committed = false → ¬error.Fits stood →
        served.abort = some (.panic Wrapper.overflowMessage))
      ∧ (error.message ≠ "" →
        (served.abort = none ∧ error.Alone stood.lend served.exchange.response
          ↔ stood.committed = true ∨ stood.body = [] ∧ error.Fits stood))
      ∧ (handler.program.Discreet → error.Fits stood →
        served.abort = none ∧ error.Alone stood.lend served.exchange.response) := by
  intro stood served
  obtain ⟨ends, panics⟩ := World.dispatch_of_routeRan routes found failed
  obtain ⟨inside, complete⟩ :=
    (world.complete_routeRan depth request matched handler captures).insideResponse
  have kept : stood.committed = true →
      served.abort = none ∧ served.exchange.response = stood.lend := by
    intro committed
    have written : error.writeTo stood = { response := stood } := if_pos committed
    rw [written] at ends
    exact ends rfl
  have appends : stood.committed = false → error.Fits stood →
      served.abort = none ∧ served.exchange.response = error.appended stood := by
    intro uncommitted fits
    obtain ⟨lends, overflow⟩ := error.writeTo_of_uncommitted uncommitted complete
    rw [← lends]
    exact ends (Bool.eq_false_iff.mpr fun overflows => overflow.mp overflows fits)
  have aborts : stood.committed = false → ¬error.Fits stood →
      served.abort = some (.panic Wrapper.overflowMessage) := by
    intro uncommitted large
    exact panics ((error.writeTo_of_uncommitted uncommitted complete).2.mpr large)
  -- nothing stands in front of the message of an error that is written to a clean response
  have alone : stood.Clean → (stood.committed = false → error.Fits stood) →
      served.abort = none ∧ error.Alone stood.lend served.exchange.response := by
    intro clean fits
    cases committed : stood.committed with
    | true =>
      obtain ⟨ended, response⟩ := kept committed
      exact ⟨ended, .inl response⟩
    | false =>
      obtain ⟨ended, response⟩ := appends committed (fits committed)
      have empty : stood.body = [] := clean.resolve_left (Bool.eq_false_iff.mp committed)
      exact ⟨ended, response ▸ error.alone_appended empty⟩
  refine ⟨kept, appends, aborts, fun named => ⟨?_, ?_⟩, fun discreet fits => ?_⟩
  · rintro ⟨ended, single⟩
    refine (Bool.eq_false_or_eq_true stood.committed).imp id fun uncommitted => ?_
    have fits : error.Fits stood := by
      by_contra large
      rw [aborts uncommitted large] at ended
      cases ended
    rw [(appends uncommitted fits).2] at single
    exact ⟨(error.alone_appended_iff named).mp single, fits⟩
  · rintro (committed | ⟨empty, fits⟩)
    · exact alone (.inl committed) fun uncommitted =>
        absurd committed (Bool.eq_false_iff.mp uncommitted)
    · exact alone (.inr empty) fun _ => fits
  · exact alone (world.clean_routeRan discreet depth request matched captures) fun _ => fits

end Routed

/-- A callback that sets a status in front of a handler that fails: the error is the response alone,
with the status of the error. -/
theorem response_of_failure_discreet :
    let error := HandlerError.badRequest "nope"
    let accept : Callback := fun exchange =>
      { outcome := .ok { exchange with response.status := .serviceUnavailable } }
    let handler := Middleware.chain [.ofCallback "accept" accept] ⟨"fail", .fail error⟩
    let route := Route.assemble "fail" "/" [] "" [] []
    let table := Router.mk [⟨.compile "/", route, handler⟩]
    let world := (World.new {}).setCharge (.router table)
    let ran := world.routeRan 0 {} route handler []
    table.resolve .get "/" = .found route handler []
      ∧ ran.result = .ok (.error error) ∧ handler.program.Discreet
      ∧ error.Fits ran.cycle.response
      ∧ (world.dispatch 1 {}).abort = none
      ∧ error.Alone ran.cycle.response.lend (world.dispatch 1 {}).exchange.response := by
  intro error accept handler route table world ran
  have discreet : handler.program.Discreet := by
    refine Middleware.discreet_chain (fun wrapper member => ?_) trivial
    cases List.mem_singleton.mp member
    refine Middleware.discreet_ofCallback "accept" fun exchange after outcome empty => ?_
    cases outcome
    exact empty
  have found : table.resolve .get "/" = .found route handler [] := rfl
  have failed : ran.result = .ok (.error error) := by decide +kernel
  have fits : error.Fits ran.cycle.response := by
    unfold HandlerError.Fits
    decide +kernel
  obtain ⟨-, -, -, -, alone⟩ := response_of_failure rfl found failed
  have response := alone discreet fits
  rw [Nat.zero_add] at response
  exact ⟨found, failed, discreet, fits, response⟩

/-- A callback that leaves a body in front of a handler that fails: the response has the status of
the error, and the body of the callback with the message behind it. -/
theorem error_is_spliced :
    let error := HandlerError.badRequest "nope"
    let leave : Callback := fun exchange =>
      { outcome := .ok { exchange with
          response.body := exchange.response.body ++ Text.bytes "abc" } }
    let handler := Middleware.chain [.ofCallback "leave" leave] ⟨"h", .fail error⟩
    let route := Route.assemble "h" "/" [] "" [] []
    let table := Router.mk [⟨.compile "/", route, handler⟩]
    let world := (World.new {}).setCharge (.router table)
    let ran := world.routeRan 0 {} route handler []
    let served := world.dispatch 1 {}
    table.resolve .get "/" = .found route handler []
      ∧ ran.result = .ok (.error error)
      ∧ served.abort = none
      ∧ served.exchange.response.status = .badRequest
      ∧ served.exchange.response.body = Text.bytes "abcnope"
      ∧ ¬error.Alone ran.cycle.response.lend served.exchange.response := by
  intro error leave handler route table world ran served
  have found : table.resolve .get "/" = .found route handler [] := rfl
  have failed : ran.result = .ok (.error error) := by decide +kernel
  have ended : served.abort = none := by decide +kernel
  have status : served.exchange.response.status = .badRequest := by decide +kernel
  have body : served.exchange.response.body = Text.bytes "abcnope" := by decide +kernel
  refine ⟨found, failed, ended, status, body, ?_⟩
  rintro (same | ⟨-, same⟩)
  · have stood : ran.cycle.response.lend.body = Text.bytes "abc" := by decide +kernel
    rw [same, stood] at body
    exact absurd body (by decide)
  · rw [same] at body
    exact absurd body (by decide)

end Switchboard
