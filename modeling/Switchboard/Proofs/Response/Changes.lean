/-
**What changes a response.**

Between the start of a cycle and its end the response changes in two ways only: the handler writes to
it, or a callback of the transport leaves another one in its place. The changes of a cycle make up
its response, one after another; an addition to the size that does not fit is the last of them.

* `Writing`, `Change` — what can happen to a response; `Writing.appends_perform` — the bytes that a
  writing appends, and the addition that this takes;
* `Change.run`, `Change.run_append_of_fits` — changes one after another;
* `Program.changes`, `Program.response_run` — **what a program leaves of its response is what its
  changes make of it**, by induction on the program; `Program.exists_changes_of_mem_found` — and so
  is what its operations find on the way;
* `World.response_handled`, `World.dispatch_of_overflow` — the same for a whole cycle, in which the
  error of the handler or the refusal of the router is the last change.
-/

import Switchboard.Proofs.Dispatch.Bridge

namespace Switchboard

/-! ### Writings -/

/-- What a handler writes to its response. -/
inductive Writing where
  /-- commit a status -/
  | header (status : Http.Status)
  /-- append to the body -/
  | bytes (data : List UInt8)
  /-- commit a status with a plain text -/
  | text (status : Http.Status) (text : String)
  /-- commit a status with a JSON value, unless the value has no text -/
  | json (status : Http.Status) (value : Except String Json)
  /-- replace a field -/
  | setField (name : Http.FieldName) (value : Http.FieldValue)
  /-- add to a field -/
  | addField (name : Http.FieldName) (value : Http.FieldValue)
  /-- take away a field -/
  | removeField (name : String)
  /-- make an error the response -/
  | failure (error : HandlerError)

namespace Writing

/-- Write to a response. -/
def perform (writing : Writing) (response : Wrapper.Response) : Wrapper.Written :=
  match writing with
  | .header status => response.writeHeader status
  | .bytes data => response.write data
  | .text status content => response.writeText status content
  | .json status (.ok value) => response.writeJson status value
  | .json _ (.error _) => { response }
  | .setField name value => { response := response.setField name value }
  | .addField name value => { response := response.addField name value }
  | .removeField name => { response := (response.removeField name).2 }
  | .failure error => error.writeTo response

/-- What a writing adds to the body. -/
def data : Writing → List UInt8
  | .bytes data => data
  | .text _ content => Text.bytes content
  | .json _ (.ok value) => Text.bytes value.toText
  | .failure error => Text.bytes error.message
  | _ => []

/-- The bytes for which a writing makes the response longer, if it is of the kind that does. -/
def appended? (writing : Writing) (response : Wrapper.Response) : Option (List UInt8) :=
  match writing with
  | .bytes _ => some writing.data
  | .text _ _ => some writing.data
  | .json _ (.ok _) => some writing.data
  | .failure _ => if response.committed then none else some writing.data
  | _ => none

end Writing

/-- **Bytes are appended to a response**: its body grows by them and its size by their number, unless
this number does not fit into a word any more. -/
structure Wrapper.Written.Appends (written : Written) (response : Response) (data : List UInt8) :
    Prop where
  body : written.response.body = response.body ++ data
  overflow : written.overflow = true ↔ Text.greatestWord < response.size + data.length
  size : written.overflow = false → written.response.size = response.size + data.length

namespace Wrapper.Response

variable (response : Response)

theorem size_writeHeader (status : Http.Status) :
    (response.writeHeader status).response.size = response.size := by
  unfold writeHeader
  split <;> rfl

theorem body_writeHeader (status : Http.Status) :
    (response.writeHeader status).response.body = response.body := by
  unfold writeHeader
  split <;> rfl

theorem overflow_writeHeader (status : Http.Status) :
    (response.writeHeader status).overflow = false := by
  unfold writeHeader
  split <;> rfl

theorem writeHeader_of_uncommitted {response : Response} (uncommitted : response.committed = false)
    (status : Http.Status) :
    response.writeHeader status = { response := { response with status, committed := true } } :=
  if_neg (Bool.eq_false_iff.mp uncommitted)

theorem appends_write (data : List UInt8) : (response.write data).Appends response data := by
  refine ⟨response.body_write data, ?_, ?_⟩
  all_goals
    unfold write
    simp only
    generalize held : (if response.committed = true then response
      else (response.writeHeader .ok).response) = opened
    have size : opened.size = response.size := by
      rw [← held]
      split
      · rfl
      · exact response.size_writeHeader .ok
    rw [size]
    split
  · rename_i overflows
    exact ⟨fun _ => overflows, fun _ => rfl⟩
  · rename_i fits
    exact ⟨fun overflow => absurd overflow Bool.false_ne_true, fun more => absurd more fits⟩
  · exact fun overflow => absurd overflow Bool.false_ne_true.symm
  · exact fun _ => rfl

theorem appends_writeAs (type : Http.FieldValue) (status : Http.Status) (data : List UInt8) :
    (response.writeAs type status data).Appends response data := by
  have size := (response.setField Http.contentType type).size_writeHeader status
  have body := (response.setField Http.contentType type).body_writeHeader status
  obtain ⟨grows, overflow, adds⟩ :=
    ((response.setField Http.contentType type).writeHeader status).response.appends_write data
  rw [body] at grows
  rw [size] at overflow adds
  exact ⟨grows, overflow, adds⟩

end Wrapper.Response

namespace Writing

variable {writing : Writing} {response : Wrapper.Response}

/-- **A writing appends its bytes**, whatever else it does to the response. -/
theorem appends_perform {data : List UInt8} (appended : writing.appended? response = some data) :
    (writing.perform response).Appends response data := by
  cases writing with
  | bytes written =>
    cases appended
    exact response.appends_write written
  | text status content =>
    cases appended
    exact response.appends_writeAs Http.plainText status _
  | json status value =>
    cases value with
    | error message => cases appended
    | ok value =>
      cases appended
      exact response.appends_writeAs Http.jsonText status _
  | failure error =>
    cases committed : response.committed with
    | true => simp [appended?, committed] at appended
    | false =>
      have written : (failure error).perform response
          = response.writeText error.status error.message :=
        if_neg (Bool.eq_false_iff.mp committed)
      simp only [appended?, committed, Bool.false_eq_true, if_false, Option.some.injEq] at appended
      rw [written, ← appended]
      exact response.appends_writeAs Http.plainText error.status _
  | _ => cases appended

theorem data_of_appended? {data : List UInt8} (appended : writing.appended? response = some data) :
    data = writing.data := by
  cases writing with
  | failure error =>
    cases committed : response.committed with
    | true => simp [appended?, committed] at appended
    | false => simpa [appended?, committed, eq_comm] using appended
  | json status value =>
    cases value with
    | error message => cases appended
    | ok value => exact (Option.some.inj appended).symm
  | bytes written => exact (Option.some.inj appended).symm
  | text status content => exact (Option.some.inj appended).symm
  | _ => cases appended

/-- **Any other writing** leaves body and size as they are. -/
theorem perform_of_no_bytes (none : writing.appended? response = none) :
    (writing.perform response).overflow = false
      ∧ (writing.perform response).response.body = response.body
      ∧ (writing.perform response).response.size = response.size := by
  cases writing with
  | header status =>
    exact ⟨response.overflow_writeHeader status, response.body_writeHeader status,
      response.size_writeHeader status⟩
  | json status value =>
    cases value with
    | error message => exact ⟨rfl, rfl, rfl⟩
    | ok value => cases none
  | failure error =>
    cases committed : response.committed with
    | true =>
      have written : (failure error).perform response = { response } := if_pos committed
      rw [written]
      exact ⟨rfl, rfl, rfl⟩
    | false => simp [appended?, committed] at none
  | setField name value => exact ⟨rfl, rfl, rfl⟩
  | addField name value => exact ⟨rfl, rfl, rfl⟩
  | removeField name => exact ⟨rfl, rfl, rfl⟩
  | bytes data => cases none
  | text status content => cases none

end Writing

/-! ### Changes one after another -/

/-- What happens to a response. -/
inductive Change where
  /-- the handler writes to it -/
  | handler (writing : Writing)
  /-- a callback leaves another one -/
  | callback (left : Http.Response)

namespace Change

/-- Change a response. -/
def perform (change : Change) (response : Wrapper.Response) : Wrapper.Written :=
  match change with
  | .handler writing => writing.perform response
  | .callback left => { response := response.restore left }

/-- Change a response time and again; a change that overflows is the last one. -/
def run (response : Wrapper.Response) : List Change → Wrapper.Written
  | [] => { response }
  | change :: rest =>
    let written := change.perform response
    let later := run written.response rest
    if written.overflow then written else { later with events := written.events ++ later.events }

variable {response : Wrapper.Response} {change : Change} {first second rest : List Change}

theorem run_cons_of_overflow (overflow : (change.perform response).overflow = true) :
    run response (change :: rest) = change.perform response :=
  if_pos overflow

theorem run_cons_of_fits (fits : (change.perform response).overflow = false) :
    run response (change :: rest)
      = { run (change.perform response).response rest with
          events := (change.perform response).events
            ++ (run (change.perform response).response rest).events } :=
  if_neg (Bool.eq_false_iff.mp fits)

theorem run_singleton (response : Wrapper.Response) (change : Change) :
    run response [change] = change.perform response := by
  cases overflow : (change.perform response).overflow with
  | true => exact run_cons_of_overflow overflow
  | false =>
    rw [run_cons_of_fits overflow]
    simp only [run, List.append_nil]
    rw [← overflow]

theorem run_append_of_overflow (overflow : (run response first).overflow = true) :
    run response (first ++ second) = run response first := by
  induction first generalizing response with
  | nil => cases overflow
  | cons change rest hypothesis =>
    rw [List.cons_append]
    cases here : (change.perform response).overflow with
    | true => rw [run_cons_of_overflow here, run_cons_of_overflow here]
    | false =>
      rw [run_cons_of_fits here] at overflow ⊢
      rw [run_cons_of_fits here, hypothesis overflow]

/-- **Changes behind others** start with the response that these leave. -/
theorem run_append_of_fits (fits : (run response first).overflow = false) :
    run response (first ++ second)
      = { run (run response first).response second with
          events := (run response first).events
            ++ (run (run response first).response second).events } := by
  induction first generalizing response with
  | nil => rfl
  | cons change rest hypothesis =>
    rw [List.cons_append]
    cases here : (change.perform response).overflow with
    | true =>
      rw [run_cons_of_overflow here, here] at fits
      cases fits
    | false =>
      rw [run_cons_of_fits here] at fits ⊢
      rw [run_cons_of_fits here, hypothesis fits]
      simp only [List.append_assoc]

end Change

/-! ### The changes that a program makes -/

/-- What an operation does to the response of its cycle. -/
def Op.changes (op : Op) (cycle : Cycle) : List Change :=
  match op with
  | .writeHeader status => [.handler (.header status)]
  | .write data => [.handler (.bytes data)]
  | .writeText status text => [.handler (.text status text)]
  | .writeJson status value => [.handler (.json status (.ok value))]
  | .setField name value => [.handler (.setField name value)]
  | .addField name value => [.handler (.addField name value)]
  | .removeField name => [.handler (.removeField name)]
  | .native callback =>
    match (callback cycle.lend).outcome with
    | .ok after => [.callback after.response]
    | .error _ => []
  | _ => []

/-- A writing ends an operation with its answer, or with a panic. -/
theorem Cycle.response_afterWriting {α : Type} (cycle : Cycle) (world : World)
    (written : Wrapper.Written) (answer : α) :
    let ran := cycle.afterWriting world written answer
    ran.cycle.response = written.response
      ∧ (written.overflow = true → ran.result = .error (.panic Wrapper.overflowMessage)) :=
  ⟨rfl, fun overflow => if_pos overflow⟩

/-- **An operation makes its changes**, and panics if they overflow. -/
theorem Op.response_perform (op : Op) (cycle : Cycle) (world : World) :
    (op.perform cycle world).cycle.response
        = (Change.run cycle.response (op.changes cycle)).response
      ∧ ((Change.run cycle.response (op.changes cycle)).overflow = true →
        (op.perform cycle world).result = .error (.panic Wrapper.overflowMessage)) := by
  cases op with
  | writeHeader status =>
    simp only [changes, Change.run_singleton]
    exact cycle.response_afterWriting world _ ()
  | write data =>
    simp only [changes, Change.run_singleton]
    exact cycle.response_afterWriting world _ _
  | writeText status text =>
    simp only [changes, Change.run_singleton]
    exact cycle.response_afterWriting world _ ()
  | writeJson status value =>
    simp only [changes, Change.run_singleton]
    exact cycle.response_afterWriting world _ ()
  | native callback =>
    show (cycle.runCallback world callback).cycle.response = _ ∧ _
    simp only [changes]
    unfold Cycle.runCallback
    cases outcome : (callback cycle.lend).outcome with
    | ok after =>
      have left : (callback ⟨cycle.request.lend, cycle.response.lend⟩).outcome = .ok after := outcome
      simp only [left]
      exact ⟨rfl, fun overflow => absurd overflow Bool.false_ne_true⟩
    | error message =>
      have left : (callback ⟨cycle.request.lend, cycle.response.lend⟩).outcome = .error message :=
        outcome
      simp only [left]
      exact ⟨rfl, fun overflow => absurd overflow Bool.false_ne_true⟩
  | _ => exact ⟨rfl, fun overflow => absurd overflow Bool.false_ne_true⟩

/-- An operation that answers has made all its changes. -/
theorem Op.fits_of_ok (op : Op) {cycle : Cycle} {world : World} {answer : op.Answer}
    (answered : (op.perform cycle world).result = .ok answer) :
    (Change.run cycle.response (op.changes cycle)).overflow = false := by
  rw [← Bool.not_eq_true]
  intro overflow
  rw [(op.response_perform cycle world).2 overflow] at answered
  cases answered

namespace Program

variable (serve : World → Http.Exchange → Served)

/-- The changes that a program makes to the response of its cycle. -/
def changes : Program → Cycle → World → List Change :=
  trace serve (fun op cycle _ => op.changes cycle) fun _ _ => []

/-- The responses that the operations of a program find. -/
def found : Program → Cycle → World → List Wrapper.Response :=
  trace serve (fun _ cycle _ => [cycle.response]) fun _ _ => []

/-- **What a program leaves of its response is what its changes make of it**; where they overflow,
the program panics. -/
theorem response_run (program : Program) (cycle : Cycle) (world : World) :
    (program.run serve cycle world).cycle.response
        = (Change.run cycle.response (program.changes serve cycle world)).response
      ∧ ((Change.run cycle.response (program.changes serve cycle world)).overflow = true →
        (program.run serve cycle world).result = .error (.panic Wrapper.overflowMessage)) := by
  induction program generalizing cycle world with
  | done verdict => exact ⟨rfl, fun overflow => absurd overflow Bool.false_ne_true⟩
  | panic message => exact ⟨rfl, fun overflow => absurd overflow Bool.false_ne_true⟩
  | step op next hypothesis =>
    obtain ⟨response, panics⟩ := op.response_perform cycle world
    simp only [changes, trace, run] at hypothesis ⊢
    cases result : (op.perform cycle world).result with
    | ok answer =>
      have fits := op.fits_of_ok result
      obtain ⟨leaves, cutShort⟩ :=
        hypothesis answer (op.perform cycle world).cycle (op.perform cycle world).world
      rw [response] at leaves cutShort
      rw [Change.run_append_of_fits fits]
      exact ⟨leaves, cutShort⟩
    | error abort =>
      rw [List.append_nil]
      refine ⟨response, fun overflow => congrArg Except.error ?_⟩
      exact Except.error.inj (result.symm.trans (panics overflow))
  | setHandler handler next _ hypothesis => exact hypothesis cycle _
  | dispatch exchange next hypothesis =>
    -- a cycle inside has a response of its own
    simp only [changes, trace, run, List.nil_append] at hypothesis ⊢
    cases (serve world exchange).abort with
    | none => exact hypothesis _ cycle _
    | some abort => exact ⟨rfl, fun overflow => absurd overflow Bool.false_ne_true⟩

/-- **What an operation finds is what the changes in front of it make of the response.** -/
theorem exists_changes_of_mem_found {program : Program} {cycle : Cycle} {world : World}
    {response : Wrapper.Response} (member : response ∈ program.found serve cycle world) :
    ∃ before after, program.changes serve cycle world = before ++ after
      ∧ (Change.run cycle.response before).overflow = false
      ∧ (Change.run cycle.response before).response = response := by
  induction program generalizing cycle world with
  | done verdict => cases member
  | panic message => cases member
  | step op next hypothesis =>
    have left := (op.response_perform cycle world).1
    simp only [changes, found, trace] at hypothesis member ⊢
    rcases List.mem_cons.mp member with rfl | later
    · exact ⟨[], _, rfl, rfl, rfl⟩
    · cases result : (op.perform cycle world).result with
      | ok answer =>
        have fits := op.fits_of_ok result
        rw [result] at later
        obtain ⟨before, after, cut, fitsLater, same⟩ := hypothesis answer later
        rw [left] at fitsLater same
        have joined : Change.run cycle.response (op.changes cycle ++ before) = _ :=
          Change.run_append_of_fits fits
        refine ⟨op.changes cycle ++ before, after, ?_, ?_, ?_⟩
        · simp only [cut, List.append_assoc]
        · rw [joined]
          exact fitsLater
        · rw [joined]
          exact same
      | error abort =>
        rw [result] at later
        cases later
  | setHandler handler next _ hypothesis => exact hypothesis member
  | dispatch exchange next hypothesis =>
    simp only [changes, found, trace, List.nil_append] at hypothesis member ⊢
    cases ended : (serve world exchange).abort with
    | none =>
      rw [ended] at member
      exact hypothesis _ member
    | some abort =>
      rw [ended] at member
      cases member

end Program

/-! ### The changes of a cycle -/

/-- What the end of a task changes: an error becomes the response. -/
def Ran.closing (ran : Ran) : List Change :=
  match ran.result with
  | .ok (.error error) => [.handler (.failure error)]
  | _ => []

namespace Charge

/-- What is changed in a cycle without a task: a router refuses the request. -/
def refusal (charge : Charge) (cycle : Cycle) : List Change :=
  match charge with
  | .router table =>
    match table.resolve cycle.request.method cycle.request.uri.path with
    | .methodNotAllowed allow =>
      (Http.FieldValue.ofString? (String.intercalate ", " (allow.map Http.Method.token))).toList.map
          (fun value => .handler (.setField Http.allow value))
        ++ [.handler (.text .methodNotAllowed "Method Not Allowed")]
    | .notFound => [.handler (.text .notFound "Not Found")]
    | .found _ _ _ => []
  | _ => []

/-- All changes of a cycle. -/
def changes (serve : World → Http.Exchange → Served) (charge : Charge) (cycle : Cycle)
    (world : World) : List Change :=
  match charge.task? cycle with
  | some (task, start) => task.changes serve start world ++ (task.run serve start world).closing
  | none => charge.refusal cycle

variable (serve : World → Http.Exchange → Served)

/-- A task starts with the response of its cycle. -/
theorem response_of_task? {charge : Charge} {cycle start : Cycle} {program : Program}
    (task : charge.task? cycle = some (program, start)) : start.response = cycle.response := by
  unfold Cycle.response
  rw [lease_of_task? task]

theorem settle_response (ran : Ran) (before : HandlerError → List Event) :
    (settle ran before).cycle.response = (Change.run ran.cycle.response ran.closing).response
      ∧ ((Change.run ran.cycle.response ran.closing).overflow = true →
        (settle ran before).result = .error (.panic Wrapper.overflowMessage)) := by
  obtain ⟨cycle, world, result⟩ := ran
  rcases result with abort | error | done
  · exact ⟨rfl, fun overflow => absurd overflow Bool.false_ne_true⟩
  · simp only [Ran.closing, Change.run_singleton]
    exact cycle.response_afterWriting _ _ ()
  · exact ⟨rfl, fun overflow => absurd overflow Bool.false_ne_true⟩

theorem response_refuseMethod (cycle : Cycle) (world : World) (allow : List Http.Method) :
    let refused := refuseMethod cycle world allow
    let offered := Http.FieldValue.ofString? (String.intercalate ", " (allow.map Http.Method.token))
    let written := Change.run cycle.response (offered.toList.map
        (fun value => .handler (.setField Http.allow value))
      ++ [.handler (.text .methodNotAllowed "Method Not Allowed")])
    refused.cycle.response = written.response
      ∧ (written.overflow = true →
        refused.result = .error (.panic Wrapper.overflowMessage)) := by
  intro refused offered
  cases sendable : offered with
  | none =>
    simp only [Option.toList_none, List.map_nil, List.nil_append, Change.run_singleton]
    simp only [refused, refuseMethod]
    rw [show Http.FieldValue.ofString? _ = _ from sendable]
    exact cycle.response_afterWriting world _ ()
  | some value =>
    have fits : ((Change.handler (.setField Http.allow value)).perform cycle.response).overflow
        = false := rfl
    simp only [Option.toList_some, List.map_cons, List.map_nil, List.cons_append, List.nil_append]
    rw [Change.run_cons_of_fits fits, Change.run_singleton]
    simp only [refused, refuseMethod]
    rw [show Http.FieldValue.ofString? _ = _ from sendable]
    exact cycle.response_afterWriting world _ ()

/-- **Whatever is in charge of a cycle leaves what the changes make of the response**, and panics
where they overflow. -/
theorem response_handle (charge : Charge) (cycle : Cycle) (world : World) :
    (charge.handle serve cycle world).cycle.response
        = (Change.run cycle.response (charge.changes serve cycle world)).response
      ∧ ((Change.run cycle.response (charge.changes serve cycle world)).overflow = true →
        (charge.handle serve cycle world).result
          = .error (.panic Wrapper.overflowMessage)) := by
  cases task : charge.task? cycle with
  | some pair =>
    obtain ⟨program, start⟩ := pair
    obtain ⟨before, handled⟩ := handle_of_task? task serve world
    obtain ⟨response, panics⟩ := program.response_run serve start world
    obtain ⟨settled, closes⟩ := settle_response (program.run serve start world) before
    simp only [changes, task]
    rw [handled, settled]
    rw [response_of_task? task] at response panics
    rw [response] at closes ⊢
    generalize program.changes serve start world = within at response panics closes ⊢
    cases overflow : (Change.run cycle.response within).overflow with
    | false =>
      rw [Change.run_append_of_fits overflow]
      exact ⟨rfl, closes⟩
    | true =>
      -- a program that panics does not end with an error
      have cutShort := panics overflow
      have closing : (program.run serve start world).closing = [] := by
        unfold Ran.closing
        rw [cutShort]
      rw [closing, List.append_nil]
      refine ⟨rfl, fun _ => ?_⟩
      unfold settle
      rw [cutShort]
  | none =>
    simp only [changes, task]
    cases charge with
    | unset => exact ⟨rfl, fun overflow => absurd overflow Bool.false_ne_true⟩
    | program body => cases task
    | router table =>
      show (route serve table cycle world).cycle.response = _
        ∧ (_ → (route serve table cycle world).result = _)
      simp only [task?] at task
      simp only [route, refusal]
      split at task
      · cases task
      · rename_i allow found
        simp only [found]
        exact response_refuseMethod cycle world allow
      · rename_i found
        simp only [found, Change.run_singleton]
        exact cycle.response_afterWriting _ _ ()

end Charge

namespace World

/-- The changes of the response in the cycle of a dispatch. -/
def changes (depth : Nat) (world : World) (exchange : Http.Exchange) : List Change :=
  world.dispatcher.charge.changes (dispatch depth) (world.opened exchange) (world.entered exchange)

/-- The responses that operations find in the cycle of a dispatch. -/
def found (depth : Nat) (world : World) (exchange : Http.Exchange) : List Wrapper.Response :=
  world.dispatcher.charge.trace (dispatch depth) (fun _ cycle _ => [cycle.response])
    (fun _ _ => []) (world.opened exchange) (world.entered exchange)

variable (depth : Nat) (world : World) (exchange : Http.Exchange)

/-- **The response of a cycle is what its changes make of the one it starts with.** -/
theorem response_handled :
    (world.handled (dispatch depth) exchange).cycle.response
      = (Change.run (world.opened exchange).response (world.changes depth exchange)).response :=
  (world.dispatcher.charge.response_handle (dispatch depth) _ _).1

/-- **A dispatch whose changes overflow panics.** -/
theorem dispatch_of_overflow
    (overflow : (Change.run (world.opened exchange).response
      (world.changes depth exchange)).overflow = true) :
    (world.dispatch (depth + 1) exchange).abort = some (.panic Wrapper.overflowMessage) := by
  have cutShort : (world.handled (dispatch depth) exchange).result = _ :=
    (world.dispatcher.charge.response_handle (dispatch depth) _ _).2 overflow
  rw [dispatch, dispatchWith_eq]
  unfold conclude
  rw [cutShort]

/-- A dispatch that ends gives back the response of its cycle. -/
theorem response_of_ended (ended : (world.dispatch (depth + 1) exchange).abort = none) :
    (world.dispatch (depth + 1) exchange).exchange.response
      = (world.handled (dispatch depth) exchange).cycle.response.lend := by
  rw [dispatch, dispatchWith_eq] at ended ⊢
  unfold conclude at ended ⊢
  cases result : (world.handled (dispatch depth) exchange).result with
  | ok done => rfl
  | error abort =>
    rw [result] at ended
    cases ended

/-- **What an operation finds in a cycle** is what the changes in front of it make of the response
with which the cycle starts. -/
theorem exists_changes_of_mem_found {response : Wrapper.Response}
    (member : response ∈ world.found depth exchange) :
    ∃ before after, world.changes depth exchange = before ++ after
      ∧ (Change.run (world.opened exchange).response before).overflow = false
      ∧ (Change.run (world.opened exchange).response before).response = response := by
  unfold found Charge.trace at member
  unfold changes Charge.changes
  cases task : world.dispatcher.charge.task? (world.opened exchange) with
  | none =>
    rw [task] at member
    cases member
  | some pair =>
    obtain ⟨program, start⟩ := pair
    rw [task] at member
    obtain ⟨before, after, cut, fits, same⟩ :=
      Program.exists_changes_of_mem_found (dispatch depth) member
    rw [Charge.response_of_task? task] at fits same
    exact ⟨before, after ++ _, (congrArg (· ++ _) cut).trans (List.append_assoc _ _ _), fits, same⟩

end World

end Switchboard
