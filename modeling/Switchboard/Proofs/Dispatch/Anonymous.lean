/-
**Serial numbers show nowhere.**

The wrappers of a cycle carry the serial numbers of their instances. No operation of a handler looks
at one.

* `Cycle.anonymous` — a cycle with its serial numbers struck out;
* `Op.perform_anonymous` — **operations commute with striking out serial numbers**, and so do whole
  programs, `Program.run_anonymous`, and whatever is in charge, `Charge.handle_anonymous`;
* `lease_anonymous` — the wrappers leased for one exchange differ in their serial numbers alone,
  whatever the pools.
-/

import Switchboard.Server.Dispatch

namespace Switchboard

/-! ### Striking out serial numbers -/

/-- An instance without its serial number. -/
def Instance.anonymous {α : Type} (item : Instance α) : Instance α :=
  { item with serial := 0 }

namespace Wrapper

namespace Request

/-- A request wrapper without serial numbers. -/
def anonymous (request : Request) : Request :=
  { request with
    fields := request.fields.map Instance.anonymous
    url := request.url.map Instance.anonymous }

@[simp] theorem header_anonymous (request : Request) : request.anonymous.header = request.header := by
  unfold header anonymous
  cases request.fields <;> rfl

@[simp] theorem uri_anonymous (request : Request) : request.anonymous.uri = request.uri := by
  unfold uri anonymous
  cases request.url <;> rfl

@[simp] theorem lend_anonymous (request : Request) : request.anonymous.lend = request.lend := by
  unfold lend
  rw [header_anonymous, uri_anonymous]
  rfl

@[simp] theorem restore_anonymous (request : Request) (native : Http.Request) :
    request.anonymous.restore native = (request.restore native).anonymous := by
  unfold restore anonymous
  cases request.fields <;> cases request.url <;> rfl

@[simp] theorem queryPairs_anonymous (request : Request) :
    request.anonymous.queryPairs
      = (request.queryPairs.1, request.queryPairs.2.anonymous) := by
  obtain ⟨method, version, body, peer, fields, url⟩ := request
  cases url <;> rfl

end Request

/-- What an operation leaves, without serial numbers. -/
def Written.mapResponse (written : Written) (change : Response → Response) : Written :=
  { written with response := change written.response }

namespace Response

/-- A response wrapper without serial numbers. -/
def anonymous (response : Response) : Response :=
  { response with fields := response.fields.map Instance.anonymous }

@[simp] theorem header_anonymous (response : Response) :
    response.anonymous.header = response.header := by
  unfold header anonymous
  cases response.fields <;> rfl

@[simp] theorem lend_anonymous (response : Response) : response.anonymous.lend = response.lend := by
  unfold lend
  rw [header_anonymous]
  rfl

@[simp] theorem restore_anonymous (response : Response) (native : Http.Response) :
    response.anonymous.restore native = (response.restore native).anonymous := by
  unfold restore anonymous
  cases response.fields <;> rfl

@[simp] theorem mapHeader_anonymous (response : Response) (change : Http.Header → Http.Header) :
    response.anonymous.mapHeader change = (response.mapHeader change).anonymous := by
  unfold mapHeader anonymous
  cases response.fields <;> rfl

@[simp] theorem setField_anonymous (response : Response) (name : Http.FieldName)
    (value : Http.FieldValue) :
    response.anonymous.setField name value = (response.setField name value).anonymous :=
  mapHeader_anonymous response _

@[simp] theorem addField_anonymous (response : Response) (name : Http.FieldName)
    (value : Http.FieldValue) :
    response.anonymous.addField name value = (response.addField name value).anonymous :=
  mapHeader_anonymous response _

@[simp] theorem removeField_anonymous (response : Response) (name : String) :
    response.anonymous.removeField name
      = ((response.removeField name).1, (response.removeField name).2.anonymous) := by
  unfold removeField
  rw [header_anonymous, mapHeader_anonymous]

@[simp] theorem writeHeader_anonymous (response : Response) (status : Http.Status) :
    response.anonymous.writeHeader status
      = (response.writeHeader status).mapResponse anonymous := by
  unfold writeHeader
  show (if response.committed then _ else _) = _
  split <;> rfl

@[simp] theorem write_anonymous (response : Response) (data : List UInt8) :
    response.anonymous.write data = (response.write data).mapResponse anonymous := by
  have opened : (if response.anonymous.committed then response.anonymous
      else (response.anonymous.writeHeader .ok).response)
      = (if response.committed then response else (response.writeHeader .ok).response).anonymous := by
    show (if response.committed then _ else _) = _
    split
    · rfl
    · rw [writeHeader_anonymous]
      rfl
  unfold write
  rw [opened]
  generalize (if response.committed then response else (response.writeHeader .ok).response) = start
  have size : start.anonymous.size = start.size := rfl
  by_cases large : start.size + data.length > Text.greatestWord
  · simp only [size, if_pos large]
    rfl
  · simp only [size, if_neg large]
    rfl

@[simp] theorem writeAs_anonymous (response : Response) (type : Http.FieldValue)
    (status : Http.Status) (data : List UInt8) :
    response.anonymous.writeAs type status data
      = (response.writeAs type status data).mapResponse anonymous := by
  unfold writeAs
  rw [setField_anonymous, writeHeader_anonymous]
  simp only [Written.mapResponse, write_anonymous]

@[simp] theorem writeText_anonymous (response : Response) (status : Http.Status) (text : String) :
    response.anonymous.writeText status text
      = (response.writeText status text).mapResponse anonymous :=
  writeAs_anonymous response _ status _

@[simp] theorem writeJson_anonymous (response : Response) (status : Http.Status) (value : Json) :
    response.anonymous.writeJson status value
      = (response.writeJson status value).mapResponse anonymous :=
  writeAs_anonymous response _ status _

end Response

end Wrapper

@[simp] theorem HandlerError.writeTo_anonymous (error : HandlerError) (response : Wrapper.Response) :
    error.writeTo response.anonymous
      = (error.writeTo response).mapResponse Wrapper.Response.anonymous := by
  unfold writeTo
  show (if response.committed then _ else _) = _
  split
  · rfl
  · exact Wrapper.Response.writeText_anonymous response _ _

/-! ### Cycles -/

/-- The wrappers of a cycle without serial numbers. -/
def Wrapper.Lease.anonymous (lease : Wrapper.Lease) : Wrapper.Lease :=
  { request := ⟨0, lease.request.value.anonymous⟩
    response := ⟨0, lease.response.value.anonymous⟩ }

/-- **Wrappers leased for one exchange differ in their serial numbers alone**, whatever the pools. -/
theorem Wrapper.Pools.lease_anonymous (pools others : Wrapper.Pools) (exchange : Http.Exchange) :
    (pools.lease exchange).lease.anonymous = (others.lease exchange).lease.anonymous := rfl

/-- What an operation leaves, without serial numbers in the cycle. -/
def Stepped.mapCycle {α : Type} (stepped : Stepped α) (change : Cycle → Cycle) : Stepped α :=
  { stepped with cycle := change stepped.cycle }

namespace Cycle

/-- A cycle without serial numbers. -/
def anonymous (cycle : Cycle) : Cycle :=
  { cycle with lease := cycle.lease.anonymous }

variable (cycle : Cycle)

@[simp] theorem request_anonymous : cycle.anonymous.request = cycle.request.anonymous := rfl

@[simp] theorem response_anonymous : cycle.anonymous.response = cycle.response.anonymous := rfl

@[simp] theorem setRequest_anonymous (request : Wrapper.Request) :
    cycle.anonymous.setRequest request.anonymous = (cycle.setRequest request).anonymous := rfl

@[simp] theorem setResponse_anonymous (response : Wrapper.Response) :
    cycle.anonymous.setResponse response.anonymous = (cycle.setResponse response).anonymous := rfl

@[simp] theorem requestView_anonymous : cycle.anonymous.requestView = cycle.requestView := by
  unfold requestView
  rw [request_anonymous, Wrapper.Request.header_anonymous, Wrapper.Request.uri_anonymous]
  rfl

@[simp] theorem responseView_anonymous : cycle.anonymous.responseView = cycle.responseView := by
  unfold responseView
  rw [response_anonymous, Wrapper.Response.header_anonymous]
  rfl

@[simp] theorem afterWriting_anonymous {α : Type} (world : World) (written : Wrapper.Written)
    (answer : α) :
    cycle.anonymous.afterWriting world (written.mapResponse Wrapper.Response.anonymous) answer
      = (cycle.afterWriting world written answer).mapCycle anonymous := rfl

@[simp] theorem runCallback_anonymous (world : World) (callback : Callback) :
    cycle.anonymous.runCallback world callback
      = (cycle.runCallback world callback).mapCycle anonymous := by
  unfold runCallback
  rw [request_anonymous, response_anonymous, Wrapper.Request.lend_anonymous,
    Wrapper.Response.lend_anonymous]
  obtain ⟨observed, outcome⟩ := callback ⟨cycle.request.lend, cycle.response.lend⟩
  cases outcome with
  | ok exchange =>
    simp only [Wrapper.Request.restore_anonymous, Wrapper.Response.restore_anonymous,
      setRequest_anonymous]
    rfl
  | error message => rfl

end Cycle

/-- **Operations commute with striking out serial numbers.** -/
theorem Op.perform_anonymous (op : Op) (cycle : Cycle) (world : World) :
    op.perform cycle.anonymous world = (op.perform cycle world).mapCycle Cycle.anonymous := by
  cases op with
  | request => simp only [perform, Cycle.requestView_anonymous]; rfl
  | queryPairs =>
    simp only [perform, Cycle.request_anonymous, Wrapper.Request.queryPairs_anonymous,
      Cycle.setRequest_anonymous]
    rfl
  | routed => rfl
  | response => simp only [perform, Cycle.responseView_anonymous]; rfl
  | writeHeader status =>
    simp only [perform, Cycle.response_anonymous, Wrapper.Response.writeHeader_anonymous,
      Cycle.afterWriting_anonymous]
  | write data =>
    simp only [perform, Cycle.response_anonymous, Wrapper.Response.write_anonymous,
      Cycle.afterWriting_anonymous]
  | writeText status text =>
    simp only [perform, Cycle.response_anonymous, Wrapper.Response.writeText_anonymous,
      Cycle.afterWriting_anonymous]
  | writeJson status value =>
    simp only [perform, Cycle.response_anonymous, Wrapper.Response.writeJson_anonymous,
      Cycle.afterWriting_anonymous]
  | setField name value =>
    simp only [perform, Cycle.response_anonymous, Wrapper.Response.setField_anonymous,
      Cycle.setResponse_anonymous]
    rfl
  | addField name value =>
    simp only [perform, Cycle.response_anonymous, Wrapper.Response.addField_anonymous,
      Cycle.setResponse_anonymous]
    rfl
  | removeField name =>
    simp only [perform, Cycle.response_anonymous, Wrapper.Response.removeField_anonymous,
      Cycle.setResponse_anonymous]
    rfl
  | native callback => exact Cycle.runCallback_anonymous cycle world callback
  | observe entry => rfl
  | poolStats => rfl
  | catalog => rfl
  | registerNil description => rfl

/-- **Programs commute with striking out serial numbers.** -/
theorem Program.run_anonymous (serve : World → Http.Exchange → Served) (program : Program)
    (cycle : Cycle) (world : World) :
    program.run serve cycle.anonymous world
      = (program.run serve cycle world).mapCycle Cycle.anonymous := by
  induction program generalizing cycle world with
  | done verdict => rfl
  | panic message => rfl
  | step op next hypothesis =>
    simp only [run, Op.perform_anonymous, Stepped.mapCycle]
    cases (op.perform cycle world).result with
    | ok answer => exact hypothesis answer _ _
    | error abort => rfl
  | setHandler handler next _ hypothesis => exact hypothesis _ _
  | dispatch exchange next hypothesis =>
    simp only [run]
    cases (serve world exchange).abort with
    | none => exact hypothesis _ _ _
    | some abort => rfl

namespace Charge

theorem settle_anonymous (ran : Ran) (before : HandlerError → List Event) :
    settle (ran.mapCycle Cycle.anonymous) before
      = (settle ran before).mapCycle Cycle.anonymous := by
  obtain ⟨cycle, world, result⟩ := ran
  unfold settle Stepped.mapCycle
  rcases result with abort | (error | done)
  · rfl
  · simp only [Cycle.response_anonymous, HandlerError.writeTo_anonymous,
      Cycle.afterWriting_anonymous]
    rfl
  · rfl

theorem refuseMethod_anonymous (cycle : Cycle) (world : World) (allow : List Http.Method) :
    refuseMethod cycle.anonymous world allow
      = (refuseMethod cycle world allow).mapCycle Cycle.anonymous := by
  unfold refuseMethod
  simp only [Cycle.response_anonymous]
  cases Http.FieldValue.ofString? (String.intercalate ", " (allow.map Http.Method.token)) with
  | none => simp only [Wrapper.Response.writeText_anonymous, Cycle.afterWriting_anonymous]
  | some value =>
    simp only [Wrapper.Response.setField_anonymous, Wrapper.Response.writeText_anonymous,
      Cycle.afterWriting_anonymous]

theorem route_anonymous (serve : World → Http.Exchange → Served) (table : Router) (cycle : Cycle)
    (world : World) :
    route serve table cycle.anonymous world
      = (route serve table cycle world).mapCycle Cycle.anonymous := by
  have method : cycle.anonymous.request.method = cycle.request.method := rfl
  have target : cycle.anonymous.request.uri = cycle.request.uri :=
    Wrapper.Request.uri_anonymous cycle.request
  unfold route
  simp only [method, target]
  cases table.resolve cycle.request.method cycle.request.uri.path with
  | found matched handler captures =>
    have ran := handler.program.run_anonymous serve
      { cycle with routed := ⟨some matched, captures⟩ } world
    rw [← settle_anonymous, ← ran]
    rfl
  | methodNotAllowed allow => exact refuseMethod_anonymous cycle world allow
  | notFound =>
    simp only [Cycle.response_anonymous, Wrapper.Response.writeText_anonymous,
      Cycle.afterWriting_anonymous]

/-- **Whatever is in charge commutes with striking out serial numbers.** -/
theorem handle_anonymous (serve : World → Http.Exchange → Served) (charge : Charge) (cycle : Cycle)
    (world : World) :
    charge.handle serve cycle.anonymous world
      = (charge.handle serve cycle world).mapCycle Cycle.anonymous := by
  cases charge with
  | unset =>
    unfold handle
    rw [Cycle.request_anonymous, Wrapper.Request.uri_anonymous]
    rfl
  | program body =>
    show settle (body.run serve cycle.anonymous world) _ = _
    rw [body.run_anonymous, settle_anonymous]
    rfl
  | router table => exact route_anonymous serve table cycle world

end Charge

end Switchboard
