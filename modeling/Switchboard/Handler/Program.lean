/-
**Handler programs.**

A handler is a program over the wrappers of its cycle: it performs one operation after another, each
of which answers, and what it does next may depend on every answer so far. It ends with success, with
an error, or in a panic. Besides the operations on its own cycle it may ask for pool counters, for
the catalog of registrations, register a placeholder, put another handler in charge, or dispatch an
exchange of its own.

* `andThen_done`, `andThen_assoc`: following up a program is associative, and following up one that
  is done goes on with its result.
-/

import Switchboard.Declaration.Route
import Switchboard.Handler.Error
import Switchboard.Json.Reader
import Switchboard.Path.Template
import Switchboard.Wrapper.Pools

namespace Switchboard

/-- How a handler ends if it does not panic. -/
abbrev Verdict := Except HandlerError Unit

/-- What a callback of the transport leaves: its observations, and the exchange or a panic. -/
structure CallbackRun where
  observed : List Json := []
  outcome : Except String Http.Exchange

/-- A callback of the transport, which sees an exchange and knows nothing of wrappers. -/
abbrev Callback := Http.Exchange → CallbackRun

/-- The readable state of a request. -/
structure RequestView where
  method : Http.Method
  version : Http.Version
  uri : Http.Uri
  header : Http.Header
  body : List UInt8
  peer : Option Net.Address
deriving DecidableEq

/-- The readable state of a response. -/
structure ResponseView where
  status : Http.Status
  size : Nat
  committed : Bool
  body : List UInt8
  header : Http.Header
deriving DecidableEq

/-- What routing found out about a request. -/
structure Routed where
  route : Option Route := none
  captures : Path.Captures := []
deriving Inhabited

/-- An operation of a handler. -/
inductive Op where
  /-- look at the request -/
  | request
  /-- decode the query of the request -/
  | queryPairs
  /-- look at the route and the captured parameters -/
  | routed
  /-- look at the response -/
  | response
  /-- commit a status -/
  | writeHeader (status : Http.Status)
  /-- append to the body -/
  | write (data : List UInt8)
  /-- commit a status with a plain text -/
  | writeText (status : Http.Status) (text : String)
  /-- commit a status with a JSON value -/
  | writeJson (status : Http.Status) (value : Json)
  /-- replace a field of the response -/
  | setField (name : Http.FieldName) (value : Http.FieldValue)
  /-- add to a field of the response -/
  | addField (name : Http.FieldName) (value : Http.FieldValue)
  /-- take away a field of the response -/
  | removeField (name : String)
  /-- lend request and response to a callback of the transport -/
  | native (callback : Callback)
  /-- make an observation known -/
  | observe (entry : Json)
  /-- read the counters of the pools -/
  | poolStats
  /-- render the registered operations and routes -/
  | catalog
  /-- register a placeholder -/
  | registerNil (description : String)

/-- The kind of answer that an operation gives. -/
abbrev Op.Answer : Op → Type
  | .request => RequestView
  | .queryPairs => List (String × String)
  | .routed => Routed
  | .response => ResponseView
  | .write _ => Nat
  | .removeField _ => Option Http.FieldValue
  | .poolStats => Wrapper.PoolsStats
  | .catalog => Json
  | _ => Unit

/-- A handler program. -/
inductive Program where
  /-- end with a verdict -/
  | done (verdict : Verdict)
  /-- end in a panic -/
  | panic (message : String)
  /-- perform an operation and go on with its answer -/
  | step (op : Op) (next : op.Answer → Program)
  /-- put a program in charge of the cycles to come -/
  | setHandler (handler : Program) (next : Program)
  /-- dispatch an exchange in a cycle of its own -/
  | dispatch (exchange : Http.Exchange) (next : Http.Exchange → Program)

namespace Program

instance : Inhabited Program := ⟨.done (.ok ())⟩

/-- The program that does nothing. -/
def skip : Program := .done (.ok ())

/-- Go on with another program where one is done. -/
def andThen (program : Program) (follow : Verdict → Program) : Program :=
  match program with
  | .done verdict => follow verdict
  | .panic message => .panic message
  | .step op next => .step op fun answer => (next answer).andThen follow
  | .setHandler handler next => .setHandler handler (next.andThen follow)
  | .dispatch exchange next => .dispatch exchange fun after => (next after).andThen follow

/-- Go on with another program unless there was an error. -/
def orFail (program : Program) (follow : Program) : Program :=
  program.andThen fun verdict =>
    match verdict with
    | .ok () => follow
    | .error error => .done (.error error)

/-- Perform an operation whose answer does not matter. -/
def perform (op : Op) (next : Program) : Program :=
  .step op fun _ => next

/-- End with an error. -/
def fail (error : HandlerError) : Program :=
  .done (.error error)

/-- Commit a status with a value, or end with an error if the value has no JSON text. -/
def json (status : Http.Status) (value : Except String Json) (next : Program) : Program :=
  match value with
  | .ok value => perform (.writeJson status value) next
  | .error message => fail (.internal message)

/-- Decode the body, or end with an error. -/
def bind (decode : List UInt8 → Except Json.Failure α) (next : α → Program) : Program :=
  .step .request fun (view : RequestView) =>
    match decode view.body with
    | .ok value => next value
    | .error failure => fail (.ofJsonFailure failure view.body)

/-- The value of a captured parameter. -/
def param (name : String) (next : Option String → Program) : Program :=
  .step .routed fun (routed : Routed) => next (routed.captures.lookup name)

/-- The first value of a parameter of the query. -/
def query (name : String) (next : Option String → Program) : Program :=
  .step .queryPairs fun (pairs : List (String × String)) => next (pairs.lookup name)

/-- Run a callback of the transport as a handler, which never fails. -/
def ofCallback (callback : Callback) : Program :=
  perform (.native callback) skip

/-- Serve a catalog, or say that there is none any more. -/
def serveCatalog (catalog : Option Json) : Program :=
  match catalog with
  | some value => json .ok (.ok value) skip
  | none => fail ⟨.serviceUnavailable, "registry dropped"⟩

/-- Following up a program that is done goes on with its verdict. -/
theorem andThen_done (verdict : Verdict) (follow : Verdict → Program) :
    (Program.done verdict).andThen follow = follow verdict := rfl

/-- Following up is associative. -/
theorem andThen_assoc (program : Program) (first second : Verdict → Program) :
    (program.andThen first).andThen second
      = program.andThen fun verdict => (first verdict).andThen second := by
  induction program with
  | done => rfl
  | panic => rfl
  | step op next hypothesis =>
    simp only [andThen]
    congr 1
    funext answer
    exact hypothesis answer
  | setHandler handler next _ hypothesis => simp only [andThen, hypothesis]
  | dispatch exchange next hypothesis =>
    simp only [andThen]
    congr 1
    funext after
    exact hypothesis after

end Program

/-- A handler: a program under the symbol that identifies it. -/
structure Handler where
  symbol : String
  program : Program
deriving Inhabited

namespace Handler

/-- The text that shows a handler. -/
def describe (symbol : String) : String :=
  "HandlerFunc(" ++ Text.quoted symbol ++ ")"

/-- The handler that serves the catalog of registrations at the time of each request. -/
def introspection : Handler :=
  { symbol := "routing::introspect"
    program := .step .catalog fun (catalog : Json) => Program.serveCatalog (some catalog) }

end Handler

/-- A wrapper around handlers. -/
structure Middleware where
  name : String
  wrap : Program → Program

namespace Middleware

/-- The handler that a wrapper makes of another. -/
def apply (middleware : Middleware) (handler : Handler) : Handler :=
  { symbol := middleware.name ++ ">" ++ handler.symbol
    program := middleware.wrap handler.program }

/-- The wrapper that runs a callback of the transport in front of every handler. -/
def ofCallback (name : String) (callback : Callback) : Middleware :=
  { name
    wrap := fun inner => .perform (.native callback) inner }

/-- Wrap a handler so that the first wrapper runs outermost. -/
def chain (middleware : List Middleware) (handler : Handler) : Handler :=
  middleware.foldr apply handler

end Middleware

end Switchboard
