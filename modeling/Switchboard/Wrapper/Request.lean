/-
**Request wrappers.**

For one dispatch cycle three pooled wrappers own the parts of a request: its header fields, its
target, and the rest together with the other two. The query of the target is decoded on first use
and kept until the target changes.

* `queryPairs_reset`: behind a reset the pairs are those of the new target;
* `lend_bind`: a bound wrapper lends out the request it was bound to.
-/

import Switchboard.Http.Message
import Switchboard.Pool
import Switchboard.Text.Form

namespace Switchboard.Wrapper

/-- The header fields of a message. -/
structure Fields where
  header : Http.Header := {}
deriving DecidableEq, Inhabited

instance : Recycle Fields where
  fresh := {}
  recycle _ := {}

/-- The target of a request and the pairs of its query, once they have been asked for. -/
structure Url where
  uri : Http.Uri := .root
  cached : Option (List (String × String)) := none
deriving DecidableEq, Inhabited

instance : Recycle Url where
  fresh := {}
  recycle _ := {}

/-- The pairs of the query of a target. -/
def pairsOf (uri : Http.Uri) : List (String × String) :=
  uri.query.elim [] Text.formPairs

namespace Url

/-- Own another target. -/
def reset (_ : Url) (uri : Http.Uri) : Url :=
  ⟨uri, none⟩

/-- The pairs of the query, and the wrapper that keeps them. -/
def queryPairs (url : Url) : List (String × String) × Url :=
  match url.cached with
  | some pairs => (pairs, url)
  | none => (pairsOf url.uri, { url with cached := some (pairsOf url.uri) })

/-- Behind a reset the pairs are those of the new target. -/
theorem queryPairs_reset (url : Url) (uri : Http.Uri) :
    (url.reset uri).queryPairs.1 = pairsOf uri := rfl

end Url

/-- The parts of a request. Header and target are there for the length of a cycle. -/
structure Request where
  method : Http.Method := .get
  version : Http.Version := .http11
  body : List UInt8 := []
  peer : Option Net.Address := none
  fields : Option (Instance Fields) := none
  url : Option (Instance Url) := none
deriving DecidableEq, Inhabited

instance : Recycle Request where
  fresh := {}
  recycle _ := {}

namespace Request

/-- Own the parts of a request, with wrappers that own its header and its target. -/
def bind (_ : Request) (request : Http.Request) (fields : Instance Fields) (url : Instance Url) :
    Request :=
  { method := request.method
    version := request.version
    body := request.body
    peer := request.peer
    fields := some fields
    url := some url }

/-- The header fields; a wrapper outside a cycle has none. -/
def header (request : Request) : Http.Header :=
  request.fields.elim {} fun fields => fields.value.header

/-- The target; a wrapper outside a cycle has the root. -/
def uri (request : Request) : Http.Uri :=
  request.url.elim .root fun url => url.value.uri

/-- The parts as one request, lent to a callback. -/
def lend (request : Request) : Http.Request :=
  { method := request.method
    uri := request.uri
    version := request.version
    header := request.header
    body := request.body
    peer := request.peer }

/-- Own what a callback left of a request. -/
def restore (request : Request) (native : Http.Request) : Request :=
  { method := native.method
    version := native.version
    body := native.body
    peer := native.peer
    fields := request.fields.map fun fields => { fields with value := ⟨native.header⟩ }
    url := request.url.map fun url => { url with value := url.value.reset native.uri } }

/-- The pairs of the query, and the wrapper that keeps them. -/
def queryPairs (request : Request) : List (String × String) × Request :=
  match request.url with
  | none => ([], request)
  | some url =>
    let (pairs, value) := url.value.queryPairs
    (pairs, { request with url := some { url with value } })

/-- A bound wrapper lends out the request it was bound to. -/
theorem lend_bind (wrapper : Request) (request : Http.Request) (fields : Instance Fields)
    (url : Instance Url) (header : fields.value.header = request.header)
    (target : url.value.uri = request.uri) : (wrapper.bind request fields url).lend = request := by
  simp [bind, lend, uri, Request.header, header, target]

end Request

end Switchboard.Wrapper
