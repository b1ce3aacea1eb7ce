/-
**Messages.**

A request with its whole body, a response under construction, and the pair of them that passes from
the transport to a handler and back.

* `contentLength_of_none`: without a declared length a response is as long as its body.
-/

import Switchboard.Http.Header
import Switchboard.Http.Status
import Switchboard.Http.Uri
import Switchboard.Http.Version
import Switchboard.Net.Address
import Switchboard.Text.Blank
import Switchboard.Text.Number

namespace Switchboard.Http

/-- A request. -/
structure Request where
  method : Method := .get
  uri : Uri := .root
  version : Version := .http11
  header : Header := {}
  body : List UInt8 := []
  peer : Option Net.Address := none
deriving DecidableEq, Inhabited

/-- A response. -/
structure Response where
  status : Status := .ok
  header : Header := {}
  body : List UInt8 := []
deriving DecidableEq, Inhabited

/-- A request and its response. -/
structure Exchange where
  request : Request := {}
  response : Response := {}
deriving DecidableEq, Inhabited

/-- The length that the first content length declares. -/
def Response.declaredLength? (response : Response) : Option Nat := do
  let text ← response.header.getText? contentLength.text
  Text.readWord? (Text.trim text).toList

/-- The declared length, or else the length of the body. -/
def Response.contentLength (response : Response) : Nat :=
  response.declaredLength?.getD response.body.length

/-- Without a declared length a response is as long as its body. -/
theorem Response.contentLength_of_none {response : Response}
    (undeclared : response.declaredLength? = none) :
    response.contentLength = response.body.length := by
  simp [contentLength, undeclared]

end Switchboard.Http
