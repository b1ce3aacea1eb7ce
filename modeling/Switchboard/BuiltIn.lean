/-
**Built-in routes.**

A server that is started from the command line answers two routes: `/health`, which says that it is
alive, and `/_routes`, which lists what is registered.
-/

import Switchboard.Registry.Basic

namespace Switchboard.BuiltIn

/-- The handler that says that the server is alive. -/
def health : Handler :=
  { symbol := "route_dispatch::health"
    program := Program.json .ok (.ok (Json.ofMembers [("status", .string "ok")])) Program.skip }

/-- The operation that says that the server is alive. -/
def probe : OperationSpec :=
  { description := "liveness probe"
    types := ["GET", "HEAD"]
    handler := some health }

/-- The route that lists what is registered. -/
def listing : RouteSpec :=
  { declared := "/_routes"
    methods := ["GET"]
    description := "registered operations and routes"
    produces := ["application/json"] }

/-- A registry with the built-in routes. -/
def registry : Except DeclarationError Registry := do
  let operation ← probe.build
  let (stored, withProbe) := Registry.register {} operation
  let (_, mounted) := withProbe.mount "/health" stored
  let route ← listing.build Handler.introspection.symbol
  return (mounted.registerRoute route Handler.introspection).2

end Switchboard.BuiltIn
