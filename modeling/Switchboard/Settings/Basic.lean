/-
**Settings.**

What a server is started with: where it listens and what it accepts, how much its pools hold, and
what it reports. Every setting has a default.

* `tlsEnabled_iff`: encryption takes both a certificate and a key.
-/

import Switchboard.Json.Basic

namespace Switchboard

/-- Where a server listens and what it accepts. -/
structure ServerSettings where
  address : String := "0.0.0.0:8080"
  certificate : String := ""
  key : String := ""
  maxBodyBytes : Nat := 4194304
deriving DecidableEq, Repr, Inhabited

/-- How much the pools hold. -/
structure PoolSettings where
  prewarm : Nat := 0
  maxIdle : Nat := 1024
deriving DecidableEq, Repr, Inhabited

/-- What a server reports. -/
structure ReportSettings where
  logLevel : String := "route_dispatch=info,tower_http=info"
  metricsEnabled : Bool := false
  metricsAddress : String := "0.0.0.0:9090"
deriving DecidableEq, Repr, Inhabited

/-- All settings. -/
structure Settings where
  server : ServerSettings := {}
  pool : PoolSettings := {}
  report : ReportSettings := {}
deriving DecidableEq, Repr, Inhabited

/-- A certificate and a key are given, so the server speaks encrypted. -/
def ServerSettings.tlsEnabled (server : ServerSettings) : Bool :=
  !server.certificate.isEmpty && !server.key.isEmpty

/-- Encryption takes both a certificate and a key. -/
theorem ServerSettings.tlsEnabled_iff (server : ServerSettings) :
    server.tlsEnabled = true ↔ server.certificate ≠ "" ∧ server.key ≠ "" := by
  simp [tlsEnabled]

/-- The settings as a value. -/
def Settings.toJson (settings : Settings) : Json :=
  Json.ofMembers
    [("server", Json.ofMembers
        [("address", .string settings.server.address),
          ("tls_certfile", .string settings.server.certificate),
          ("tls_keyfile", .string settings.server.key),
          ("max_body_bytes", .integer settings.server.maxBodyBytes)]),
      ("pool", Json.ofMembers
        [("prewarm", .integer settings.pool.prewarm),
          ("max_idle", .integer settings.pool.maxIdle)]),
      ("observability", Json.ofMembers
        [("log_level", .string settings.report.logLevel),
          ("metrics_enabled", .bool settings.report.metricsEnabled),
          ("metrics_address", .string settings.report.metricsAddress)])]

end Switchboard
