/-
**Settings read from texts and values.**

Settings come as a TOML document or as a JSON value; both are first seen as the same kind of entry. A
section is a group of named entries, of which unknown ones are ignored and missing ones have their
defaults, or a list of the settings in order. Behind the last setting a list in a TOML document may
hold more, which is ignored; a list in a JSON value may not.

* `decode_empty`: an empty group gives the defaults.
-/

import Switchboard.Settings.Basic
import Switchboard.Toml.Document

namespace Switchboard

namespace Settings

/-- An entry of a settings text. -/
inductive Entry where
  | text (value : String)
  | whole (value : Int)
  | flag (value : Bool)
  /-- a list; an exact one has no entries that nothing takes -/
  | list (exact : Bool) (entries : List Entry)
  | group (members : List (String × Entry))
  /-- a value that no setting takes -/
  | other
deriving Inhabited

mutual

/-- A JSON value as an entry. -/
def Entry.ofJson : Json → Entry
  | .null => .other
  | .bool value => .flag value
  | .integer value => .whole value
  | .double _ => .other
  | .string value => .text value
  | .array items => .list true (Entry.ofJsonItems items)
  | .object members => .group (Entry.ofJsonMembers members)

/-- JSON values as entries. -/
def Entry.ofJsonItems : List Json → List Entry
  | [] => []
  | item :: rest => Entry.ofJson item :: Entry.ofJsonItems rest

/-- The members of a JSON object as entries. -/
def Entry.ofJsonMembers : List (String × Json) → List (String × Entry)
  | [] => []
  | (key, value) :: rest => (key, Entry.ofJson value) :: Entry.ofJsonMembers rest

end

mutual

/-- A TOML item as an entry; a date or time is seen as a group of unknown names. -/
def Entry.ofItem : Toml.Item → Entry
  | .text value => .text value
  | .whole value => .whole value
  | .fraction => .other
  | .flag value => .flag value
  | .moment => .group []
  | .list items => .list false (Entry.ofItems items)
  | .inline _ _ members => .group (Entry.ofItemMembers members)
  | .table _ _ members => .group (Entry.ofItemMembers members)
  | .tables elements => .list false (Entry.ofTables elements)

/-- TOML items as entries. -/
def Entry.ofItems : List Toml.Item → List Entry
  | [] => []
  | item :: rest => Entry.ofItem item :: Entry.ofItems rest

/-- The members of a TOML table as entries. -/
def Entry.ofItemMembers : List (String × Toml.Item) → List (String × Entry)
  | [] => []
  | (key, item) :: rest => (key, Entry.ofItem item) :: Entry.ofItemMembers rest

/-- A list of TOML tables as entries. -/
def Entry.ofTables : List (List (String × Toml.Item)) → List Entry
  | [] => []
  | members :: rest => .group (Entry.ofItemMembers members) :: Entry.ofTables rest

end

/-- The entries of a section under the names of its settings. -/
def Entry.section? (names : List String) : Entry → Option (List (String × Entry))
  | .group members => some members
  | .list exact entries =>
    if exact ∧ names.length < entries.length then none else some (names.zip entries)
  | _ => none

/-- The setting of a name, read if it is there. -/
def setting (members : List (String × Entry)) (name : String) (fallback : α)
    (read : Entry → Option α) : Option α :=
  match members.lookup name with
  | none => some fallback
  | some entry => read entry

/-- A text. -/
def Entry.text? : Entry → Option String
  | .text value => some value
  | _ => none

/-- A truth value. -/
def Entry.flag? : Entry → Option Bool
  | .flag value => some value
  | _ => none

/-- A size. -/
def Entry.size? : Entry → Option Nat
  | .whole value => if 0 ≤ value then some value.toNat else none
  | _ => none

/-- Where the server listens and what it accepts. -/
def decodeServer (entry : Entry) : Option ServerSettings := do
  let names := ["address", "tls_certfile", "tls_keyfile", "max_body_bytes"]
  let members ← entry.section? names
  let defaults : ServerSettings := {}
  let address ← setting members "address" defaults.address Entry.text?
  let certificate ← setting members "tls_certfile" defaults.certificate Entry.text?
  let key ← setting members "tls_keyfile" defaults.key Entry.text?
  let maxBodyBytes ← setting members "max_body_bytes" defaults.maxBodyBytes Entry.size?
  some { address, certificate, key, maxBodyBytes }

/-- How much the pools hold. -/
def decodePool (entry : Entry) : Option PoolSettings := do
  let members ← entry.section? ["prewarm", "max_idle"]
  let defaults : PoolSettings := {}
  let prewarm ← setting members "prewarm" defaults.prewarm Entry.size?
  let maxIdle ← setting members "max_idle" defaults.maxIdle Entry.size?
  some { prewarm, maxIdle }

/-- What the server reports. -/
def decodeReport (entry : Entry) : Option ReportSettings := do
  let members ← entry.section? ["log_level", "metrics_enabled", "metrics_address"]
  let defaults : ReportSettings := {}
  let logLevel ← setting members "log_level" defaults.logLevel Entry.text?
  let metricsEnabled ← setting members "metrics_enabled" defaults.metricsEnabled Entry.flag?
  let metricsAddress ← setting members "metrics_address" defaults.metricsAddress Entry.text?
  some { logLevel, metricsEnabled, metricsAddress }

/-- All settings. -/
def decode (entry : Entry) : Option Settings := do
  let members ← entry.section? ["server", "pool", "observability"]
  let server ← setting members "server" {} decodeServer
  let pool ← setting members "pool" {} decodePool
  let report ← setting members "observability" {} decodeReport
  some { server, pool, report }

/-- The settings of a JSON value. -/
def ofJson? (value : Json) : Option Settings :=
  decode (Entry.ofJson value)

/-- The settings of a TOML document. -/
def ofToml? (text : String) : Option Settings := do
  let members ← Toml.parse text
  decode (.group (Entry.ofItemMembers members))

/-- An empty group gives the defaults. -/
theorem decode_empty : decode (.group []) = some {} := rfl

end Settings

end Switchboard
