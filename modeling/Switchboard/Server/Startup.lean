/-
**Starting a server.**

Before a server can run it binds its address, unless it is given a listener, and then loads its
certificate and its key if both are set. The files that exist and what they hold are given from
outside.

* `fault?_of_plain`: without certificate and key a bindable address is enough.
-/

import Switchboard.Credential.Pair
import Switchboard.Files
import Switchboard.Settings.Basic

namespace Switchboard.Startup

/-- Why encryption cannot be set up. -/
inductive TlsFault where
  /-- a file with a role is missing -/
  | notFound (role path : String)
  /-- the files hold no certificate with its key -/
  | badMaterial (fault : Credential.PairFault)
deriving DecidableEq, Repr

/-- The text of a fault. -/
def TlsFault.message : TlsFault → String
  | .notFound role path => "TLS " ++ role ++ " not found: " ++ path
  | .badMaterial fault => fault.message

/-- What keeps encryption from being set up, if it is wanted. -/
def checkFiles (read : FileReader) (server : ServerSettings) : Option TlsFault :=
  if !server.tlsEnabled then none
  else match read server.certificate, read server.key with
    | .ok certificate, .ok key =>
      match Credential.check certificate key with
      | .ok () => none
      | .error fault => some (.badMaterial fault)
    | .ok _, .error _ => some (.notFound "private key" server.key)
    | .error _, _ => some (.notFound "certificate" server.certificate)

/-- Why an address cannot be bound. -/
inductive BindFault where
  | noPort
  | invalidPort
deriving DecidableEq, Repr

/-- The reason of a fault. -/
def BindFault.reason : BindFault → String
  | .noPort => "invalid socket address"
  | .invalidPort => "invalid port value"

/-- The text behind the last colon, if there is one. -/
def portText? (address : String) : Option (List Char) :=
  let port := (address.toList.reverse.takeWhile (· != ':')).reverse
  if port.length = address.toList.length then none else some port

/-- A port number. -/
def isPort (text : List Char) : Bool :=
  let digits := match text with
    | '+' :: rest => rest
    | _ => text
  !digits.isEmpty && digits.all Char.isDigit
    && decide (digits.foldl
      (fun number digit => 10 * number + (digit.toNat - '0'.toNat)) 0 ≤ 65535)

/-- What is wrong with the form of an address. -/
def bindFault? (address : String) : Option BindFault :=
  match portText? address with
  | none => some .noPort
  | some port => if isPort port then none else some .invalidPort

/-- Why a server does not start. -/
inductive Fault where
  | bind (address : String) (fault : BindFault)
  | tls (fault : TlsFault)
deriving DecidableEq, Repr

/-- The text of a fault. -/
def Fault.message : Fault → String
  | .bind address fault => "Failed to bind " ++ address ++ ": " ++ fault.reason
  | .tls fault => "Failed to load TLS configuration: " ++ fault.message

/-- The fault that keeps a server from starting, if its settings show one. -/
def fault? (read : FileReader) (listener : Bool) (server : ServerSettings) :
    Option Fault :=
  match if listener then none else bindFault? server.address with
  | some fault => some (.bind server.address fault)
  | none => (checkFiles read server).map .tls

/-- Without certificate and key a bindable address is enough. -/
theorem fault?_of_plain (read : FileReader) {server : ServerSettings}
    (plain : server.tlsEnabled = false) (bindable : bindFault? server.address = none) :
    fault? read false server = none := by
  simp [fault?, bindable, checkFiles, plain]

end Switchboard.Startup
