/-
**The program.**

Loads the settings, makes sure that they let a server start, and answers the request lines on its
standard input from the built-in routes, one after another.
-/

import Switchboard.BuiltIn
import Switchboard.CommandLine
import Switchboard.Http.RequestLine
import Switchboard.Server.Gateway
import Switchboard.Server.Identifier
import Switchboard.Server.Startup

namespace Switchboard

/-- The bytes of a file, or why it cannot be read. -/
def octetsOf (path : String) : IO (Except FileFault (List UInt8)) := do
  if path.toList.contains (Char.ofNat 0) then return .error .badPath
  try
    let octets ← IO.FS.readBinFile path
    return .ok octets.toList
  catch
    | .noFileOrDirectory .. => return .error .missing
    | .inappropriateType .. => return .error .directory
    | .invalidArgument .. => return .error .nameTooLong
    | fault => return .error (.other (toString fault))

/-- The settings that the command line asks for. -/
def settingsOf (line : CommandLine) : IO (Except Settings.Refusal Settings) := do
  match line.config with
  | none => return .ok (line.apply {})
  | some path => return (Settings.loadFile (← octetsOf path)).map line.apply

/-- A random identifier for a request. -/
def randomIdentifier : IO Http.FieldValue := do
  let bits ← IO.rand 0 340282366920938463463374607431768211455
  return (Http.FieldValue.ofString? (Identifier.ofRandom bits)).getD Http.plainText

/-- Answer the request lines of a stream. -/
partial def answerLines (settings : Settings) (world : World) (stream : IO.FS.Stream) :
    IO Unit := do
  let line ← stream.getLine
  if line.isEmpty then return
  match Http.Request.ofLine? line with
  | none =>
    IO.println (Gateway.plainResponse .badRequest "Bad Request").toText
    answerLines settings world stream
  | some request =>
    let served :=
      Gateway.serve settings.server.maxBodyBytes (← randomIdentifier) world request []
    IO.println served.exchange.response.toText
    answerLines settings served.world stream

/-- Start with some settings. -/
def start (settings : Settings) : IO UInt32 := do
  let certificate ← octetsOf settings.server.certificate
  let key ← octetsOf settings.server.key
  let read (path : String) : Except FileFault (List UInt8) :=
    if path == settings.server.certificate then certificate else key
  match Startup.fault? read false settings.server, BuiltIn.registry with
  | some fault, _ =>
    IO.eprintln fault.message
    return 1
  | none, .error fault =>
    IO.eprintln fault.message
    return 1
  | none, .ok registry =>
    let world := World.new settings.pool
    let charged := ({ world with registry }).setCharge (.router (Router.build registry []))
    answerLines settings charged (← IO.getStdin)
    return 0

end Switchboard

/-- Run the program. -/
def main (arguments : List String) : IO UInt32 := do
  match Switchboard.CommandLine.read arguments with
  | none =>
    IO.eprintln Switchboard.CommandLine.usage
    return 2
  | some line =>
    match ← Switchboard.settingsOf line with
    | .ok settings => Switchboard.start settings
    | .error refusal =>
      IO.eprintln (refusal.message.getD "malformed settings")
      return 1
