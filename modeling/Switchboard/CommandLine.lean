/-
**The command line.**

The program takes the path of a settings file and an address that stands in for the one in the
settings, both optional, each option at most once.

* `read_nil`: without arguments there is neither.
-/

import Switchboard.Settings.Check

namespace Switchboard

/-- What the command line asks for. -/
structure CommandLine where
  config : Option String := none
  address : Option String := none
deriving DecidableEq, Repr

namespace CommandLine

/-- How the program is called. -/
def usage : String :=
  "usage: switchboard [--config PATH] [--address ADDRESS]"

/-- Read the arguments behind those read so far. -/
def readFrom (line : CommandLine) : List String → Option CommandLine
  | [] => some line
  | option :: value :: rest =>
    if (option == "--config" || option == "-c") && line.config.isNone then
      readFrom { line with config := some value } rest
    else if (option == "--address" || option == "-a") && line.address.isNone then
      readFrom { line with address := some value } rest
    else none
  | [_] => none

/-- The command line that arguments make up. -/
def read (arguments : List String) : Option CommandLine :=
  readFrom {} arguments

/-- Settings with the address of the command line, if it gives one. -/
def apply (line : CommandLine) (settings : Settings) : Settings :=
  { settings with
    server := { settings.server with address := line.address.getD settings.server.address } }

/-- Without arguments there is neither. -/
theorem read_nil : read [] = some {} := rfl

end CommandLine

end Switchboard
