/-
**The world of a handler.**

A dispatcher owns the five pools, the counters, and the handler in charge. Around it stand the
registry, the observations that handlers make known, and the log.
-/

import Switchboard.Router
import Switchboard.Server.Meters

namespace Switchboard

/-- The handler in charge of dispatch cycles. -/
inductive Charge where
  /-- nobody is in charge yet -/
  | unset
  /-- one program takes every request, outside any route -/
  | program (program : Program)
  /-- a router looks for the handler -/
  | router (router : Router)
deriving Inhabited

/-- What dispatch cycles share. -/
structure Dispatcher where
  pools : Wrapper.Pools
  charge : Charge := .unset
  meters : Meters := {}

/-- A dispatcher and what its handlers can reach besides. -/
structure World where
  dispatcher : Dispatcher
  registry : Registry := {}
  observations : List Json := []
  events : List Event := []

namespace World

/-- A new dispatcher with an empty registry. -/
def new (settings : PoolSettings) : World :=
  { dispatcher := { pools := Wrapper.Pools.new settings } }

/-- Put a handler in charge of the cycles to come. -/
def setCharge (world : World) (charge : Charge) : World :=
  { world with dispatcher := { world.dispatcher with charge } }

/-- Change the pools. -/
def setPools (world : World) (pools : Wrapper.Pools) : World :=
  { world with dispatcher := { world.dispatcher with pools } }

/-- Change the counters. -/
def mapMeters (world : World) (change : Meters → Meters) : World :=
  { world with
    dispatcher := { world.dispatcher with meters := change world.dispatcher.meters } }

/-- Report events. -/
def report (world : World) (events : List Event) : World :=
  { world with events := world.events ++ events }

/-- Make observations known. -/
def observe (world : World) (entries : List Json) : World :=
  { world with observations := world.observations ++ entries }

/-- Register a placeholder, reporting one that is new. -/
def registerNil (world : World) (description : String) : World :=
  let operation := Operation.placeholder description
  let known := (world.registry.get? operation.id).isSome
  let after := { world with registry := (world.registry.registerNil description).2 }
  if known then after else after.report [.operationRegistered operation.id]

end World

end Switchboard
