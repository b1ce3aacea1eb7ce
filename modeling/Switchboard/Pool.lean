/-
**Pools.**

A pool lends instances of one kind and keeps those that come back for the next borrower, at most a
given number of them. An instance is built only when none is idle, and it is cleared whenever it
comes back. Instances are told apart by a serial number, the count of those built before it.

* `acquire_leased`: an acquired instance is leased;
* `release_of_not_leased`: an instance that is not leased is refused and nothing changes.
-/

import Switchboard.Text.Quoted

namespace Switchboard

/-- A state that is cleared between two occupants. -/
class Recycle (α : Type) where
  /-- the state of a new instance -/
  fresh : α
  /-- the state behind an occupant -/
  recycle : α → α

/-- An instance of a pooled kind. -/
structure Instance (α : Type) where
  serial : Nat
  value : α
deriving DecidableEq, Inhabited

/-- The counters of a pool. -/
structure PoolStats where
  created : Nat := 0
  reused : Nat := 0
  idle : Nat := 0
  inUse : Nat := 0
deriving DecidableEq, Repr, Inhabited

/-- The text that shows counters. -/
def PoolStats.describe (stats : PoolStats) : String :=
  "PoolStats \x7b created: " ++ toString stats.created ++ ", reused: " ++ toString stats.reused
    ++ ", idle: " ++ toString stats.idle ++ ", in_use: " ++ toString stats.inUse ++ " \x7d"

/-- A pool of instances of one kind. The instance that came back last stands first. -/
structure Pool (α : Type) where
  kind : String
  maxIdle : Nat
  free : List (Instance α) := []
  leased : List Nat := []
  created : Nat := 0
  reused : Nat := 0
  inUse : Nat := 0
deriving Inhabited

/-- What acquiring gives: the instance, the pool without it, and whether it was built just now. -/
structure Acquired (α : Type) where
  item : Instance α
  pool : Pool α
  built : Bool

namespace Pool

variable {α : Type} [Recycle α]

/-- Build an instance that stays idle. -/
def addIdle (pool : Pool α) : Pool α :=
  { pool with
    free := ⟨pool.created, Recycle.fresh⟩ :: pool.free
    created := pool.created + 1 }

/-- Build instances until a number of them is idle, but no more than may be. -/
def prewarm (pool : Pool α) (count : Nat) : Pool α :=
  Nat.repeat addIdle (min count pool.maxIdle - pool.free.length) pool

/-- Take an instance, building one if none is idle. -/
def acquire (pool : Pool α) : Acquired α :=
  match pool.free with
  | item :: rest =>
    { item
      pool :=
        { pool with
          free := rest
          leased := item.serial :: pool.leased
          reused := pool.reused + 1
          inUse := pool.inUse + 1 }
      built := false }
  | [] =>
    { item := ⟨pool.created, Recycle.fresh⟩
      pool :=
        { pool with
          leased := pool.created :: pool.leased
          created := pool.created + 1
          inUse := pool.inUse + 1 }
      built := true }

/-- The refusal of an instance that the pool did not lend. -/
def foreignMessage (pool : Pool α) : String :=
  pool.kind ++ " pool received an instance it did not lease"

/-- Put an instance among the idle ones if there is room for it. -/
def keep (pool : Pool α) (item : Instance α) : Pool α :=
  if pool.free.length < pool.maxIdle then { pool with free := item :: pool.free } else pool

/-- Take back an instance that was lent, cleared. -/
def release (pool : Pool α) (item : Instance α) : Except String (Pool α) :=
  if item.serial ∈ pool.leased then
    .ok (keep
      { pool with
        leased := pool.leased.erase item.serial
        inUse := pool.inUse - 1 }
      { item with value := Recycle.recycle item.value })
  else .error pool.foreignMessage

/-- Take back an instance; one that was not lent changes nothing. -/
def takeBack (pool : Pool α) (item : Instance α) : Pool α :=
  match pool.release item with
  | .ok after => after
  | .error _ => pool

omit [Recycle α] in
/-- The counters. -/
def stats (pool : Pool α) : PoolStats :=
  { created := pool.created
    reused := pool.reused
    idle := pool.free.length
    inUse := pool.inUse }

omit [Recycle α] in
/-- The text that shows a pool. -/
def describe (pool : Pool α) : String :=
  "Pool \x7b kind: " ++ Text.quoted pool.kind ++ ", max_idle: " ++ toString pool.maxIdle
    ++ ", stats: " ++ pool.stats.describe ++ " \x7d"

/-- An acquired instance is leased. -/
theorem acquire_leased (pool : Pool α) :
    pool.acquire.item.serial ∈ pool.acquire.pool.leased := by
  unfold acquire
  split <;> simp

/-- An instance that is not leased is refused. -/
theorem release_of_not_leased {pool : Pool α} {item : Instance α}
    (foreign : item.serial ∉ pool.leased) : pool.release item = .error pool.foreignMessage := by
  simp [release, foreign]

end Pool

end Switchboard
