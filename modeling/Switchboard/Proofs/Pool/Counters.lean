/-
**What the counters of a pool say.**

Lending and taking back move the counters of a pool in a way that depends on the counters and on the
limit of idle instances alone, not on the instances.

* `PoolStats.lend`, `PoolStats.takeBack` — the counters behind a lease and behind a return;
* `Pool.Shows` — a pool of a kind shows some counters; `Shows.acquire` and `Shows.release` carry it
  along, and `shows_prewarm` starts it.
-/

import Switchboard.Proofs.Pool.Sound

namespace Switchboard

namespace PoolStats

/-- The counters when some instances are built ahead. -/
def prewarmed (count : Nat) : PoolStats :=
  { created := count, idle := count }

/-- The counters when one more instance is lent. -/
def lend (stats : PoolStats) : PoolStats :=
  if stats.idle = 0 then
    { stats with created := stats.created + 1, inUse := stats.inUse + 1 }
  else
    { stats with
      reused := stats.reused + 1, idle := stats.idle - 1, inUse := stats.inUse + 1 }

/-- The counters when an instance comes back and a number of them may be idle. -/
def takeBack (stats : PoolStats) (limit : Nat) : PoolStats :=
  { stats with
    idle := if stats.idle < limit then stats.idle + 1 else stats.idle
    inUse := stats.inUse - 1 }

theorem inUse_lend (stats : PoolStats) : stats.lend.inUse = stats.inUse + 1 := by
  unfold lend
  split <;> rfl

theorem idle_lend (stats : PoolStats) : stats.lend.idle = stats.idle - 1 := by
  unfold lend
  split
  · rename_i empty
    show stats.idle = stats.idle - 1
    omega
  · rfl

theorem created_lend (stats : PoolStats) :
    stats.lend.created = stats.created + if stats.idle = 0 then 1 else 0 := by
  unfold lend
  split <;> rfl

/-- Every lease is counted, as a new instance or as one that is used again. -/
theorem served_lend (stats : PoolStats) :
    stats.lend.created + stats.lend.reused = stats.created + stats.reused + 1 := by
  unfold lend
  split <;> simp only <;> omega

/-- What was lent is idle when it is back, if anything may be idle at all. -/
theorem idle_takeBack_lend (stats : PoolStats) {limit : Nat} (room : 1 ≤ limit) :
    (stats.lend.takeBack limit).idle ≠ 0 := by
  unfold takeBack lend
  split <;> simp only <;> split <;> omega

end PoolStats

namespace Pool

variable {α : Type} [Recycle α] {pool : Pool α} {kind : String} {limit : Nat} {stats : PoolStats}

omit [Recycle α] in
/-- A pool of a kind, with a limit of idle instances, shows some counters. -/
structure Shows (pool : Pool α) (kind : String) (limit : Nat) (stats : PoolStats) : Prop where
  kind : pool.kind = kind
  limit : pool.maxIdle = limit
  stats : pool.stats = stats

theorem Shows.acquire (shows : pool.Shows kind limit stats) :
    pool.acquire.pool.Shows kind limit stats.lend := by
  obtain ⟨named, limited, rfl⟩ := shows
  unfold Pool.acquire
  split
  · rename_i item rest idle
    refine ⟨named, limited, ?_⟩
    simp [Pool.stats, PoolStats.lend, idle]
  · rename_i idle
    refine ⟨named, limited, ?_⟩
    simp [Pool.stats, PoolStats.lend, idle]

/-- An instance is built where none is idle. -/
theorem Shows.built (shows : pool.Shows kind limit stats) :
    pool.acquire.built = decide (stats.idle = 0) := by
  obtain ⟨-, -, rfl⟩ := shows
  unfold Pool.acquire
  split
  · rename_i item rest idle
    simp [Pool.stats, idle]
  · rename_i idle
    simp [Pool.stats, idle]

theorem Shows.release {after : Pool α} {item : Instance α} (shows : pool.Shows kind limit stats)
    (back : pool.release item = .ok after) : after.Shows kind limit (stats.takeBack limit) := by
  obtain ⟨named, limited, rfl⟩ := shows
  subst limited
  unfold Pool.release at back
  split at back
  · cases back
    unfold keep
    split
    · rename_i room
      refine ⟨named, rfl, ?_⟩
      simp only at room
      simp [Pool.stats, PoolStats.takeBack, room]
    · rename_i full
      refine ⟨named, rfl, ?_⟩
      simp only at full
      simp [Pool.stats, PoolStats.takeBack, full]
  · cases back

/-- One more is lent behind a lease. -/
theorem inUse_acquire (pool : Pool α) : pool.acquire.pool.inUse = pool.inUse + 1 := by
  have shows : pool.Shows pool.kind pool.maxIdle pool.stats := ⟨rfl, rfl, rfl⟩
  exact (congrArg PoolStats.inUse shows.acquire.stats).trans pool.stats.inUse_lend

/-- One less is lent behind a return. -/
theorem inUse_of_release {after : Pool α} {item : Instance α}
    (back : pool.release item = .ok after) : after.inUse = pool.inUse - 1 := by
  have shows : pool.Shows pool.kind pool.maxIdle pool.stats := ⟨rfl, rfl, rfl⟩
  exact congrArg PoolStats.inUse (shows.release back).stats

theorem shows_repeat_addIdle (kind : String) (limit times : Nat) :
    (Nat.repeat addIdle times ({ kind, maxIdle := limit } : Pool α)).Shows kind limit
      (.prewarmed times) := by
  induction times with
  | zero => exact ⟨rfl, rfl, rfl⟩
  | succ times hypothesis =>
    refine ⟨hypothesis.kind, hypothesis.limit, ?_⟩
    have created : (Nat.repeat addIdle times ({ kind, maxIdle := limit } : Pool α)).created
        = times := congrArg PoolStats.created hypothesis.stats
    have reused : (Nat.repeat addIdle times ({ kind, maxIdle := limit } : Pool α)).reused = 0 :=
      congrArg PoolStats.reused hypothesis.stats
    have idle : (Nat.repeat addIdle times ({ kind, maxIdle := limit } : Pool α)).free.length
        = times := congrArg PoolStats.idle hypothesis.stats
    have lent : (Nat.repeat addIdle times ({ kind, maxIdle := limit } : Pool α)).inUse = 0 :=
      congrArg PoolStats.inUse hypothesis.stats
    simp [Nat.repeat, addIdle, Pool.stats, PoolStats.prewarmed, created, reused, idle, lent]

/-- **A new pool with instances built ahead** shows as many of them as it may keep. -/
theorem shows_prewarm (kind : String) (limit count : Nat) :
    (Pool.prewarm ({ kind, maxIdle := limit } : Pool α) count).Shows kind limit
      (.prewarmed (min count limit)) :=
  shows_repeat_addIdle kind limit (min count limit)

end Pool

end Switchboard
