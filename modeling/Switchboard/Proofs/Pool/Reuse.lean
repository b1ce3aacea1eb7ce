/-
**How many instances a pool builds.**

A pool builds an instance only when none is idle, and drops one only when as many are idle as may
be. So what it has built depends on a run through two numbers alone: how many instances were built
ahead and how many were held at once at the worst.

* `PoolStats.Balanced` — the balance of the counters with what was acquired, returned and held at
  once; `Balanced.lend` and `Balanced.takeBack` keep it over **one lease and one return**;
* `Watched.isGreatest_peak` — the peak that the onlooker notes down is the largest number of
  instances held at once so far;
* `Watched.Accounted` — the invariant of a run behind the building ahead: `Accounted.move` keeps it
  over one move, `accounted_after` over a run;
* `reuse_is_optimal` — **a pool builds no more than was built ahead or needed at once**, and keeps
  what it has built as far as it may.
-/

import Switchboard.Proofs.Pool.Counters
import Switchboard.Proofs.Pool.Ownership
import Switchboard.Wrapper.Request
import Mathlib.Order.Bounds.Basic

namespace Switchboard

/-! ### The balance of the counters -/

/-- **The counters of a pool balance** with what it has lent. While no more instances were held at
once than may be idle, none was dropped, and each is either idle or held. From then on there are
always enough to fill up what may be idle. -/
structure PoolStats.Balanced (limit ahead peak acquired returned : Nat) (stats : PoolStats) :
    Prop where
  bounded : stats.idle ≤ limit
  room : ahead ≤ limit
  served : stats.created + stats.reused = acquired + ahead
  lent : stats.inUse + returned = acquired
  crest : stats.inUse ≤ peak
  low : peak ≤ limit → stats.created = max ahead peak ∧ stats.idle + stats.inUse = stats.created
  high : limit ≤ peak → limit ≤ stats.idle + stats.inUse

namespace PoolStats.Balanced

variable {limit ahead peak acquired returned : Nat} {stats : PoolStats}

theorem prewarmed (room : ahead ≤ limit) :
    Balanced limit ahead 0 0 0 (PoolStats.prewarmed ahead) where
  bounded := room
  room := room
  served := Nat.add_comm _ _
  lent := rfl
  crest := Nat.le_refl _
  low _ := ⟨(Nat.max_zero ahead).symm, rfl⟩
  high none := none.trans (Nat.zero_le _)

/-- **One lease** keeps the balance. -/
theorem lend (balanced : Balanced limit ahead peak acquired returned stats) :
    Balanced limit ahead (max peak (stats.inUse + 1)) (acquired + 1) returned stats.lend := by
  obtain ⟨bounded, room, served, lent, crest, low, high⟩ := balanced
  have idle := stats.idle_lend
  have inUse := stats.inUse_lend
  have total := stats.served_lend
  have created := stats.created_lend
  by_cases empty : stats.idle = 0
  · -- as many are held as were ever built ahead or held, so one that is built raises the peak
    rw [if_pos empty] at created
    constructor <;> omega
  · rw [if_neg empty] at created
    constructor <;> omega

/-- **One return** keeps the balance. -/
theorem takeBack (balanced : Balanced limit ahead peak acquired returned stats)
    (held : 0 < stats.inUse) :
    Balanced limit ahead peak acquired (returned + 1) (stats.takeBack limit) := by
  obtain ⟨bounded, room, served, lent, crest, low, high⟩ := balanced
  have inUse : (stats.takeBack limit).inUse = stats.inUse - 1 := rfl
  have created : (stats.takeBack limit).created = stats.created := rfl
  have reused : (stats.takeBack limit).reused = stats.reused := rfl
  have idle : (stats.takeBack limit).idle
      = if stats.idle < limit then stats.idle + 1 else stats.idle := rfl
  by_cases space : stats.idle < limit
  · rw [if_pos space] at idle
    constructor <;> omega
  · -- the instance is dropped, and without it there are still enough
    rw [if_neg space] at idle
    constructor <;> omega

/-- **What is idle when nothing is lent** is what was built, as far as it may be. -/
theorem idle_eq (balanced : Balanced limit ahead peak acquired returned stats)
    (back : stats.inUse = 0) : stats.idle = min limit (max ahead peak) := by
  obtain ⟨bounded, room, -, -, -, low, high⟩ := balanced
  omega

end PoolStats.Balanced

namespace Pool

variable {α : Type} [Recycle α]

namespace Watched

/-- One move raises the peak to what is held behind it. -/
theorem peak_move {watched : Watched α} (crest : watched.held.length ≤ watched.peak)
    (next : Move α) :
    (watched.move next).peak = max (watched.move next).held.length watched.peak := by
  cases next with
  | prewarm count => exact (Nat.max_eq_right crest).symm
  | acquire => exact Nat.max_comm _ _
  | release item =>
    by_cases held : item.serial ∈ watched.held
    · rw [move_of_held held]
      exact (Nat.max_eq_right (List.length_erase_le.trans crest)).symm
    · rw [move_release, if_neg held]
      exact (Nat.max_eq_right crest).symm

/-- **The peak is the largest number of instances held at once so far.** -/
theorem isGreatest_peak (kind : String) (maxIdle : Nat) (moves : List (Move α)) :
    IsGreatest
      { number | ∃ front, front <+: moves ∧ (after kind maxIdle front).held.length = number }
      (after kind maxIdle moves).peak := by
  induction moves using List.reverseRecOn with
  | nil =>
    refine ⟨⟨[], List.prefix_rfl, rfl⟩, ?_⟩
    rintro number ⟨front, early, rfl⟩
    rw [List.prefix_nil.mp early]
    exact Nat.le_refl _
  | append_singleton moves last hypothesis =>
    have crest := hypothesis.2 ⟨moves, List.prefix_rfl, rfl⟩
    have same : { number | ∃ front, front <+: moves ++ [last]
          ∧ (after kind maxIdle front).held.length = number }
        = insert (after kind maxIdle (moves ++ [last])).held.length
          { number | ∃ front, front <+: moves
            ∧ (after kind maxIdle front).held.length = number } := by
      ext number
      simp only [List.prefix_concat_iff, or_and_right, exists_or, exists_eq_left, Set.mem_ofPred_eq,
        Set.mem_insert_iff, eq_comm]
    rw [same, after_snoc, peak_move crest]
    exact hypothesis.insert _

/-- **The accounts of a pool under watch**, behind the building ahead. -/
structure Accounted (maxIdle ahead : Nat) (watched : Watched α) : Prop where
  agrees : watched.Agrees
  limit : watched.pool.maxIdle = maxIdle
  balanced : watched.pool.stats.Balanced maxIdle ahead watched.peak watched.acquired
    watched.returned

variable {maxIdle ahead : Nat} {watched : Watched α}

theorem Agrees.inUse (agrees : watched.Agrees) :
    watched.pool.stats.inUse = watched.held.length := by
  rw [← agrees.ledger]
  exact agrees.sound.counted

/-- **One move** that builds nothing ahead keeps the accounts. -/
theorem Accounted.move (accounted : watched.Accounted maxIdle ahead) {next : Move α}
    (fixed : ∀ more, next ≠ .prewarm more) : (watched.move next).Accounted maxIdle ahead := by
  have shows : watched.pool.Shows watched.pool.kind maxIdle watched.pool.stats :=
    ⟨rfl, accounted.limit, rfl⟩
  obtain ⟨agrees, -, balanced⟩ := accounted
  cases next with
  | prewarm more => exact absurd rfl (fixed more)
  | acquire =>
    refine ⟨agrees.move .acquire, shows.acquire.limit, ?_⟩
    show watched.pool.acquire.pool.stats.Balanced _ _ (max watched.peak (watched.held.length + 1))
      (watched.acquired + 1) watched.returned
    rw [shows.acquire.stats, ← agrees.inUse]
    exact balanced.lend
  | release item =>
    by_cases held : item.serial ∈ watched.held
    · have lent : item.serial ∈ watched.pool.leased := by rwa [agrees.ledger]
      have back := shows.release (release_of_leased lent)
      refine ⟨agrees.move (.release item), ?_, ?_⟩
      · rw [move_of_held held]
        exact back.limit
      · rw [move_of_held held]
        show (watched.pool.takeBack item).stats.Balanced _ _ watched.peak watched.acquired
          (watched.returned + 1)
        rw [back.stats]
        refine balanced.takeBack ?_
        rw [agrees.inUse]
        exact List.length_pos_of_mem held
    · rw [agrees.move_of_not_held held]
      exact ⟨agrees, shows.limit, balanced⟩

/-- **The accounts hold on every run** that builds instances ahead only at its start. -/
theorem accounted_after (kind : String) (maxIdle count : Nat) {moves : List (Move α)}
    (fixed : ∀ more, .prewarm more ∉ moves) :
    (after kind maxIdle (.prewarm count :: moves)).Accounted maxIdle (min count maxIdle) := by
  induction moves using List.reverseRecOn with
  | nil =>
    have shows : (Pool.prewarm ({ kind, maxIdle } : Pool α) count).Shows kind maxIdle
      (.prewarmed (min count maxIdle)) := shows_prewarm kind maxIdle count
    refine ⟨agrees_after _ _ _, shows.limit, ?_⟩
    show (Pool.prewarm ({ kind, maxIdle } : Pool α) count).stats.Balanced _ _ 0 0 0
    rw [shows.stats]
    exact .prewarmed (Nat.min_le_right _ _)
  | append_singleton moves last hypothesis =>
    rw [← List.cons_append, after_snoc]
    refine (hypothesis fun more early => fixed more (List.mem_append_left _ early)).move ?_
    rintro more rfl
    exact fixed more (List.mem_append_right _ (List.mem_singleton_self _))

end Watched

/-- **A pool builds no more than was built ahead or needed at once.** Whatever is acquired and
handed in, in any order, behind the building ahead of some instances: no more are idle than may be;
as many are lent as were acquired and not returned; every lease is one of an instance that was built
for it, or built before. Unless more were held at once than may be idle, the pool has built as many
as were built ahead or held at the peak, whichever is more; and whenever nothing is held, these are
idle, as far as they may be. -/
theorem reuse_is_optimal (kind : String) (maxIdle count : Nat) {moves : List (Move α)}
    (fixed : ∀ more, .prewarm more ∉ moves) :
    let watched := Watched.after kind maxIdle (.prewarm count :: moves)
    let stats := watched.pool.stats
    let ahead := min count maxIdle
    stats.idle ≤ maxIdle
      ∧ (watched.returned ≤ watched.acquired ∧ stats.inUse = watched.acquired - watched.returned)
      ∧ stats.created + stats.reused = watched.acquired + ahead
      ∧ (watched.peak ≤ maxIdle → stats.created = max ahead watched.peak)
      ∧ (watched.held = [] → stats.idle = min maxIdle (max ahead watched.peak)) := by
  intro watched stats ahead
  obtain ⟨agrees, -, balanced⟩ := Watched.accounted_after kind maxIdle count fixed
  have lent : stats.inUse + watched.returned = watched.acquired := balanced.lent
  refine ⟨balanced.bounded, ⟨by omega, by omega⟩, balanced.served,
    fun low => (balanced.low low).1, fun back => balanced.idle_eq ?_⟩
  rw [agrees.inUse]
  exact congrArg List.length back

/-- Two leases overlap in a pool with one instance built ahead. It builds a second one and keeps
both. -/
theorem reuse_is_optimal_overlapping :
    let moves : List (Move Wrapper.Url) :=
      [.acquire, .acquire, .release ⟨0, {}⟩, .release ⟨1, {}⟩]
    let watched := Watched.after "url" 4 (.prewarm 1 :: moves)
    (∀ more, .prewarm more ∉ moves)
      ∧ watched.peak = 2
      ∧ watched.held = []
      ∧ watched.pool.stats.created = 2
      ∧ watched.pool.stats.reused = 1
      ∧ watched.pool.stats.idle = 2 := by
  intro moves watched
  have fixed : ∀ more, .prewarm more ∉ moves := by simp [moves]
  obtain ⟨-, -, served, created, idle⟩ := reuse_is_optimal "url" 4 1 fixed
  have built : watched.pool.stats.created = 2 := created (by decide)
  have leases : watched.pool.stats.created + watched.pool.stats.reused = 3 := served
  exact ⟨fixed, rfl, rfl, built, by omega, idle rfl⟩

end Pool

end Switchboard
