/-
**Who holds an instance of a pool.**

A pool knows by its ledger what it has lent. The ledger, the counter of what is lent and the list of
idle instances are written one after another, and they agree on every run: also on one in which
instances are handed in that the pool never lent.

* `Pool.lend` — lending with the check that nothing is lent twice;
* `Pool.handIn` — taking back **step by step**, with what is left where the pool refuses:
  `handIn_of_leased`, `handIn_of_not_leased`. It is how an instance is released,
  `release_eq_handIn`;
* `Pool.Watched` — a pool and an onlooker, who notes down what changes hands and never looks at the
  ledger; `Watched.move` is **one move**, `Watched.after` a run from an empty pool;
* `Watched.Agrees` — the invariant of a run: the pool is sound and its ledger is what the onlooker
  has noted. `Agrees.move` keeps it over one move, `agrees_after` over a run;
* `ownership_is_exclusive` — **no instance has two owners, and a foreign one is refused without a
  trace**.
-/

import Switchboard.Proofs.Pool.Sound
import Mathlib.Data.List.Induction

namespace Switchboard

/-- What is left when an instance is handed in: the pool, and why it refuses if it does. -/
structure HandedIn (α : Type) where
  pool : Pool α
  refusal : Option String := none

namespace Pool

variable {α : Type} [Recycle α]

/-! ### Lending with a check -/

omit [Recycle α] in
/-- The complaint about an instance that is lent a second time. -/
def doubleMessage (pool : Pool α) : String :=
  pool.kind ++ " pool leased the same instance twice"

/-- Lend an instance, which must be new to the ledger. -/
def lend (pool : Pool α) : Except String (Acquired α) :=
  if pool.acquire.item.serial ∈ pool.leased then .error pool.doubleMessage else .ok pool.acquire

/-- **A sound pool never lends an instance twice.** -/
theorem Sound.lend {pool : Pool α} (sound : pool.Sound) : pool.lend = .ok pool.acquire :=
  if_neg sound.not_mem_leased_acquire

/-! ### Taking back step by step -/

/-- Hand in an instance. Its serial number is struck off the ledger first; where it was not there,
the pool refuses the instance and stops. Otherwise the counter goes down, and the cleared instance
is kept if there is room for it. -/
def handIn (pool : Pool α) (item : Instance α) : HandedIn α :=
  let struck := { pool with leased := pool.leased.erase item.serial }
  if item.serial ∈ pool.leased then
    { pool :=
        { struck with inUse := struck.inUse - 1 }.keep
          { item with value := Recycle.recycle item.value } }
  else { pool := struck, refusal := some pool.foreignMessage }

theorem handIn_of_leased {pool : Pool α} {item : Instance α} (lent : item.serial ∈ pool.leased) :
    pool.handIn item = { pool := pool.takeBack item } := by
  unfold handIn takeBack release
  rw [if_pos lent, if_pos lent]

/-- **A foreign instance is refused without a trace**: to strike it off the ledger strikes
nothing. -/
theorem handIn_of_not_leased {pool : Pool α} {item : Instance α}
    (foreign : item.serial ∉ pool.leased) :
    pool.handIn item = { pool, refusal := some pool.foreignMessage } := by
  unfold handIn
  rw [if_neg foreign, List.erase_of_not_mem foreign]

theorem handIn_pool (pool : Pool α) (item : Instance α) :
    (pool.handIn item).pool = pool.takeBack item := by
  by_cases lent : item.serial ∈ pool.leased
  · rw [handIn_of_leased lent]
  · rw [handIn_of_not_leased lent, takeBack_of_not_leased lent]

/-- **To hand an instance in step by step is to release it.** -/
theorem release_eq_handIn (pool : Pool α) (item : Instance α) :
    pool.release item
      = (pool.handIn item).refusal.elim (.ok (pool.handIn item).pool) .error := by
  by_cases lent : item.serial ∈ pool.leased
  · rw [handIn_of_leased lent, release_of_leased lent]
    rfl
  · rw [handIn_of_not_leased lent, release_of_not_leased lent]
    rfl

/-- The counter goes down by one for an instance that was lent, and it does not pass zero. -/
theorem Sound.inUse_takeBack {pool : Pool α} (sound : pool.Sound) {item : Instance α}
    (lent : item.serial ∈ pool.leased) : (pool.takeBack item).inUse + 1 = pool.inUse := by
  rw [(sound.takeBack item).counted, leased_takeBack, List.length_erase_of_mem lent, sound.counted]
  exact Nat.sub_add_cancel (List.length_pos_of_mem lent)

theorem leased_prewarm (pool : Pool α) (count : Nat) :
    (pool.prewarm count).leased = pool.leased := by
  unfold prewarm
  generalize min count pool.maxIdle - pool.free.length = times
  induction times with
  | zero => rfl
  | succ times hypothesis => exact hypothesis

/-! ### A pool under watch -/

/-- What is done with a pool. An instance that is handed in may be any. -/
inductive Move (α : Type) where
  | prewarm (count : Nat)
  | acquire
  | release (item : Instance α)

/-- A pool and what an onlooker notes down: the serial numbers of the instances that are held, the
most that were held at once, and how many changed hands in either direction. -/
structure Watched (α : Type) where
  pool : Pool α
  held : List Nat := []
  peak : Nat := 0
  acquired : Nat := 0
  returned : Nat := 0

namespace Watched

/-- One move. An instance that nobody holds counts for nothing when it is handed in. -/
def move (watched : Watched α) : Move α → Watched α
  | .prewarm count => { watched with pool := watched.pool.prewarm count }
  | .acquire =>
    { watched with
      pool := watched.pool.acquire.pool
      held := watched.pool.acquire.item.serial :: watched.held
      peak := max watched.peak (watched.held.length + 1)
      acquired := watched.acquired + 1 }
  | .release item =>
    if item.serial ∈ watched.held then
      { watched with
        pool := (watched.pool.handIn item).pool
        held := watched.held.erase item.serial
        returned := watched.returned + 1 }
    else { watched with pool := (watched.pool.handIn item).pool }

/-- A run, which starts with an empty pool. -/
def after (kind : String) (maxIdle : Nat) (moves : List (Move α)) : Watched α :=
  moves.foldl move { pool := { kind, maxIdle } }

theorem after_snoc (kind : String) (maxIdle : Nat) (moves : List (Move α)) (last : Move α) :
    after kind maxIdle (moves ++ [last]) = (after kind maxIdle moves).move last :=
  List.foldl_concat _ _ _ _

/-- **The pool and the onlooker agree.** -/
structure Agrees (watched : Watched α) : Prop where
  sound : watched.pool.Sound
  ledger : watched.pool.leased = watched.held

theorem move_release (watched : Watched α) (item : Instance α) :
    watched.move (.release item)
      = if item.serial ∈ watched.held then
          { watched with
            pool := (watched.pool.handIn item).pool
            held := watched.held.erase item.serial
            returned := watched.returned + 1 }
        else { watched with pool := (watched.pool.handIn item).pool } := rfl

theorem move_of_held {watched : Watched α} {item : Instance α}
    (held : item.serial ∈ watched.held) :
    watched.move (.release item)
      = { watched with
          pool := watched.pool.takeBack item
          held := watched.held.erase item.serial
          returned := watched.returned + 1 } := by
  rw [move_release, if_pos held, handIn_pool]

/-- What nobody holds leaves everything as it is when it is handed in. -/
theorem Agrees.move_of_not_held {watched : Watched α} (agrees : watched.Agrees)
    {item : Instance α} (foreign : item.serial ∉ watched.held) :
    watched.move (.release item) = watched := by
  have unlent : item.serial ∉ watched.pool.leased := by rwa [agrees.ledger]
  rw [move_release, if_neg foreign, handIn_of_not_leased unlent]

/-- **One move** keeps pool and onlooker in agreement. -/
theorem Agrees.move {watched : Watched α} (agrees : watched.Agrees) (next : Move α) :
    (watched.move next).Agrees := by
  cases next with
  | prewarm count =>
    exact ⟨agrees.sound.prewarm count, (leased_prewarm _ _).trans agrees.ledger⟩
  | acquire =>
    refine ⟨agrees.sound.acquire, ?_⟩
    show watched.pool.acquire.pool.leased = watched.pool.acquire.item.serial :: watched.held
    rw [leased_acquire, agrees.ledger]
  | release item =>
    by_cases held : item.serial ∈ watched.held
    · rw [move_of_held held]
      refine ⟨agrees.sound.takeBack item, ?_⟩
      show (watched.pool.takeBack item).leased = watched.held.erase item.serial
      rw [leased_takeBack, agrees.ledger]
    · rw [agrees.move_of_not_held held]
      exact agrees

/-- **Pool and onlooker agree on every run.** -/
theorem agrees_after (kind : String) (maxIdle : Nat) (moves : List (Move α)) :
    (after kind maxIdle moves).Agrees := by
  induction moves using List.reverseRecOn with
  | nil => exact ⟨sound_empty kind maxIdle, rfl⟩
  | append_singleton moves last hypothesis =>
    rw [after_snoc]
    exact hypothesis.move last

end Watched

/-- No instance is idle twice, held twice, or idle and held at once. -/
theorem Sound.nodup {pool : Pool α} (sound : pool.Sound) :
    (pool.free.map Instance.serial ++ pool.leased).Nodup := by
  refine List.Nodup.append sound.idleOnce sound.lentOnce ?_
  intro serial idle lent
  obtain ⟨item, member, rfl⟩ := List.mem_map.mp idle
  exact sound.apart item member lent

/-- **No instance has two owners, and a foreign one is refused without a trace.** On every run from
an empty pool, in which instances are built ahead, acquired and handed in at will, the ledger is
what is held by the borrowers. No instance is idle twice, held twice, or idle and held at once; the
idle ones are cleared; and the counter of what is lent counts what is held. Then the pool lends,
without a complaint, an instance that nobody holds, in a cleared state; it takes back every instance
that is held, and its counter goes down by one from a number above zero; and it refuses every other
instance and is left as it was, with its counters, its idle instances and its ledger. -/
theorem ownership_is_exclusive (kind : String) (maxIdle : Nat) (moves : List (Move α)) :
    let watched := Watched.after kind maxIdle moves
    let pool := watched.pool
    pool.leased = watched.held
      ∧ (pool.free.map Instance.serial ++ watched.held).Nodup
      ∧ (∀ item ∈ pool.free, Recycle.Cleared item.value)
      ∧ pool.inUse = watched.held.length
      ∧ (pool.lend = .ok pool.acquire
        ∧ pool.acquire.item.serial ∉ watched.held
        ∧ Recycle.Cleared pool.acquire.item.value)
      ∧ (∀ item : Instance α, item.serial ∈ watched.held →
        (pool.handIn item).refusal = none
        ∧ pool.release item = .ok (pool.handIn item).pool
        ∧ (pool.handIn item).pool.inUse + 1 = pool.inUse)
      ∧ ∀ item : Instance α, item.serial ∉ watched.held →
        pool.handIn item = { pool, refusal := some pool.foreignMessage }
        ∧ pool.release item = .error pool.foreignMessage := by
  intro watched pool
  obtain ⟨sound, ledger⟩ := Watched.agrees_after kind maxIdle moves
  show pool.leased = watched.held ∧ _
  rw [← ledger]
  refine ⟨rfl, sound.nodup, sound.cleared, sound.counted,
    ⟨sound.lend, sound.not_mem_leased_acquire, sound.cleared_acquire⟩, ?_, ?_⟩
  · intro item lent
    rw [handIn_of_leased lent]
    exact ⟨rfl, release_of_leased lent, sound.inUse_takeBack lent⟩
  · intro item foreign
    exact ⟨handIn_of_not_leased foreign, release_of_not_leased foreign⟩

/-- An instance that was never built comes in between two leases, and another comes in twice. -/
example (value : α) :
    let watched := Watched.after "slot" 1
      [.acquire, .release ⟨7, value⟩, .acquire, .release ⟨0, value⟩, .release ⟨0, value⟩]
    watched.pool.stats = { created := 2, idle := 1, inUse := 1 } := rfl

end Pool

end Switchboard
