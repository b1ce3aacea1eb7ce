/-
**Pools own their instances exclusively.**

* `Pool.Sound` — the representation invariant: no instance is idle twice, lent twice, or idle and
  lent at once; idle instances are cleared and there is room for them; the counter of what is lent
  counts the ledger;
* `Sound.prewarm`, `Sound.acquire`, `Sound.takeBack` — **every operation keeps the invariant**;
* `Sound.not_mem_leased_acquire` — an instance that is lent was lent to nobody;
* `release_of_leased` — an instance that was lent is taken back without a complaint.
-/

import Switchboard.Pool
import Mathlib.Data.List.Nodup

namespace Switchboard

/-- The state of an instance that nobody occupies. -/
def Recycle.Cleared {α : Type} [Recycle α] (value : α) : Prop :=
  value = Recycle.fresh ∨ ∃ old, value = Recycle.recycle old

namespace Pool

variable {α : Type} [Recycle α]

/-- **The representation invariant of a pool.** -/
structure Sound (pool : Pool α) : Prop where
  idleOnce : (pool.free.map Instance.serial).Nodup
  lentOnce : pool.leased.Nodup
  apart : ∀ item ∈ pool.free, item.serial ∉ pool.leased
  idleBuilt : ∀ item ∈ pool.free, item.serial < pool.created
  lentBuilt : ∀ serial ∈ pool.leased, serial < pool.created
  cleared : ∀ item ∈ pool.free, Recycle.Cleared item.value
  counted : pool.inUse = pool.leased.length
  bounded : pool.free.length ≤ pool.maxIdle

theorem sound_empty (kind : String) (maxIdle : Nat) : Sound ({ kind, maxIdle } : Pool α) where
  idleOnce := List.nodup_nil
  lentOnce := List.nodup_nil
  apart _ member := nomatch member
  idleBuilt _ member := nomatch member
  lentBuilt _ member := nomatch member
  cleared _ member := nomatch member
  counted := rfl
  bounded := Nat.zero_le _

/-! ### Building ahead -/

/-- Building an instance that stays idle keeps the invariant while there is room for it. -/
theorem Sound.addIdle {pool : Pool α} (sound : pool.Sound)
    (room : pool.free.length < pool.maxIdle) : pool.addIdle.Sound where
  idleOnce := by
    refine List.nodup_cons.mpr ⟨?_, sound.idleOnce⟩
    intro taken
    obtain ⟨item, member, same⟩ := List.mem_map.mp taken
    exact absurd (sound.idleBuilt item member) (by simp [same])
  lentOnce := sound.lentOnce
  apart item member := by
    rcases List.mem_cons.mp member with rfl | old
    · intro lent
      exact absurd (sound.lentBuilt _ lent) (Nat.lt_irrefl _)
    · exact sound.apart item old
  idleBuilt item member := by
    rcases List.mem_cons.mp member with rfl | old
    · exact Nat.lt_succ_self _
    · exact Nat.lt_succ_of_lt (sound.idleBuilt item old)
  lentBuilt serial lent := Nat.lt_succ_of_lt (sound.lentBuilt serial lent)
  cleared item member := by
    rcases List.mem_cons.mp member with rfl | old
    · exact Or.inl rfl
    · exact sound.cleared item old
  counted := sound.counted
  bounded := room

/-- Building instances ahead while there is room for them all keeps the invariant. -/
theorem Sound.repeat_addIdle (times : Nat) {pool : Pool α} (sound : pool.Sound)
    (room : pool.free.length + times ≤ pool.maxIdle) :
    (Nat.repeat Pool.addIdle times pool).Sound
      ∧ (Nat.repeat Pool.addIdle times pool).free.length = pool.free.length + times
      ∧ (Nat.repeat Pool.addIdle times pool).maxIdle = pool.maxIdle := by
  induction times with
  | zero => exact ⟨sound, rfl, rfl⟩
  | succ times hypothesis =>
    obtain ⟨before, idle, limit⟩ := hypothesis (by omega)
    refine ⟨before.addIdle (by omega), ?_, limit⟩
    show (Nat.repeat Pool.addIdle times pool).free.length + 1 = _
    omega

/-- **Building ahead keeps the invariant.** -/
theorem Sound.prewarm {pool : Pool α} (sound : pool.Sound) (count : Nat) :
    (pool.prewarm count).Sound := by
  have bounded := sound.bounded
  exact (sound.repeat_addIdle (min count pool.maxIdle - pool.free.length) (by omega)).1

/-! ### Lending -/

/-- An instance that is lent was lent to nobody. -/
theorem Sound.not_mem_leased_acquire {pool : Pool α} (sound : pool.Sound) :
    pool.acquire.item.serial ∉ pool.leased := by
  unfold Pool.acquire
  split
  · rename_i item rest idle
    exact sound.apart item (by simp [idle])
  · intro lent
    exact absurd (sound.lentBuilt _ lent) (Nat.lt_irrefl _)

omit [Recycle α] in
theorem leased_acquire [Recycle α] (pool : Pool α) :
    pool.acquire.pool.leased = pool.acquire.item.serial :: pool.leased := by
  unfold Pool.acquire
  split <;> rfl

/-- An instance is lent in a cleared state. -/
theorem Sound.cleared_acquire {pool : Pool α} (sound : pool.Sound) :
    Recycle.Cleared pool.acquire.item.value := by
  unfold Pool.acquire
  split
  · rename_i item rest idle
    exact sound.cleared item (by simp [idle])
  · exact Or.inl rfl

/-- **Lending keeps the invariant.** -/
theorem Sound.acquire {pool : Pool α} (sound : pool.Sound) : pool.acquire.pool.Sound := by
  have unlent := sound.not_mem_leased_acquire
  unfold Pool.acquire at unlent ⊢
  split at unlent
  · -- the instance was idle, and it is idle only once
    rename_i item rest idle
    have once := sound.idleOnce
    rw [idle, List.map_cons, List.nodup_cons] at once
    have rests : ∀ other ∈ rest, other ∈ pool.free := fun other member => by simp [idle, member]
    refine ⟨once.2, List.nodup_cons.mpr ⟨unlent, sound.lentOnce⟩, ?_, ?_, ?_, ?_, ?_, ?_⟩
    · intro other member lent
      rcases List.mem_cons.mp lent with same | lent
      · exact once.1 (List.mem_map.mpr ⟨other, member, same⟩)
      · exact sound.apart other (rests other member) lent
    · exact fun other member => sound.idleBuilt other (rests other member)
    · intro serial lent
      rcases List.mem_cons.mp lent with rfl | lent
      · exact sound.idleBuilt item (by simp [idle])
      · exact sound.lentBuilt serial lent
    · exact fun other member => sound.cleared other (rests other member)
    · show pool.inUse + 1 = (item.serial :: pool.leased).length
      rw [sound.counted, List.length_cons]
    · have bounded := sound.bounded
      rw [idle, List.length_cons] at bounded
      exact Nat.le_of_succ_le bounded
  · -- the instance is new, and its serial number is behind all others
    refine ⟨sound.idleOnce, List.nodup_cons.mpr ⟨unlent, sound.lentOnce⟩, ?_, ?_, ?_,
      sound.cleared, ?_, sound.bounded⟩
    · intro other member lent
      rcases List.mem_cons.mp lent with same | lent
      · exact absurd (sound.idleBuilt other member) (by simp [same])
      · exact sound.apart other member lent
    · exact fun other member => Nat.lt_succ_of_lt (sound.idleBuilt other member)
    · intro serial lent
      rcases List.mem_cons.mp lent with rfl | lent
      · exact Nat.lt_succ_self _
      · exact Nat.lt_succ_of_lt (sound.lentBuilt serial lent)
    · show pool.inUse + 1 = (pool.created :: pool.leased).length
      rw [sound.counted, List.length_cons]

/-! ### Taking back -/

/-- **An instance that was lent is taken back** without a complaint. -/
theorem release_of_leased {pool : Pool α} {item : Instance α}
    (lent : item.serial ∈ pool.leased) : pool.release item = .ok (pool.takeBack item) := by
  unfold takeBack release
  rw [if_pos lent]

theorem takeBack_of_not_leased {pool : Pool α} {item : Instance α}
    (foreign : item.serial ∉ pool.leased) : pool.takeBack item = pool := by
  unfold takeBack
  rw [release_of_not_leased foreign]

/-- A pool that forgets the occupants of its instances looks at the serial number alone. -/
theorem takeBack_congr {pool : Pool α}
    (forgets : ∀ first second : α, Recycle.recycle first = Recycle.recycle second)
    {first second : Instance α} (same : second.serial = first.serial) :
    pool.takeBack first = pool.takeBack second := by
  unfold takeBack release
  rw [same, forgets first.value second.value]

omit [Recycle α] in
theorem leased_keep (pool : Pool α) (item : Instance α) : (pool.keep item).leased = pool.leased := by
  unfold keep
  split <;> rfl

theorem leased_takeBack (pool : Pool α) (item : Instance α) :
    (pool.takeBack item).leased = pool.leased.erase item.serial := by
  by_cases lent : item.serial ∈ pool.leased
  · unfold takeBack release
    rw [if_pos lent]
    exact leased_keep _ _
  · rw [takeBack_of_not_leased lent, List.erase_of_not_mem lent]

omit [Recycle α] in
/-- Keeping a cleared instance that nobody holds keeps the invariant. -/
theorem Sound.keep [Recycle α] {pool : Pool α} (sound : pool.Sound) {item : Instance α}
    (notIdle : ∀ other ∈ pool.free, other.serial ≠ item.serial)
    (unlent : item.serial ∉ pool.leased) (built : item.serial < pool.created)
    (cleared : Recycle.Cleared item.value) : (pool.keep item).Sound := by
  unfold Pool.keep
  split
  · rename_i room
    refine ⟨?_, sound.lentOnce, ?_, ?_, sound.lentBuilt, ?_, sound.counted, room⟩
    · refine List.nodup_cons.mpr ⟨fun taken => ?_, sound.idleOnce⟩
      obtain ⟨other, member, same⟩ := List.mem_map.mp taken
      exact notIdle other member same
    · intro other member
      rcases List.mem_cons.mp member with rfl | old
      · exact unlent
      · exact sound.apart other old
    · intro other member
      rcases List.mem_cons.mp member with rfl | old
      · exact built
      · exact sound.idleBuilt other old
    · intro other member
      rcases List.mem_cons.mp member with rfl | old
      · exact cleared
      · exact sound.cleared other old
  · exact sound

/-- **Taking back keeps the invariant**, also of an instance that was not lent. -/
theorem Sound.takeBack {pool : Pool α} (sound : pool.Sound) (item : Instance α) :
    (pool.takeBack item).Sound := by
  by_cases lent : item.serial ∈ pool.leased
  · have returned : Sound
        { pool with leased := pool.leased.erase item.serial, inUse := pool.inUse - 1 } := by
      refine ⟨sound.idleOnce, sound.lentOnce.erase _, ?_, sound.idleBuilt, ?_, sound.cleared, ?_,
        sound.bounded⟩
      · exact fun other member still => sound.apart other member (List.mem_of_mem_erase still)
      · exact fun serial still => sound.lentBuilt serial (List.mem_of_mem_erase still)
      · show pool.inUse - 1 = (pool.leased.erase item.serial).length
        rw [sound.counted, List.length_erase_of_mem lent]
    unfold Pool.takeBack release
    rw [if_pos lent]
    refine returned.keep ?_ ?_ (sound.lentBuilt _ lent) (Or.inr ⟨item.value, rfl⟩)
    · exact fun other member same => sound.apart other member (same ▸ lent)
    · exact sound.lentOnce.not_mem_erase
  · rw [takeBack_of_not_leased lent]
    exact sound

end Pool

end Switchboard
