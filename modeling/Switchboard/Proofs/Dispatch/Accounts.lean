/-
**The accounts of a dispatcher.**

A dispatcher counts in three places: each pool counts its instances and leases, the meters count the
wrappers that were built, and they count the cycles that came to an end. Here the cycles themselves
are recorded, those inside other cycles too, and the counters are settled against the records.

* `Pools.Level` — all five pools show the same counters; leasing and releasing keep them level;
* `World.records` — the cycles of a dispatch, in the order in which they end;
* `Dispatcher.Books` — **the law of conservation** between two states of a dispatcher: what was lent
  is back, every cycle was served once by each pool, every wrapper that was built was reported, and
  every cycle that was not cut short was counted under its labels;
* `Program.run_books`, `dispatch_books` — the law holds for runs, by induction on the program, and
  for dispatches, by induction on their nesting;
* `Program.Flat`, `created_after_le` — without dispatches inside cycles one wrapper of each kind is
  enough;
* `cycles_are_accounted` — **the accounts are in order behind any turns of a dispatcher.**
-/

import Switchboard.Proofs.Dispatch.Task
import Switchboard.Proofs.Pool.Counters

namespace Switchboard

/-! ### Reading a tally -/

namespace Tally

variable {κ : Type} [DecidableEq κ]

/-- The counter of a key; one that was never counted stands at zero. -/
def number (key : κ) : Tally κ → Nat
  | [] => 0
  | (other, number) :: rest => if other = key then number else Tally.number key rest

/-- Counting adds one to the counter of its key and to no other. -/
theorem number_count (key other : κ) (tally : Tally κ) :
    number other (count key tally) = number other tally + if key = other then 1 else 0 := by
  induction tally with
  | nil => by_cases same : key = other <;> simp [count, number, same]
  | cons head tail hypothesis =>
    obtain ⟨name, stored⟩ := head
    rw [count]
    by_cases found : name = key
    · subst found
      by_cases same : name = other <;> simp [number, same]
    · by_cases named : name = other
      · subst named
        simp [number, found, Ne.symm found]
      · simp [number, found, named, hypothesis]

/-- Counting keys one after another adds to each counter how often its key stands among them. -/
theorem number_foldl_count [BEq κ] [LawfulBEq κ] (keys : List κ) (other : κ) (tally : Tally κ) :
    number other (keys.foldl (fun counted key => count key counted) tally)
      = number other tally + keys.count other := by
  induction keys generalizing tally with
  | nil => rfl
  | cons key rest hypothesis =>
    rw [List.foldl_cons, hypothesis, number_count, List.count_cons]
    by_cases same : key = other
    · simp only [same, beq_self_eq_true, if_true]
      omega
    · simp [same]

theorem total_foldl_count (keys : List κ) (tally : Tally κ) :
    total (keys.foldl (fun counted key => count key counted) tally)
      = total tally + keys.length := by
  induction keys generalizing tally with
  | nil => rfl
  | cons key rest hypothesis =>
    rw [List.foldl_cons, hypothesis, total_count, List.length_cons]
    omega

end Tally

/-! ### Level pools -/

namespace Wrapper.Pools

/-- The kinds of the five pools. -/
def kinds (pools : Pools) : List String :=
  [pools.requestFields.kind, pools.url.kind, pools.request.kind, pools.responseFields.kind,
    pools.response.kind]

/-- **All five pools show the same counters.** -/
structure Level (pools : Pools) (limit : Nat) (stats : PoolStats) : Prop where
  request : pools.request.Shows "request" limit stats
  response : pools.response.Shows "response" limit stats
  requestFields : pools.requestFields.Shows "request_header" limit stats
  responseFields : pools.responseFields.Shows "response_header" limit stats
  url : pools.url.Shows "url" limit stats

variable {pools : Pools} {limit : Nat} {stats : PoolStats}

theorem Level.kinds_eq (level : pools.Level limit stats) :
    pools.kinds = ["request_header", "url", "request", "response_header", "response"] := by
  unfold kinds
  rw [level.request.kind, level.response.kind, level.requestFields.kind,
    level.responseFields.kind, level.url.kind]

theorem Level.stats_eq (level : pools.Level limit stats) :
    pools.stats = ⟨stats, stats, stats, stats, stats⟩ := by
  unfold Pools.stats
  rw [level.request.stats, level.response.stats, level.requestFields.stats,
    level.responseFields.stats, level.url.stats]

theorem level_new (settings : PoolSettings) :
    (new settings).Level settings.maxIdle
      (.prewarmed (min settings.prewarm settings.maxIdle)) :=
  ⟨Pool.shows_prewarm _ _ _, Pool.shows_prewarm _ _ _, Pool.shows_prewarm _ _ _,
    Pool.shows_prewarm _ _ _, Pool.shows_prewarm _ _ _⟩

/-- Leasing keeps the pools level. -/
theorem Level.lease (level : pools.Level limit stats) (exchange : Http.Exchange) :
    (pools.lease exchange).pools.Level limit stats.lend :=
  ⟨level.request.acquire, level.response.acquire, level.requestFields.acquire,
    level.responseFields.acquire, level.url.acquire⟩

/-- Level pools build a wrapper of every kind or of none. -/
theorem Level.built_lease (level : pools.Level limit stats) (exchange : Http.Exchange) :
    (pools.lease exchange).built = if stats.idle = 0 then pools.kinds else [] := by
  rw [level.kinds_eq]
  unfold Pools.lease
  simp only [level.request.built, level.response.built, level.requestFields.built,
    level.responseFields.built, level.url.built]
  by_cases none : stats.idle = 0 <;> simp [none]

theorem Level.count_built_lease (level : pools.Level limit stats) (exchange : Http.Exchange)
    {kind : String} (member : kind ∈ pools.kinds) :
    (pools.lease exchange).built.count kind = if stats.idle = 0 then 1 else 0 := by
  rw [level.built_lease]
  split
  · rw [level.kinds_eq] at member ⊢
    exact List.count_eq_one_of_mem (by decide) member
  · rfl

/-- Releasing the wrappers of a cycle keeps the pools level. -/
theorem Level.release (level : pools.Level limit stats) {lease : Lease}
    (takes : pools.TakesBack lease) :
    (pools.release lease).Level limit (stats.takeBack limit) := by
  obtain ⟨fields, -, fieldsBack⟩ := takes.requestFields
  obtain ⟨header, -, headerBack⟩ := takes.responseFields
  obtain ⟨url, -, urlBack⟩ := takes.url
  exact ⟨level.request.release takes.request, level.response.release takes.response,
    level.requestFields.release fieldsBack, level.responseFields.release headerBack,
    level.url.release urlBack⟩

end Wrapper.Pools

/-! ### The records of cycles -/

/-- A cycle that has ended: the method with which its request came, and the status of its response
unless it was cut short. -/
structure CycleRecord where
  method : Http.Method
  status : Option Http.Status

/-- The labels under which a cycle is to be counted. -/
def CycleRecord.label? (record : CycleRecord) : Option (String × Nat) :=
  record.status.map fun status => (record.method.token, status.code)

/-- The labels of those cycles that were not cut short. -/
def labels (records : List CycleRecord) : List (String × Nat) :=
  records.filterMap CycleRecord.label?

theorem labels_append (first second : List CycleRecord) :
    labels (first ++ second) = labels first ++ labels second :=
  List.filterMap_append

/-- The record of the cycle in which an exchange was served. -/
def Served.record (served : Served) (exchange : Http.Exchange) : CycleRecord :=
  { method := exchange.request.method
    status := if served.abort = none then some served.exchange.response.status else none }

/-- The cycles that are run inside a program: its operations run none. -/
def Program.records (serve : World → Http.Exchange → Served)
    (nested : World → Http.Exchange → List CycleRecord) :
    Program → Cycle → World → List CycleRecord :=
  trace serve (fun _ _ _ => []) nested

/-- The cycles that are run inside another cycle. -/
def Charge.records (serve : World → Http.Exchange → Served)
    (nested : World → Http.Exchange → List CycleRecord) :
    Charge → Cycle → World → List CycleRecord :=
  trace serve (fun _ _ _ => []) nested

/-- The cycles of a dispatch: those inside it, and then its own. -/
def World.records : Nat → World → Http.Exchange → List CycleRecord
  | 0, _, _ => []
  | depth + 1, world, exchange =>
    world.dispatcher.charge.records (dispatch depth) (records depth) (world.opened exchange)
        (world.entered exchange)
      ++ [(world.dispatch (depth + 1) exchange).record exchange]

/-! ### The law of conservation -/

namespace Dispatcher

/-- **The books between two states of a dispatcher** in which some cycles were run: level pools are
level again with nothing more lent, they served every cycle, and the meters count what was built and
what came to an end. -/
structure Books (before after : Dispatcher) (records : List CycleRecord) : Prop where
  level : ∀ limit stats, before.pools.Level limit stats → ∃ later,
    after.pools.Level limit later ∧ later.inUse = stats.inUse
      ∧ later.created + later.reused = stats.created + stats.reused + records.length
      ∧ ∀ kind ∈ before.pools.kinds,
        Tally.number kind after.meters.built + stats.created
          = Tally.number kind before.meters.built + later.created
  counted : ∀ label, Tally.number label after.meters.dispatches
    = Tally.number label before.meters.dispatches + (labels records).count label
  total : Tally.total after.meters.dispatches
    = Tally.total before.meters.dispatches + (labels records).length

namespace Books

variable {before between after : Dispatcher} {first second : List CycleRecord}

theorem refl (dispatcher : Dispatcher) : dispatcher.Books dispatcher [] where
  level _ stats level := ⟨stats, level, rfl, rfl, fun _ _ => rfl⟩
  counted _ := rfl
  total := rfl

/-- **The books of cycles one after another add up.** -/
theorem trans (left : before.Books between first) (right : between.Books after second) :
    before.Books after (first ++ second) where
  level limit stats level := by
    obtain ⟨middle, levelMiddle, lentMiddle, servedMiddle, builtMiddle⟩ :=
      left.level limit stats level
    obtain ⟨later, levelLater, lentLater, servedLater, builtLater⟩ :=
      right.level limit middle levelMiddle
    refine ⟨later, levelLater, lentLater.trans lentMiddle, ?_, fun kind member => ?_⟩
    · rw [servedLater, servedMiddle, List.length_append, Nat.add_assoc]
    · have one := builtMiddle kind member
      have two := builtLater kind (levelMiddle.kinds_eq ▸ level.kinds_eq ▸ member)
      omega
  counted label := by
    rw [right.counted, left.counted, labels_append, List.count_append, Nat.add_assoc]
  total := by
    rw [right.total, left.total, labels_append, List.length_append, Nat.add_assoc]

end Books

end Dispatcher

section Served

variable {serve : World → Http.Exchange → Served}
  {nested : World → Http.Exchange → List CycleRecord}
  (kept : ∀ (world : World) (exchange : Http.Exchange),
    world.dispatcher.Books (serve world exchange).world.dispatcher (nested world exchange))

include kept

/-- **A run keeps the books** of the cycles that are run inside it. -/
theorem Program.run_books (program : Program) (cycle : Cycle) (world : World) :
    world.dispatcher.Books (program.run serve cycle world).world.dispatcher
      (program.records serve nested cycle world) := by
  induction program generalizing cycle world with
  | done verdict => exact .refl _
  | panic message => exact .refl _
  | step op next hypothesis =>
    simp only [run, records, trace, List.nil_append]
    cases (op.perform cycle world).result with
    | ok answer =>
      have rest := hypothesis answer (op.perform cycle world).cycle (op.perform cycle world).world
      rw [op.perform_dispatcher] at rest
      exact rest
    | error abort =>
      show world.dispatcher.Books (op.perform cycle world).world.dispatcher []
      rw [op.perform_dispatcher]
      exact .refl _
  | setHandler handler next _ hypothesis =>
    -- the books do not say who is in charge
    have rest := hypothesis cycle (world.setCharge (.program handler))
    exact ⟨rest.level, rest.counted, rest.total⟩
  | dispatch exchange next hypothesis =>
    simp only [run, records, trace]
    cases (serve world exchange).abort with
    | none => exact (kept world exchange).trans (hypothesis _ cycle _)
    | some abort =>
      rw [List.append_nil]
      exact kept world exchange

/-- **Whatever is in charge of a cycle keeps the books** of the cycles that are run inside it. -/
theorem Charge.handle_books (charge : Charge) (cycle : Cycle) (world : World) :
    world.dispatcher.Books (charge.handle serve cycle world).world.dispatcher
      (charge.records serve nested cycle world) := by
  unfold records trace
  cases task : charge.task? cycle with
  | none =>
    rw [handle_of_no_task task]
    exact .refl _
  | some pair =>
    obtain ⟨program, start⟩ := pair
    obtain ⟨before, handled⟩ := handle_of_task? task serve world
    rw [handled, settle_dispatcher]
    exact program.run_books kept start world

end Served

namespace World

theorem dispatches_entered (world : World) (exchange : Http.Exchange) :
    (world.entered exchange).dispatcher.meters.dispatches
      = world.dispatcher.meters.dispatches := rfl

theorem built_conclude (exchange : Http.Exchange) (handled : Handled) :
    (conclude exchange handled).world.dispatcher.meters.built
      = handled.world.dispatcher.meters.built := by
  unfold conclude
  simp only
  split <;> rfl

/-- **A cycle is counted once**, under its own labels, unless it was cut short. -/
theorem dispatches_conclude (exchange : Http.Exchange) (handled : Handled) :
    (conclude exchange handled).world.dispatcher.meters.dispatches
      = (labels [(conclude exchange handled).record exchange]).foldl
        (fun counted label => Tally.count label counted)
        handled.world.dispatcher.meters.dispatches := by
  unfold conclude
  simp only
  split <;> rfl

/-- What a cycle adds to the books of the cycles inside it. -/
theorem conclude_books {world : World} {exchange : Http.Exchange} {handled : Handled}
    {inside : List CycleRecord}
    (books : (world.entered exchange).dispatcher.Books handled.world.dispatcher inside)
    (takes : handled.world.dispatcher.pools.TakesBack handled.cycle.lease) :
    world.dispatcher.Books (conclude exchange handled).world.dispatcher
      (inside ++ [(conclude exchange handled).record exchange]) where
  level limit stats level := by
    obtain ⟨later, levelLater, lent, served, built⟩ :=
      books.level limit stats.lend (level.lease exchange)
    rw [pools_conclude, built_conclude]
    refine ⟨later.takeBack limit, levelLater.release takes, ?_, ?_, fun kind member => ?_⟩
    · show later.inUse - 1 = stats.inUse
      rw [lent, stats.inUse_lend, Nat.add_sub_cancel]
    · show later.created + later.reused = _
      rw [served, stats.served_lend, List.length_append, List.length_singleton]
      omega
    · have kinds : (world.entered exchange).dispatcher.pools.kinds = world.dispatcher.pools.kinds :=
        (level.lease exchange).kinds_eq.trans level.kinds_eq.symm
      have reported : Tally.number kind (world.entered exchange).dispatcher.meters.built
          = Tally.number kind world.dispatcher.meters.built + if stats.idle = 0 then 1 else 0 := by
        show Tally.number kind (List.foldl _ _ _) = _
        rw [Tally.number_foldl_count, level.count_built_lease exchange member]
        rfl
      have inner := built kind (kinds ▸ member)
      rw [reported, stats.created_lend] at inner
      show _ = _ + later.created
      omega
  counted label := by
    rw [dispatches_conclude, Tally.number_foldl_count, books.counted, dispatches_entered,
      labels_append, List.count_append, Nat.add_assoc]
  total := by
    rw [dispatches_conclude, Tally.total_foldl_count, books.total, dispatches_entered,
      labels_append, List.length_append, Nat.add_assoc]

/-- **A dispatch keeps the books** of its cycle and of those inside it, however they end. -/
theorem dispatch_books (depth : Nat) (world : World) (exchange : Http.Exchange) :
    world.dispatcher.Books (dispatch depth world exchange).world.dispatcher
      (records depth world exchange) := by
  induction depth generalizing world exchange with
  | zero => exact .refl _
  | succ depth hypothesis =>
    obtain ⟨lent, complete, _⟩ := handled_lent (dispatch_keeps depth) world exchange
    show world.dispatcher.Books (dispatchWith _ world exchange).world.dispatcher
      (_ ++ [(dispatchWith _ world exchange).record exchange])
    rw [dispatchWith_eq]
    exact conclude_books (world.dispatcher.charge.handle_books hypothesis _ _)
      (lent.takesBack complete)

/-- A dispatch that comes to an end is counted. -/
theorem total_lt_of_ended {depth : Nat} {world : World} {exchange : Http.Exchange}
    (ended : (world.dispatch (depth + 1) exchange).abort = none) :
    Tally.total world.dispatcher.meters.dispatches
      < Tally.total (world.dispatch (depth + 1) exchange).world.dispatcher.meters.dispatches := by
  have counted : labels [(world.dispatch (depth + 1) exchange).record exchange]
      = [(exchange.request.method.token,
          (world.dispatch (depth + 1) exchange).exchange.response.status.code)] := by
    rw [Served.record, if_pos ended]
    rfl
  rw [(dispatch_books (depth + 1) world exchange).total, records, labels_append, counted,
    List.length_append, List.length_singleton]
  omega

end World

/-! ### Cycles with no cycle inside -/

/-- The program dispatches nothing, and neither does what it puts in charge. -/
def Program.Flat : Program → Prop
  | .done _ => True
  | .panic _ => True
  | .step _ next => ∀ answer, (next answer).Flat
  | .setHandler handler next => handler.Flat ∧ next.Flat
  | .dispatch _ _ => False

/-- Whoever is in charge dispatches nothing inside a cycle. -/
def Charge.Flat : Charge → Prop
  | .unset => True
  | .program body => body.Flat
  | .router table => ∀ candidate ∈ table.routes, candidate.handler.program.Flat

/-- What the turn puts in charge, if anything, dispatches nothing inside a cycle. -/
def Turn.Flat : Turn → Prop
  | .charge successor => successor.Flat
  | .cycle _ _ _ => True

/-- The turn is a cycle that is run. -/
def Turn.isCycle : Turn → Bool
  | .charge _ => false
  | .cycle _ depth _ => depth != 0

/-- Nothing was dispatched between two states of a dispatcher. -/
structure Dispatcher.Stays (before after : Dispatcher) : Prop where
  pools : after.pools = before.pools
  flat : before.charge.Flat → after.charge.Flat

theorem Charge.flat_of_task? {charge : Charge} (flat : charge.Flat) {cycle start : Cycle}
    {task : Program} (found : charge.task? cycle = some (task, start)) : task.Flat := by
  cases charge with
  | unset => cases found
  | program body =>
    cases found
    exact flat
  | router table =>
    simp only [task?] at found
    split at found
    · rename_i resolved
      cases found
      obtain ⟨candidate, member, rfl⟩ := Router.mem_of_resolve resolved
      exact flat candidate member
    · cases found
    · cases found

section Flat

variable (serve : World → Http.Exchange → Served)
  (nested : World → Http.Exchange → List CycleRecord)

/-- **A flat program runs no cycle.** -/
theorem Program.run_stays {program : Program} (flat : program.Flat) (cycle : Cycle)
    (world : World) :
    world.dispatcher.Stays (program.run serve cycle world).world.dispatcher
      ∧ program.records serve nested cycle world = [] := by
  induction program generalizing cycle world with
  | done verdict => exact ⟨⟨rfl, id⟩, rfl⟩
  | panic message => exact ⟨⟨rfl, id⟩, rfl⟩
  | step op next hypothesis =>
    simp only [run, records, trace, List.nil_append]
    cases (op.perform cycle world).result with
    | ok answer =>
      obtain ⟨stays, none⟩ := hypothesis answer (flat answer) (op.perform cycle world).cycle
        (op.perform cycle world).world
      rw [op.perform_dispatcher] at stays
      exact ⟨stays, none⟩
    | error abort =>
      refine ⟨?_, rfl⟩
      show world.dispatcher.Stays (op.perform cycle world).world.dispatcher
      rw [op.perform_dispatcher]
      exact ⟨rfl, id⟩
  | setHandler handler next _ hypothesis =>
    obtain ⟨stays, none⟩ := hypothesis flat.2 cycle (world.setCharge (.program handler))
    exact ⟨⟨stays.pools, fun _ => stays.flat flat.1⟩, none⟩
  | dispatch exchange next => exact flat.elim

theorem Charge.handle_stays {charge : Charge} (flat : charge.Flat) (cycle : Cycle)
    (world : World) :
    world.dispatcher.Stays (charge.handle serve cycle world).world.dispatcher
      ∧ charge.records serve nested cycle world = [] := by
  unfold records trace
  cases found : charge.task? cycle with
  | none =>
    rw [handle_of_no_task found]
    exact ⟨⟨rfl, id⟩, rfl⟩
  | some pair =>
    obtain ⟨task, start⟩ := pair
    obtain ⟨before, handled⟩ := handle_of_task? found serve world
    rw [handled, settle_dispatcher]
    exact Program.run_stays serve nested (flat_of_task? flat found) start world

end Flat

/-- **A flat cycle** lends one wrapper of each kind and takes it back. -/
theorem World.dispatch_flat (world : World) (flat : world.dispatcher.charge.Flat) (depth : Nat)
    (exchange : Http.Exchange) {limit : Nat} {stats : PoolStats}
    (level : world.dispatcher.pools.Level limit stats) :
    (world.dispatch (depth + 1) exchange).world.dispatcher.pools.Level limit
        (stats.lend.takeBack limit)
      ∧ (world.dispatch (depth + 1) exchange).world.dispatcher.charge.Flat
      ∧ (world.records (depth + 1) exchange).length = 1 := by
  obtain ⟨stays, none⟩ := Charge.handle_stays (dispatch depth) (records depth) flat
    (world.opened exchange) (world.entered exchange)
  obtain ⟨lent, complete, _⟩ := handled_lent (dispatch_keeps depth) world exchange
  have handled : (world.handled (dispatch depth) exchange).world.dispatcher.pools.Level limit
      stats.lend := by
    rw [show (world.handled (dispatch depth) exchange).world.dispatcher.pools
      = (world.dispatcher.pools.lease exchange).pools from stays.pools]
    exact level.lease exchange
  refine ⟨?_, ?_, ?_⟩
  · show (dispatchWith _ world exchange).world.dispatcher.pools.Level _ _
    rw [dispatchWith_eq, pools_conclude]
    exact handled.release (lent.takesBack complete)
  · show (dispatchWith _ world exchange).world.dispatcher.charge.Flat
    rw [dispatchWith_eq]
    have after : (world.handled (dispatch depth) exchange).world.dispatcher.charge.Flat :=
      stays.flat flat
    unfold conclude
    simp only
    split
    · exact after
    · exact after
  · unfold records
    rw [none]
    rfl

/-! ### Dispatchers with a history -/

namespace Dispatcher

/-- The cycles that are run in a turn. -/
def turnRecords (dispatcher : Dispatcher) : Turn → List CycleRecord
  | .charge _ => []
  | .cycle registry depth exchange => World.records depth { dispatcher, registry } exchange

/-- The cycles that are run in turns. -/
def recordsFrom : Dispatcher → List Turn → List CycleRecord
  | _, [] => []
  | dispatcher, turn :: rest =>
    dispatcher.turnRecords turn ++ recordsFrom (dispatcher.turn turn) rest

/-- The cycles that are run in the turns of a new dispatcher. -/
def records (settings : PoolSettings) (turns : List Turn) : List CycleRecord :=
  recordsFrom (new settings) turns

theorem turn_books (dispatcher : Dispatcher) (turn : Turn) :
    dispatcher.Books (dispatcher.turn turn) (dispatcher.turnRecords turn) := by
  cases turn with
  | charge charge =>
    have books := Books.refl dispatcher
    exact ⟨books.level, books.counted, books.total⟩
  | cycle registry depth exchange =>
    exact World.dispatch_books depth { dispatcher, registry } exchange

/-- **The books are in order behind any turns.** -/
theorem foldl_books (turns : List Turn) (dispatcher : Dispatcher) :
    dispatcher.Books (turns.foldl turn dispatcher) (dispatcher.recordsFrom turns) := by
  induction turns generalizing dispatcher with
  | nil => exact .refl _
  | cons first rest hypothesis => exact (dispatcher.turn_books first).trans (hypothesis _)

/-- A dispatcher between flat cycles. If any wrapper may be idle, at most one of each kind was built
besides those built ahead, and none at all where none is idle. -/
structure Spare (dispatcher : Dispatcher) (limit prewarmed : Nat) : Prop where
  flat : dispatcher.charge.Flat
  level : ∃ stats, dispatcher.pools.Level limit stats
    ∧ (1 ≤ limit → stats.created ≤ prewarmed + 1 ∧ (stats.idle = 0 → stats.created = prewarmed))

theorem spare_new (settings : PoolSettings) :
    (new settings).Spare settings.maxIdle (min settings.prewarm settings.maxIdle) :=
  ⟨trivial, _, Wrapper.Pools.level_new settings, fun _ => ⟨Nat.le_succ _, fun _ => rfl⟩⟩

/-- **A flat turn** keeps the pools spare, and is one cycle or none. -/
theorem Spare.turn {dispatcher : Dispatcher} {limit prewarmed : Nat}
    (spare : dispatcher.Spare limit prewarmed) {turn : Turn} (flat : turn.Flat) :
    (dispatcher.turn turn).Spare limit prewarmed
      ∧ (dispatcher.turnRecords turn).length = [turn].countP Turn.isCycle := by
  obtain ⟨stats, level, few⟩ := spare.level
  cases turn with
  | charge charge => exact ⟨⟨flat, stats, level, few⟩, rfl⟩
  | cycle registry depth exchange =>
    cases depth with
    | zero => exact ⟨⟨spare.flat, stats, level, few⟩, rfl⟩
    | succ depth =>
      obtain ⟨later, charge, one⟩ := World.dispatch_flat { dispatcher, registry } spare.flat depth
        exchange level
      refine ⟨⟨charge, _, later, fun room => ⟨?_, ?_⟩⟩, one⟩
      · show stats.lend.created ≤ _
        rw [stats.created_lend]
        split
        · rename_i none
          exact Nat.succ_le_succ (Nat.le_of_eq ((few room).2 none))
        · exact (few room).1
      · intro none
        exact absurd none (stats.idle_takeBack_lend room)

theorem Spare.foldl {dispatcher : Dispatcher} {limit prewarmed : Nat}
    (spare : dispatcher.Spare limit prewarmed) {turns : List Turn}
    (flat : ∀ turn ∈ turns, turn.Flat) :
    (turns.foldl Dispatcher.turn dispatcher).Spare limit prewarmed
      ∧ (dispatcher.recordsFrom turns).length = turns.countP Turn.isCycle := by
  induction turns generalizing dispatcher with
  | nil => exact ⟨spare, rfl⟩
  | cons first rest hypothesis =>
    obtain ⟨next, one⟩ := spare.turn (flat first List.mem_cons_self)
    obtain ⟨after, more⟩ := hypothesis next fun turn member =>
      flat turn (List.mem_cons_of_mem _ member)
    refine ⟨after, ?_⟩
    show (_ ++ _ : List CycleRecord).length = ([first] ++ rest).countP _
    rw [List.length_append, one, more, List.countP_append]

end Dispatcher

/-! ### The accounts -/

/-- **The accounts of a dispatcher are in order** behind any turns, whatever its handlers do and
however its cycles end. Nothing is lent, and all five pools have the same counters, which add up to
the wrappers built ahead and one for each cycle. The meters of each kind report the wrappers built
besides those. Each cycle that was not cut short is counted once, under the method with which its
request came and the status of its response. Where no cycle is run inside another, each cycle is a
turn, and one wrapper of each kind is enough if it may stay idle. -/
theorem cycles_are_accounted (settings : PoolSettings) (turns : List Turn) :
    let prewarmed := min settings.prewarm settings.maxIdle
    let dispatcher := Dispatcher.after settings turns
    let records := Dispatcher.records settings turns
    ∃ stats : PoolStats,
      dispatcher.pools.stats = ⟨stats, stats, stats, stats, stats⟩
      ∧ stats.inUse = 0
      ∧ stats.created + stats.reused = prewarmed + records.length
      ∧ (∀ kind ∈ dispatcher.pools.kinds,
        prewarmed + Tally.number kind dispatcher.meters.built = stats.created)
      ∧ Tally.total dispatcher.meters.dispatches = (labels records).length
      ∧ (∀ label,
        Tally.number label dispatcher.meters.dispatches = (labels records).count label)
      ∧ ((∀ turn ∈ turns, turn.Flat) →
        records.length = turns.countP Turn.isCycle
        ∧ (1 ≤ settings.maxIdle → stats.created ≤ prewarmed + 1)) := by
  intro prewarmed dispatcher records
  have books := Dispatcher.foldl_books turns (Dispatcher.new settings)
  have start := Wrapper.Pools.level_new settings
  obtain ⟨stats, level, lent, served, built⟩ := books.level _ _ start
  refine ⟨stats, level.stats_eq, lent, ?_, fun kind member => ?_, ?_, fun label => ?_,
    fun flat => ?_⟩
  · exact served
  · have reported := built kind (start.kinds_eq ▸ level.kinds_eq ▸ member)
    exact (Nat.add_comm _ _).trans (reported.trans (Nat.zero_add _))
  · exact books.total.trans (Nat.zero_add _)
  · exact (books.counted label).trans (Nat.zero_add _)
  · obtain ⟨spare, cycles⟩ := (Dispatcher.spare_new settings).foldl flat
    refine ⟨cycles, fun room => ?_⟩
    obtain ⟨other, levelToo, few⟩ := spare.level
    -- the pools show only one set of counters
    rw [show stats = other from level.request.stats.symm.trans levelToo.request.stats]
    exact (few room).1

/-- A cycle that panics, one that ends with an error and one that ends well leave one wrapper of
each kind idle. -/
theorem cycles_are_accounted_spoilt :
    let settings : PoolSettings := { prewarm := 2, maxIdle := 1 }
    let spoilt : Program := .perform (.write [1, 2, 3]) (.panic "spoilt")
    let turns : List Turn := [.charge (.program spoilt), .cycle {} 1 {},
      .charge (.program (.fail (.badRequest "no"))), .cycle {} 1 {}, .charge .unset, .cycle {} 1 {}]
    (∀ turn ∈ turns, turn.Flat) ∧ 1 ≤ settings.maxIdle
      ∧ Tally.total (Dispatcher.after settings turns).meters.dispatches = 2
      ∧ ∃ stats, (Dispatcher.after settings turns).pools.stats = ⟨stats, stats, stats, stats, stats⟩
        ∧ stats.inUse = 0 ∧ stats.created + stats.reused = 4 ∧ stats.created ≤ 2 := by
  intro settings spoilt turns
  have flat : ∀ turn ∈ turns, turn.Flat := by
    simp [turns, spoilt, Turn.Flat, Charge.Flat, Program.Flat, Program.perform, Program.fail]
  have room : 1 ≤ settings.maxIdle := Nat.le_refl 1
  have finished : (labels (Dispatcher.records settings turns)).length = 2 := by decide +kernel
  obtain ⟨stats, same, lent, served, _, total, _, spare⟩ := cycles_are_accounted settings turns
  obtain ⟨cycles, few⟩ := spare flat
  rw [cycles] at served
  exact ⟨flat, room, total.trans finished, stats, same, lent, served, few room⟩

end Switchboard
