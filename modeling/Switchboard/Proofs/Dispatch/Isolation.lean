/-
**No state crosses from one cycle to the next.**

Two runs are compared: one more cycle on a dispatcher with a history, and the same cycle on a new
dispatcher. What a handler is shown is recorded moment by moment: the readable request, the pairs
of its query and the readable response, before each operation and at the end, and what the handler
is told where it asks for the counters of the pools, which count past cycles and are no part of a
wrapper.

* `World.Alike` — two worlds that differ in pools and counters alone;
* `Matched` — two runs go in lockstep unless the counters tell them apart, and agree in the end if
  all their moments are the same;
* `Program.run_matched` — **a program in alike cycles and worlds runs matched**, by induction on the
  program; `dispatch_matched` — so do dispatches, by induction on their nesting;
* `cycles_are_isolated` — **whatever happened before**, a cycle shows its handler what it would be
  shown on a new dispatcher and leaves the same exchange with the same outcome, in wrappers that
  nobody else holds and that all come back.
-/

import Switchboard.Proofs.Dispatch.Anonymous
import Switchboard.Proofs.Dispatch.Lending

namespace Switchboard

/-! ### What a handler is shown -/

/-- What a handler can read off its wrappers. -/
structure Sight where
  request : RequestView
  queryPairs : List (String × String)
  response : ResponseView
deriving DecidableEq

/-- What a cycle shows. -/
def Cycle.sight (cycle : Cycle) : Sight :=
  { request := cycle.requestView
    queryPairs := cycle.request.queryPairs.1
    response := cycle.responseView }

/-- A moment of a run. -/
inductive Moment where
  /-- the wrappers show this -/
  | sight (sight : Sight)
  /-- the handler is told these counters of the pools -/
  | counters (stats : Wrapper.PoolsStats)
deriving DecidableEq

/-- What an operation tells of the counters of the pools. -/
def Op.told (op : Op) (world : World) : List Moment :=
  match op with
  | .poolStats => [.counters world.dispatcher.pools.stats]
  | _ => []

/-- The moments of a program, and of the dispatches inside it. -/
def Program.moments (serve : World → Http.Exchange → Served)
    (nested : World → Http.Exchange → List Moment) :
    Program → Cycle → World → List Moment
  | .done _, cycle, _ => [.sight cycle.sight]
  | .panic _, cycle, _ => [.sight cycle.sight]
  | .step op next, cycle, world =>
    let stepped := op.perform cycle world
    .sight cycle.sight :: (op.told world
      ++ match stepped.result with
        | .ok answer => moments serve nested (next answer) stepped.cycle stepped.world
        | .error _ => [.sight stepped.cycle.sight])
  | .setHandler handler next, cycle, world =>
    .sight cycle.sight :: moments serve nested next cycle (world.setCharge (.program handler))
  | .dispatch exchange next, cycle, world =>
    let served := serve world exchange
    .sight cycle.sight :: (nested world exchange
      ++ match served.abort with
        | none => moments serve nested (next served.exchange) cycle served.world
        | some _ => [.sight cycle.sight])

/-- The moments of what is in charge; without a handler there is none. -/
def Charge.moments (serve : World → Http.Exchange → Served)
    (nested : World → Http.Exchange → List Moment) (charge : Charge) (cycle : Cycle)
    (world : World) : List Moment :=
  match charge with
  | .unset => []
  | .program body => body.moments serve nested cycle world
  | .router table =>
    match table.resolve cycle.request.method cycle.request.uri.path with
    | .found matched handler captures =>
      handler.program.moments serve nested { cycle with routed := ⟨some matched, captures⟩ } world
    | .methodNotAllowed _ => []
    | .notFound => []

/-- The moments of a dispatch. -/
def World.moments : Nat → World → Http.Exchange → List Moment
  | 0, _, _ => []
  | depth + 1, world, exchange =>
    world.dispatcher.charge.moments (dispatch depth) (moments depth) (world.opened exchange)
      (world.entered exchange)

/-! ### Lockstep -/

/-- Two runs show the same up to a look at the counters that tells them apart. -/
inductive Lockstep : List Moment → List Moment → Prop
  | done : Lockstep [] []
  | same (moment : Moment) {first second : List Moment} (rest : Lockstep first second) :
    Lockstep (moment :: first) (moment :: second)
  | parted {stats other : Wrapper.PoolsStats} (apart : stats ≠ other)
    (first second : List Moment) : Lockstep (.counters stats :: first) (.counters other :: second)

namespace Lockstep

variable {first second later latter : List Moment}

/-- Runs in lockstep that show the same go on in lockstep. -/
theorem append (lock : Lockstep first second) (rest : first = second → Lockstep later latter) :
    Lockstep (first ++ later) (second ++ latter) := by
  induction lock with
  | done => exact rest rfl
  | same moment _ hypothesis =>
    refine .same moment (hypothesis fun shown => rest ?_)
    rw [shown]
  | parted apart first second => exact .parted apart _ _

/-- Runs in lockstep show the same at first if they show the same in all. -/
theorem append_inj (lock : Lockstep first second) (shown : first ++ later = second ++ latter) :
    first = second ∧ later = latter := by
  induction lock with
  | done => exact ⟨rfl, shown⟩
  | same moment _ hypothesis =>
    obtain ⟨firsts, rests⟩ := hypothesis (List.tail_eq_of_cons_eq shown)
    exact ⟨by rw [firsts], rests⟩
  | parted apart first second =>
    have told := Moment.counters.inj (List.head_eq_of_cons_eq shown)
    exact absurd told apart

/-- **Runs in lockstep that never look at the counters show the same.** -/
theorem eq_of_unread (lock : Lockstep first second)
    (unread : ∀ stats, .counters stats ∉ first) : first = second := by
  induction lock with
  | done => rfl
  | same moment _ hypothesis =>
    rw [hypothesis fun stats told => unread stats (List.mem_cons_of_mem _ told)]
  | parted apart first second => exact absurd List.mem_cons_self (unread _)

end Lockstep

/-- Two runs are in lockstep, and agree in the end if they show the same. -/
structure Matched (first second : List Moment) (agree : Prop) : Prop where
  lockstep : Lockstep first second
  agrees : first = second → agree

namespace Matched

variable {first second later latter : List Moment} {before behind agree : Prop}

theorem done (holds : agree) : Matched [] [] agree :=
  ⟨.done, fun _ => holds⟩

/-- One more moment in front of two runs. -/
theorem cons (moment : Moment) (rest : Matched first second agree) :
    Matched (moment :: first) (moment :: second) agree :=
  ⟨.same moment rest.lockstep, fun shown => rest.agrees (List.tail_eq_of_cons_eq shown)⟩

theorem single (moment : Moment) (holds : agree) : Matched [moment] [moment] agree :=
  .cons moment (.done holds)

/-- **Matched runs go on matched** where the rest is matched in what they agree on. -/
theorem append (matched : Matched first second before)
    (rest : before → Matched later latter behind) :
    Matched (first ++ later) (second ++ latter) behind where
  lockstep := matched.lockstep.append fun shown => (rest (matched.agrees shown)).lockstep
  agrees shown := by
    obtain ⟨firsts, rests⟩ := matched.lockstep.append_inj shown
    exact (rest (matched.agrees firsts)).agrees rests

theorem imp (matched : Matched first second before) (follows : before → behind) :
    Matched first second behind :=
  ⟨matched.lockstep, fun shown => follows (matched.agrees shown)⟩

end Matched

/-! ### Alike worlds and cycles -/

/-- **Two worlds differ in pools and counters alone.** -/
structure World.Alike (first second : World) : Prop where
  charge : first.dispatcher.charge = second.dispatcher.charge
  registry : first.registry = second.registry
  observations : first.observations = second.observations
  events : first.events = second.events

/-- What two steps leave differs in serial numbers, pools and counters alone. -/
structure Stepped.Alike {α : Type} (first second : Stepped α) : Prop where
  cycle : first.cycle.anonymous = second.cycle.anonymous
  world : first.world.Alike second.world
  result : first.result = second.result

/-- What two dispatches leave differs in pools and counters alone. -/
structure Served.Alike (first second : Served) : Prop where
  world : first.world.Alike second.world
  exchange : first.exchange = second.exchange
  abort : first.abort = second.abort

namespace World.Alike

theorem refl (world : World) : world.Alike world :=
  ⟨rfl, rfl, rfl, rfl⟩

theorem of_eq {first second : World} (same : first = second) : first.Alike second :=
  same ▸ refl first

theorem trans {first second third : World} (left : first.Alike second)
    (right : second.Alike third) : first.Alike third :=
  ⟨left.charge.trans right.charge, left.registry.trans right.registry,
    left.observations.trans right.observations, left.events.trans right.events⟩

variable {first second : World} (alike : first.Alike second)

include alike

theorem report (events : List Event) : (first.report events).Alike (second.report events) :=
  ⟨alike.charge, alike.registry, alike.observations, congrArg (· ++ events) alike.events⟩

theorem observe (entries : List Json) : (first.observe entries).Alike (second.observe entries) :=
  ⟨alike.charge, alike.registry, congrArg (· ++ entries) alike.observations, alike.events⟩

theorem setCharge (charge : Charge) : (first.setCharge charge).Alike (second.setCharge charge) :=
  ⟨rfl, alike.registry, alike.observations, alike.events⟩

theorem registerNil (description : String) :
    (first.registerNil description).Alike (second.registerNil description) := by
  have entered : ({ first with registry := (first.registry.registerNil description).2 } :
      World).Alike { second with registry := (second.registry.registerNil description).2 } :=
    ⟨alike.charge, by rw [alike.registry], alike.observations, alike.events⟩
  unfold World.registerNil
  simp only [alike.registry] at entered ⊢
  split
  · exact entered
  · exact entered.report _

end World.Alike

namespace Stepped.Alike

variable {α : Type} {first second third : Stepped α}

theorem trans (left : first.Alike second) (right : second.Alike third) : first.Alike third :=
  ⟨left.cycle.trans right.cycle, left.world.trans right.world, left.result.trans right.result⟩

theorem of_anonymous (same : first.mapCycle Cycle.anonymous = second.mapCycle Cycle.anonymous) :
    first.Alike second := by
  have worlds := congrArg Stepped.world same
  have results := congrArg Stepped.result same
  exact ⟨congrArg Stepped.cycle same, .of_eq worlds, results⟩

theorem of_worlds {cycle : Cycle} {world other : World} (alike : world.Alike other)
    (result : Except Abort α) : (Stepped.mk cycle world result).Alike ⟨cycle, other, result⟩ :=
  ⟨rfl, alike, rfl⟩

end Stepped.Alike

/-- What commutes with striking out serial numbers leaves the same of cycles that differ in them. -/
theorem Stepped.Alike.of_commutes {α : Type} {step : Cycle → World → Stepped α}
    (commutes : ∀ cycle world,
      step cycle.anonymous world = (step cycle world).mapCycle Cycle.anonymous)
    {cycle other : Cycle} (same : cycle.anonymous = other.anonymous) (world : World) :
    (step cycle world).Alike (step other world) := by
  refine .of_anonymous ?_
  rw [← commutes, ← commutes, same]

/-- Cycles that differ in serial numbers show the same. -/
theorem Cycle.sight_eq {cycle other : Cycle} (same : cycle.anonymous = other.anonymous) :
    cycle.sight = other.sight := by
  have shown : ∀ cycle : Cycle, cycle.anonymous.sight = cycle.sight := by
    intro cycle
    unfold sight
    rw [requestView_anonymous, responseView_anonymous, request_anonymous,
      Wrapper.Request.queryPairs_anonymous]
  rw [← shown cycle, ← shown other, same]

/-! ### Operations and programs -/

theorem Cycle.afterWriting_alike {α : Type} (cycle : Cycle) {world other : World}
    (alike : world.Alike other) (written : Wrapper.Written) (answer : α) :
    (cycle.afterWriting world written answer).Alike (cycle.afterWriting other written answer) :=
  .of_worlds (alike.report _) _

/-- **An operation that is told the same counters leaves alike worlds alike**, with the same
answer. -/
theorem Op.perform_alike_worlds (op : Op) (cycle : Cycle) {world other : World}
    (alike : world.Alike other) (told : op.told world = op.told other) :
    (op.perform cycle world).Alike (op.perform cycle other) := by
  cases op with
  | request => exact .of_worlds alike _
  | queryPairs => exact .of_worlds alike _
  | routed => exact .of_worlds alike _
  | response => exact .of_worlds alike _
  | writeHeader status => exact cycle.afterWriting_alike alike _ _
  | write data => exact cycle.afterWriting_alike alike _ _
  | writeText status text => exact cycle.afterWriting_alike alike _ _
  | writeJson status value => exact cycle.afterWriting_alike alike _ _
  | setField name value => exact .of_worlds alike _
  | addField name value => exact .of_worlds alike _
  | removeField name => exact .of_worlds alike _
  | native callback =>
    show (cycle.runCallback world callback).Alike (cycle.runCallback other callback)
    unfold Cycle.runCallback
    obtain ⟨observed, outcome⟩ := callback ⟨cycle.request.lend, cycle.response.lend⟩
    cases outcome with
    | ok exchange => exact .of_worlds (alike.observe observed) _
    | error message => exact .of_worlds (alike.observe observed) _
  | observe entry => exact .of_worlds (alike.observe _) _
  | poolStats =>
    have counters := Moment.counters.inj (List.head_eq_of_cons_eq told)
    refine ⟨rfl, alike, ?_⟩
    show Except.ok world.dispatcher.pools.stats = Except.ok other.dispatcher.pools.stats
    rw [counters]
  | catalog =>
    refine ⟨rfl, alike, ?_⟩
    show Except.ok world.registry.catalog = Except.ok other.registry.catalog
    rw [alike.registry]
  | registerNil description => exact .of_worlds (alike.registerNil description) _

/-- **Operations in alike cycles and worlds are matched**: only the counters tell them apart. -/
theorem Op.perform_matched (op : Op) {cycle other : Cycle}
    (same : cycle.anonymous = other.anonymous) {world another : World}
    (alike : world.Alike another) :
    Matched (op.told world) (op.told another)
      ((op.perform cycle world).Alike (op.perform other another)) where
  lockstep := by
    cases op with
    | poolStats =>
      by_cases equal : world.dispatcher.pools.stats = another.dispatcher.pools.stats
      · unfold told
        rw [equal]
        exact .same _ .done
      · exact .parted equal [] []
    | _ => exact .done
  agrees told :=
    (Stepped.Alike.of_commutes op.perform_anonymous same world).trans
      (op.perform_alike_worlds other alike told)

section Served

variable {serve : World → Http.Exchange → Served} {nested : World → Http.Exchange → List Moment}
  (served : ∀ (world other : World) (exchange : Http.Exchange), world.Alike other →
    Matched (nested world exchange) (nested other exchange)
      ((serve world exchange).Alike (serve other exchange)))

include served

/-- **Programs in alike cycles and worlds run matched.** -/
theorem Program.run_matched (program : Program) {cycle other : Cycle}
    (same : cycle.anonymous = other.anonymous) {world another : World}
    (alike : world.Alike another) :
    Matched (program.moments serve nested cycle world) (program.moments serve nested other another)
      ((program.run serve cycle world).Alike (program.run serve other another)) := by
  have seen := Cycle.sight_eq same
  induction program generalizing cycle other world another with
  | done verdict =>
    unfold moments
    rw [seen]
    exact .single _ ⟨same, alike, rfl⟩
  | panic message =>
    unfold moments
    rw [seen]
    exact .single _ ⟨same, alike, rfl⟩
  | step op next hypothesis =>
    simp only [moments, run]
    rw [seen]
    -- unless the counters part the runs here, the steps are alike, and so the same program is next
    refine .cons _ ((op.perform_matched same alike).append fun steps => ?_)
    have shown := Cycle.sight_eq steps.cycle
    rw [steps.result]
    cases (op.perform other another).result with
    | ok answer => exact hypothesis answer steps.cycle steps.world shown
    | error abort =>
      show Matched [.sight _] [.sight _] _
      rw [shown]
      exact .single _ ⟨steps.cycle, steps.world, rfl⟩
  | setHandler handler next _ hypothesis =>
    simp only [moments, run]
    rw [seen]
    exact .cons _ (hypothesis same (alike.setCharge _) seen)
  | dispatch exchange next hypothesis =>
    simp only [moments, run]
    rw [seen]
    refine .cons _ ((served world another exchange alike).append fun inside => ?_)
    rw [inside.abort, inside.exchange]
    cases (serve another exchange).abort with
    | none => exact hypothesis _ same inside.world seen
    | some abort => exact .single _ ⟨same, inside.world, rfl⟩

namespace Charge

omit served in
theorem settle_alike {first second : Ran} (alike : first.Alike second)
    (before : HandlerError → List Event) : (settle first before).Alike (settle second before) := by
  -- first the cycles are exchanged in one world, then the worlds around one cycle
  have bare : (settle first before).Alike (settle { second with world := first.world } before) := by
    refine .of_anonymous ?_
    rw [← settle_anonymous, ← settle_anonymous]
    congr 1
    unfold Stepped.mapCycle
    rw [alike.cycle, alike.result]
  refine bare.trans ?_
  unfold settle
  simp only
  cases second.result with
  | error abort => exact .of_worlds alike.world _
  | ok verdict =>
    cases verdict with
    | ok done => exact .of_worlds alike.world _
    | error error => exact second.cycle.afterWriting_alike (alike.world.report _) _ _

theorem route_matched (table : Router) {cycle other : Cycle}
    (same : cycle.anonymous = other.anonymous) {world another : World}
    (alike : world.Alike another) :
    Matched ((Charge.router table).moments serve nested cycle world)
      ((Charge.router table).moments serve nested other another)
      ((route serve table cycle world).Alike (route serve table other another)) := by
  have commutes := Stepped.Alike.of_commutes (route_anonymous serve table) same world
  have request : cycle.request.anonymous = other.request.anonymous := congrArg Cycle.request same
  have method : cycle.request.method = other.request.method := congrArg (·.method) request
  have target : cycle.request.uri = other.request.uri := by
    rw [← Wrapper.Request.uri_anonymous, request, Wrapper.Request.uri_anonymous]
  unfold moments
  unfold route at commutes ⊢
  simp only [method, target] at commutes ⊢
  cases found : table.resolve other.request.method other.request.uri.path with
  | found matched handler captures =>
    have leases : cycle.lease.anonymous = other.lease.anonymous := congrArg Cycle.lease same
    have routed : Cycle.anonymous { cycle with routed := ⟨some matched, captures⟩ }
        = Cycle.anonymous { other with routed := ⟨some matched, captures⟩ } := by
      show Cycle.mk cycle.lease.anonymous _ = Cycle.mk other.lease.anonymous _
      rw [leases]
    exact (handler.program.run_matched served routed alike).imp fun runs => settle_alike runs _
  | methodNotAllowed allow =>
    rw [found] at commutes
    exact .done (commutes.trans (other.afterWriting_alike alike _ _))
  | notFound =>
    rw [found] at commutes
    exact .done (commutes.trans (other.afterWriting_alike (alike.report _) _ _))

/-- **Whatever is in charge of alike cycles in alike worlds runs matched.** -/
theorem handle_matched (charge : Charge) {cycle other : Cycle}
    (same : cycle.anonymous = other.anonymous) {world another : World}
    (alike : world.Alike another) :
    Matched (charge.moments serve nested cycle world) (charge.moments serve nested other another)
      ((charge.handle serve cycle world).Alike (charge.handle serve other another)) := by
  cases charge with
  | unset =>
    have commutes := Stepped.Alike.of_commutes (handle_anonymous serve .unset) same world
    exact .done (commutes.trans (.of_worlds (alike.report _) _))
  | program body => exact (body.run_matched served same alike).imp fun runs => settle_alike runs _
  | router table => exact route_matched served table same alike

end Charge

end Served

/-! ### Dispatches -/

namespace World

theorem Alike.entered {world other : World} (alike : world.Alike other) (exchange : Http.Exchange) :
    (world.entered exchange).Alike (other.entered exchange) :=
  ⟨alike.charge, alike.registry, alike.observations, alike.events⟩

theorem conclude_alike (exchange : Http.Exchange) {first second : Handled}
    (alike : first.Alike second) :
    (conclude exchange first).Alike (conclude exchange second) := by
  have responses : first.cycle.response.lend = second.cycle.response.lend := by
    rw [← Wrapper.Response.lend_anonymous, ← Cycle.response_anonymous, alike.cycle,
      Cycle.response_anonymous, Wrapper.Response.lend_anonymous]
  have worlds := alike.world
  unfold conclude
  simp only
  rw [alike.result, responses]
  cases second.result with
  | ok done =>
    exact ⟨⟨worlds.charge, worlds.registry, worlds.observations, worlds.events⟩, rfl, rfl⟩
  | error abort =>
    exact ⟨⟨worlds.charge, worlds.registry, worlds.observations, worlds.events⟩, rfl, rfl⟩

/-- Whatever their pools, worlds open alike cycles for one exchange. -/
theorem anonymous_opened (world other : World) (exchange : Http.Exchange) :
    (world.opened exchange).anonymous = (other.opened exchange).anonymous := by
  unfold opened Cycle.anonymous
  rw [Wrapper.Pools.lease_anonymous _ other.dispatcher.pools]

/-- **Dispatches in alike worlds run matched**, whatever their pools. -/
theorem dispatch_matched (depth : Nat) {world other : World} (alike : world.Alike other)
    (exchange : Http.Exchange) :
    Matched (world.moments depth exchange) (other.moments depth exchange)
      ((world.dispatch depth exchange).Alike (other.dispatch depth exchange)) := by
  induction depth generalizing world other exchange with
  | zero => exact .done ⟨alike, rfl, rfl⟩
  | succ depth hypothesis =>
    have served : ∀ (world other : World) (exchange : Http.Exchange), world.Alike other →
        Matched (world.moments depth exchange) (other.moments depth exchange)
          ((world.dispatch depth exchange).Alike (other.dispatch depth exchange)) :=
      fun _ _ exchange alike => hypothesis alike exchange
    have handled := Charge.handle_matched served world.dispatcher.charge
      (world.anonymous_opened other exchange) (alike.entered exchange)
    unfold moments dispatch
    rw [dispatchWith_eq, dispatchWith_eq]
    unfold World.handled
    rw [← alike.charge]
    exact handled.imp (conclude_alike exchange)

end World

/-! ### One more cycle -/

/-- **No state crosses from one cycle to the next.** Behind any turns of a dispatcher, one more cycle
under anybody's charge starts with wrappers that show what those of a new dispatcher would show. It
shows its handler the same from moment to moment, unless the handler looks at the counters of the
pools and they tell it otherwise; where all moments are the same, so are the exchange that is left
and the outcome. The wrappers were held by nobody, and the pools take all of them back without a
complaint. -/
theorem cycles_are_isolated (settings fresh : PoolSettings) (turns : List Turn) (charge : Charge)
    (registry : Registry) (depth : Nat) (exchange : Http.Exchange) :
    let used : World :=
      { dispatcher := { Dispatcher.after settings turns with charge }, registry }
    let new : World := { dispatcher := { Dispatcher.new fresh with charge }, registry }
    (used.opened exchange).sight = (new.opened exchange).sight
    ∧ Lockstep (used.moments depth exchange) (new.moments depth exchange)
    ∧ ((∀ stats, .counters stats ∉ used.moments depth exchange) →
      used.moments depth exchange = new.moments depth exchange)
    ∧ (used.moments depth exchange = new.moments depth exchange →
      (used.dispatch depth exchange).exchange = (new.dispatch depth exchange).exchange
      ∧ (used.dispatch depth exchange).abort = (new.dispatch depth exchange).abort)
    ∧ used.dispatcher.pools.Unlent (used.opened exchange).lease
    ∧ (used.handled (World.dispatch depth) exchange).world.dispatcher.pools.TakesBack
      (used.handled (World.dispatch depth) exchange).cycle.lease := by
  intro used new
  have alike : used.Alike new := ⟨rfl, rfl, rfl, rfl⟩
  have matched := World.dispatch_matched depth alike exchange
  have sound : used.dispatcher.pools.Sound := Dispatcher.sound_after settings turns
  obtain ⟨lent, complete, _⟩ := World.handled_lent (World.dispatch_keeps depth) used exchange
  refine ⟨Cycle.sight_eq (used.anonymous_opened new exchange), matched.lockstep, matched.lockstep.eq_of_unread, ?_,
    sound.unlent_lease exchange, lent.takesBack complete⟩
  intro shown
  exact ⟨(matched.agrees shown).exchange, (matched.agrees shown).abort⟩

/-- A cycle that writes a text behind a cycle that panicked leaves what it leaves on a new
dispatcher. -/
theorem cycles_are_isolated_panic :
    let spoilt : Program := .perform (.write [1, 2, 3]) (.panic "spoilt")
    let turns : List Turn := [.charge (.program spoilt), .cycle {} 1 {}]
    let greeting : Charge := .program (.perform (.writeText .ok "hello") .skip)
    let used : World :=
      { dispatcher := { Dispatcher.after { prewarm := 1 } turns with charge := greeting } }
    let new : World := { dispatcher := { Dispatcher.new {} with charge := greeting } }
    used.moments 1 {} = new.moments 1 {}
      ∧ (used.dispatch 1 {}).exchange = (new.dispatch 1 {}).exchange
      ∧ (used.dispatch 1 {}).abort = (new.dispatch 1 {}).abort := by
  intro spoilt turns greeting used new
  have shown : used.moments 1 {} = new.moments 1 {} := by decide +kernel
  exact ⟨shown, (cycles_are_isolated { prewarm := 1 } {} turns greeting {} 1 {}).2.2.2.1 shown⟩

end Switchboard
