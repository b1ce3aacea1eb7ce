/-
**Wrappers around a handler, one inside the other.**

A wrapper is a program of its own that may call the handler inside it: what it does up to that call
is its front, what it goes on with behind the call is its back. A router builds a chain of wrappers
around the handler of every route, and only a route that takes the request runs its chain.

* `Watch.course` — a run together with what it shows, `course_andThen`;
* `Layer` — wrappers as programs with calls, `Layer.around`; a bridged callback is one,
  `ofLayer_ofCallback`;
* `course_around_of_none`, `course_around_of_some` — **one wrapper**: its front alone if it does not
  call, and otherwise front, handler and back one behind the other;
* `Layer.passage` — how deep a run comes: the fronts in the order of the list, each from where the
  one before it ended, up to the handler or to the first wrapper that does not call;
* `course_nest` — **the whole chain** is its passage, and behind it the backs in reverse order;
* `wrappers_are_an_onion` — the three together, for every registry and all wrappers.
-/

import Switchboard.Proofs.Dispatch.Task
import Switchboard.Proofs.Routing.Wrapping

namespace Switchboard

/-! ### Runs and what they show -/

/-- How dispatches inside a run are served, and what is shown of the run. -/
structure Watch (α : Type) where
  serve : World → Http.Exchange → Served
  shown : Op → Cycle → World → List α
  nested : World → Http.Exchange → List α

/-- What a run has shown and what it has left. -/
structure Course (α : Type) where
  shown : List α
  ran : Ran

variable {α : Type}

/-- The course behind what was shown before it. -/
def Course.behind (before : List α) (course : Course α) : Course α :=
  ⟨before ++ course.shown, course.ran⟩

/-- What a program shows of a run, as far as the run comes. -/
theorem Program.trace_andThen (serve : World → Http.Exchange → Served)
    (shown : Op → Cycle → World → List α) (nested : World → Http.Exchange → List α)
    (program : Program) (follow : Verdict → Program) (cycle : Cycle) (world : World) :
    (program.andThen follow).trace serve shown nested cycle world
      = program.trace serve shown nested cycle world
        ++ match (program.run serve cycle world).result with
          | .ok verdict =>
            (follow verdict).trace serve shown nested (program.run serve cycle world).cycle
              (program.run serve cycle world).world
          | .error _ => [] := by
  induction program generalizing cycle world with
  | done => rfl
  | panic => rfl
  | step op next hypothesis =>
    simp only [andThen, trace, run]
    cases (op.perform cycle world).result with
    | ok answer =>
      rw [List.append_assoc]
      exact congrArg _ (hypothesis answer _ _)
    | error => rw [List.append_nil, List.append_nil]
  | setHandler handler next _ hypothesis => exact hypothesis _ _
  | dispatch exchange next hypothesis =>
    simp only [andThen, trace, run]
    cases (serve world exchange).abort with
    | none =>
      rw [List.append_assoc]
      exact congrArg _ (hypothesis _ _ _)
    | some => rw [List.append_nil, List.append_nil]

theorem Program.andThen_pure (program : Program) : program.andThen .done = program := by
  induction program with
  | done => rfl
  | panic => rfl
  | step op next hypothesis => exact congrArg (Program.step op) (funext hypothesis)
  | setHandler handler next _ hypothesis => exact congrArg (Program.setHandler handler) hypothesis
  | dispatch exchange next hypothesis =>
    exact congrArg (Program.dispatch exchange) (funext hypothesis)

namespace Watch

variable (watch : Watch α)

/-- The course of a program. -/
def course (program : Program) (cycle : Cycle) (world : World) : Course α :=
  ⟨program.trace watch.serve watch.shown watch.nested cycle world,
    program.run watch.serve cycle world⟩

/-- Go on behind a course with a program for its verdict; behind an abort nothing runs. -/
def follow (next : Verdict → Program) (course : Course α) : Course α :=
  match course.ran.result with
  | .ok verdict =>
    (watch.course (next verdict) course.ran.cycle course.ran.world).behind course.shown
  | .error _ => course

theorem follow_of_ok {course : Course α} {verdict : Verdict}
    (ended : course.ran.result = .ok verdict) (next : Verdict → Program) :
    watch.follow next course
      = (watch.course (next verdict) course.ran.cycle course.ran.world).behind course.shown := by
  unfold follow
  rw [ended]

theorem follow_of_error {course : Course α} {abort : Abort}
    (ended : course.ran.result = .error abort) (next : Verdict → Program) :
    watch.follow next course = course := by
  unfold follow
  rw [ended]

theorem follow_behind (next : Verdict → Program) (before : List α) (course : Course α) :
    watch.follow next (course.behind before) = (watch.follow next course).behind before := by
  cases ended : course.ran.result with
  | ok verdict =>
    have endedToo : (course.behind before).ran.result = .ok verdict := ended
    rw [watch.follow_of_ok ended, watch.follow_of_ok endedToo]
    unfold Course.behind
    rw [List.append_assoc]
  | error abort =>
    have endedToo : (course.behind before).ran.result = .error abort := ended
    rw [watch.follow_of_error ended, watch.follow_of_error endedToo]

/-- To go on with the verdict itself is to stop. -/
theorem follow_done (course : Course α) : watch.follow .done course = course := by
  obtain ⟨shown, cycle, world, result⟩ := course
  cases result with
  | ok verdict => exact congrArg (Course.mk · _) (List.append_nil shown)
  | error abort => rfl

/-- **The course of a program with a follow-up** is the course of the program, followed up. -/
theorem course_andThen (program : Program) (next : Verdict → Program) (cycle : Cycle)
    (world : World) :
    watch.course (program.andThen next) cycle world
      = watch.follow next (watch.course program cycle world) := by
  unfold course
  rw [Program.trace_andThen, Program.run_andThen]
  generalize program.run watch.serve cycle world = ran
  obtain ⟨onward, later, result⟩ := ran
  cases result with
  | ok verdict => rfl
  | error abort => exact congrArg (Course.mk · _) (List.append_nil _)

theorem course_step_of_ok {op : Op} {cycle : Cycle} {world : World} {answer : op.Answer}
    (answered : (op.perform cycle world).result = .ok answer) (next : op.Answer → Program) :
    watch.course (.step op next) cycle world
      = (watch.course (next answer) (op.perform cycle world).cycle
          (op.perform cycle world).world).behind (watch.shown op cycle world) := by
  unfold course Course.behind
  rw [Program.trace, Program.run]
  simp only [answered]

theorem course_step_of_error {op : Op} {cycle : Cycle} {world : World} {abort : Abort}
    (aborted : (op.perform cycle world).result = .error abort)
    (next other : op.Answer → Program) :
    watch.course (.step op next) cycle world = watch.course (.step op other) cycle world := by
  unfold course
  rw [Program.trace, Program.run, Program.trace, Program.run]
  simp only [aborted]

theorem course_dispatch_of_none {world : World} {exchange : Http.Exchange}
    (ended : (watch.serve world exchange).abort = none) (next : Http.Exchange → Program)
    (cycle : Cycle) :
    watch.course (.dispatch exchange next) cycle world
      = (watch.course (next (watch.serve world exchange).exchange) cycle
          (watch.serve world exchange).world).behind (watch.nested world exchange) := by
  unfold course Course.behind
  rw [Program.trace, Program.run]
  simp only [ended]

theorem course_dispatch_of_some {world : World} {exchange : Http.Exchange} {abort : Abort}
    (aborted : (watch.serve world exchange).abort = some abort)
    (next other : Http.Exchange → Program) (cycle : Cycle) :
    watch.course (.dispatch exchange next) cycle world
      = watch.course (.dispatch exchange other) cycle world := by
  unfold course
  rw [Program.trace, Program.run, Program.trace, Program.run]
  simp only [aborted]

end Watch

/-! ### Wrappers as programs -/

/-- A program that may call the handler inside it, once, several times or not at all. -/
inductive Layer where
  /-- end with a verdict -/
  | done (verdict : Verdict)
  /-- end in a panic -/
  | panic (message : String)
  /-- perform an operation and go on with its answer -/
  | step (op : Op) (next : op.Answer → Layer)
  /-- put a program in charge of the cycles to come -/
  | setHandler (handler : Program) (next : Layer)
  /-- dispatch an exchange in a cycle of its own -/
  | dispatch (exchange : Http.Exchange) (next : Http.Exchange → Layer)
  /-- call the handler inside and go on with its verdict -/
  | call (back : Verdict → Layer)

namespace Layer

/-- The layer around a handler. -/
def around (layer : Layer) (inner : Program) : Program :=
  match layer with
  | .done verdict => .done verdict
  | .panic message => .panic message
  | .step op next => .step op fun answer => (next answer).around inner
  | .setHandler handler next => .setHandler handler (next.around inner)
  | .dispatch exchange next => .dispatch exchange fun after => (next after).around inner
  | .call back => inner.andThen fun verdict => (back verdict).around inner

/-- What the layer does up to its first call. -/
def front : Layer → Program
  | .done verdict => .done verdict
  | .panic message => .panic message
  | .step op next => .step op fun answer => (next answer).front
  | .setHandler handler next => .setHandler handler next.front
  | .dispatch exchange next => .dispatch exchange fun after => (next after).front
  | .call _ => .skip

/-- What the layer goes on with behind its first call; a run in which it does not call has none. -/
def back? (serve : World → Http.Exchange → Served) :
    Layer → Cycle → World → Option (Verdict → Layer)
  | .done _, _, _ => none
  | .panic _, _, _ => none
  | .step op next, cycle, world =>
    let stepped := op.perform cycle world
    match stepped.result with
    | .ok answer => back? serve (next answer) stepped.cycle stepped.world
    | .error _ => none
  | .setHandler handler next, cycle, world =>
    back? serve next cycle (world.setCharge (.program handler))
  | .dispatch exchange next, cycle, world =>
    let served := serve world exchange
    match served.abort with
    | none => back? serve (next served.exchange) cycle served.world
    | some _ => none
  | .call back, _, _ => some back

/-- A program that does not call, as a layer. -/
def ofProgram : Program → Layer
  | .done verdict => .done verdict
  | .panic message => .panic message
  | .step op next => .step op fun answer => ofProgram (next answer)
  | .setHandler handler next => .setHandler handler (ofProgram next)
  | .dispatch exchange next => .dispatch exchange fun after => ofProgram (next after)

/-- The layer that runs a callback of the transport and then the handler. -/
def ofCallback (callback : Callback) : Layer :=
  .step (.native callback) fun _ => .call .done

/-- Layers around a handler, the first one outermost. -/
def nest (layers : List Layer) (handler : Program) : Program :=
  layers.foldr around handler

/-- Where nothing is called it does not matter what stands inside. -/
theorem around_ofProgram (program inner : Program) :
    (ofProgram program).around inner = program := by
  induction program with
  | done => rfl
  | panic => rfl
  | step op next hypothesis => exact congrArg (Program.step op) (funext hypothesis)
  | setHandler handler next _ hypothesis => exact congrArg (Program.setHandler handler) hypothesis
  | dispatch exchange next hypothesis =>
    exact congrArg (Program.dispatch exchange) (funext hypothesis)

end Layer

/-- A layer as a wrapper of handlers. -/
def Middleware.ofLayer (name : String) (layer : Layer) : Middleware :=
  { name
    wrap := layer.around }

/-- **A bridged callback is a layer.** -/
theorem Middleware.ofLayer_ofCallback (name : String) (callback : Callback) :
    ofLayer name (.ofCallback callback) = ofCallback name callback := by
  unfold ofLayer ofCallback
  congr 1
  funext inner
  show Program.step _ (fun _ => inner.andThen Program.done) = _
  rw [inner.andThen_pure]
  rfl

theorem Middleware.program_chain_ofLayer (layers : List (String × Layer)) (handler : Handler) :
    (chain (layers.map fun named => ofLayer named.1 named.2) handler).program
      = Layer.nest (layers.map Prod.snd) handler.program := by
  induction layers with
  | nil => rfl
  | cons first rest hypothesis => exact congrArg first.2.around hypothesis

/-! ### One layer -/

section One

variable (watch : Watch α)

/-- **A layer that does not call** runs alone. -/
theorem Watch.course_around_of_none {layer : Layer} {cycle : Cycle} {world : World}
    (alone : layer.back? watch.serve cycle world = none) (inner : Program) :
    watch.course (layer.around inner) cycle world = watch.course layer.front cycle world := by
  induction layer generalizing cycle world with
  | done verdict => rfl
  | panic message => rfl
  | step op next hypothesis =>
    rw [Layer.back?] at alone
    rw [Layer.around, Layer.front]
    cases answered : (op.perform cycle world).result with
    | ok answer =>
      simp only [answered] at alone
      rw [watch.course_step_of_ok answered, watch.course_step_of_ok answered,
        hypothesis answer alone]
    | error abort => exact watch.course_step_of_error answered _ _
  | setHandler handler next hypothesis => exact hypothesis alone
  | dispatch exchange next hypothesis =>
    rw [Layer.back?] at alone
    rw [Layer.around, Layer.front]
    cases ended : (watch.serve world exchange).abort with
    | none =>
      simp only [ended] at alone
      rw [watch.course_dispatch_of_none ended, watch.course_dispatch_of_none ended,
        hypothesis _ alone]
    | some abort => exact watch.course_dispatch_of_some ended _ _ cycle
  | call back => cases alone

/-- **A layer that calls**: its front, the handler inside from where the front ended, its back. -/
theorem Watch.course_around_of_some {layer : Layer} {cycle : Cycle} {world : World}
    {back : Verdict → Layer} (calls : layer.back? watch.serve cycle world = some back)
    (inner : Program) :
    watch.course (layer.around inner) cycle world
      = watch.follow (fun verdict => (back verdict).around inner)
          ((watch.course inner (layer.front.run watch.serve cycle world).cycle
            (layer.front.run watch.serve cycle world).world).behind
              (watch.course layer.front cycle world).shown) := by
  induction layer generalizing cycle world with
  | done verdict => cases calls
  | panic message => cases calls
  | step op next hypothesis =>
    rw [Layer.back?] at calls
    rw [Layer.around, Layer.front]
    cases answered : (op.perform cycle world).result with
    | ok answer =>
      simp only [answered] at calls
      rw [watch.course_step_of_ok answered, watch.course_step_of_ok answered,
        hypothesis answer calls, Program.run]
      simp only [answered]
      rw [← watch.follow_behind]
      unfold Course.behind
      rw [List.append_assoc]
    | error abort =>
      simp only [answered] at calls
      cases calls
  | setHandler handler next hypothesis => exact hypothesis calls
  | dispatch exchange next hypothesis =>
    rw [Layer.back?] at calls
    rw [Layer.around, Layer.front]
    cases ended : (watch.serve world exchange).abort with
    | none =>
      simp only [ended] at calls
      rw [watch.course_dispatch_of_none ended, watch.course_dispatch_of_none ended,
        hypothesis _ calls, Program.run]
      simp only [ended]
      rw [← watch.follow_behind]
      unfold Course.behind
      rw [List.append_assoc]
    | some abort =>
      simp only [ended] at calls
      cases calls
  | call back =>
    cases calls
    exact watch.course_andThen inner _ cycle world

end One

/-! ### Layers inside one another -/

/-- A layer that has called the handler inside it: where it began, and what it goes on with for each
verdict. -/
structure Stage where
  layer : Layer
  cycle : Cycle
  world : World
  back : Verdict → Program

/-- How deep a run comes: the layers that have called, the outermost first, and the program that
runs innermost with the place where it begins. -/
structure Passage where
  stages : List Stage
  core : Program
  cycle : Cycle
  world : World

namespace Layer

/-- **The passage through layers.** Each begins where the front of the one around it has ended; the
core is the handler, or the front of the first layer that does not call. A back may call again what
stands inside its layer. -/
def passage (serve : World → Http.Exchange → Served) (handler : Program) :
    List Layer → Cycle → World → Passage
  | [], cycle, world => ⟨[], handler, cycle, world⟩
  | layer :: rest, cycle, world =>
    match layer.back? serve cycle world with
    | none => ⟨[], layer.front, cycle, world⟩
    | some back =>
      let ran := layer.front.run serve cycle world
      let inner := passage serve handler rest ran.cycle ran.world
      let stage : Stage :=
        ⟨layer, cycle, world, fun verdict => (back verdict).around (nest rest handler)⟩
      { inner with stages := stage :: inner.stages }

variable {serve : World → Http.Exchange → Served} {handler : Program} {layers : List Layer}
  {cycle : Cycle} {world : World}

/-- **A passage ends at the handler** behind all layers, or at the first layer that does not
call. -/
theorem exists_beyond (serve : World → Http.Exchange → Served) (handler : Program)
    (layers : List Layer) (cycle : Cycle) (world : World) :
    let reached := passage serve handler layers cycle world
    ∃ beyond, layers = reached.stages.map Stage.layer ++ beyond
      ∧ (beyond = [] ∧ reached.core = handler
        ∨ ∃ layer others, beyond = layer :: others ∧ reached.core = layer.front
          ∧ layer.back? serve reached.cycle reached.world = none) := by
  induction layers generalizing cycle world with
  | nil => exact ⟨[], rfl, .inl ⟨rfl, rfl⟩⟩
  | cons layer rest hypothesis =>
    rw [passage]
    cases calls : layer.back? serve cycle world with
    | none => exact ⟨layer :: rest, rfl, .inr ⟨layer, rest, rfl, rfl, calls⟩⟩
    | some back =>
      obtain ⟨beyond, parts, ends⟩ := hypothesis (layer.front.run serve cycle world).cycle
        (layer.front.run serve cycle world).world
      exact ⟨beyond, congrArg (layer :: ·) parts, ends⟩

/-- A layer that has called goes on with its own back. -/
theorem exists_back_of_mem_stages {stage : Stage}
    (member : stage ∈ (passage serve handler layers cycle world).stages) :
    ∃ back inner, stage.layer.back? serve stage.cycle stage.world = some back
      ∧ stage.back = fun verdict => (back verdict).around inner := by
  induction layers generalizing cycle world with
  | nil => cases member
  | cons layer rest hypothesis =>
    rw [passage] at member
    cases calls : layer.back? serve cycle world with
    | none =>
      rw [calls] at member
      cases member
    | some back =>
      rw [calls] at member
      rcases List.mem_cons.mp member with rfl | inside
      · exact ⟨back, nest rest handler, calls, rfl⟩
      · exact hypothesis inside

/-- **A layer that does not call again** goes on with its own program. -/
theorem back_of_ofProgram {stage : Stage}
    (member : stage ∈ (passage serve handler layers cycle world).stages)
    {behind : Verdict → Program}
    (once : stage.layer.back? serve stage.cycle stage.world
      = some fun verdict => ofProgram (behind verdict)) : stage.back = behind := by
  obtain ⟨back, inner, calls, goes⟩ := exists_back_of_mem_stages member
  cases once.symm.trans calls
  rw [goes]
  exact funext fun verdict => around_ofProgram (behind verdict) inner

/-- **A bridged callback ends with the verdict** of what it calls. -/
theorem back_of_ofCallback {stage : Stage}
    (member : stage ∈ (passage serve handler layers cycle world).stages) {callback : Callback}
    (bridged : stage.layer = .ofCallback callback) : stage.back = .done := by
  obtain ⟨back, inner, calls, goes⟩ := exists_back_of_mem_stages member
  rw [bridged, ofCallback, back?] at calls
  cases answered : ((Op.native callback).perform stage.cycle stage.world).result with
  | ok answer =>
    simp only [answered] at calls
    cases calls
    exact goes
  | error abort =>
    simp only [answered] at calls
    cases calls

end Layer

namespace Watch

variable (watch : Watch α)

/-- The front of a layer as it is shown. -/
def frontShown (stage : Stage) : List α :=
  (watch.course stage.layer.front stage.cycle stage.world).shown

/-- **The backs of layers**, the innermost first. -/
def ascend (stages : List Stage) (course : Course α) : Course α :=
  stages.foldr (fun stage inner => watch.follow stage.back inner) course

theorem ascend_behind (stages : List Stage) (before : List α) (course : Course α) :
    watch.ascend stages (course.behind before) = (watch.ascend stages course).behind before := by
  induction stages with
  | nil => rfl
  | cons stage rest hypothesis =>
    show watch.follow stage.back (watch.ascend rest _) = _
    rw [hypothesis, watch.follow_behind]
    rfl

/-- **Layers that end with the verdict of what they call** change nothing behind it. -/
theorem ascend_of_done {stages : List Stage} (bridged : ∀ stage ∈ stages, stage.back = .done)
    (course : Course α) : watch.ascend stages course = course := by
  induction stages with
  | nil => rfl
  | cons stage rest hypothesis =>
    show watch.follow stage.back (watch.ascend rest course) = _
    rw [hypothesis fun other member => bridged other (List.mem_cons_of_mem _ member),
      bridged stage List.mem_cons_self, watch.follow_done]

/-- **A chain of layers runs as an onion**: the fronts in order, then the core, then the backs in
reverse order. -/
theorem course_nest (handler : Program) (layers : List Layer) (cycle : Cycle) (world : World) :
    let reached := Layer.passage watch.serve handler layers cycle world
    watch.course (Layer.nest layers handler) cycle world
      = watch.ascend reached.stages
          ((watch.course reached.core reached.cycle reached.world).behind
            (reached.stages.flatMap watch.frontShown)) := by
  induction layers generalizing cycle world with
  | nil => rfl
  | cons layer rest hypothesis =>
    show watch.course (layer.around (Layer.nest rest handler)) cycle world = _
    rw [Layer.passage]
    cases calls : layer.back? watch.serve cycle world with
    | none => exact watch.course_around_of_none calls _
    | some back =>
      rw [watch.course_around_of_some calls, hypothesis, ← watch.ascend_behind]
      unfold Course.behind
      rw [← List.append_assoc]
      rfl

end Watch

/-! ### Chains that a router runs -/

/-- The report of a handler that fails on a route. -/
def Route.failed (matched : Route) (error : HandlerError) : List Event :=
  [.handlerFailed matched.id error.status error.message]

namespace Charge

variable {registry : Registry} {serve : World → Http.Exchange → Served} {cycle : Cycle}
  {world : World}

/-- **A route that takes the request** runs the chain around its handler. -/
theorem route_build_of_found {matched : Route} {handler : Handler} {captures : Path.Captures}
    (found : (Router.build registry []).resolve cycle.request.method cycle.request.uri.path
      = .found matched handler captures) (middleware : List Middleware) :
    route serve (Router.build registry middleware) cycle world
      = settle ((Middleware.chain middleware handler).program.run serve
          { cycle with routed := ⟨some matched, captures⟩ } world) matched.failed := by
  unfold route
  simp only [Router.resolve_build registry middleware, found]
  rfl

/-- **A request that no route takes** is answered on the spot, the same whatever is wrapped around
the handlers of the routes. -/
theorem route_build_of_refused
    (refused : ∀ matched handler captures,
      (Router.build registry []).resolve cycle.request.method cycle.request.uri.path
        ≠ .found matched handler captures) (middleware : List Middleware) :
    (router (Router.build registry middleware)).task? cycle = none
      ∧ route serve (Router.build registry middleware) cycle world
        = route serve (Router.build registry []) cycle world := by
  unfold task? route
  simp only [Router.resolve_build registry middleware]
  cases resolved :
      (Router.build registry []).resolve cycle.request.method cycle.request.uri.path with
  | found matched handler captures => exact absurd resolved (refused _ _ _)
  | methodNotAllowed allow => exact ⟨rfl, rfl⟩
  | notFound => exact ⟨rfl, rfl⟩

end Charge

/-- **Wrappers are an onion around the handlers of routes that take the request**, and around
nothing else. Wrappers do not change what a router finds for a request: route, captures and methods
on offer are those of the router without them. A request that no route takes runs no program and is
answered as without wrappers. On a route that takes it, the run goes through the fronts of the
wrappers in the order of their list, each from where the one before it ended, to the handler of the
route, or to the first wrapper that does not call, which is then the last that runs; from there the
backs of those that called follow in reverse order, each with the verdict of what it called, a
bridged callback with nothing but that verdict. So between bridged callbacks the router settles the
very verdict of the innermost program. -/
theorem wrappers_are_an_onion (registry : Registry) :
    let plain := Router.build registry []
    (∀ middleware method path,
      (Router.build registry middleware).resolve method path
        = (plain.resolve method path).under middleware)
    ∧ (∀ middleware serve cycle world,
      (∀ matched handler captures, plain.resolve cycle.request.method cycle.request.uri.path
        ≠ .found matched handler captures) →
      (Charge.router (Router.build registry middleware)).task? cycle = none
        ∧ Charge.route serve (Router.build registry middleware) cycle world
          = Charge.route serve plain cycle world)
    ∧ ∀ (α : Type) (watch : Watch α) (layers : List (String × Layer)) cycle world matched handler
        captures, plain.resolve cycle.request.method cycle.request.uri.path
          = .found matched handler captures →
      let middleware := layers.map fun named => Middleware.ofLayer named.1 named.2
      let program := (Middleware.chain middleware handler).program
      let start : Cycle := { cycle with routed := ⟨some matched, captures⟩ }
      let reached := Layer.passage watch.serve handler.program (layers.map Prod.snd) start world
      Charge.route watch.serve (Router.build registry middleware) cycle world
          = Charge.settle (program.run watch.serve start world) matched.failed
      ∧ (∃ beyond, layers.map Prod.snd = reached.stages.map Stage.layer ++ beyond
        ∧ (beyond = [] ∧ reached.core = handler.program
          ∨ ∃ layer others, beyond = layer :: others ∧ reached.core = layer.front
            ∧ layer.back? watch.serve reached.cycle reached.world = none))
      ∧ watch.course program start world
          = watch.ascend reached.stages
            ((watch.course reached.core reached.cycle reached.world).behind
              (reached.stages.flatMap watch.frontShown))
      ∧ (∀ stage ∈ reached.stages,
        (∀ behind : Verdict → Program, stage.layer.back? watch.serve stage.cycle stage.world
          = some (fun verdict => .ofProgram (behind verdict)) → stage.back = behind)
        ∧ ∀ callback, stage.layer = .ofCallback callback → stage.back = .done)
      ∧ ((∀ stage ∈ reached.stages, ∃ callback, stage.layer = .ofCallback callback) →
        program.run watch.serve start world
          = reached.core.run watch.serve reached.cycle reached.world) := by
  intro plain
  refine ⟨Router.resolve_build registry, fun middleware serve cycle world refused =>
    Charge.route_build_of_refused refused middleware, ?_⟩
  intro α watch layers cycle world matched handler captures found middleware program start reached
  have nested : program = Layer.nest (layers.map Prod.snd) handler.program :=
    Middleware.program_chain_ofLayer layers handler
  have course : watch.course program start world = watch.ascend reached.stages _ :=
    nested ▸ watch.course_nest handler.program (layers.map Prod.snd) start world
  refine ⟨Charge.route_build_of_found found middleware, Layer.exists_beyond _ _ _ _ _, course,
    fun stage member => ⟨fun behind => Layer.back_of_ofProgram member, fun callback =>
      Layer.back_of_ofCallback member⟩, fun bridged => ?_⟩
  have unchanged : ∀ stage ∈ reached.stages, stage.back = .done := by
    intro stage member
    obtain ⟨callback, same⟩ := bridged stage member
    exact Layer.back_of_ofCallback member same
  rw [watch.ascend_of_done unchanged] at course
  exact congrArg Course.ran course

/-- Two wrappers, the inner one a bridged callback, around a handler that fails, and a path that no
route takes. -/
theorem wrappers_are_an_onion_failed :
    let note (text : String) (next : Layer) : Layer := .step (.observe (.string text)) fun _ => next
    let outer := note "outer" (.call fun verdict => note "outer again" (.done verdict))
    let bridged := Layer.ofCallback fun exchange => { outcome := .ok exchange }
    let middleware : List Middleware := [.ofLayer "outer" outer, .ofLayer "bridged" bridged]
    let fail : Program := .perform (.observe (.string "handler")) (.fail (.badRequest "nope"))
    let route := Route.assemble "fail" "/" [] "" [] []
    let registry := Registry.after [.route route ⟨"fail", fail⟩]
    let world := World.new {}
    let cycle (path : String) : Cycle := world.opened { request := { uri := ⟨none, "", path, none⟩ } }
    let watch : Watch String := {
      serve := World.dispatch 0
      shown := fun op _ _ => match op with
        | .observe (.string text) => [text]
        | .native _ => ["bridged"]
        | _ => []
      nested := fun _ _ => [] }
    let start : Cycle := { cycle "/" with routed := ⟨some route, []⟩ }
    let course := watch.course (Middleware.chain middleware ⟨"fail", fail⟩).program start world
    (Router.build registry []).resolve .get "/" = .found route ⟨"fail", fail⟩ []
      ∧ course.shown = ["outer", "bridged", "handler", "outer again"]
      ∧ course.ran.result = .ok (.error (.badRequest "nope"))
      ∧ (Router.build registry []).resolve .get "/b" = .notFound
      ∧ (Charge.router (Router.build registry middleware)).task? (cycle "/b") = none := by
  intro note outer bridged middleware fail route registry world cycle watch start course
  have alone : Router.build registry [] = ⟨[⟨.compile "/", route, ⟨"fail", fail⟩⟩]⟩ :=
    congrArg Router.mk (List.mergeSort_singleton _)
  have taken : (Router.build registry []).resolve .get "/" = .found route ⟨"fail", fail⟩ [] :=
    alone ▸ rfl
  have missed : (Router.build registry []).resolve .get "/b" = .notFound := alone ▸ rfl
  obtain ⟨-, refuses, runs⟩ := wrappers_are_an_onion registry
  obtain ⟨-, -, onion, -, -⟩ := runs String watch [("outer", outer), ("bridged", bridged)]
    (cycle "/") world route ⟨"fail", fail⟩ [] taken
  have refused : ∀ matched handler captures,
      (Router.build registry []).resolve .get "/b" ≠ .found matched handler captures := by
    intro matched handler captures same
    cases missed.symm.trans same
  refine ⟨taken, ?_, ?_, missed, (refuses middleware watch.serve (cycle "/b") world refused).1⟩
  · rw [show course = _ from onion]
    decide +kernel
  · rw [show course = _ from onion]
    decide +kernel

end Switchboard
