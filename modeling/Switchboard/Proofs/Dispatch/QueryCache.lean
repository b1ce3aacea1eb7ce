/-
**The pairs of a query are those of the target that the request has.**

The wrapper of the target keeps the pairs of its query once they have been read. A callback of the
transport takes the target out of the wrapper and leaves one there, its own or another. Whatever a
handler does in which order, it never reads pairs that were kept for another target.

* `Url.Coherent`, `Request.Carries` — **the invariant**: pairs that are kept are those of the target
  beside them;
* `Glance`, `World.glances` — what a cycle shows of its target, and what callbacks leave of it;
* `Op.glances_coherent` — what **one operation** shows and leaves;
* `Program.glances_coherent` — **a program** shows nothing but the target that it carries, by
  induction on the program; `Program.exists_read` — and no reading goes without an answer;
* `query_is_coherent` — the same for every cycle.
-/

import Switchboard.Proofs.Dispatch.Bridge

namespace Switchboard

/-! ### Wrappers -/

namespace Wrapper

/-- Pairs that are kept are those of the target. -/
def Url.Coherent (url : Url) : Prop :=
  ∀ pairs, url.cached = some pairs → pairs = pairsOf url.uri

/-- A target that is owned anew has no pairs yet. -/
theorem Url.coherent_reset (url : Url) (uri : Http.Uri) : (url.reset uri).Coherent :=
  nofun

/-- **Reading answers with the pairs of the target** and keeps these. -/
theorem Url.Coherent.queryPairs {url : Url} (coherent : url.Coherent) :
    url.queryPairs.1 = pairsOf url.uri ∧ url.queryPairs.2.uri = url.uri
      ∧ url.queryPairs.2.Coherent := by
  unfold Url.queryPairs
  cases kept : url.cached with
  | some pairs => exact ⟨coherent pairs kept, rfl, coherent⟩
  | none =>
    refine ⟨rfl, rfl, ?_⟩
    rintro pairs ⟨⟩
    rfl

namespace Request

/-- The request has the target, in a wrapper that keeps no pairs but its own. -/
def Carries (request : Request) (uri : Http.Uri) : Prop :=
  ∃ url, request.url = some url ∧ url.value.uri = uri ∧ url.value.Coherent

variable {request : Request} {uri : Http.Uri}

theorem Carries.uri_eq (carries : request.Carries uri) : request.uri = uri := by
  obtain ⟨url, bound, rfl, -⟩ := carries
  unfold Request.uri
  rw [bound]
  rfl

theorem Carries.queryPairs (carries : request.Carries uri) :
    request.queryPairs.1 = pairsOf uri ∧ request.queryPairs.2.Carries uri := by
  obtain ⟨url, bound, rfl, coherent⟩ := carries
  obtain ⟨answer, target, keeps⟩ := coherent.queryPairs
  unfold Request.queryPairs
  rw [bound]
  exact ⟨answer, _, rfl, target, keeps⟩

/-- **What a callback leaves** is carried, without any pairs. -/
theorem Carries.restore (carries : request.Carries uri) (native : Http.Request) :
    (request.restore native).Carries native.uri := by
  obtain ⟨url, bound, -, -⟩ := carries
  unfold Request.restore
  rw [bound]
  exact ⟨_, rfl, rfl, url.value.coherent_reset native.uri⟩

end Request

end Wrapper

/-! ### Glances -/

/-- What happens to the target of a request in its cycle. -/
inductive Glance where
  /-- the request is looked at, by the handler or by a callback that it is lent to -/
  | seen (uri : Http.Uri)
  /-- the query is read, and answered with these pairs -/
  | read (pairs : List (String × String))
  /-- a callback leaves this target -/
  | left (uri : Http.Uri)
deriving DecidableEq

namespace Glance

/-- The target behind a glance. -/
def follow (uri : Http.Uri) : Glance → Http.Uri
  | .left other => other
  | _ => uri

/-- **The target that is carried** behind glances: the last one left, or the first of all. -/
def carried (uri : Http.Uri) (glances : List Glance) : Http.Uri :=
  glances.foldl follow uri

/-- The glance tells the target: it is what is seen, and the pairs read are those of its query. -/
def Tells (uri : Http.Uri) : Glance → Prop
  | .seen other => other = uri
  | .read pairs => pairs = uri.query.elim [] Text.formPairs
  | .left _ => True

/-- Every glance tells the target that is carried at its moment. -/
def Coherent (uri : Http.Uri) (glances : List Glance) : Prop :=
  ∀ before glance after, glances = before ++ glance :: after → glance.Tells (carried uri before)

variable {uri : Http.Uri} {glance : Glance} {first second : List Glance}

theorem coherent_nil (uri : Http.Uri) : Coherent uri [] := by
  intro before glance after cut
  exact absurd cut.symm (List.append_ne_nil_of_right_ne_nil _ (List.cons_ne_nil _ _))

theorem coherent_cons (tells : glance.Tells uri) (rest : Coherent (follow uri glance) first) :
    Coherent uri (glance :: first) := by
  intro before other after cut
  cases before with
  | nil =>
    cases cut
    exact tells
  | cons head before =>
    cases cut
    exact rest before other after rfl

/-- Glances that tell the target stay so behind others. -/
theorem Coherent.append (coherent : Coherent uri first)
    (rest : Coherent (carried uri first) second) : Coherent uri (first ++ second) := by
  induction first generalizing uri with
  | nil => exact rest
  | cons head first hypothesis =>
    refine coherent_cons (coherent [] head first rfl) (hypothesis ?_ rest)
    intro before glance after cut
    exact coherent (head :: before) glance after (congrArg (head :: ·) cut)

end Glance

/-! ### What a cycle shows of its target -/

/-- What a callback shows and leaves of the target of an exchange. -/
def Callback.glances (callback : Callback) (exchange : Http.Exchange) : List Glance :=
  .seen exchange.request.uri :: match (callback exchange).outcome with
    | .ok after => [.left after.request.uri]
    | .error _ => []

/-- What an operation shows and leaves of the target. -/
def Op.glances (op : Op) (cycle : Cycle) (world : World) : List Glance :=
  match op with
  | .request => match (Op.request.perform cycle world).result with
    | .ok (view : RequestView) => [.seen view.uri]
    | .error _ => []
  | .queryPairs => match (Op.queryPairs.perform cycle world).result with
    | .ok (pairs : List (String × String)) => [.read pairs]
    | .error _ => []
  | .native callback => callback.glances cycle.lend
  | _ => []

/-- What a program shows of the target of its cycle, and what callbacks leave of it. -/
def Program.glances (serve : World → Http.Exchange → Served) :
    Program → Cycle → World → List Glance :=
  trace serve Op.glances fun _ _ => []

/-- What the cycle of a dispatch shows of its target. -/
def World.glances (depth : Nat) (world : World) (exchange : Http.Exchange) : List Glance :=
  world.dispatcher.charge.trace (dispatch depth) Op.glances (fun _ _ => [])
    (world.opened exchange) (world.entered exchange)

section Run

variable {cycle : Cycle} {uri : Http.Uri}

/-- **An operation** shows the target that is carried, and what it leaves is carried next. -/
theorem Op.glances_coherent (op : Op) (carries : cycle.request.Carries uri) (world : World) :
    Glance.Coherent uri (op.glances cycle world)
      ∧ ∀ answer, (op.perform cycle world).result = .ok answer →
        (op.perform cycle world).cycle.request.Carries
          (Glance.carried uri (op.glances cycle world)) := by
  cases op with
  | request =>
    exact ⟨Glance.coherent_cons carries.uri_eq (Glance.coherent_nil _), fun _ _ => carries⟩
  | queryPairs =>
    obtain ⟨answer, keeps⟩ := carries.queryPairs
    exact ⟨Glance.coherent_cons answer (Glance.coherent_nil _), fun _ _ => keeps⟩
  | native callback =>
    have seen : cycle.lend.request.uri = uri := carries.uri_eq
    have stepped : (Op.native callback).perform cycle world
        = match (callback cycle.lend).outcome with
          | .ok after =>
            ⟨cycle.takeOver after, world.observe (callback cycle.lend).observed, .ok ()⟩
          | .error message =>
            ⟨cycle, world.observe (callback cycle.lend).observed, .error (.panic message)⟩ := rfl
    have shown : (Op.native callback).glances cycle world = callback.glances cycle.lend := rfl
    rw [stepped, shown]
    unfold Callback.glances
    cases (callback cycle.lend).outcome with
    | ok after =>
      have left : (Glance.left after.request.uri).Tells uri := trivial
      exact ⟨Glance.coherent_cons seen (Glance.coherent_cons left (Glance.coherent_nil _)),
        fun _ _ => carries.restore after.request⟩
    | error message => exact ⟨Glance.coherent_cons seen (Glance.coherent_nil _), nofun⟩
  | _ => exact ⟨Glance.coherent_nil uri, fun _ _ => carries⟩

/-- **A program** shows nothing but the target that it carries at each moment. -/
theorem Program.glances_coherent (serve : World → Http.Exchange → Served) (program : Program)
    (carries : cycle.request.Carries uri) (world : World) :
    Glance.Coherent uri (program.glances serve cycle world) := by
  unfold glances
  induction program generalizing cycle world uri with
  | done verdict => exact Glance.coherent_nil uri
  | panic message => exact Glance.coherent_nil uri
  | step op next hypothesis =>
    obtain ⟨shown, left⟩ := op.glances_coherent carries world
    rw [trace]
    refine shown.append ?_
    cases answered : (op.perform cycle world).result with
    | ok answer => exact hypothesis answer (left answer answered) _
    | error abort => exact Glance.coherent_nil _
  | setHandler handler next _ hypothesis => exact hypothesis carries _
  | dispatch exchange next hypothesis =>
    -- a cycle that is dispatched inside has wrappers of its own
    rw [trace, List.nil_append]
    cases (serve world exchange).abort with
    | none => exact hypothesis _ carries _
    | some abort => exact Glance.coherent_nil uri

end Run

/-- The target of a cycle is carried from its start, whatever its wrappers kept in their pools. -/
theorem World.carries_opened (world : World) (exchange : Http.Exchange) :
    (world.opened exchange).request.Carries exchange.request.uri :=
  ⟨_, rfl, rfl, nofun⟩

theorem World.glances_coherent (world : World) (depth : Nat) (exchange : Http.Exchange) :
    Glance.Coherent exchange.request.uri (world.glances depth exchange) := by
  unfold glances Charge.trace
  cases task : world.dispatcher.charge.task? (world.opened exchange) with
  | none => exact Glance.coherent_nil _
  | some pair =>
    obtain ⟨program, start⟩ := pair
    refine program.glances_coherent (dispatch depth) ?_ (world.entered exchange)
    unfold Cycle.request
    rw [Charge.lease_of_task? task]
    exact world.carries_opened exchange

/-- **A reading is always answered**, and the program goes on with the answer that is shown. -/
theorem Program.exists_read (serve : World → Http.Exchange → Served)
    (next : List (String × String) → Program) (cycle : Cycle) (world : World) :
    ∃ pairs onward,
      (Program.step .queryPairs next).glances serve cycle world
          = .read pairs :: (next pairs).glances serve onward world
        ∧ (Program.step .queryPairs next).run serve cycle world
          = (next pairs).run serve onward world := by
  refine ⟨cycle.request.queryPairs.1, cycle.setRequest cycle.request.queryPairs.2, ?_, ?_⟩
  · rw [glances, trace]
    rfl
  · rw [run]
    rfl

/-- **The cache of a query is coherent.** In every cycle, whoever is in charge and whatever wrappers
kept in the pools, a reading of the query is answered with the pairs of the target that the request
has at that moment, and with none if there is no query: of the target with which the cycle began, or
else of the last one that a callback left. Whoever looks at the request sees that target, the
callbacks included. No reading goes without an answer; the program goes on with these pairs, and
where it asks for one parameter with its first value among them. -/
theorem query_is_coherent (world : World) (depth : Nat) (exchange : Http.Exchange) :
    (∀ before glance after, world.glances depth exchange = before ++ glance :: after →
      glance.Tells (Glance.carried exchange.request.uri before))
      ∧ (∀ (serve : World → Http.Exchange → Served) (next : List (String × String) → Program)
          (cycle : Cycle) (later : World), ∃ pairs onward,
        (Program.step .queryPairs next).glances serve cycle later
            = .read pairs :: (next pairs).glances serve onward later
          ∧ (Program.step .queryPairs next).run serve cycle later
            = (next pairs).run serve onward later)
      ∧ ∀ (serve : World → Http.Exchange → Served) (name : String)
          (next : Option String → Program) (cycle : Cycle) (later : World), ∃ pairs onward,
        (Program.query name next).glances serve cycle later
            = .read pairs :: (next (pairs.lookup name)).glances serve onward later
          ∧ (Program.query name next).run serve cycle later
            = (next (pairs.lookup name)).run serve onward later :=
  ⟨world.glances_coherent depth exchange, Program.exists_read, fun serve name next =>
    Program.exists_read serve fun pairs => next (pairs.lookup name)⟩

/-- A query that is read, replaced by a callback, read again and taken away by another callback. -/
theorem query_is_coherent_replaced :
    let target (query : Option String) : Http.Uri := ⟨none, "", "/", query⟩
    let leave (query : Option String) : Program → Program := .perform <| .native fun exchange =>
      { outcome := .ok { exchange with request.uri := target query } }
    let program := Program.query "a" fun _ => leave (some "a=2") <|
      .query "a" fun _ => leave none <| .query "a" fun _ => .skip
    let world := (World.new {}).setCharge (.program program)
    let before : List Glance :=
      [.read [("a", "1")], .seen (target (some "a=1")), .left (target (some "a=2"))]
    let after : List Glance := [.seen (target (some "a=2")), .left (target none), .read []]
    world.glances 0 { request := { uri := target (some "a=1") } }
        = before ++ .read [("a", "2")] :: after
      ∧ (Glance.read [("a", "2")]).Tells (Glance.carried (target (some "a=1")) before) := by
  intro target leave program world before after
  have shown : world.glances 0 { request := { uri := target (some "a=1") } }
      = before ++ .read [("a", "2")] :: after := by decide +kernel
  exact ⟨shown, (query_is_coherent world 0 _).1 _ _ _ shown⟩

end Switchboard
