/-
**The gate for bodies.**

The gateway reads the body of a request before it dispatches anything. It stops where the octets
exceed the limit or where the transfer breaks, whichever comes first, and tells the two apart by
their causes. A request whose body cannot be read is answered on the spot; only one whose body was
read to its end gets to the dispatcher. The causes tell of any limit, and a body may have been
limited before it came to the gateway.

* `received`, `Broken`, `LimitedBefore` — the octets in front of a read error, whether there is one,
  and whether it has a limit among its own causes;
* `read_eq` — **reading chunks**, by induction on them: the limit comes first if more is received than
  it admits;
* `exceedsLimit_iff` — a limit is found among the causes wherever it stands;
* `collect_of_exceeding`, `collect_of_torn`, `collect_of_limited`, `collect_of_whole` — what becomes
  of a body;
* `complete_keeps`, `propagate_keeps` — a response keeps its status and its other fields on its way
  out;
* `Rejects` — **an answer with a status and nothing else**: neither the world nor whoever is in
  charge of it has part in it; `Dispatches` — one dispatch of a request with a given body;
* `not_rejects_of_dispatches` — a dispatch that comes to an end is counted, so it is no rejection;
* `body_gate_is_exact` — **the gate is exact and free of side effects**, and `gate_status_ambiguous`
  shows where a status alone does not tell what the gate found.
-/

import Switchboard.Proofs.Dispatch.Accounts
import Switchboard.Server.Gateway

namespace Switchboard.Gateway

/-! ### Chunks -/

/-- The octets that arrive in front of a read error. -/
def received : List Chunk → List UInt8
  | [] => []
  | .broken _ :: _ => []
  | .data octets :: rest => octets ++ received rest

/-- The causes of the first read error. -/
def broken? : List Chunk → Option (List ReadFault)
  | [] => none
  | .broken causes :: _ => some causes
  | .data _ :: rest => broken? rest

/-- A read error is among the chunks. -/
def Broken (chunks : List Chunk) : Prop :=
  ∃ causes, Chunk.broken causes ∈ chunks

/-- The first read error has a limit among its own causes: the body was limited before it came to the
gateway. -/
def LimitedBefore (chunks : List Chunk) : Prop :=
  ∃ causes, broken? chunks = some causes ∧ .lengthLimit ∈ causes

theorem received_map_data (parts : List (List UInt8)) :
    received (parts.map .data) = parts.flatten := by
  induction parts with
  | nil => rfl
  | cons head tail hypothesis =>
    rw [List.map_cons, received, hypothesis, List.flatten_cons]

/-- Without a read error there is nothing but data. -/
theorem broken?_eq_none_iff {chunks : List Chunk} :
    broken? chunks = none ↔ ∃ parts : List (List UInt8), chunks = parts.map .data := by
  constructor
  · intro unbroken
    induction chunks with
    | nil => exact ⟨[], rfl⟩
    | cons chunk rest hypothesis =>
      cases chunk with
      | data octets =>
        obtain ⟨parts, rfl⟩ := hypothesis unbroken
        exact ⟨octets :: parts, rfl⟩
      | broken causes => cases unbroken
  · rintro ⟨parts, rfl⟩
    induction parts with
    | nil => rfl
    | cons head tail hypothesis => exact hypothesis

theorem broken_iff {chunks : List Chunk} :
    Broken chunks ↔ ∃ causes, broken? chunks = some causes := by
  rw [← Option.ne_none_iff_exists']
  constructor
  · rintro ⟨causes, member⟩ unbroken
    obtain ⟨parts, rfl⟩ := broken?_eq_none_iff.mp unbroken
    obtain ⟨octets, -, same⟩ := List.mem_map.mp member
    cases same
  · intro stopped
    induction chunks with
    | nil => exact absurd rfl stopped
    | cons chunk rest hypothesis =>
      cases chunk with
      | data octets =>
        obtain ⟨causes, member⟩ := hypothesis stopped
        exact ⟨causes, List.mem_cons_of_mem _ member⟩
      | broken causes => exact ⟨causes, List.mem_cons_self⟩

/-! ### Reading -/

/-- **Reading chunks**: the limit is reached if more is received than it admits, and otherwise a read
error shows, if there is one. -/
theorem read_eq (limit : Nat) (chunks : List Chunk) :
    read limit chunks
      = if limit < (received chunks).length then .error [.lengthLimit]
        else match broken? chunks with
          | some causes => .error causes
          | none => .ok (received chunks) := by
  induction chunks generalizing limit with
  | nil => rfl
  | cons chunk rest hypothesis =>
    cases chunk with
    | broken causes => rfl
    | data octets =>
      rw [read, received, broken?, hypothesis, List.length_append]
      by_cases fits : octets.length ≤ limit
      · rw [if_neg (Nat.not_lt.mpr fits)]
        -- what is left of the limit is exceeded exactly if the whole limit is
        by_cases exceeds : limit - octets.length < (received rest).length
        · rw [if_pos exceeds, if_pos (by omega)]
          rfl
        · rw [if_neg exceeds, if_neg (by omega)]
          cases broken? rest with
          | none => rfl
          | some causes => rfl
      · rw [if_pos (Nat.not_le.mp fits), if_pos (by omega)]

/-- A limit is found among the causes **wherever it stands**. -/
theorem exceedsLimit_iff {causes : List ReadFault} :
    exceedsLimit causes = true ↔ .lengthLimit ∈ causes := by
  induction causes with
  | nil => exact iff_of_false Bool.false_ne_true List.not_mem_nil
  | cons cause further hypothesis =>
    cases cause with
    | lengthLimit => exact iff_of_true rfl List.mem_cons_self
    | transfer text =>
      rw [exceedsLimit, hypothesis, List.mem_cons, or_iff_right nofun]

section Collected

variable {limit : Nat} {chunks : List Chunk}

theorem collect_of_exceeding (exceeds : limit < (received chunks).length) :
    collect limit chunks = .error .tooLarge := by
  unfold collect
  rw [read_eq, if_pos exceeds]
  rfl

/-- Within the limit the causes of the first read error decide. -/
theorem collect_of_broken {causes : List ReadFault} (within : (received chunks).length ≤ limit)
    (first : broken? chunks = some causes) : collect limit chunks = .error (refusal causes) := by
  unfold collect
  rw [read_eq, if_neg (Nat.not_lt.mpr within), first]
  rfl

theorem collect_of_torn (within : (received chunks).length ≤ limit) (broken : Broken chunks)
    (own : ¬ LimitedBefore chunks) : collect limit chunks = .error .unreadable := by
  obtain ⟨causes, first⟩ := broken_iff.mp broken
  have transferred : ¬ exceedsLimit causes = true := fun exceeds =>
    own ⟨causes, first, exceedsLimit_iff.mp exceeds⟩
  rw [collect_of_broken within first, refusal, if_neg transferred]

/-- A body that was limited before is **too large by any limit**: the causes do not tell whose limit
was reached. -/
theorem collect_of_limited (limited : LimitedBefore chunks) :
    collect limit chunks = .error .tooLarge := by
  obtain ⟨causes, first, member⟩ := limited
  by_cases within : (received chunks).length ≤ limit
  · rw [collect_of_broken within first, refusal, if_pos (exceedsLimit_iff.mpr member)]
  · exact collect_of_exceeding (Nat.not_le.mp within)

theorem collect_of_whole (within : (received chunks).length ≤ limit) (whole : ¬ Broken chunks) :
    ∃ parts : List (List UInt8),
      chunks = parts.map .data ∧ collect limit chunks = .ok parts.flatten := by
  have unbroken : broken? chunks = none := by
    by_contra stopped
    exact whole (broken_iff.mpr (Option.ne_none_iff_exists'.mp stopped))
  obtain ⟨parts, rfl⟩ := broken?_eq_none_iff.mp unbroken
  rw [received_map_data] at within
  refine ⟨parts, rfl, ?_⟩
  unfold collect
  rw [read_of_within within]
  rfl

/-- The limit and a read error race: what comes first decides. -/
example : collect 2 [.data [1, 2], .broken [.transfer "reset"], .data [3]] = .error .unreadable
    ∧ collect 2 [.data [1, 2], .data [3], .broken [.transfer "reset"]] = .error .tooLarge :=
  ⟨rfl, rfl⟩

end Collected

/-! ### The response -/

/-- Completing a response keeps its status, and every field but that of the length. -/
theorem complete_keeps (method : Http.Method) (response : Http.Response) :
    (complete method response).status = response.status
      ∧ ∀ name, Text.lower name ≠ Http.contentLength.text →
        (complete method response).header.getAll name = response.header.getAll name := by
  have declared : (declareLength response).status = response.status
      ∧ ∀ name, Text.lower name ≠ Http.contentLength.text →
        (declareLength response).header.getAll name = response.header.getAll name := by
    unfold declareLength
    split
    · exact ⟨rfl, fun _ _ => rfl⟩
    · split
      · exact ⟨rfl, fun _ => Http.Header.getAll_set_ne _ _⟩
      · exact ⟨rfl, fun _ _ => rfl⟩
  unfold complete
  split
  · exact ⟨rfl, fun _ _ => rfl⟩
  · by_cases head : method = .head
    · rw [if_pos head]
      exact declared
    · rw [if_neg head]
      exact declared

/-- Copying an identifier keeps the status, and every field but that of the identifier. -/
theorem propagate_keeps (id : Option Http.FieldValue) (response : Http.Response) :
    (propagate id response).status = response.status
      ∧ ∀ name, Text.lower name ≠ Http.requestId.text →
        (propagate id response).header.getAll name = response.header.getAll name := by
  unfold propagate
  split
  · split
    · exact ⟨rfl, fun _ _ => rfl⟩
    · exact ⟨rfl, fun _ => Http.Header.getAll_set_ne _ _⟩
  · exact ⟨rfl, fun _ _ => rfl⟩

/-- The response as the transport gets it. -/
def outgoing (fresh : Http.FieldValue) (request : Http.Request) (response : Http.Response) :
    Http.Response :=
  propagate ((identify fresh request).header.get? Http.requestId.text)
    (complete request.method response)

theorem status_outgoing (fresh : Http.FieldValue) (request : Http.Request)
    (response : Http.Response) : (outgoing fresh request response).status = response.status :=
  (propagate_keeps _ _).1.trans (complete_keeps _ _).1

/-! ### Serving -/

/-- A dispatch that comes to an end has its response completed. -/
def delivered (fresh : Http.FieldValue) (request : Http.Request) (served : Served) : Served :=
  if served.abort.isSome then served
  else { served with exchange.response := outgoing fresh request served.exchange.response }

section Serving

variable (limit : Nat) (fresh : Http.FieldValue) (world : World) (request : Http.Request)
  (chunks : List Chunk)

/-- **The gateway answers with a status and does nothing else**: the world stays as it is, and the
answer is the same whoever is in charge. -/
structure Rejects (code : Nat) : Prop where
  code : (serve limit fresh world request chunks).exchange.response.status.code = code
  ended : (serve limit fresh world request chunks).abort = none
  stays : (serve limit fresh world request chunks).world = world
  unasked : ∀ charge, (serve limit fresh (world.setCharge charge) request chunks).exchange
    = (serve limit fresh world request chunks).exchange

/-- **The gateway runs one dispatch** of the request with a body, and completes what comes of it. -/
def Dispatches (body : List UInt8) : Prop :=
  serve limit fresh world request chunks
    = delivered fresh request (world.serve { request := { identify fresh request with body } })

end Serving

variable {limit : Nat} {fresh : Http.FieldValue} {world : World} {request : Http.Request}
  {chunks : List Chunk}

theorem serve_of_refused {refusal : Refusal} (refused : collect limit chunks = .error refusal)
    (world : World) :
    serve limit fresh world request chunks
      = { world
          exchange :=
            { request := identify fresh request
              response := outgoing fresh request refusal.response } } := by
  unfold serve
  simp only [refused]
  rfl

theorem dispatches_of_collected {body : List UInt8} (collects : collect limit chunks = .ok body) :
    Dispatches limit fresh world request chunks body := by
  unfold Dispatches serve
  simp only [collects]
  rfl

/-- The status of a refusal. -/
def Refusal.code : Refusal → Nat
  | .tooLarge => 413
  | .unreadable => 400

theorem rejects_of_refused {refusal : Refusal} (refused : collect limit chunks = .error refusal) :
    Rejects limit fresh world request chunks refusal.code where
  code := by
    rw [serve_of_refused refused, status_outgoing]
    cases refusal with
    | tooLarge => rfl
    | unreadable => rfl
  ended := by rw [serve_of_refused refused]
  stays := by rw [serve_of_refused refused]
  unasked charge := by rw [serve_of_refused refused, serve_of_refused refused]

theorem Rejects.unique {code other : Nat} (first : Rejects limit fresh world request chunks code)
    (second : Rejects limit fresh world request chunks other) : code = other :=
  first.code.symm.trans second.code

theorem delivered_world (served : Served) :
    (delivered fresh request served).world = served.world
      ∧ (delivered fresh request served).abort = served.abort := by
  unfold delivered
  split
  · exact ⟨rfl, rfl⟩
  · exact ⟨rfl, rfl⟩

/-- **A dispatch is no rejection**: it is cut short, or it is counted. -/
theorem not_rejects_of_dispatches {body : List UInt8}
    (dispatches : Dispatches limit fresh world request chunks body) (code : Nat) :
    ¬ Rejects limit fresh world request chunks code := by
  intro rejects
  have ended := rejects.ended
  have stays := rejects.stays
  rw [dispatches, (delivered_world _).1] at stays
  rw [dispatches, (delivered_world _).2] at ended
  have counted := World.total_lt_of_ended ended
  rw [show (world.dispatch (999 + 1) _).world = world from stays] at counted
  exact Nat.lt_irrefl _ counted

/-! ### The gate -/

theorem rejects_of_exceeding (exceeds : limit < (received chunks).length) :
    Rejects limit fresh world request chunks 413 :=
  rejects_of_refused (collect_of_exceeding exceeds)

theorem rejects_of_torn (within : (received chunks).length ≤ limit) (broken : Broken chunks)
    (own : ¬ LimitedBefore chunks) : Rejects limit fresh world request chunks 400 :=
  rejects_of_refused (collect_of_torn within broken own)

/-- **No body that breaks off is dispatched**, whatever the causes tell. -/
theorem rejects_of_broken (broken : Broken chunks) :
    Rejects limit fresh world request chunks 413
      ∨ Rejects limit fresh world request chunks 400 := by
  by_cases exceeds : limit < (received chunks).length
  · exact .inl (rejects_of_exceeding exceeds)
  · by_cases limited : LimitedBefore chunks
    · exact .inl (rejects_of_refused (collect_of_limited limited))
    · exact .inr (rejects_of_torn (Nat.not_lt.mp exceeds) broken limited)

theorem exists_dispatches_of_whole (within : (received chunks).length ≤ limit)
    (unbroken : ¬ Broken chunks) :
    ∃ parts : List (List UInt8), chunks = parts.map .data
      ∧ Dispatches limit fresh world request chunks parts.flatten := by
  obtain ⟨parts, same, collects⟩ := collect_of_whole within unbroken
  exact ⟨parts, same, dispatches_of_collected collects⟩

/-- **Nothing is rejected without a reason.** -/
theorem Rejects.unsound {code : Nat} (rejects : Rejects limit fresh world request chunks code) :
    limit < (received chunks).length ∨ Broken chunks := by
  by_contra sound
  obtain ⟨within, unbroken⟩ := not_or.mp sound
  obtain ⟨parts, -, dispatches⟩ := exists_dispatches_of_whole (Nat.not_lt.mp within) unbroken
  exact not_rejects_of_dispatches dispatches code rejects

/-- **The gate is exact and free of side effects.** The gateway answers with status 413, and does
nothing else, exactly if more octets arrive in front of a read error than the limit admits; and it
answers with status 400, and does nothing else, exactly if a read error comes before that. Both are
about bodies that exceed the limit or were not limited before; but any body that cannot be read is
answered in one of the two ways. The gateway runs one dispatch, of the request with all the chunks
joined as its body, exactly if the chunks come to their end within the limit. -/
theorem body_gate_is_exact (limit : Nat) (fresh : Http.FieldValue) (world : World)
    (request : Http.Request) (chunks : List Chunk) :
    (((received chunks).length ≤ limit → ¬ LimitedBefore chunks) →
      (Rejects limit fresh world request chunks 413 ↔ limit < (received chunks).length)
      ∧ (Rejects limit fresh world request chunks 400
        ↔ (received chunks).length ≤ limit ∧ Broken chunks))
    ∧ (Rejects limit fresh world request chunks 413 ∨ Rejects limit fresh world request chunks 400
      ↔ limit < (received chunks).length ∨ Broken chunks)
    ∧ ((∃ parts : List (List UInt8), chunks = parts.map .data
        ∧ Dispatches limit fresh world request chunks parts.flatten)
      ↔ (received chunks).length ≤ limit ∧ ¬ Broken chunks) := by
  refine ⟨fun own => ⟨⟨fun rejects => ?_, rejects_of_exceeding⟩, fun rejects => ?_,
    fun ⟨within, broken⟩ => rejects_of_torn within broken (own within)⟩,
    ⟨fun rejects => rejects.elim Rejects.unsound Rejects.unsound, fun unsound =>
      unsound.elim (fun exceeds => .inl (rejects_of_exceeding exceeds)) rejects_of_broken⟩,
    ⟨fun ⟨parts, _, dispatches⟩ => ?_, fun ⟨within, unbroken⟩ =>
      exists_dispatches_of_whole within unbroken⟩⟩
  · by_contra small
    have within : (received chunks).length ≤ limit := Nat.not_lt.mp small
    have torn : Rejects limit fresh world request chunks 400 :=
      rejects_of_torn within (rejects.unsound.resolve_left small) (own within)
    exact absurd (rejects.unique torn) (by decide)
  · have small : ¬ limit < (received chunks).length := fun exceeds =>
      absurd (rejects.unique (rejects_of_exceeding exceeds)) (by decide)
    exact ⟨Nat.not_lt.mp small, rejects.unsound.resolve_left small⟩
  · have accepted (code : Nat) := not_rejects_of_dispatches dispatches code
    exact ⟨Nat.not_lt.mp fun exceeds => accepted 413 (rejects_of_exceeding exceeds),
      fun broken => (rejects_of_broken broken).elim (accepted 413) (accepted 400)⟩

/-- A transfer that breaks behind two octets is too large for one, and torn for two. -/
theorem body_gate_is_exact_torn :
    let chunks : List Chunk := [.data [1], .data [2], .broken [.transfer "reset"]]
    ¬ LimitedBefore chunks ∧ Rejects 1 Http.plainText (.new {}) {} chunks 413
      ∧ Rejects 2 Http.plainText (.new {}) {} chunks 400 := by
  intro chunks
  have own : ¬ LimitedBefore chunks := by
    rintro ⟨causes, ⟨⟩, member⟩
    exact absurd member (by decide)
  have law (limit : Nat) :=
    (body_gate_is_exact limit Http.plainText (.new {}) {} chunks).1 fun _ => own
  have broken : Broken chunks := ⟨[.transfer "reset"], by decide⟩
  exact ⟨own, (law 1).1.mpr (by decide), (law 2).2.mpr ⟨by decide, broken⟩⟩

/-- **A status alone does not tell what the gate found.** Two octets keep within a limit of ten. But a
read error behind them that comes from a limit elsewhere is answered with 413 and not with 400; and
without a read error a program in charge may answer with 413 or 400 on its own. -/
theorem gate_status_ambiguous :
    let limited : List Chunk := [.data [1, 2], .broken [.transfer "reading", .lengthLimit]]
    let whole : List Chunk := [.data [1, 2]]
    let answering (status : Http.Status) : World :=
      (World.new {}).setCharge (.program (.perform (.writeHeader status) .skip))
    let answered (status : Http.Status) : Served :=
      serve 10 Http.plainText (answering status) {} whole
    ((received limited).length ≤ 10 ∧ Broken limited
      ∧ Rejects 10 Http.plainText (.new {}) {} limited 413
      ∧ ¬ Rejects 10 Http.plainText (.new {}) {} limited 400)
    ∧ (received whole).length ≤ 10 ∧ ¬ Broken whole
    ∧ (answered .payloadTooLarge).abort.isNone
    ∧ (answered .payloadTooLarge).exchange.response.status.code = 413
    ∧ (answered .badRequest).abort.isNone
    ∧ (answered .badRequest).exchange.response.status.code = 400 := by
  intro limited whole answering answered
  have rejects : Rejects 10 Http.plainText (.new {}) {} limited 413 :=
    rejects_of_refused (collect_of_limited ⟨_, rfl, by decide⟩)
  have torn : ¬ Rejects 10 Http.plainText (.new {}) {} limited 400 := fun other =>
    absurd (rejects.unique other) (by decide)
  have unbroken : ¬ Broken whole := by
    rintro ⟨causes, member⟩
    cases List.mem_singleton.mp member
  have answers : (answered .payloadTooLarge).abort.isNone
      ∧ (answered .payloadTooLarge).exchange.response.status.code = 413
      ∧ (answered .badRequest).abort.isNone
      ∧ (answered .badRequest).exchange.response.status.code = 400 := by
    decide +kernel
  exact ⟨⟨by decide, ⟨_, List.mem_cons_of_mem _ List.mem_cons_self⟩, rejects, torn⟩, by decide,
    unbroken, answers⟩

end Switchboard.Gateway
