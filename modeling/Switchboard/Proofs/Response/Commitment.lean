/-
**The first commitment of a response.**

A handler commits its response with the first status that it writes, or with the first bytes. From
then on the status is fixed: a later one is refused with a warning, an error is not written any more,
and only bytes are still appended.

* `Writing.status?`, `Writing.attempted?`, `Writing.lateData` — what a writing would commit, what it
  attempts in any case, and what it appends to a committed response;
* `Writing.perform_of_quiet`, `Writing.perform_of_first`, `Writing.perform_of_committed` — **one
  writing**, by whether it commits and whether something is committed already;
* `Writing.run_of_quiet`, `Writing.run_of_committed` — writings in front of the first commitment and
  behind it, by induction on their list;
* `Writing.FirstWins`, `first_commitment_wins` — **whatever a handler writes, the first commitment
  wins.**
-/

import Switchboard.Proofs.Dispatch.Failure
import Switchboard.Proofs.Response.Changes
import Mathlib.Data.List.Basic

namespace Switchboard

/-! ### Writings on their own -/

/-- **What can be seen of a response** behind some writing, and the warnings that this gave. -/
structure Wrapper.Written.Shows (written : Written) (status : Http.Status) (committed : Bool)
    (body : List UInt8) (events : List Event) : Prop where
  status : written.response.status = status
  committed : written.response.committed = committed
  body : written.response.body = body
  events : written.events = events

namespace Wrapper.Response

variable {response : Response}

theorem events_write (response : Response) (data : List UInt8) :
    (response.write data).events = [] := by
  unfold write
  simp only
  split
  · split <;> rfl
  · split <;> rfl

theorem status_write (response : Response) (data : List UInt8) :
    (response.write data).response.status
      = if response.committed then response.status else .ok := by
  cases committed : response.committed with
  | true => exact congrArg Http.Response.status (write_of_committed committed data).1
  | false =>
    unfold write
    simp only [committed, Bool.false_eq_true, if_false, writeHeader_of_uncommitted committed]
    split <;> rfl

theorem writeHeader_refused (committed : response.committed = true)
    (status : Http.Status) :
    response.writeHeader status
      = { response, events := [.alreadyCommitted response.status status] } :=
  if_pos committed

/-- A text commits its status. -/
theorem writeAs_of_uncommitted (uncommitted : response.committed = false) (type : Http.FieldValue)
    (status : Http.Status) (data : List UInt8) :
    (response.writeAs type status data).response.status = status
      ∧ (response.writeAs type status data).response.committed = true
      ∧ (response.writeAs type status data).events = [] := by
  have opened := writeHeader_of_uncommitted
    (show (response.setField Http.contentType type).committed = false from uncommitted) status
  unfold writeAs
  simp only [opened]
  exact ⟨status_write _ data, committed_write _ data, events_write _ data⟩

/-- **A text on a committed response** keeps the status, with a warning. -/
theorem writeAs_of_committed (committed : response.committed = true) (type : Http.FieldValue)
    (status : Http.Status) (data : List UInt8) :
    (response.writeAs type status data).response.status = response.status
      ∧ (response.writeAs type status data).response.committed = true
      ∧ (response.writeAs type status data).events
        = [.alreadyCommitted response.status status] := by
  have opened := writeHeader_refused
    (show (response.setField Http.contentType type).committed = true from committed) status
  unfold writeAs
  simp only [opened]
  refine ⟨(status_write _ data).trans (if_pos committed), committed_write _ data, ?_⟩
  rw [events_write]
  rfl

end Wrapper.Response

namespace Writing

/-- The status that a writing commits where none is committed. -/
def status? : Writing → Option Http.Status
  | .header status => some status
  | .bytes _ => some .ok
  | .text status _ => some status
  | .json status (.ok _) => some status
  | .failure error => some error.status
  | _ => none

/-- The status that a writing attempts even where one is committed. -/
def attempted? : Writing → Option Http.Status
  | .header status => some status
  | .text status _ => some status
  | .json status (.ok _) => some status
  | _ => none

/-- What a writing appends to a committed response, on which errors are not written any more. -/
def lateData : Writing → List UInt8
  | .failure _ => []
  | writing => writing.data

variable {writing : Writing} {response : Wrapper.Response}

/-- **A writing that commits nothing** changes header fields at most. -/
theorem perform_of_quiet (quiet : writing.status? = none) (response : Wrapper.Response) :
    (writing.perform response).Shows response.status response.committed response.body []
      ∧ (writing.perform response).overflow = false := by
  cases writing with
  | json status value =>
    cases value with
    | error message => exact ⟨⟨rfl, rfl, rfl, rfl⟩, rfl⟩
    | ok value => cases quiet
  | setField name value => exact ⟨⟨rfl, rfl, rfl, rfl⟩, rfl⟩
  | addField name value => exact ⟨⟨rfl, rfl, rfl, rfl⟩, rfl⟩
  | removeField name => exact ⟨⟨rfl, rfl, rfl, rfl⟩, rfl⟩
  | _ => cases quiet

/-- **The first commitment** sets the status, and is written in full. -/
theorem perform_of_first (uncommitted : response.committed = false) {status : Http.Status}
    (commits : writing.status? = some status) :
    (writing.perform response).Shows status true (response.body ++ writing.data) [] := by
  cases writing with
  | header attempt =>
    cases commits
    have written : (header status).perform response = _ :=
      Wrapper.Response.writeHeader_of_uncommitted uncommitted status
    rw [written]
    exact ⟨rfl, rfl, (List.append_nil _).symm, rfl⟩
  | bytes data =>
    cases commits
    refine ⟨?_, response.committed_write data, response.body_write data, response.events_write data⟩
    exact (response.status_write data).trans (if_neg (Bool.eq_false_iff.mp uncommitted))
  | text attempt content =>
    cases commits
    obtain ⟨sets, done, silent⟩ := Wrapper.Response.writeAs_of_uncommitted uncommitted
      Http.plainText status (Text.bytes content)
    exact ⟨sets, done, (response.appends_writeAs Http.plainText status _).body, silent⟩
  | json attempt value =>
    cases value with
    | error message => cases commits
    | ok value =>
      cases commits
      obtain ⟨sets, done, silent⟩ := Wrapper.Response.writeAs_of_uncommitted uncommitted
        Http.jsonText status (Text.bytes value.toText)
      exact ⟨sets, done, (response.appends_writeAs Http.jsonText status _).body, silent⟩
  | failure error =>
    cases commits
    have written : (failure error).perform response
        = response.writeText error.status error.message :=
      if_neg (Bool.eq_false_iff.mp uncommitted)
    obtain ⟨sets, done, silent⟩ := Wrapper.Response.writeAs_of_uncommitted uncommitted
      Http.plainText error.status (Text.bytes error.message)
    rw [written]
    exact ⟨sets, done, (response.appends_writeAs Http.plainText error.status _).body, silent⟩
  | _ => cases commits

/-- **Behind the first commitment** the status stays: another one is refused with a warning, and
bytes are appended all the same. -/
theorem perform_of_committed (committed : response.committed = true) (writing : Writing) :
    (writing.perform response).Shows response.status true (response.body ++ writing.lateData)
      (writing.attempted?.toList.map (.alreadyCommitted response.status)) := by
  cases writing with
  | header attempt =>
    have written : (header attempt).perform response = _ :=
      Wrapper.Response.writeHeader_refused committed attempt
    rw [written]
    exact ⟨rfl, committed, (List.append_nil _).symm, rfl⟩
  | bytes data =>
    refine ⟨?_, response.committed_write data, response.body_write data, response.events_write data⟩
    exact (response.status_write data).trans (if_pos committed)
  | text attempt content =>
    obtain ⟨stays, done, warns⟩ := Wrapper.Response.writeAs_of_committed committed
      Http.plainText attempt (Text.bytes content)
    exact ⟨stays, done, (response.appends_writeAs Http.plainText attempt _).body, warns⟩
  | json attempt value =>
    cases value with
    | error message => exact ⟨rfl, committed, (List.append_nil _).symm, rfl⟩
    | ok value =>
      obtain ⟨stays, done, warns⟩ := Wrapper.Response.writeAs_of_committed committed
        Http.jsonText attempt (Text.bytes value.toText)
      exact ⟨stays, done, (response.appends_writeAs Http.jsonText attempt _).body, warns⟩
  | failure error =>
    have written : (failure error).perform response = { response } := if_pos committed
    rw [written]
    exact ⟨rfl, committed, (List.append_nil _).symm, rfl⟩
  | setField name value => exact ⟨rfl, committed, (List.append_nil _).symm, rfl⟩
  | addField name value => exact ⟨rfl, committed, (List.append_nil _).symm, rfl⟩
  | removeField name => exact ⟨rfl, committed, (List.append_nil _).symm, rfl⟩

/-! ### Writings one after another -/

/-- Write to a response time and again; a writing that overflows is the last one. -/
def run (response : Wrapper.Response) (writings : List Writing) : Wrapper.Written :=
  Change.run response (writings.map .handler)

variable {writings rest : List Writing}

theorem run_cons_of_overflow (overflow : (writing.perform response).overflow = true) :
    run response (writing :: rest) = writing.perform response :=
  if_pos overflow

theorem run_cons_of_fits (fits : (writing.perform response).overflow = false) :
    run response (writing :: rest)
      = { run (writing.perform response).response rest with
          events := (writing.perform response).events
            ++ (run (writing.perform response).response rest).events } :=
  if_neg (Bool.eq_false_iff.mp fits)

/-- **Writings that commit nothing** leave the response as it is, header fields apart. -/
theorem run_of_quiet (quiet : ∀ writing ∈ writings, writing.status? = none)
    (response : Wrapper.Response) :
    (run response writings).Shows response.status response.committed response.body []
      ∧ (run response writings).overflow = false := by
  induction writings generalizing response with
  | nil => exact ⟨⟨rfl, rfl, rfl, rfl⟩, rfl⟩
  | cons writing rest hypothesis =>
    obtain ⟨here, later⟩ := List.forall_mem_cons.mp quiet
    obtain ⟨shows, fits⟩ := perform_of_quiet here response
    obtain ⟨showsLater, fitsLater⟩ := hypothesis later (writing.perform response).response
    rw [run_cons_of_fits fits]
    refine ⟨⟨?_, ?_, ?_, ?_⟩, fitsLater⟩
    · exact showsLater.status.trans shows.status
    · exact showsLater.committed.trans shows.committed
    · exact showsLater.body.trans shows.body
    · simp only [shows.events, showsLater.events, List.append_nil]

theorem run_append_of_overflow {second : List Writing}
    (overflow : (run response writings).overflow = true) :
    run response (writings ++ second) = run response writings := by
  unfold run at overflow ⊢
  rw [List.map_append, Change.run_append_of_overflow overflow]

theorem run_append_of_fits {second : List Writing}
    (fits : (run response writings).overflow = false) :
    run response (writings ++ second)
      = { run (run response writings).response second with
          events := (run response writings).events
            ++ (run (run response writings).response second).events } := by
  unfold run at fits ⊢
  rw [List.map_append, Change.run_append_of_fits fits]

theorem filterMap_attempted_cons (writing : Writing) (rest : List Writing) :
    (writing :: rest).filterMap attempted?
      = writing.attempted?.toList ++ rest.filterMap attempted? := by
  simp only [List.filterMap_eq_flatMap_toList, List.flatMap_cons]

/-- **Writings behind a commitment** keep the status: each other one is refused with a warning, and
bytes are appended all the same, up to a writing that overflows. -/
theorem run_of_committed (committed : response.committed = true) (writings : List Writing) :
    ∃ done rest, writings = done ++ rest ∧ ((run response writings).overflow = false → rest = [])
      ∧ (run response writings).Shows response.status true
        (response.body ++ done.flatMap lateData)
        ((done.filterMap attempted?).map (.alreadyCommitted response.status)) := by
  induction writings generalizing response with
  | nil => exact ⟨[], [], rfl, fun _ => rfl, rfl, committed, (List.append_nil _).symm, rfl⟩
  | cons writing rest hypothesis =>
    have shows := perform_of_committed committed writing
    cases overflow : (writing.perform response).overflow with
    | true =>
      rw [run_cons_of_overflow overflow]
      refine ⟨[writing], rest, rfl, fun fits => ?_, ?_⟩
      · rw [overflow] at fits
        cases fits
      · rw [List.flatMap_singleton, filterMap_attempted_cons, List.filterMap_nil, List.append_nil]
        exact shows
    | false =>
      obtain ⟨done, left, rfl, whole, showsLater⟩ := hypothesis shows.committed
      rw [run_cons_of_fits overflow]
      refine ⟨writing :: done, left, rfl, whole, ?_, showsLater.committed, ?_, ?_⟩
      · exact showsLater.status.trans shows.status
      · rw [showsLater.body, shows.body, List.flatMap_cons, List.append_assoc]
      · rw [showsLater.events, shows.events, shows.status, filterMap_attempted_cons, List.map_append]

/-- **Writings from the first commitment on** are that one and those behind it. -/
theorem run_of_first (uncommitted : response.committed = false) {first : Writing}
    {status : Http.Status} (commits : first.status? = some status) (after : List Writing) :
    ∃ done rest, after = done ++ rest
      ∧ ((run response (first :: after)).overflow = false → rest = [])
      ∧ (run response (first :: after)).Shows status true
        (response.body ++ first.data ++ done.flatMap lateData)
        ((done.filterMap attempted?).map (.alreadyCommitted status)) := by
  have shows := perform_of_first uncommitted commits
  cases overflow : (first.perform response).overflow with
  | true =>
    rw [run_cons_of_overflow overflow]
    refine ⟨[], after, rfl, fun fits => ?_, ?_⟩
    · rw [overflow] at fits
      cases fits
    · rw [List.flatMap_nil, List.append_nil]
      exact shows
  | false =>
    obtain ⟨done, rest, cut, whole, later⟩ := run_of_committed shows.committed after
    rw [run_cons_of_fits overflow]
    rw [shows.status, shows.body] at later
    refine ⟨done, rest, cut, whole, later.status, later.committed, later.body, ?_⟩
    simp only [shows.events, List.nil_append]
    exact later.events

/-- **A sequence of writings overflows** exactly if it appends more than the size has room for. -/
theorem overflow_run_iff (bounded : response.size ≤ Text.greatestWord) (writings : List Writing) :
    (run response writings).overflow = true
      ↔ response.body.length + Text.greatestWord
        < (run response writings).response.body.length + response.size := by
  induction writings generalizing response with
  | nil =>
    refine ⟨fun overflow => absurd overflow Bool.false_ne_true, fun more => ?_⟩
    exact absurd more (Nat.not_lt.mpr (Nat.add_le_add_left bounded _))
  | cons writing rest hypothesis =>
    cases appended : writing.appended? response with
    | none =>
      obtain ⟨fits, body, size⟩ := writing.perform_of_no_bytes appended
      rw [run_cons_of_fits fits, ← body, ← size]
      exact hypothesis (size ▸ bounded)
    | some data =>
      have appends := writing.appends_perform appended
      have longer := congrArg List.length appends.body
      rw [List.length_append] at longer
      cases overflow : (writing.perform response).overflow with
      | true =>
        have exceeds := appends.overflow.mp overflow
        rw [run_cons_of_overflow overflow, overflow]
        exact ⟨fun _ => by omega, fun _ => rfl⟩
      | false =>
        have size := appends.size overflow
        have room : response.size + data.length ≤ Text.greatestWord := by
          rw [← Nat.not_lt, ← appends.overflow, overflow]
          exact Bool.false_ne_true
        rw [run_cons_of_fits overflow]
        refine (hypothesis (size ▸ room)).trans ?_
        simp only
        omega

/-! ### The first commitment -/

/-- **The first commitment wins** in what writings make of a response that is not committed. -/
inductive FirstWins (native : Http.Response) (written : Wrapper.Written) : List Writing → Prop
  /-- nothing commits: status and body are those with which the response came -/
  | uncommitted {writings : List Writing} (quiet : ∀ writing ∈ writings, writing.status? = none)
      (shows : written.Shows native.status false native.body []) :
      FirstWins native written writings
  /-- the status is the first one, each later one is refused with a warning, and the body is what all
  writings append to it, errors only where nothing is committed before -/
  | committed {before after : List Writing} {first : Writing} {status : Http.Status}
      (quiet : ∀ writing ∈ before, writing.status? = none)
      (commits : first.status? = some status)
      (shows : written.Shows status true
        (native.body ++ first.data ++ after.flatMap lateData)
        ((after.filterMap attempted?).map (.alreadyCommitted status))) :
      FirstWins native written (before ++ first :: after)

/-- Writings commit nothing, or there is a first one that does. -/
theorem quiet_or_exists_first (writings : List Writing) :
    (∀ writing ∈ writings, writing.status? = none)
      ∨ ∃ before first after status, writings = before ++ first :: after
        ∧ (∀ writing ∈ before, writing.status? = none) ∧ first.status? = some status := by
  induction writings with
  | nil => exact .inl fun _ member => absurd member List.not_mem_nil
  | cons writing rest hypothesis =>
    cases here : writing.status? with
    | some status =>
      exact .inr ⟨[], writing, rest, status, rfl, fun _ member => absurd member List.not_mem_nil,
        here⟩
    | none =>
      rcases hypothesis with quiet | ⟨before, first, after, status, rfl, quiet, commits⟩
      · exact .inl (List.forall_mem_cons.mpr ⟨here, quiet⟩)
      · exact .inr ⟨writing :: before, first, after, status, rfl,
          List.forall_mem_cons.mpr ⟨here, quiet⟩, commits⟩

end Writing

/-- **The first commitment wins.** Whatever a handler writes to a newly bound response, the first
writing that commits decides its status for good, and the writings go through unless they append
more bytes than a word can count. -/
theorem first_commitment_wins (wrapper : Wrapper.Response) (native : Http.Response)
    (fields : Instance Wrapper.Fields) (writings : List Writing) :
    let bound := wrapper.bind native fields
    let written := Writing.run bound writings
    (∃ done rest, writings = done ++ rest ∧ (written.overflow = false → rest = [])
        ∧ Writing.FirstWins native written done)
      ∧ (written.overflow = true
        ↔ native.body.length + Text.greatestWord < written.response.body.length)
      ∧ ∀ earlier later, writings = earlier ++ later →
        (Writing.run bound earlier).response.committed = true →
        written.response.status = (Writing.run bound earlier).response.status := by
  intro bound written
  refine ⟨?_, Writing.overflow_run_iff (Nat.zero_le _) writings, ?_⟩
  · rcases Writing.quiet_or_exists_first writings with
      quiet | ⟨before, first, after, status, rfl, quiet, commits⟩
    · exact ⟨writings, [], (List.append_nil _).symm, fun _ => rfl,
        .uncommitted quiet (Writing.run_of_quiet quiet bound).1⟩
    · obtain ⟨shows, fits⟩ := Writing.run_of_quiet quiet bound
      obtain ⟨done, rest, rfl, whole, later⟩ :=
        Writing.run_of_first shows.committed commits after
      rw [shows.body] at later
      rw [show written = _ from Writing.run_append_of_fits fits]
      refine ⟨before ++ first :: done, rest, by simp, whole, .committed quiet commits ?_⟩
      refine ⟨later.status, later.committed, later.body, ?_⟩
      simp only [shows.events, List.nil_append]
      exact later.events
  · rintro earlier later rfl committed
    cases overflow : (Writing.run bound earlier).overflow with
    | true => rw [show written = _ from Writing.run_append_of_overflow overflow]
    | false =>
      obtain ⟨_, _, -, -, shows⟩ := Writing.run_of_committed committed later
      rw [show written = _ from Writing.run_append_of_fits overflow]
      exact shows.status

/-- A field and a text, then a second status, an error and a byte: the status is that of the text, the
second one is refused with a warning, and the error is not written. -/
theorem first_commitment_wins_refused :
    let native : Http.Response := { status := .serviceUnavailable, body := [9] }
    let fields : Instance Wrapper.Fields := ⟨0, ⟨{}⟩⟩
    let bound := ({} : Wrapper.Response).bind native fields
    let earlier : List Writing := [.setField Http.allow Http.plainText, .text .notFound "no"]
    let later : List Writing :=
      [.header .ok, .failure ⟨.badRequest, "late"⟩, .json .ok (.error "no text"), .bytes [1]]
    let written := Writing.run bound (earlier ++ later)
    written.overflow = false
      ∧ (Writing.run bound earlier).response.committed = true
      ∧ written.response.status = (Writing.run bound earlier).response.status
      ∧ Writing.FirstWins native written (earlier ++ later)
      ∧ written.Shows .notFound true ([9] ++ Text.bytes "no" ++ [1])
        [.alreadyCommitted .notFound .ok] := by
  intro native fields bound earlier later written
  have fits : written.overflow = false := by decide +kernel
  have committed : (Writing.run bound earlier).response.committed = true := by decide +kernel
  obtain ⟨⟨done, rest, cut, whole, wins⟩, -, stays⟩ :=
    first_commitment_wins {} native fields (earlier ++ later)
  have all : done = earlier ++ later := by
    rw [cut, whole fits, List.append_nil]
  refine ⟨fits, committed, stays earlier later rfl committed, all ▸ wins, ?_, ?_, ?_, ?_⟩
  all_goals decide +kernel

end Switchboard
