/-
**The size of a response.**

A response wrapper counts the bytes that are written. Behind a callback it goes on counting from the
length of what the callback left, which is the length that this declares, or else the length of its
body. A declared length can be any word, so the bytes behind it may not fit.

* `Footing`, `Footing.Carries` — **where the count began, and how far it is**; `Carries.perform`,
  `Carries.run`: every change keeps to it, and so do changes one after another;
* `Change.Fits`, `Change.fits_iff` — no addition exceeds a word, exactly if nothing overflows;
* `size_is_counted` — **the exact size at every addition of a cycle**, which panics as soon as it
  exceeds a word, and does not where the declared lengths leave room for what is written;
* `declared_length_overflows` — behind a callback that declares the greatest word a single byte
  exceeds it;
* `size_tracks_body` — **where no callback declares a length** the size is the length of the body.
-/

import Switchboard.Proofs.Response.Changes
import Mathlib.Data.List.Infix

namespace Switchboard

/-! ### Where the count began -/

/-- **Where the count of a size began**: the length from which it goes on, and the body for which this
stands. -/
structure Footing where
  length : Nat
  body : List UInt8

namespace Footing

/-- The size of a new response counts what is written, and nothing of the body that is there. -/
def start (response : Http.Response) : Footing :=
  ⟨0, response.body⟩

/-- The size goes on from the length of what a callback leaves. -/
def behind (left : Http.Response) : Footing :=
  ⟨left.contentLength, left.body⟩

/-- Where the count began that goes on behind some changes: at the last callback of them. -/
def after (footing : Footing) : List Change → Footing
  | [] => footing
  | .handler _ :: rest => footing.after rest
  | .callback left :: rest => (behind left).after rest

/-- **A response has been written to since its count began**, and its size counts the bytes. -/
def Carries (footing : Footing) (response : Wrapper.Response) : Prop :=
  ∃ since, response.body = footing.body ++ since ∧ response.size = footing.length + since.length

variable {footing : Footing} {response : Wrapper.Response}

theorem carries_opened (world : World) (exchange : Http.Exchange) :
    (start exchange.response).Carries (world.opened exchange).response :=
  ⟨[], (List.append_nil _).symm, rfl⟩

/-- What a callback leaves is where the count begins anew. -/
theorem carries_restore (response : Wrapper.Response) (left : Http.Response) :
    (behind left).Carries (response.restore left) :=
  ⟨[], (List.append_nil _).symm, rfl⟩

/-- **A change that does not overflow** keeps the count, or begins it anew. -/
theorem Carries.perform (carries : footing.Carries response) {change : Change}
    (fits : (change.perform response).overflow = false) :
    (footing.after [change]).Carries (change.perform response).response := by
  obtain ⟨since, body, size⟩ := carries
  cases change with
  | callback left => exact carries_restore response left
  | handler writing =>
    show footing.Carries (writing.perform response).response
    cases appended : writing.appended? response with
    | none =>
      obtain ⟨-, sameBody, sameSize⟩ := writing.perform_of_no_bytes appended
      exact ⟨since, sameBody.trans body, sameSize.trans size⟩
    | some data =>
      have appends := writing.appends_perform appended
      refine ⟨since ++ data, ?_, ?_⟩
      · rw [appends.body, body, List.append_assoc]
      · rw [appends.size fits, size, List.length_append, Nat.add_assoc]

theorem after_cons (footing : Footing) (change : Change) (rest : List Change) :
    footing.after (change :: rest) = (footing.after [change]).after rest := by
  cases change <;> rfl

/-- **Changes one after another keep the count**, as long as they do not overflow. -/
theorem Carries.run (carries : footing.Carries response) {changes : List Change}
    (fits : (Change.run response changes).overflow = false) :
    (footing.after changes).Carries (Change.run response changes).response := by
  induction changes generalizing footing response with
  | nil => exact carries
  | cons change rest hypothesis =>
    rw [after_cons]
    cases here : (change.perform response).overflow with
    | true =>
      rw [Change.run_cons_of_overflow here, here] at fits
      cases fits
    | false =>
      rw [Change.run_cons_of_fits here] at fits ⊢
      exact hypothesis (carries.perform here) fits

end Footing

/-! ### Additions that fit -/

/-- **A writing that finds room** for its bytes adds no more than their number. -/
theorem Writing.perform_of_room {response : Wrapper.Response} (writing : Writing)
    (room : response.size + writing.data.length ≤ Text.greatestWord) :
    (writing.perform response).overflow = false
      ∧ (writing.perform response).response.size ≤ response.size + writing.data.length := by
  cases appended : writing.appended? response with
  | none =>
    obtain ⟨fits, -, size⟩ := writing.perform_of_no_bytes appended
    exact ⟨fits, size ▸ Nat.le_add_right _ _⟩
  | some data =>
    have appends := writing.appends_perform appended
    cases writing.data_of_appended? appended
    have fits : (writing.perform response).overflow = false := by
      rw [← Bool.not_eq_true, appends.overflow]
      exact Nat.not_lt.mpr room
    exact ⟨fits, Nat.le_of_eq (appends.size fits)⟩

namespace Change

/-- **No addition to the size exceeds a word**, as often as a writing appends bytes. -/
def Fits (response : Wrapper.Response) (changes : List Change) : Prop :=
  ∀ before writing after data, changes = before ++ .handler writing :: after →
    (run response before).overflow = false →
    writing.appended? (run response before).response = some data →
    (run response before).response.size + data.length ≤ Text.greatestWord

variable {response : Wrapper.Response} {changes : List Change}

/-- **Changes overflow at an addition** that exceeds a word. -/
theorem exists_excess (overflow : (run response changes).overflow = true) :
    ∃ before writing after data, changes = before ++ .handler writing :: after
      ∧ (run response before).overflow = false
      ∧ writing.appended? (run response before).response = some data
      ∧ Text.greatestWord < (run response before).response.size + data.length := by
  induction changes generalizing response with
  | nil => cases overflow
  | cons change rest hypothesis =>
    cases here : (change.perform response).overflow with
    | true =>
      cases change with
      | callback left => cases here
      | handler writing =>
        cases appended : writing.appended? response with
        | none =>
          have fits : (writing.perform response).overflow = true := here
          rw [(writing.perform_of_no_bytes appended).1] at fits
          cases fits
        | some data =>
          have exceeds := (writing.appends_perform appended).overflow.mp here
          exact ⟨[], writing, rest, data, rfl, rfl, appended, exceeds⟩
    | false =>
      rw [run_cons_of_fits here] at overflow
      obtain ⟨before, writing, after, data, rfl, fits, appended, exceeds⟩ := hypothesis overflow
      refine ⟨change :: before, writing, after, data, rfl, ?_, ?_, ?_⟩
      all_goals rw [run_cons_of_fits here]
      · exact fits
      · exact appended
      · exact exceeds

/-- **No addition exceeds a word** exactly if the changes do not overflow. -/
theorem fits_iff : Fits response changes ↔ (run response changes).overflow = false := by
  constructor
  · intro fits
    rw [← Bool.not_eq_true]
    intro overflow
    obtain ⟨before, writing, after, data, cut, ran, appended, exceeds⟩ := exists_excess overflow
    exact absurd (fits before writing after data cut ran appended) (Nat.not_le.mpr exceeds)
  · rintro fits before writing after data rfl ran appended
    rw [← Nat.not_lt]
    intro exceeds
    have overflow : ((Change.handler writing).perform (run response before).response).overflow
        = true := (writing.appends_perform appended).overflow.mpr exceeds
    rw [run_append_of_fits ran, run_cons_of_overflow overflow, overflow] at fits
    cases fits

/-- The number of bytes that the handler has to write. -/
def offered : List Change → Nat
  | [] => 0
  | .handler writing :: rest => writing.data.length + offered rest
  | .callback _ :: rest => offered rest

/-- What the callbacks leave, one after another. -/
def lefts : List Change → List Http.Response
  | [] => []
  | .handler _ :: rest => lefts rest
  | .callback left :: rest => left :: lefts rest

theorem lefts_append (first second : List Change) :
    lefts (first ++ second) = lefts first ++ lefts second := by
  induction first with
  | nil => rfl
  | cons change rest hypothesis =>
    cases change with
    | handler writing => exact hypothesis
    | callback left => exact congrArg (left :: ·) hypothesis

/-- **Where every length leaves room** for all that the handler has to write, nothing overflows. -/
theorem fits_of_room (room : response.size + offered changes ≤ Text.greatestWord)
    (declared : ∀ left ∈ lefts changes,
      left.contentLength + offered changes ≤ Text.greatestWord) :
    (run response changes).overflow = false := by
  induction changes generalizing response with
  | nil => rfl
  | cons change rest hypothesis =>
    cases change with
    | callback left =>
      rw [run_cons_of_fits rfl]
      refine hypothesis (declared left List.mem_cons_self) fun later member => ?_
      exact declared later (List.mem_cons_of_mem _ member)
    | handler writing =>
      simp only [offered] at room declared
      obtain ⟨fits, size⟩ := writing.perform_of_room (by omega : response.size + _ ≤ _)
      have here : ((Change.handler writing).perform response).overflow = false := fits
      rw [run_cons_of_fits here]
      refine hypothesis (?_ : (writing.perform response).response.size + _ ≤ _) fun left member => ?_
      · omega
      · have := declared left member
        omega

/-- **No callback declares a length** of what it leaves. -/
def Undeclared (changes : List Change) : Prop :=
  ∀ left ∈ lefts changes, left.declaredLength? = none

theorem Undeclared.of_isPrefix (undeclared : Undeclared changes) {before : List Change}
    (reached : before <+: changes) : Undeclared before := by
  obtain ⟨after, rfl⟩ := reached
  intro left member
  refine undeclared left ?_
  rw [lefts_append]
  exact List.mem_append_left _ member

end Change

/-- **The size is the length of the body.** -/
def Wrapper.Response.Tracks (response : Wrapper.Response) : Prop :=
  response.size = response.body.length

namespace Footing

variable {footing : Footing} {changes : List Change}

/-- Where no length is declared, the count begins at the length of a body. -/
theorem length_after (undeclared : Change.Undeclared changes)
    (level : footing.length = footing.body.length) :
    (footing.after changes).length = (footing.after changes).body.length := by
  induction changes generalizing footing with
  | nil => exact level
  | cons change rest hypothesis =>
    cases change with
    | handler writing => exact hypothesis undeclared level
    | callback left =>
      obtain ⟨first, later⟩ := List.forall_mem_cons.mp undeclared
      exact hypothesis later (Http.Response.contentLength_of_none first)

theorem Carries.tracks {response : Wrapper.Response} (carries : footing.Carries response)
    (level : footing.length = footing.body.length) : response.Tracks := by
  obtain ⟨since, body, size⟩ := carries
  unfold Wrapper.Response.Tracks
  rw [size, body, level, List.length_append]

end Footing

/-! ### The size in a cycle -/

/-- **As long as no callback declares a length**, the size is the length of the body. -/
theorem World.tracks_of_undeclared {world : World} {exchange : Http.Exchange}
    (empty : exchange.response.body = []) {before : List Change}
    (fits : (Change.run (world.opened exchange).response before).overflow = false)
    (undeclared : Change.Undeclared before) :
    (Change.run (world.opened exchange).response before).response.Tracks := by
  have level : (Footing.start exchange.response).length
      = (Footing.start exchange.response).body.length := by
    unfold Footing.start
    rw [empty]
    rfl
  exact ((Footing.carries_opened world exchange).run fits).tracks
    (Footing.length_after undeclared level)

/-- **The size is counted from the length of what the last callback left**, at every point of a
cycle. Either no addition to it exceeds a word or the cycle panics. None does where the lengths that
callbacks leave have room for all that the handler has to write; and where no length is declared,
none does unless a body becomes longer than a word can tell. -/
theorem size_is_counted (depth : Nat) (world : World) (exchange : Http.Exchange) :
    let changes := world.changes depth exchange
    let opened := (world.opened exchange).response
    (∀ before, before <+: changes → (Change.run opened before).overflow = false →
        ((Footing.start exchange.response).after before).Carries
          (Change.run opened before).response)
      ∧ (Change.Fits opened changes
        ∨ (world.dispatch (depth + 1) exchange).abort = some (.panic Wrapper.overflowMessage))
      ∧ (Change.offered changes ≤ Text.greatestWord →
        (∀ left ∈ Change.lefts changes,
          left.contentLength + Change.offered changes ≤ Text.greatestWord) →
        Change.Fits opened changes)
      ∧ (Change.Undeclared changes → exchange.response.body = [] →
        (∀ before, before <+: changes →
          (Change.run opened before).response.body.length ≤ Text.greatestWord) →
        Change.Fits opened changes) := by
  intro changes opened
  refine ⟨fun before _ fits => (Footing.carries_opened world exchange).run fits, ?_, ?_, ?_⟩
  · rw [Change.fits_iff]
    exact (Bool.eq_false_or_eq_true _).symm.imp id fun overflow =>
      world.dispatch_of_overflow depth exchange overflow
  · intro room declared
    have empty : opened.size + Change.offered changes ≤ Text.greatestWord := by
      rw [show opened.size = 0 from rfl, Nat.zero_add]
      exact room
    exact Change.fits_iff.mpr (Change.fits_of_room empty declared)
  · intro undeclared empty short before writing after data cut fits appended
    have reached : before ++ [.handler writing] <+: changes :=
      ⟨after, by rw [cut, List.append_assoc]; rfl⟩
    have tracks : (Change.run opened before).response.Tracks :=
      World.tracks_of_undeclared empty fits
        (undeclared.of_isPrefix ((List.prefix_append _ _).trans reached))
    have longer : (Change.run opened (before ++ [.handler writing])).response.body
        = (Change.run opened before).response.body ++ data := by
      rw [Change.run_append_of_fits fits, Change.run_singleton]
      exact (writing.appends_perform appended).body
    have bound := short _ reached
    rw [longer, List.length_append, ← tracks] at bound
    exact bound

/-- A callback that leaves two bytes, with a declared length of ten or with none, in front of a handler
that writes a third: the count goes on from ten or from two, and no addition exceeds a word. -/
theorem size_is_counted_declared :
    let leave (left : Http.Response) : Callback := fun exchange =>
      { outcome := .ok { exchange with response := left } }
    let world (left : Http.Response) : World := (World.new {}).setCharge
      (.program (.perform (.native (leave left)) (.step (.write [3]) fun _ => .skip)))
    let opened (left : Http.Response) := ((world left).opened {}).response
    let changes (left : Http.Response) := (world left).changes 0 {}
    let plain : Http.Response := { body := [1, 2] }
    let declared : Http.Response :=
      { plain with header := plain.header.set Http.contentLength ⟨Text.bytes "10", by decide⟩ }
    (Change.run (opened declared) (changes declared)).overflow = false
      ∧ ((Footing.start {}).after (changes declared)).length = 10
      ∧ ((Footing.start {}).after (changes declared)).Carries
        (Change.run (opened declared) (changes declared)).response
      ∧ Change.offered (changes declared) ≤ Text.greatestWord
      ∧ (∀ left ∈ Change.lefts (changes declared),
        left.contentLength + Change.offered (changes declared) ≤ Text.greatestWord)
      ∧ Change.Fits (opened declared) (changes declared)
      ∧ Change.Undeclared (changes plain)
      ∧ (∀ before, before <+: changes plain →
        (Change.run (opened plain) before).response.body.length ≤ Text.greatestWord)
      ∧ Change.Fits (opened plain) (changes plain) := by
  intro leave world opened changes plain declared
  have fits : (Change.run (opened declared) (changes declared)).overflow = false := by
    decide +kernel
  have room : Change.offered (changes declared) ≤ Text.greatestWord := by decide +kernel
  have leaves : ∀ left ∈ Change.lefts (changes declared),
      left.contentLength + Change.offered (changes declared) ≤ Text.greatestWord := by
    decide +kernel
  have undeclared : Change.Undeclared (changes plain) := by
    unfold Change.Undeclared
    decide +kernel
  have short : ∀ before, before <+: changes plain →
      (Change.run (opened plain) before).response.body.length ≤ Text.greatestWord := by
    simp only [← List.mem_inits]
    decide +kernel
  obtain ⟨counted, -, roomy, -⟩ := size_is_counted 0 (world declared) {}
  obtain ⟨-, -, -, tracked⟩ := size_is_counted 0 (world plain) {}
  exact ⟨fits, by decide +kernel, counted _ (List.prefix_refl _) fits, room, leaves,
    roomy room leaves, undeclared, short, tracked undeclared rfl short⟩

/-- **Behind a callback that declares the greatest word** the size cannot count a single byte: the
addition exceeds a word, and the cycle panics. -/
theorem declared_length_overflows :
    let declare : Callback := fun exchange =>
      { outcome := .ok { exchange with
          response.header := exchange.response.header.set Http.contentLength
            ⟨Text.bytes "18446744073709551615", by decide⟩ } }
    let world : World := (World.new {}).setCharge
      (.program (.perform (.native declare) (.step (.write [120]) fun _ => .skip)))
    ¬Change.Fits (world.opened {}).response (world.changes 0 {})
      ∧ (world.dispatch 1 {}).abort = some (.panic Wrapper.overflowMessage) := by
  intro declare world
  have overflow : (Change.run (world.opened {}).response (world.changes 0 {})).overflow = true := by
    decide +kernel
  refine ⟨fun fits => ?_, world.dispatch_of_overflow 0 {} overflow⟩
  rw [Change.fits_iff, overflow] at fits
  cases fits

/-- **The size tracks the body.** In the cycle of a request, as long as no callback has declared a
length, the size that an operation finds is the length of the body that it finds; and if none has
at the end, it is the length of the body that goes back to the transport. -/
theorem size_tracks_body (depth : Nat) (world : World) (request : Http.Request) :
    let changes := world.changes depth { request }
    let opened := (world.opened { request }).response
    let served := world.dispatch (depth + 1) { request }
    (∀ response ∈ world.found depth { request }, ∃ before, before <+: changes
        ∧ (Change.run opened before).response = response
        ∧ (Change.Undeclared before → response.size = response.body.length))
      ∧ (Change.Undeclared changes →
        (∀ response ∈ world.found depth { request }, response.size = response.body.length)
          ∧ (served.abort = none →
            let left := (world.handled (World.dispatch depth) { request }).cycle.response
            left.size = left.body.length
              ∧ left.size = served.exchange.response.body.length)) := by
  intro changes opened served
  have within : ∀ response ∈ world.found depth { request }, ∃ before, before <+: changes
      ∧ (Change.run opened before).response = response
      ∧ (Change.Undeclared before → response.Tracks) := by
    intro response member
    obtain ⟨before, after, cut, fits, same⟩ :=
      world.exists_changes_of_mem_found depth { request } member
    refine ⟨before, ⟨after, cut.symm⟩, same, fun undeclared => ?_⟩
    rw [← same]
    exact World.tracks_of_undeclared rfl fits undeclared
  refine ⟨within, fun undeclared => ⟨?_, ?_⟩⟩
  · intro response member
    obtain ⟨before, reached, -, tracks⟩ := within response member
    exact tracks (undeclared.of_isPrefix reached)
  · intro ended left
    have fits : (Change.run opened changes).overflow = false := by
      rw [← Bool.not_eq_true]
      intro overflow
      rw [show served.abort = _ from world.dispatch_of_overflow depth { request } overflow] at ended
      cases ended
    have tracks : left.Tracks := by
      rw [show left = _ from world.response_handled depth { request }]
      exact World.tracks_of_undeclared rfl fits undeclared
    refine ⟨tracks, ?_⟩
    rw [show served.exchange.response = left.lend from
      world.response_of_ended depth { request } ended]
    exact tracks

/-- A callback that cuts a body of three bytes down to one, between two writings: the size goes from
three to one, and the body that goes back is as long as the size says. -/
theorem size_tracks_body_cut :
    let cut : Callback := fun exchange =>
      { outcome := .ok { exchange with response.body := exchange.response.body.take 1 } }
    let world : World := (World.new {}).setCharge (.program
      (.step (.write [1, 2, 3]) fun _ => .perform (.native cut) (.step (.write [4]) fun _ => .skip)))
    let left := (world.handled (World.dispatch 0) {}).cycle.response
    Change.Undeclared (world.changes 0 {})
      ∧ (world.found 0 {}).map (·.size) = [0, 3, 1]
      ∧ (∀ response ∈ world.found 0 {}, response.size = response.body.length)
      ∧ (world.dispatch 1 {}).abort = none
      ∧ left.size = (world.dispatch 1 {}).exchange.response.body.length
      ∧ (world.dispatch 1 {}).exchange.response.body = [1, 4] := by
  intro cut world left
  have undeclared : Change.Undeclared (world.changes 0 {}) := by
    unfold Change.Undeclared
    decide +kernel
  have ended : (world.dispatch 1 {}).abort = none := by decide +kernel
  obtain ⟨-, tracks⟩ := size_tracks_body 0 world {}
  obtain ⟨everywhere, atEnd⟩ := tracks undeclared
  exact ⟨undeclared, by decide +kernel, everywhere, ended, (atEnd ended).2, by decide +kernel⟩

end Switchboard
