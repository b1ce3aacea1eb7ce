/-
**Meters.**

Counters of finished dispatch cycles by method and status, and of wrappers that were built because
none was idle, by kind. Each finished cycle also gives one sample of its duration; only the number
of samples is kept.

* `total_recordDispatch`: recording a cycle adds one to the total.
-/

import Switchboard.Http.Method
import Switchboard.Http.Status

namespace Switchboard

/-- Counters under their keys. -/
abbrev Tally (κ : Type) := List (κ × Nat)

namespace Tally

variable {κ : Type} [DecidableEq κ]

/-- Count one more under a key. -/
def count (key : κ) : Tally κ → Tally κ
  | [] => [(key, 1)]
  | (other, number) :: rest =>
    if other = key then (other, number + 1) :: rest else (other, number) :: count key rest

omit [DecidableEq κ] in
/-- The sum of all counters. -/
def total : Tally κ → Nat
  | [] => 0
  | (_, number) :: rest => number + total rest

/-- Counting one more adds one to the sum. -/
theorem total_count (key : κ) (tally : Tally κ) : (tally.count key).total = tally.total + 1 := by
  induction tally with
  | nil => rfl
  | cons head tail hypothesis =>
    obtain ⟨other, number⟩ := head
    rw [count]
    split <;> simp only [total] <;> omega

end Tally

/-- The counters of a server. -/
structure Meters where
  dispatches : Tally (String × Nat) := []
  built : Tally String := []
deriving Inhabited

namespace Meters

/-- Count a finished cycle. -/
def recordDispatch (meters : Meters) (method : Http.Method) (status : Http.Status) : Meters :=
  { meters with dispatches := Tally.count (method.token, status.code) meters.dispatches }

/-- Count wrappers that were built. -/
def recordBuilt (meters : Meters) (kinds : List String) : Meters :=
  { meters with built := kinds.foldl (fun built kind => Tally.count kind built) meters.built }

/-- The labels of a finished cycle. -/
def dispatchLabels (key : String × Nat) : String :=
  "\x7bmethod=" ++ key.1 ++ ",status=" ++ toString key.2 ++ "\x7d"

/-- The counters under the names and labels by which they are exposed. -/
def exposed (meters : Meters) : List (String × Nat) :=
  (meters.dispatches.map fun (key, number) =>
      ("dispatch_requests_total" ++ dispatchLabels key, number))
    ++ (meters.dispatches.map fun (key, number) =>
      ("dispatch_duration_seconds" ++ dispatchLabels key, number))
    ++ (meters.built.map fun (kind, number) =>
      ("pool_wrappers_created_total\x7bkind=" ++ kind ++ "\x7d", number))

/-- Recording a cycle adds one to the total. -/
theorem total_recordDispatch (meters : Meters) (method : Http.Method) (status : Http.Status) :
    Tally.total (meters.recordDispatch method status).dispatches
      = Tally.total meters.dispatches + 1 :=
  Tally.total_count _ _

end Meters

end Switchboard
