/-
**Checked settings.**

Settings may be well-formed and yet make no sense. All problems are collected, in the order of the
settings.

* `problems_eq_nil_iff`: what settings without a problem are.
-/

import Switchboard.Files
import Switchboard.Net.Address
import Switchboard.Settings.Decode
import Switchboard.Text.Blank

namespace Switchboard

namespace Settings

/-- A problem of well-formed settings. -/
inductive Problem where
  | emptyAddress
  | zeroBodyLimit
  | prewarmExceedsIdle (prewarm maxIdle : Nat)
  | metricsAddress (text : String)
deriving DecidableEq, Repr

/-- The name of a kind of problem. -/
def Problem.name : Problem → String
  | .emptyAddress => "EmptyAddress"
  | .zeroBodyLimit => "ZeroBodyLimit"
  | .prewarmExceedsIdle _ _ => "PrewarmExceedsIdle"
  | .metricsAddress _ => "MetricsAddress"

/-- The text of a problem. -/
def Problem.message : Problem → String
  | .emptyAddress => "server.address must not be empty"
  | .zeroBodyLimit => "server.max_body_bytes must be greater than zero"
  | .prewarmExceedsIdle prewarm maxIdle =>
    "pool.prewarm (" ++ toString prewarm ++ ") exceeds pool.max_idle (" ++ toString maxIdle ++ ")"
  | .metricsAddress text => "observability.metrics_address is not a socket address: " ++ text

/-- A problem, if there is one. -/
def when (present : Bool) (problem : Problem) : List Problem :=
  if present then [problem] else []

/-- All problems of settings. -/
def problems (settings : Settings) : List Problem :=
  when (Text.trim settings.server.address).isEmpty .emptyAddress
    ++ when (settings.server.maxBodyBytes == 0) .zeroBodyLimit
    ++ when (decide (settings.pool.prewarm > settings.pool.maxIdle))
      (.prewarmExceedsIdle settings.pool.prewarm settings.pool.maxIdle)
    ++ when
      (settings.report.metricsEnabled
        && (Net.Address.ofString? settings.report.metricsAddress).isNone)
      (.metricsAddress settings.report.metricsAddress)

/-- Why settings cannot be used. -/
inductive Refusal where
  | unreadable (fault : FileFault)
  | malformed
  | invalid (problems : List Problem)
deriving DecidableEq, Repr

/-- The text of a refusal; what is malformed about a document is not told. -/
def Refusal.message : Refusal → Option String
  | .unreadable fault => some ("IO error: " ++ fault.message)
  | .malformed => none
  | .invalid problems =>
    some ("Validation failed: " ++ String.intercalate ", " (problems.map Problem.message))

/-- The settings of a TOML document, if they make sense. -/
def load (text : String) : Except Refusal Settings :=
  match ofToml? text with
  | none => .error .malformed
  | some settings =>
    if settings.problems.isEmpty then .ok settings else .error (.invalid settings.problems)

/-- The settings of a file that may not be readable. -/
def loadFile (content : Except FileFault (List UInt8)) : Except Refusal Settings :=
  match content with
  | .error fault => .error (.unreadable fault)
  | .ok octets =>
    match Text.decode? octets with
    | none => .error (.unreadable .notText)
    | some text => load text

/-- What settings without a problem are. -/
theorem problems_eq_nil_iff (settings : Settings) :
    settings.problems = [] ↔
      (Text.trim settings.server.address).isEmpty = false ∧ settings.server.maxBodyBytes ≠ 0
        ∧ settings.pool.prewarm ≤ settings.pool.maxIdle
        ∧ (settings.report.metricsEnabled = true →
          (Net.Address.ofString? settings.report.metricsAddress).isSome = true) := by
  have absent (present : Bool) (problem : Problem) :
      when present problem = [] ↔ present = false := by
    cases present <;> simp [when]
  simp only [problems, List.append_eq_nil_iff, absent, and_assoc]
  simp only [beq_eq_false_iff_ne, decide_eq_false_iff_not, gt_iff_lt, Nat.not_lt,
    Bool.and_eq_false_imp, Option.isNone_eq_false_iff]

end Settings

end Switchboard
