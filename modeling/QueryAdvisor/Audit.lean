import QueryAdvisor.Analysis
import QueryAdvisor.Policy

/-!
# The audit log

What the service writes down about its work. An `Event` is something that happened, a `Record` the line
it becomes. Of an error message at most the first 200 code points are kept.
-/

namespace QueryAdvisor

/-- How serious a record is. -/
inductive Severity where
  | trace
  | debug
  | info
  | success
  | warning
  | error
  | critical
  deriving DecidableEq, Repr

namespace Severity

def all : List Severity := [.trace, .debug, .info, .success, .warning, .error, .critical]

/-- The name under which a severity is configured and written. -/
def name : Severity → Text
  | .trace => "TRACE"
  | .debug => "DEBUG"
  | .info => "INFO"
  | .success => "SUCCESS"
  | .warning => "WARNING"
  | .error => "ERROR"
  | .critical => "CRITICAL"

/-- The place in the order. -/
def rank : Severity → Nat
  | .trace => 5
  | .debug => 10
  | .info => 20
  | .success => 25
  | .warning => 30
  | .error => 40
  | .critical => 50

/-- The severity of that name; names are taken letter by letter. -/
def ofName? (t : Text) : Option Severity := all.find? fun s => s.name == t

theorem ofName?_name (s : Severity) : ofName? s.name = some s := by cases s <;> rfl

end Severity

/-- A line of the log. -/
structure Record where
  severity : Severity
  message : Text
  fields : Members

/-- What is worth a line. -/
inductive Event where
  /-- A query violates the policy and was not analyzed. -/
  | queryRejected (violation : Violation)
  /-- A query was analyzed, with this verdict. -/
  | queryAnalyzed (verdict : Verdict)
  /-- The analysis comes from the model. -/
  | modelUsed (verdict : Verdict)
  /-- The model was of no use, for this reason, and the analysis is structural. -/
  | modelUnusable (reason : Text)
  /-- The sandbox cannot be reached. -/
  | sandboxUnreachable (error : Text)
  /-- The query could not be run in the sandbox. -/
  | analyzeFailed (error : Text)
  /-- The query could not even be planned in the sandbox. -/
  | explainFailed (error : Text)
  /-- A client was told that there is no plan. -/
  | planUnavailable (error : Text)
  /-- An analyzed query was not remembered. -/
  | historyFailed
  /-- A request ended in an internal error. -/
  | unhandled (path : Text)
  deriving DecidableEq, Repr

namespace Event

/-- The part of an error message that is written down. -/
def clip (error : Text) : Text := error.take 200

/-- The line for an event. -/
def record : Event → Record
  | .queryRejected v => ⟨.info, "query_rejected", [("reason", .text v.reason)]⟩
  | .queryAnalyzed verdict => ⟨.info, "query_analyzed", [("verdict", .str verdict.name)]⟩
  | .modelUsed verdict => ⟨.info, "analysis_model_ok", [("verdict", .str verdict.name)]⟩
  | .modelUnusable reason => ⟨.warning, "analysis_model_fallback", [("reason", .str reason)]⟩
  | .sandboxUnreachable error => ⟨.warning, "sandbox_connect_failed", [("error", .str (clip error))]⟩
  | .analyzeFailed error => ⟨.warning, "explain_analyze_failed", [("error", .str (clip error))]⟩
  | .explainFailed error => ⟨.warning, "explain_failed", [("error", .str (clip error))]⟩
  | .planUnavailable error => ⟨.warning, "plan_unavailable", [("error", .str (clip error))]⟩
  | .historyFailed => ⟨.error, "history_add_failed", []⟩
  | .unhandled path => ⟨.error, "unhandled", [("path", .str path)]⟩

theorem length_clip_le (error : Text) : (clip error).length ≤ 200 := List.length_take_le _ _

end Event

end QueryAdvisor
