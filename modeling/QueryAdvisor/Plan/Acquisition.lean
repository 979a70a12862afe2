import QueryAdvisor.Policy
import QueryAdvisor.Sandbox

/-!
# Getting a plan

From a query to the summary of its plan: the policy first, then the database, then the summary. What
the policy rejects never reaches the database.
-/

namespace QueryAdvisor

/-- Why there is no plan for a query. -/
inductive PlanFault where
  | rejected (violation : Violation)
  | explain (fault : ExplainFault)
  /-- What the database returned cannot be read, and nobody is prepared for that. -/
  | unread (escape : Json.Escape)
  /-- What the database returned is no plan document. -/
  | invalid
  | summary (fault : ExecutionPlan.Fault)
  deriving DecidableEq, Repr

/-- An attempt to get a plan: how it ended, for which queries a plan was asked for, and what that
took. -/
structure Acquisition where
  outcome : Except PlanFault ExecutionPlan
  asked : List Text := []
  connections : Nat := 0
  executed : List Text := []
  events : List Event := []

namespace Acquisition

/-- The summary of what the database returned. -/
def summarize (outcome : Except ExplainFault (RawPlan × Bool)) : Except PlanFault ExecutionPlan :=
  match outcome with
  | .error fault => .error (.explain fault)
  | .ok (raw, analyzed) =>
    match PlanDocument.ofRaw? raw with
    | .error escape => .error (.unread escape)
    | .ok none => .error .invalid
    | .ok (some doc) =>
      match ExecutionPlan.ofDocument doc analyzed with
      | .error fault => .error (.summary fault)
      | .ok plan => .ok plan

/-- Get the plan of a query from a database that explains queries in the given way. -/
def ofQuery (explain : Text → Explanation) (query : Text) : Acquisition :=
  match Policy.check query with
  | some violation => { outcome := .error (.rejected violation) }
  | none =>
    let explanation := explain query
    { outcome := summarize explanation.outcome
      asked := [query]
      connections := explanation.connections
      executed := explanation.executed
      events := explanation.events }

/-- Get the plan of a query from the sandbox. -/
def fromSandbox (sandbox : Sandbox) (query : Text) : Acquisition :=
  ofQuery (sandbox.explain · true) query

end Acquisition

/-- The sentence shown to the user where there is no plan; a fault that is no fault of the query or the
sandbox has none. -/
def PlanFault.message? : PlanFault → Option Text
  | .rejected violation => some violation.message
  | .explain fault => fault.message?
  | .unread _ => none
  | .invalid => some ExplainFault.invalidPlanMessage
  | .summary _ => none

end QueryAdvisor
