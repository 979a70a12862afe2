import Mathlib.Data.List.Forall2
import QueryAdvisor.Proofs.Sandbox.Execution
import QueryAdvisor.Proofs.Service.Serving

/-!
# What gets out of the service

Two outside systems hear of queries, the model and the sandbox, and both hear only of queries that the
policy accepts. Over any number of requests:

    accepted analyses      q₁      q₂      q₃  …      in the order in which they came
                           │       │       │
    questions asked      ask q₁  ask q₂  ask q₃  …    one each, whatever the model does

and a statement that reaches the sandbox is the statement of the accepted query of its own request,
behind a command. A rejected query gets nowhere.
-/

namespace QueryAdvisor.Service

/-- What is let out for a request: statements of its accepted query only, and nothing at all if it
brings a query that is rejected. -/
structure Gated (request : Request) (work : Work) : Prop where
  executed : ∀ sent ∈ work.executed, ∃ query statement,
    request.accepted? .explain = some query ∧ Statement.ofQuery? query = some statement ∧
      ∃ command ∈ Sandbox.commands, sent = command ++ statement
  rejected : ∀ e query, request.query? e = some query → ¬ Policy.Accepts query →
    work.questions = [] ∧ work.connections = 0 ∧ work.executed = []

/-! ### One request -/

/-- A request that brings an accepted query to one endpoint brings no rejected one to any other. -/
theorem accepts_of_accepted? {request : Request} {e e' : Endpoint} {query query' : Text}
    (h : request.accepted? e = some query) (h' : request.query? e' = some query') :
    Policy.Accepts query' := by
  obtain ⟨hquery, haccepts⟩ := Request.accepted?_eq_some_iff.mp h
  obtain ⟨-, hbody⟩ := Request.query?_eq_some_iff.mp hquery
  obtain ⟨-, hbody'⟩ := Request.query?_eq_some_iff.mp h'
  rwa [← Option.some.inj (hbody.symm.trans hbody')]

variable {around : Surroundings} {service after : Service} {request : Request} {work : Work}

/-- A question about an accepted query sends nothing to the sandbox. -/
theorem gated_question {query : Text} (haccepted : request.accepted? .analyses = some query) :
    Gated request { questions := [Advice.question query] } := by
  refine ⟨List.forall_mem_nil _, ?_⟩
  intro e query' hquery hrejected
  exact absurd (accepts_of_accepted? haccepted hquery) hrejected

theorem Serves.gated (h : Serves around service request after work) : Gated request work := by
  cases h with
  | analysis analyzed => exact gated_question (Request.analyzed?_eq_some_iff.mp analyzed).1
  | unfinished accepted _ => exact gated_question accepted
  | @explanation query accepted =>
    constructor
    · intro sent hsent
      obtain ⟨-, statement, hstatement, hcommand⟩ := Sandbox.of_mem_executed hsent
      exact ⟨query, statement, accepted, hstatement, hcommand⟩
    · intro e query hquery hrejected
      exact absurd (accepts_of_accepted? accepted hquery) hrejected
  | clearing _ => exact ⟨List.forall_mem_nil _, fun _ _ _ _ => ⟨rfl, rfl, rfl⟩⟩
  | nothing _ _ _ => exact ⟨List.forall_mem_nil _, fun _ _ _ _ => ⟨rfl, rfl, rfl⟩⟩

/-- An accepted analysis is one question, and there are no others. -/
theorem Serves.questions_eq (h : Serves around service request after work) :
    work.questions = ((request.accepted? .analyses).map Advice.question).toList := by
  cases h with
  | analysis analyzed => rw [(Request.analyzed?_eq_some_iff.mp analyzed).1]; rfl
  | unfinished accepted _ => rw [accepted]; rfl
  | explanation accepted =>
    rw [Request.accepted?_of_route_ne (by simp [Request.route_of_accepted? accepted])]
    rfl
  | clearing goes =>
    rw [Request.accepted?_of_route_ne (by simp [goes])]
    rfl
  | nothing analyses _ _ => rw [analyses]; rfl

/-! ### Any number of requests -/

/-- The model is asked about the accepted analyses, one question for each, in their order. What is sent
to the sandbox for a request is the statement of its accepted query behind a command, and for a rejected
query nothing gets out. -/
theorem outward_serveAll (around : Surroundings) (service : Service) (requests : List Request) :
    (serveAll around service requests).2.flatMap Response.questions =
        (requests.filterMap (Request.accepted? .analyses)).map (fun query =>
          [⟨"system", Prompt.system⟩, ⟨"user", Prompt.user query⟩]) ∧
      List.Forall₂ (fun request response => Gated request response.work) requests
        (serveAll around service requests).2 := by
  induction requests generalizing service with
  | nil => exact ⟨rfl, .nil⟩
  | cons request rest ih =>
    obtain ⟨hquestions, hgated⟩ := ih (serve around service request).1
    have hserves := serves around service request
    rw [serveAll_cons]
    constructor
    · rw [List.flatMap_cons, hquestions, List.filterMap_cons, ← Response.questions_work,
        hserves.questions_eq]
      cases request.accepted? .analyses <;> rfl
    · exact .cons hserves.gated hgated

end QueryAdvisor.Service
