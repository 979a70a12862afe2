import QueryAdvisor.Proofs.Service.Closing

/-!
# What the history has no part in

What lasts between two requests is the history, and three endpoints have business with it. An analysis is
remembered, but nothing is read there, and if it cannot be remembered only the log says so. So of two
services with different pasts each gives the same analysis, the same check and the same plan:

    past   ──▶ service  ──┐
                          ├── requests alike ──▶ answers the same, but for the log
    past'  ──▶ service' ──┘
-/

namespace QueryAdvisor

/-- The endpoints that no past has a part in. -/
def Endpoint.detached : List Endpoint := [.analyses, .validate, .explain, .examples]

/-- Two requests to an endpoint with the same body, for which the model and the sandbox behave alike. -/
structure Request.Alike (e : Endpoint) (request request' : Request) : Prop where
  goes : request.route = .endpoint e
  goes' : request'.route = .endpoint e
  body : request.body = request'.body
  model : request.model = request'.model
  sandbox : request.sandbox = request'.sandbox

namespace Response

/-- The response, and what was done for it, without what was logged. -/
def unlogged (response : Response) : Response := { response with events := [] }

theorem unlogged_eq_iff {response response' : Response} : response.unlogged = response'.unlogged ↔
    response.status = response'.status ∧ response.body = response'.body ∧
      response.work = response'.work := by
  simp [unlogged, work]

/-- The log has no part in what is sent. -/
theorem unlogged_sent {response response' : Response} (h : response.unlogged = response'.unlogged)
    (path : Text) : (response.sent path).unlogged = (response'.sent path).unlogged := by
  rw [unlogged_eq_iff] at h ⊢
  obtain ⟨hstatus, hbody, hwork⟩ := h
  rw [work_sent, work_sent, sent, sent, hbody]
  split
  · exact ⟨hstatus, hbody, hwork⟩
  · split
    · exact ⟨hstatus, rfl, hwork⟩
    · exact ⟨rfl, rfl, hwork⟩

end Response

namespace Service

variable {around around' : Surroundings} {service service' : Service} {request request' : Request}
  {e : Endpoint}

/-- Whether the query could be remembered is seen in the log only. -/
theorem unlogged_analyze (around around' : Surroundings) (service service' : Service)
    (model : ModelBehaviour) (query : Text) : (analyze around model service query).2.unlogged =
      (analyze around' model service' query).2.unlogged := by
  cases hcheck : Policy.check query with
  | some violation => rw [analyze_of_check hcheck, analyze_of_check hcheck]
  | none =>
    by_cases hnests : Advice.NestsTooDeeply model
    · rw [analyze_of_nests hcheck hnests, analyze_of_nests hcheck hnests]
    · obtain ⟨analysis, hresult⟩ := (Advice.exists_result_generate_iff query).mpr hnests
      obtain ⟨events, hanalyze⟩ := analyze_of_result hcheck hresult around service
      obtain ⟨events', hanalyze'⟩ := analyze_of_result hcheck hresult around' service'
      rw [hanalyze, hanalyze']
      rfl

theorem unlogged_withQuery (hbody : request.body = request'.body)
    {answer answer' : Text → Service × Response}
    (h : ∀ query, (answer query).2.unlogged = (answer' query).2.unlogged) :
    (withQuery e request service answer).2.unlogged =
      (withQuery e request' service' answer').2.unlogged := by
  rw [withQuery, withQuery, hbody]
  split
  · exact h _
  · rfl
  · rfl

theorem unlogged_serveAt (he : e ∈ Endpoint.detached) (h : Request.Alike e request request')
    (address address' : Address) : (serveAt around service request address e).2.unlogged =
      (serveAt around' service' request' address' e).2.unlogged := by
  simp only [Endpoint.detached, List.mem_cons, List.not_mem_nil, or_false] at he
  rcases he with rfl | rfl | rfl | rfl
  · rw [serveAt, serveAt, h.model]
    exact unlogged_withQuery h.body (unlogged_analyze around around' service service' _)
  · exact unlogged_withQuery h.body fun _ => rfl
  · rw [serveAt, serveAt, h.sandbox]
    exact unlogged_withQuery h.body fun _ => rfl
  · rfl

/-- Whatever lasts from before has no part in the response. -/
theorem unlogged_serve (he : e ∈ Endpoint.detached) (h : Request.Alike e request request') :
    (serve around service request).2.unlogged = (serve around' service' request').2.unlogged := by
  rw [serve_of_route h.goes, serve_of_route h.goes']
  exact Response.unlogged_sent (unlogged_serveAt he h _ _) e.path

/-- The response to a request after a past that began with an empty history of at most `maxItems`. -/
def responseAfter (around : Surroundings) (maxItems : Int) (past : List Happening) (request : Request) :
    Response :=
  (serve around (after around { history := { maxItems := maxItems } } past) request).2

/-- An analysis, a check, a plan and the examples are the same whatever went before: however much a
history may hold, whatever was asked, and whether the history was closed. The answer is the same, and
the same is asked of the model and the sandbox for it. -/
theorem answer_eq_of_alike (he : e ∈ Endpoint.detached) (h : Request.Alike e request request')
    (around around' : Surroundings) (maxItems maxItems' : Int) (past past' : List Happening) :
    (responseAfter around maxItems past request).status =
        (responseAfter around' maxItems' past' request').status ∧
      (responseAfter around maxItems past request).body =
        (responseAfter around' maxItems' past' request').body ∧
      (responseAfter around maxItems past request).work =
        (responseAfter around' maxItems' past' request').work :=
  Response.unlogged_eq_iff.mp (unlogged_serve he h)

/-- A visit, and another one to the same place in other words. -/
def firstVisit : Request := .plain .analyses (Request.bodyWith plainQuery)

def secondVisit : Request := { firstVisit with address := "/v1/query-analyses/?again=1" }

theorem alike_visits : Request.Alike .analyses firstVisit secondVisit where
  goes := Request.route_plain _ _
  goes' := by decide +kernel
  body := rfl
  model := rfl
  sandbox := rfl

/-- The second visit cannot be remembered, and is answered like the first one. -/
theorem answer_eq_of_alike_closed :
    Endpoint.analyses ∈ Endpoint.detached ∧ Request.Alike .analyses firstVisit secondVisit ∧
      (responseAfter .counting 5 [] firstVisit).status =
        (responseAfter .counting 0 untilClosed secondVisit).status ∧
      (responseAfter .counting 5 [] firstVisit).body =
        (responseAfter .counting 0 untilClosed secondVisit).body ∧
      (responseAfter .counting 5 [] firstVisit).work =
        (responseAfter .counting 0 untilClosed secondVisit).work := by
  have he : Endpoint.analyses ∈ Endpoint.detached := by decide
  exact ⟨he, alike_visits,
    answer_eq_of_alike he alike_visits .counting .counting 5 0 [] untilClosed⟩

end Service

end QueryAdvisor
