import QueryAdvisor.Proofs.Advice.Strategies
import QueryAdvisor.Proofs.Json.Wire
import QueryAdvisor.Service

/-!
# What serving a request comes down to

A request goes to an endpoint or nowhere, its body holds a query or not, and the policy accepts the query
or not. All that the service does beyond answering hangs on these three:

    request ──▶ endpoint ──▶ query in the body ──▶ accepted ──▶ what is done
                 analyses                             yes        ask the model, remember the query
                 explain                              yes        connect, send statements
                 clear                                           forget the queries
                 everything else                                 nothing

A model whose reply is nested too deeply is asked as well, but then the work ends and nothing is remembered.
`Serves` says this once, for a single request, and everything about runs starts from there.
-/

namespace QueryAdvisor

/-! ### Queries in bodies -/

/-- The query in a well-formed body, which is an object with a text under `query`. -/
def queryIn? (body : Bytes) : Option Text :=
  match Json.ofBytes body with
  | .ok (.obj members) =>
    match Members.get? "query" members with
    | some (.str query) => some query
    | _ => none
  | _ => none

/-- A body that cannot be read: its bytes are no text, it holds an integer with too many digits, or it is
nested too deeply. -/
def Unreadable (body : Bytes) : Prop :=
  Json.ofBytes body = .error .undecodable ∨ Json.ofBytes body = .error .hugeInteger ∨
    Json.ofBytes body = .error .tooDeep

theorem readable_of_queryIn? {body : Bytes} {query : Text} (h : queryIn? body = some query) :
    ¬ Unreadable body := by
  rintro (hbody | hbody | hbody) <;>
  · rw [queryIn?, hbody] at h
    cases h

/-- What becomes of a body, in terms of what it holds. -/
inductive BodyResult.Describes (body : Bytes) : BodyResult → Prop where
  | query {query : Text} (holds : queryIn? body = some query) : Describes body (.query query)
  | misfit {fault : RequestFault} {shown : Json} (holds : queryIn? body = none)
    (readable : ¬ Unreadable body) : Describes body (.misfit fault shown)
  | unreadable (holds : queryIn? body = none) (unreadable : Unreadable body) :
    Describes body .unreadable

theorem BodyResult.describes_ofBytes (body : Bytes) :
    BodyResult.Describes body (BodyResult.ofBytes body) := by
  have hread : ∀ {v : Json}, Json.ofBytes body = .ok v → ¬ Unreadable body := by
    intro v h
    rw [Unreadable, h]
    rintro (h | h | h) <;> cases h
  rw [BodyResult.ofBytes]
  split
  · next hempty =>
    obtain rfl := List.isEmpty_iff.mp hempty
    exact .misfit rfl (by rintro (h | h | h) <;> cases h)
  · split
    · next h => exact .misfit (by rw [queryIn?, h]) (by rw [Unreadable, h]; simp)
    · next fault hfault h =>
      refine .unreadable (by rw [queryIn?, h]) ?_
      cases fault with
      | malformed => exact absurd rfl hfault
      | undecodable => exact Or.inl h
      | hugeInteger => exact Or.inr (Or.inl h)
      | tooDeep => exact Or.inr (Or.inr h)
    · next members h =>
      split
      · next hget => exact .misfit (by simp only [queryIn?, h, hget]) (hread h)
      · next hget => exact .query (by simp only [queryIn?, h, hget])
      · next v hstring hget =>
        refine .misfit ?_ (hread h)
        simp only [queryIn?, h, hget]
        split
        · next heq => exact absurd (Option.some.inj heq) (hstring _)
        · rfl
    · next v hobject h =>
      refine .misfit ?_ (hread h)
      rw [queryIn?, h]
      split
      · next heq => exact absurd (Except.ok.inj heq) (hobject _)
      · rfl

theorem BodyResult.ofBytes_eq_unreadable_iff {body : Bytes} :
    ofBytes body = .unreadable ↔ Unreadable body := by
  have hdescribes := describes_ofBytes body
  generalize ofBytes body = result at hdescribes
  cases hdescribes with
  | query holds => simp [readable_of_queryIn? holds]
  | misfit _ readable => simp [readable]
  | unreadable _ unreadable => simp [unreadable]

theorem queryIn?_of_ofBytes {body : Bytes} {query : Text} (h : BodyResult.ofBytes body = .query query) :
    queryIn? body = some query := by
  have hdescribes := BodyResult.describes_ofBytes body
  rw [h] at hdescribes
  cases hdescribes with
  | query holds => exact holds

/-! ### Queries in requests -/

namespace Request

/-- Where a request goes. -/
def route (request : Request) : Route :=
  Route.of request.method (Address.ofText request.address).path

/-- The query that a request brings to an endpoint in a well-formed body. -/
def query? (e : Endpoint) (request : Request) : Option Text :=
  if request.route = .endpoint e then queryIn? request.body else none

/-- The query that a request brings to an endpoint, if the policy accepts it. -/
def accepted? (e : Endpoint) (request : Request) : Option Text :=
  (request.query? e).filter fun query => Policy.Accepts query

variable {request : Request} {e : Endpoint} {query : Text}

theorem query?_eq_some_iff : request.query? e = some query ↔
    request.route = .endpoint e ∧ queryIn? request.body = some query := by
  rw [query?]
  split <;> simp_all

theorem accepted?_eq_some_iff : request.accepted? e = some query ↔
    request.query? e = some query ∧ Policy.Accepts query := by
  simp [accepted?, Option.filter_eq_some_iff]

theorem accepted?_of_body (hroute : request.route = .endpoint e)
    (hbody : queryIn? request.body = some query) (h : Policy.Accepts query) :
    request.accepted? e = some query :=
  accepted?_eq_some_iff.mpr ⟨query?_eq_some_iff.mpr ⟨hroute, hbody⟩, h⟩

theorem route_of_accepted? (h : request.accepted? e = some query) : request.route = .endpoint e :=
  (query?_eq_some_iff.mp (accepted?_eq_some_iff.mp h).1).1

/-- A request that does not bring an accepted query to an endpoint goes elsewhere, has none in its body
or one that is rejected. -/
theorem accepted?_eq_none (h : request.route = .endpoint e → ∀ query,
    queryIn? request.body = some query → ¬ Policy.Accepts query) : request.accepted? e = none := by
  rw [Option.eq_none_iff_forall_ne_some]
  intro query haccepted
  obtain ⟨hquery, haccepts⟩ := accepted?_eq_some_iff.mp haccepted
  obtain ⟨hroute, hbody⟩ := query?_eq_some_iff.mp hquery
  exact h hroute query hbody haccepts

theorem accepted?_of_route_ne (h : request.route ≠ .endpoint e) : request.accepted? e = none :=
  accepted?_eq_none fun hroute => absurd hroute h

/-- The accepted query of which a request gets an analysis: the model's reply, whether of use or not, is not
nested too deeply. -/
def analyzed? (request : Request) : Option Text :=
  (request.accepted? .analyses).filter fun _ => ¬ Advice.NestsTooDeeply request.model

/-- It makes no difference unless both come together, an accepted query and such a reply. -/
theorem analyzed?_eq_accepted?
    (h : Advice.NestsTooDeeply request.model → request.accepted? .analyses = none) :
    request.analyzed? = request.accepted? .analyses := by
  rw [analyzed?]
  by_cases hnests : Advice.NestsTooDeeply request.model
  · rw [h hnests]
    rfl
  · cases request.accepted? .analyses <;> simp [Option.filter, hnests]

theorem analyzed?_of_nests (h : Advice.NestsTooDeeply request.model) : request.analyzed? = none := by
  simp [analyzed?, h]

theorem analyzed?_of_unaccepted (h : request.accepted? .analyses = none) : request.analyzed? = none := by
  rw [analyzed?, h]
  rfl

theorem analyzed?_of_route_ne (h : request.route ≠ .endpoint .analyses) : request.analyzed? = none :=
  analyzed?_of_unaccepted (accepted?_of_route_ne h)

theorem analyzed?_eq_some_iff : request.analyzed? = some query ↔
    request.accepted? .analyses = some query ∧ ¬ Advice.NestsTooDeeply request.model := by
  simp [analyzed?, Option.filter_eq_some_iff]

/-- A request to an endpoint while the model is of no use and the sandbox is up. -/
def plain (e : Endpoint) (body : Bytes) : Request where
  method := e.method
  address := e.path
  body := body
  model := .raises "Timeout"
  sandbox := {}

/-- A well-formed body with a query that needs no escapes. -/
def bodyWith (query : Text) : Bytes :=
  Encoding.encodeUtf8 (Text.ofString "\x7b\"query\": \"" ++ query ++ "\"\x7d")

theorem route_plain (e : Endpoint) (body : Bytes) : (plain e body).route = .endpoint e := by
  have hroute : ∀ e' ∈ Endpoint.all,
      Route.of e'.method (Address.ofText e'.path).path = .endpoint e' := by decide +kernel
  exact hroute e (by cases e <;> decide)

end Request

/-- Surroundings whose clock counts. -/
def Surroundings.counting : Surroundings := ⟨fun k => .finite false k, []⟩

/-! ### What is done for a response -/

/-- What is done outside of the service: questions to the model, connections to the sandbox and
statements sent there. -/
structure Work where
  questions : List (List Message) := []
  connections : Nat := 0
  executed : List Text := []

namespace Response

/-- What was done for a response. -/
def work (response : Response) : Work :=
  ⟨response.questions, response.connections, response.executed⟩

theorem questions_work (response : Response) : response.work.questions = response.questions := rfl

theorem work_sent (path : Text) (response : Response) :
    (response.sent path).work = response.work := by
  rw [sent]
  split
  · rfl
  · split <;> rfl

/-! What can be written is sent without its reserved members, and anything else is an internal error. -/

theorem sent_of_writable {response : Response} {v : Json} (hbody : response.body = .json v)
    (h : v.withoutReserved.isWritable = true) (path : Text) :
    response.sent path = { response with body := .json v.withoutReserved } := by
  rw [sent, hbody]
  simp only [h, if_true]

theorem status_sent_of_unwritable {response : Response} {v : Json} (hbody : response.body = .json v)
    (h : ¬ v.withoutReserved.isWritable = true) (path : Text) : (response.sent path).status = 500 := by
  rw [sent, hbody]
  simp only [if_neg h]
  rfl

/-- A body that leaves as it is, is sent as it is. -/
theorem sent_of_leaves {response : Response} {v : Json} (hbody : response.body = .json v)
    (h : v.Leaves) (path : Text) : response.sent path = response := by
  have hwritable : v.withoutReserved.isWritable = true := by rw [h.unchanged, h.writable]
  rw [sent_of_writable hbody hwritable, h.unchanged, ← hbody]

theorem work_misfit (path : Text) (fault : RequestFault) (shown : Json) :
    (misfit path fault shown).work = {} := by
  rw [misfit]
  split <;> rfl

end Response

namespace Service

/-! ### One query -/

/-- The model is asked exactly once, whatever it answers. -/
theorem questions_generate (model : ModelBehaviour) (query : Text) :
    (Advice.generate model query).questions = [Advice.question query] := by
  rw [Advice.generate]
  split <;> rfl

variable {query : Text}

theorem analyze_of_check {violation : Violation} (h : Policy.check query = some violation)
    (around : Surroundings) (model : ModelBehaviour) (service : Service) :
    analyze around model service query =
      (service, { Response.rejection violation with events := [.queryRejected violation] }) := by
  rw [analyze, Advice.analyze, h]

theorem analyze_of_result (h : Policy.Accepts query) {model : ModelBehaviour} {analysis : Analysis}
    (hresult : (Advice.generate model query).result = .ok analysis) (around : Surroundings)
    (service : Service) : ∃ events, analyze around model service query =
      ((remember around service query).1,
        { status := 200, body := .json analysis.toJson
          questions := [Advice.question query], events := events }) := by
  rw [analyze, Advice.analyze, show Policy.check query = none from h]
  simp only [hresult, questions_generate]
  exact ⟨_, rfl⟩

/-- The answer to a request that ends in a fault nobody is prepared for, after the model was asked. -/
def unfinished (query : Text) : Response :=
  { Response.ok .null with questions := [Advice.question query] }.broken Endpoint.analyses.path

theorem analyze_of_nests (h : Policy.Accepts query) {model : ModelBehaviour}
    (hnests : Advice.NestsTooDeeply model) (around : Surroundings) (service : Service) :
    analyze around model service query = (service, unfinished query) := by
  rw [analyze, Advice.analyze, show Policy.check query = none from h, Advice.generate_of_nests hnests]
  rfl

theorem explain_of_check {violation : Violation} (h : Policy.check query = some violation)
    (sandbox : Sandbox) : explain sandbox query = Response.rejection violation := by
  rw [explain, Acquisition.fromSandbox, Acquisition.ofQuery, h]
  rfl

theorem questions_answerPlan (outcome : Except PlanFault ExecutionPlan) :
    (answerPlan outcome).questions = [] := by
  unfold answerPlan
  split
  · rfl
  · rfl
  · split <;> rfl

theorem work_explain_of_accepts (h : Policy.Accepts query) (sandbox : Sandbox) :
    (explain sandbox query).work =
      { connections := (sandbox.explain query true).connections
        executed := (sandbox.explain query true).executed } := by
  rw [explain, Response.work, questions_answerPlan, Acquisition.fromSandbox, Acquisition.ofQuery,
    show Policy.check query = none from h]

/-! ### One request -/

/-- A request with a query in its body is served by the query. -/
theorem withQuery_of_some {endpoint : Endpoint} {request : Request} {service : Service}
    {serve : Text → Service × Response} (h : queryIn? request.body = some query) :
    withQuery endpoint request service serve = serve query := by
  have hbody := BodyResult.describes_ofBytes request.body
  rw [withQuery]
  generalize BodyResult.ofBytes request.body = result at hbody
  cases hbody with
  | query holds => rw [Option.some.inj (holds.symm.trans h)]
  | misfit holds _ => exact absurd (holds.symm.trans h) (by simp)
  | unreadable holds _ => exact absurd (holds.symm.trans h) (by simp)

/-- Without one, it is only answered. -/
theorem withQuery_of_none {endpoint : Endpoint} {request : Request} {service : Service}
    {serve : Text → Service × Response} (h : queryIn? request.body = none) :
    (withQuery endpoint request service serve).1 = service ∧
      (withQuery endpoint request service serve).2.work = {} := by
  have hbody := BodyResult.describes_ofBytes request.body
  rw [withQuery]
  generalize BodyResult.ofBytes request.body = result at hbody
  cases hbody with
  | query holds => exact absurd (holds.symm.trans h) (by simp)
  | misfit _ _ => exact ⟨rfl, Response.work_misfit _ _ _⟩
  | unreadable _ _ => exact ⟨rfl, rfl⟩

/-- What serving a request makes of the service, and what is done for it. -/
inductive Serves (around : Surroundings) (service : Service) (request : Request) :
    Service → Work → Prop where
  | analysis {query : Text} (analyzed : request.analyzed? = some query) :
    Serves around service request (remember around service query).1
      { questions := [Advice.question query] }
  | unfinished {query : Text} (accepted : request.accepted? .analyses = some query)
    (nests : Advice.NestsTooDeeply request.model) :
    Serves around service request service { questions := [Advice.question query] }
  | explanation {query : Text} (accepted : request.accepted? .explain = some query) :
    Serves around service request service
      { connections := (request.sandbox.explain query true).connections
        executed := (request.sandbox.explain query true).executed }
  | clearing (goes : request.route = .endpoint .clear) :
    Serves around service request (clear service).1 {}
  | nothing (analyses : request.accepted? .analyses = none)
    (explain : request.accepted? .explain = none) (clear : request.route ≠ .endpoint .clear) :
    Serves around service request service {}

/-- Serving, with the route of the request by name. -/
theorem serve_eq (around : Surroundings) (service : Service) (request : Request) :
    serve around service request =
      match request.route with
      | .unknownPath => (service, .notFound)
      | .wrongMethod => (service, .methodNotAllowed)
      | .endpoint e =>
        ((serveAt around service request (Address.ofText request.address) e).1,
          (serveAt around service request (Address.ofText request.address) e).2.sent e.path) := by
  -- the address is made a variable, since of a given one Lean would evaluate the routing
  unfold serve Request.route
  generalize Address.ofText request.address = address
  rfl

theorem serve_of_route {around : Surroundings} {service : Service} {request : Request} {e : Endpoint}
    (h : request.route = .endpoint e) :
    serve around service request =
      ((serveAt around service request (Address.ofText request.address) e).1,
        (serveAt around service request (Address.ofText request.address) e).2.sent e.path) := by
  rw [serve_eq, h]

/-- Elsewhere nothing is ever done. -/
theorem serves_elsewhere {around : Surroundings} {service : Service} {request : Request}
    (h : ∀ e ∈ [Endpoint.analyses, .explain, .clear], request.route ≠ .endpoint e) :
    Serves around service request service {} := by
  simp only [List.forall_mem_cons, List.not_mem_nil, false_imp_iff, implies_true, and_true] at h
  obtain ⟨hanalyses, hexplain, hclear⟩ := h
  exact .nothing (Request.accepted?_of_route_ne hanalyses) (Request.accepted?_of_route_ne hexplain)
    hclear

/-- Without an accepted query nothing is done, except where none is needed. -/
theorem serves_unaccepted {around : Surroundings} {service : Service} {request : Request}
    (hclear : request.route ≠ .endpoint .clear)
    (h : ∀ query, queryIn? request.body = some query → ¬ Policy.Accepts query) :
    Serves around service request service {} :=
  .nothing (Request.accepted?_eq_none fun _ => h) (Request.accepted?_eq_none fun _ => h) hclear

/-- What is done for a request with a query is done for the query. -/
theorem serves_withQuery {around : Surroundings} {service : Service} {request : Request}
    (endpoint : Endpoint) (hclear : request.route ≠ .endpoint .clear)
    {serve : Text → Service × Response} (h : ∀ query, queryIn? request.body = some query →
      Serves around service request (serve query).1 (serve query).2.work) :
    Serves around service request (withQuery endpoint request service serve).1
      (withQuery endpoint request service serve).2.work := by
  cases hbody : queryIn? request.body with
  | none =>
    obtain ⟨hservice, hwork⟩ := withQuery_of_none hbody
    rw [hservice, hwork]
    exact serves_unaccepted hclear (by simp [hbody])
  | some query =>
    rw [withQuery_of_some hbody]
    exact h query hbody

theorem work_validate (query : Text) : (validate query).work = {} := by
  rw [validate]
  split <;> rfl

theorem work_recent (service : Service) (limit : Option Int) : (recent service limit).work = {} := by
  rw [recent]
  split <;> rfl

theorem work_clear (service : Service) : (clear service).2.work = {} := by
  rw [clear]
  split <;> rfl

theorem serves_serveAt (around : Surroundings) (service : Service) {request : Request}
    (address : Address) {e : Endpoint} (hroute : request.route = .endpoint e) :
    Serves around service request (serveAt around service request address e).1
      (serveAt around service request address e).2.work := by
  cases e with
  | health => exact serves_elsewhere (by simp [hroute])
  | examples => exact serves_elsewhere (by simp [hroute])
  | validate =>
    rw [serveAt]
    refine serves_withQuery .validate (by simp [hroute]) fun query _ => ?_
    rw [work_validate]
    exact serves_elsewhere (by simp [hroute])
  | analyses =>
    rw [serveAt]
    refine serves_withQuery .analyses (by simp [hroute]) fun query hbody => ?_
    cases hcheck : Policy.check query with
    | some violation =>
      rw [analyze_of_check hcheck]
      exact serves_unaccepted (by simp [hroute]) (by simp [hbody, Policy.Accepts, hcheck])
    | none =>
      have haccepted := Request.accepted?_of_body hroute hbody hcheck
      by_cases hnests : Advice.NestsTooDeeply request.model
      · rw [analyze_of_nests hcheck hnests]
        exact .unfinished haccepted hnests
      · obtain ⟨analysis, hresult⟩ := (Advice.exists_result_generate_iff query).mpr hnests
        obtain ⟨events, hanalyze⟩ := analyze_of_result hcheck hresult around service
        rw [hanalyze]
        exact .analysis (Request.analyzed?_eq_some_iff.mpr ⟨haccepted, hnests⟩)
  | explain =>
    rw [serveAt]
    refine serves_withQuery .explain (by simp [hroute]) fun query hbody => ?_
    cases hcheck : Policy.check query with
    | some violation =>
      rw [explain_of_check hcheck]
      exact serves_unaccepted (by simp [hroute]) (by simp [hbody, Policy.Accepts, hcheck])
    | none =>
      rw [work_explain_of_accepts hcheck]
      exact .explanation (Request.accepted?_of_body hroute hbody hcheck)
  | recent =>
    rw [serveAt]
    have helsewhere : Serves around service request service {} := serves_elsewhere (by simp [hroute])
    split
    · rw [work_recent]
      exact helsewhere
    · rw [Response.work_misfit]
      exact helsewhere
  | clear =>
    rw [serveAt, work_clear]
    exact .clearing hroute

/-- Only an accepted analysis, an accepted explanation and the clearing of the history do anything. -/
theorem serves (around : Surroundings) (service : Service) (request : Request) :
    Serves around service request (serve around service request).1
      (serve around service request).2.work := by
  cases hroute : request.route with
  | unknownPath =>
    rw [serve_eq, hroute]
    exact serves_elsewhere (by simp [hroute])
  | wrongMethod =>
    rw [serve_eq, hroute]
    exact serves_elsewhere (by simp [hroute])
  | endpoint e =>
    rw [serve_of_route hroute, Response.work_sent]
    exact serves_serveAt around service (Address.ofText request.address) hroute

theorem serveAll_cons (around : Surroundings) (service : Service) (request : Request)
    (rest : List Request) : serveAll around service (request :: rest) =
      ((serveAll around (serve around service request).1 rest).1,
        (serve around service request).2 ::
          (serveAll around (serve around service request).1 rest).2) := by
  rw [serveAll]

end Service

end QueryAdvisor
