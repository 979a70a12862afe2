import QueryAdvisor.Proofs.Policy.Rules
import QueryAdvisor.Proofs.Service.Serving

/-!
# One verdict at three endpoints

A query can be checked, analyzed and explained. The check only tells what the policy says, the other two
go by it, and each comes to it in its own way:

    check        Policy.check ──▶ 200  ok: false, reason, message
    analysis     Policy.check ──▶ 400  reason, message
    explanation  Policy.check ──▶ 400  reason, message

For one and the same body the three never disagree, whatever the model, the sandbox and the history do.
The one exception is a body that cannot be read, for its encoding, an integer in it or its depth: it has no
verdict, and all three refuse it alike.
-/

namespace QueryAdvisor

/-! ### What is told of a violation can be written -/

/-- The words and markers that the policy forbids hold no surrogates. -/
theorem Policy.hasSurrogate_of_check {query : Text} {violation : Violation}
    (h : check query = some violation) {culprit : Text} (hculprit : violation.keyword? = some culprit) :
    culprit.hasSurrogate = false := by
  have hplain : ∀ rule ∈ Rule.all, ∀ culprit ∈ rule.forbidden, Text.hasSurrogate culprit = false := by
    decide +kernel
  obtain ⟨rule, -, -, hnames⟩ := exists_isFirstViolated_of_check h
  rw [hculprit] at hnames
  obtain ⟨-, before, after, hforbidden, -⟩ := hnames
  exact hplain rule (Rule.mem_all rule) culprit (by rw [hforbidden]; simp)

theorem Violation.hasSurrogate_message {violation : Violation}
    (h : ∀ culprit, violation.keyword? = some culprit → culprit.hasSurrogate = false) :
    violation.message.hasSurrogate = false := by
  cases violation with
  | definition k =>
    simp [message, Text.hasSurrogate_append, Text.hasSurrogate_ofString, h k rfl]
  | manipulation k =>
    simp [message, Text.hasSurrogate_append, Text.hasSurrogate_ofString, h k rfl]
  | transaction k =>
    simp [message, Text.hasSurrogate_append, Text.hasSurrogate_ofString, h k rfl]
  | _ => exact Text.hasSurrogate_ofString _

theorem leaves_message {query : Text} {violation : Violation}
    (h : Policy.check query = some violation) : (Json.str violation.message).Leaves :=
  Json.leaves_str (Violation.hasSurrogate_message fun _ => Policy.hasSurrogate_of_check h)

/-! ### Verdicts in responses -/

namespace Response

/-- A member of the object in the body. -/
def field? (name : Text) (response : Response) : Option Json :=
  match response.body with
  | .json (.obj members) => Members.get? name members
  | _ => none

/-- The answer of a check that the query is not all right. -/
def SaysNo (response : Response) : Prop :=
  response.status = 200 ∧ response.field? "ok" = some (.bool false)

/-- The answer tells what is wrong with the query. -/
def Tells (reason message : Text) (response : Response) : Prop :=
  response.field? "reason" = some (.str reason) ∧ response.field? "message" = some (.str message)

/-- The answers to a check, an analysis and an explanation agree: the body does not fit, for the same
faults, or the last two refuse the query if and only if the first says no, and all tell the same of it. -/
def Agree (checked analyzed explained : Response) : Prop :=
  (∃ faults, ∀ response ∈ [checked, analyzed, explained],
    response.status = 422 ∧ response.body = .misfits faults) ∨
  ((∀ response ∈ [checked, analyzed, explained], response.status ≠ 422) ∧
    (∀ response ∈ [analyzed, explained], response.status = 400 ↔ checked.SaysNo) ∧
    (checked.SaysNo → ∃ reason message, ∀ response ∈ [checked, analyzed, explained],
      response.Tells reason message))

/-- The member of a name in an object with other names before it. -/
theorem field?_object {response : Response} {pairs : List (String × Json)}
    (hbody : response.body = .json (.object pairs)) (name : String) :
    response.field? name = pairs.lookup name := by
  rw [field?, hbody]
  exact Members.get?_object name pairs

/-- A response is sent with its status, or as an internal error. -/
theorem status_sent (path : Text) (response : Response) :
    (response.sent path).status = response.status ∨ (response.sent path).status = 500 := by
  rw [sent]
  split
  · exact Or.inl rfl
  · split
    · exact Or.inl rfl
    · exact Or.inr rfl

theorem leaves_internalError :
    (Json.object [("error", .text "Internal server error")]).Leaves :=
  Json.leaves_object ["error"] rfl (by decide) (by simp [Json.leaves_text])

/-! What is sent for a body that does not fit: its fault, or an internal error if the client cannot be
shown what does not fit. -/

theorem sent_misfit {shown : Json} (h : shown.withoutReserved.isWritable = true) (path path' : Text)
    (fault : RequestFault) :
    (misfit path fault shown).sent path' = { status := 422, body := .misfits [fault] } := by
  rw [misfit, if_pos h]
  rfl

theorem status_sent_misfit {shown : Json} (h : ¬ shown.withoutReserved.isWritable = true)
    (path path' : Text) (fault : RequestFault) : ((misfit path fault shown).sent path').status = 500 := by
  rw [misfit, if_neg h, sent_of_leaves rfl leaves_internalError]
  rfl

theorem agree_misfit (fault : RequestFault) (shown : Json) (path path' path'' : Text) :
    Agree ((misfit path fault shown).sent path) ((misfit path' fault shown).sent path')
      ((misfit path'' fault shown).sent path'') := by
  -- the client is shown what does not fit, at all three endpoints the same
  by_cases hshown : shown.withoutReserved.isWritable = true
  · left
    refine ⟨[fault], ?_⟩
    simp [sent_misfit hshown]
  · have hnot : ¬ ((misfit path fault shown).sent path).SaysNo := by
      rintro ⟨hstatus, -⟩
      rw [status_sent_misfit hshown] at hstatus
      cases hstatus
    refine Or.inr ⟨?_, ?_, fun hno => absurd hno hnot⟩
    · simp [status_sent_misfit hshown]
    · simp [status_sent_misfit hshown, hnot]

end Response

namespace Service

/-! ### One endpoint -/

/-- The endpoints that take a query. -/
def gates : List Endpoint := [.validate, .analyses, .explain]

variable {around : Surroundings} {service : Service} {request : Request} {e : Endpoint}

theorem exists_serveAt_eq_withQuery (around : Surroundings) (service : Service) (request : Request)
    (address : Address) (he : e ∈ gates) :
    ∃ serve, serveAt around service request address e = withQuery e request service serve := by
  simp only [gates, List.mem_cons, List.not_mem_nil, or_false] at he
  rcases he with rfl | rfl | rfl <;> exact ⟨_, rfl⟩

theorem serve_of_misfit (he : e ∈ gates) (hroute : request.route = .endpoint e)
    {fault : RequestFault} {shown : Json} (h : BodyResult.ofBytes request.body = .misfit fault shown) :
    (serve around service request).2 = (Response.misfit e.path fault shown).sent e.path := by
  obtain ⟨serveQuery, hserve⟩ :=
    exists_serveAt_eq_withQuery around service request (Address.ofText request.address) he
  rw [serve_of_route hroute, hserve, withQuery, h]

theorem serve_of_unreadable (he : e ∈ gates) (hroute : request.route = .endpoint e)
    (h : BodyResult.ofBytes request.body = .unreadable) :
    (serve around service request).2 = .unreadableBody := by
  obtain ⟨serveQuery, hserve⟩ :=
    exists_serveAt_eq_withQuery around service request (Address.ofText request.address) he
  have hbody : Response.unreadableBody.body =
      .json (.object [("detail", .text "There was an error parsing the body")]) := rfl
  have hleaves : (Json.object [("detail", .text "There was an error parsing the body")]).Leaves :=
    Json.leaves_object ["detail"] rfl (by decide) (by simp [Json.leaves_text])
  rw [serve_of_route hroute, hserve, withQuery, h]
  exact Response.sent_of_leaves hbody hleaves e.path

/-! ### One query -/

variable {query : Text} {violation : Violation}

/-- The body of a check that says no. -/
def noBody (violation : Violation) : Json :=
  .object [("ok", .bool false), ("reason", .text violation.reason), ("message", .str violation.message)]

theorem validate_of_check (h : Policy.check query = some violation) (path : Text) :
    (validate query).sent path = .ok (noBody violation) := by
  have hleaves : (noBody violation).Leaves :=
    Json.leaves_object ["ok", "reason", "message"] rfl (by decide)
      (by simp [Json.leaves_bool, Json.leaves_text, leaves_message h])
  rw [validate, h]
  exact Response.sent_of_leaves (v := noBody violation) rfl hleaves _

theorem validate_of_accepts (h : Policy.Accepts query) (path : Text) :
    ((validate query).sent path).field? "ok" = some (.bool true) := by
  have hbody : (validate query).body =
      .json (.object [("ok", .bool true), ("reason", .null), ("message", .null)]) := by
    rw [validate, show Policy.check query = none from h]
    rfl
  have hleaves : (Json.object [("ok", .bool true), ("reason", .null), ("message", .null)]).Leaves :=
    Json.leaves_object ["ok", "reason", "message"] rfl (by decide)
      (by simp [Json.leaves_bool, Json.leaves_null])
  rw [Response.sent_of_leaves hbody hleaves, Response.field?_object hbody]
  rfl

/-- A response with the body of a rejection is sent as it is. -/
theorem sent_rejection (h : Policy.check query = some violation) (response : Response)
    (hbody : response.body = .json (Response.rejectionBody violation)) (path : Text) :
    response.sent path = response := by
  refine Response.sent_of_leaves hbody ?_ path
  exact Json.leaves_object ["error", "reason", "message"] rfl (by decide)
    (by simp [Json.leaves_text, leaves_message h])

theorem tells_rejection {response : Response}
    (hbody : response.body = .json (Response.rejectionBody violation)) :
    response.Tells (Text.ofString violation.reason) violation.message := by
  constructor
  · rw [Response.field?_object hbody]
    rfl
  · rw [Response.field?_object hbody]
    rfl

/-- What is answered to a query that the policy rejects. -/
theorem agree_of_check (h : Policy.check query = some violation) (model : ModelBehaviour)
    (sandbox : Sandbox) :
    Response.Agree ((validate query).sent Endpoint.validate.path)
      ((analyze around model service query).2.sent Endpoint.analyses.path)
      ((explain sandbox query).sent Endpoint.explain.path) := by
  rw [validate_of_check h, analyze_of_check h, explain_of_check h,
    sent_rejection h { Response.rejection violation with events := [.queryRejected violation] } rfl,
    sent_rejection h (Response.rejection violation) rfl]
  have hno : (Response.ok (noBody violation)).SaysNo := by
    refine ⟨rfl, ?_⟩
    rw [Response.field?_object rfl]
    rfl
  have htells : (Response.ok (noBody violation)).Tells (Text.ofString violation.reason)
      violation.message := by
    constructor
    · rw [Response.field?_object rfl]
      rfl
    · rw [Response.field?_object rfl]
      rfl
  refine Or.inr ⟨?_, ?_, fun _ => ⟨Text.ofString violation.reason, violation.message, ?_⟩⟩
  · simp [Response.ok, Response.rejection]
  · simp [Response.rejection, hno]
  · simp only [List.forall_mem_cons, List.not_mem_nil, false_imp_iff, implies_true, and_true]
    exact ⟨htells, tells_rejection rfl, tells_rejection rfl⟩

theorem status_answerPlan {outcome : Except PlanFault ExecutionPlan}
    (h : ∀ violation, outcome ≠ .error (.rejected violation)) :
    (answerPlan outcome).status = 200 ∨ (answerPlan outcome).status = 500 := by
  unfold answerPlan
  split
  · exact Or.inl rfl
  · next violation => exact absurd rfl (h violation)
  · split
    · exact Or.inl rfl
    · exact Or.inr rfl

theorem summarize_ne_rejected (outcome : Except ExplainFault (RawPlan × Bool))
    (violation : Violation) : Acquisition.summarize outcome ≠ .error (.rejected violation) := by
  unfold Acquisition.summarize
  split
  · simp
  · split
    · simp
    · simp
    · split <;> simp

theorem status_analyze_of_accepts (h : Policy.Accepts query) (model : ModelBehaviour) :
    (analyze around model service query).2.status = 200 ∨
      (analyze around model service query).2.status = 500 := by
  by_cases hnests : Advice.NestsTooDeeply model
  · rw [analyze_of_nests h hnests]
    exact Or.inr rfl
  · obtain ⟨analysis, hresult⟩ := (Advice.exists_result_generate_iff query).mpr hnests
    obtain ⟨events, hanalyze⟩ := analyze_of_result h hresult around service
    rw [hanalyze]
    exact Or.inl rfl

theorem status_explain_of_accepts (h : Policy.Accepts query) (sandbox : Sandbox) :
    (explain sandbox query).status = 200 ∨ (explain sandbox query).status = 500 := by
  rw [explain, Acquisition.fromSandbox, Acquisition.ofQuery, show Policy.check query = none from h]
  exact status_answerPlan (summarize_ne_rejected _)

/-- What is answered to a query that the policy accepts. -/
theorem agree_of_accepts (h : Policy.Accepts query) (model : ModelBehaviour) (sandbox : Sandbox) :
    Response.Agree ((validate query).sent Endpoint.validate.path)
      ((analyze around model service query).2.sent Endpoint.analyses.path)
      ((explain sandbox query).sent Endpoint.explain.path) := by
  -- nobody says no: the check says yes, and of the other two sending makes an internal error at worst
  have hyes : ((validate query).sent Endpoint.validate.path).field? "ok" = some (.bool true) :=
    validate_of_accepts h Endpoint.validate.path
  have hnot : ¬ ((validate query).sent Endpoint.validate.path).SaysNo := by
    rintro ⟨-, hok⟩
    rw [hyes] at hok
    cases hok
  have hchecked : (validate query).status = 200 := by
    rw [validate]
    split <;> rfl
  have hanalyzed : (analyze around model service query).2.status = 200 ∨
      (analyze around model service query).2.status = 500 := status_analyze_of_accepts h model
  have hexplained := status_explain_of_accepts h sandbox
  have hsent := Response.status_sent Endpoint.validate.path (validate query)
  have hsent' := Response.status_sent Endpoint.analyses.path (analyze around model service query).2
  have hsent'' := Response.status_sent Endpoint.explain.path (explain sandbox query)
  refine Or.inr ⟨?_, ?_, fun hno => absurd hno hnot⟩
  · simp only [List.forall_mem_cons, List.not_mem_nil, false_imp_iff, implies_true, and_true]
    omega
  · simp only [List.forall_mem_cons, List.not_mem_nil, false_imp_iff, implies_true, and_true,
      iff_false_right hnot]
    omega

/-! ### One body -/

/-- The request puts a body to an endpoint. -/
structure Puts (e : Endpoint) (body : Bytes) (request : Request) : Prop where
  goes : request.route = .endpoint e
  holds : request.body = body

theorem puts_plain (e : Endpoint) (body : Bytes) : Puts e body (.plain e body) :=
  ⟨Request.route_plain e body, rfl⟩

/-- A body that cannot be read is refused as such, at every endpoint that takes a query. -/
theorem serve_of_puts_unreadable {body : Bytes} (hbody : Unreadable body) (he : e ∈ gates)
    (h : Puts e body request) : (serve around service request).2 = .unreadableBody := by
  obtain ⟨hroute, rfl⟩ := h
  exact serve_of_unreadable he hroute (BodyResult.ofBytes_eq_unreadable_iff.mpr hbody)

theorem not_agree_unreadableBody :
    ¬ Response.Agree .unreadableBody .unreadableBody .unreadableBody := by
  rintro (⟨faults, hfaults⟩ | ⟨-, hrefuse, -⟩)
  · obtain ⟨hstatus, -⟩ := hfaults .unreadableBody (by simp)
    cases hstatus
  · obtain ⟨hstatus, -⟩ := (hrefuse .unreadableBody (by simp)).mp rfl
    cases hstatus

/-- What is answered to a body that can be read. -/
theorem agree_of_readable {body : Bytes} (hbody : ¬ Unreadable body)
    {check analysis plan : Request} (hcheck : Puts .validate body check)
    (hanalysis : Puts .analyses body analysis) (hplan : Puts .explain body plan)
    (service service' service'' : Service) :
    Response.Agree (serve around service check).2 (serve around service' analysis).2
      (serve around service'' plan).2 := by
  obtain ⟨hcheck, rfl⟩ := hcheck
  obtain ⟨hanalysis, hanalysisBody⟩ := hanalysis
  obtain ⟨hplan, hplanBody⟩ := hplan
  cases hresult : BodyResult.ofBytes check.body with
  | unreadable => exact absurd (BodyResult.ofBytes_eq_unreadable_iff.mp hresult) hbody
  | misfit fault shown =>
    rw [serve_of_misfit (by decide) hcheck hresult,
      serve_of_misfit (by decide) hanalysis (hanalysisBody ▸ hresult),
      serve_of_misfit (by decide) hplan (hplanBody ▸ hresult)]
    exact Response.agree_misfit _ _ _ _ _
  | query query =>
    have holds := queryIn?_of_ofBytes hresult
    rw [serve_of_route hcheck, serve_of_route hanalysis, serve_of_route hplan, serveAt, serveAt,
      serveAt, withQuery_of_some holds, withQuery_of_some (hanalysisBody ▸ holds),
      withQuery_of_some (hplanBody ▸ holds)]
    cases haccepts : Policy.check query with
    | some violation => exact agree_of_check haccepts _ _
    | none => exact agree_of_accepts haccepts _ _

/-- The check, the analysis and the explanation of one body agree if and only if the body can be read;
if it cannot, they refuse it alike, without a verdict. -/
theorem agree_iff_readable {body : Bytes} {check analysis plan : Request}
    (hcheck : Puts .validate body check) (hanalysis : Puts .analyses body analysis)
    (hplan : Puts .explain body plan) (around : Surroundings) (service service' service'' : Service) :
    (Response.Agree (serve around service check).2 (serve around service' analysis).2
        (serve around service'' plan).2 ↔ ¬ Unreadable body) ∧
      (Unreadable body → ∀ response ∈ [(serve around service check).2,
        (serve around service' analysis).2, (serve around service'' plan).2],
          response = .unreadableBody) := by
  have hrefused : Unreadable body → (serve around service check).2 = .unreadableBody ∧
      (serve around service' analysis).2 = .unreadableBody ∧
      (serve around service'' plan).2 = .unreadableBody := by
    intro hbody
    exact ⟨serve_of_puts_unreadable hbody (by decide) hcheck,
      serve_of_puts_unreadable hbody (by decide) hanalysis,
      serve_of_puts_unreadable hbody (by decide) hplan⟩
  refine ⟨⟨?_, fun hbody => agree_of_readable hbody hcheck hanalysis hplan _ _ _⟩, ?_⟩
  · intro hagree hbody
    obtain ⟨hchecked, hanalyzed, hexplained⟩ := hrefused hbody
    rw [hchecked, hanalyzed, hexplained] at hagree
    exact not_agree_unreadableBody hagree
  · intro hbody
    obtain ⟨hchecked, hanalyzed, hexplained⟩ := hrefused hbody
    simp [hchecked, hanalyzed, hexplained]

/-- A body with a query that is rejected. -/
def rejectedBody : Bytes := Request.bodyWith "DROP TABLE t"

/-- The three agree on the rejected query, one of them with a history that is closed. -/
theorem agree_iff_readable_rejected :
    Puts .validate rejectedBody (.plain .validate rejectedBody) ∧
      Puts .analyses rejectedBody (.plain .analyses rejectedBody) ∧
      Puts .explain rejectedBody (.plain .explain rejectedBody) ∧
      Response.Agree
        (serve .counting { history := { maxItems := 5 } } (.plain .validate rejectedBody)).2
        (serve .counting { history := { maxItems := 5, isOpen := false } }
          (.plain .analyses rejectedBody)).2
        (serve .counting { history := { maxItems := 5 } } (.plain .explain rejectedBody)).2 := by
  have hcheck : Puts .validate rejectedBody (.plain .validate rejectedBody) := puts_plain _ _
  have hanalysis : Puts .analyses rejectedBody (.plain .analyses rejectedBody) := puts_plain _ _
  have hplan : Puts .explain rejectedBody (.plain .explain rejectedBody) := puts_plain _ _
  have hquery : queryIn? rejectedBody = some (Text.ofString "DROP TABLE t") := by decide +kernel
  refine ⟨hcheck, hanalysis, hplan, ?_⟩
  exact (agree_iff_readable hcheck hanalysis hplan .counting _ _ _).1.mpr (readable_of_queryIn? hquery)

/-- A text whose zeros pass for those of UTF-16, which then ends in the middle of a unit. -/
def halfUnit : Text := "\x7b\x00\x7d\x00 "

/-- So they do not agree on every body that is a text. -/
theorem not_forall_agree : ¬ ∀ (text : Text) (check analysis plan : Request),
    Puts .validate (Encoding.encodeUtf8 text) check →
    Puts .analyses (Encoding.encodeUtf8 text) analysis →
    Puts .explain (Encoding.encodeUtf8 text) plan →
    ∀ (around : Surroundings) (service service' service'' : Service),
      Response.Agree (serve around service check).2 (serve around service' analysis).2
        (serve around service'' plan).2 := by
  intro h
  have hbody : Unreadable (Encoding.encodeUtf8 halfUnit) := by
    left
    rw [Json.ofBytes, show Text.ofBytes? (Encoding.encodeUtf8 halfUnit) = none by decide +kernel]
  have hputs : ∀ e, Puts e (Encoding.encodeUtf8 halfUnit) (.plain e (Encoding.encodeUtf8 halfUnit)) :=
    fun e => puts_plain e _
  have hagree := h halfUnit _ _ _ (hputs .validate) (hputs .analyses) (hputs .explain)
    .counting { history := { maxItems := 5 } } { history := { maxItems := 5 } }
    { history := { maxItems := 5 } }
  rw [serve_of_puts_unreadable hbody (by decide) (hputs .validate),
    serve_of_puts_unreadable hbody (by decide) (hputs .analyses),
    serve_of_puts_unreadable hbody (by decide) (hputs .explain)] at hagree
  exact not_agree_unreadableBody hagree

end Service

end QueryAdvisor
