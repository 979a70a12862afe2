import QueryAdvisor.Proofs.Json.Parts
import QueryAdvisor.Proofs.Service.AnalysisAnswers

/-!
# Plans that are delivered

A plan that was obtained is sent, with its root node as the database returned it. Databases may return more
than can be sent:

    number that is not finite, surrogate alone  ──▶ internal error
    member with a reserved name                 ──▶ sent, but without that member
    anything else                               ──▶ sent as it is

So it depends on the parts of the root, at whatever depth they are, and on the numbers of the summary.
-/

namespace QueryAdvisor

namespace ExecutionPlan

variable {plan : ExecutionPlan}

/-- The numbers of the summary that are known. -/
def numbers (plan : ExecutionPlan) : List Double :=
  plan.totalCost :: (plan.executionTime.toList ++ plan.rows.toList ++ plan.actualRows.toList)

/-- Something in the summary cannot be written. -/
def Obstructed (plan : ExecutionPlan) : Prop :=
  (∃ x ∈ plan.numbers, x.isFinite = false) ∨
    ∃ part, Json.Sends (.obj plan.plan) part ∧ part.Obstacle

/-- Something in the root node has a reserved name. -/
def Curtailed (plan : ExecutionPlan) : Prop :=
  ∃ part, Json.Sends (.obj plan.plan) part ∧ part.Curtailed

/-- What is sent of the summary. -/
def withoutReserved (plan : ExecutionPlan) : ExecutionPlan :=
  { plan with plan := Json.membersWithoutReserved plan.plan }

/-! ### The summary as an object -/

theorem withoutReserved_numberToJson (x? : Option Double) :
    (numberToJson x?).withoutReserved = numberToJson x? := by
  cases x? <;> rfl

theorem numberToJson_inj {x? y? : Option Double} : numberToJson x? = numberToJson y? ↔ x? = y? := by
  cases x? <;> cases y? <;> simp [numberToJson]

theorem isWritable_numberToJson (x? : Option Double) :
    (numberToJson x?).isWritable = x?.toList.all Double.isFinite := by
  cases x? with
  | none => rfl
  | some x => simp [numberToJson, Json.isWritable]

theorem withoutReserved_toJson (plan : ExecutionPlan) :
    plan.toJson.withoutReserved = plan.withoutReserved.toJson := by
  rw [toJson, Json.withoutReserved_object_map
    ["totalCost", "executionTime", "rows", "actualRows", "analyzed", "plan"] rfl (by decide)]
  simp only [List.map_cons, List.map_nil, withoutReserved_numberToJson]
  rfl

theorem isWritable_toJson (plan : ExecutionPlan) : plan.toJson.isWritable =
    (plan.numbers.all Double.isFinite && (Json.obj plan.plan).isWritable) := by
  rw [toJson, Json.isWritable_object]
  simp only [List.all_cons, List.all_nil, isWritable_numberToJson, numbers, List.all_append,
    Bool.and_true, Bool.and_assoc]
  rfl

/-- Everything in the summary can be written, unless it is obstructed. -/
theorem isWritable_withoutReserved_iff :
    plan.withoutReserved.toJson.isWritable = true ↔ ¬ plan.Obstructed := by
  have hroot : Json.obj plan.withoutReserved.plan = (Json.obj plan.plan).withoutReserved := rfl
  rw [isWritable_toJson, Bool.and_eq_true, hroot, Json.isWritable_withoutReserved_iff, List.all_eq_true,
    Obstructed, not_or]
  simp [withoutReserved, numbers]

/-- The summary is sent whole, unless it is curtailed. -/
theorem withoutReserved_eq_iff : plan.withoutReserved = plan ↔ ¬ plan.Curtailed := by
  have hroot : plan.withoutReserved = plan ↔
      (Json.obj plan.plan).withoutReserved = Json.obj plan.plan := by
    rw [Json.withoutReserved, Json.obj.injEq]
    constructor
    · intro h
      exact congrArg ExecutionPlan.plan h
    · intro h
      rw [withoutReserved, h]
  rw [hroot, Json.withoutReserved_eq_iff, Curtailed]
  simp

end ExecutionPlan

/-- The answer with a plan determines the plan. -/
theorem Service.planBody_inj {plan plan' : ExecutionPlan} :
    planBody plan = planBody plan' ↔ plan = plan' := by
  cases plan
  cases plan'
  simp [planBody, ExecutionPlan.toJson, Json.object, ExecutionPlan.numberToJson_inj]

namespace Response

/-- The response brings the plan. -/
structure Brings (plan : ExecutionPlan) (response : Response) : Prop where
  answered : response.status = 200
  brought : response.body = .json (Service.planBody plan)

variable {response : Response} {plan plan' : ExecutionPlan}

theorem Brings.status_ne (h : response.Brings plan) : response.status ≠ 500 := by
  rw [h.answered]
  decide

theorem Brings.plan_eq (h : response.Brings plan) (h' : response.Brings plan') : plan = plan' := by
  have hbody := h.brought.symm.trans h'.brought
  exact Service.planBody_inj.mp (ResponseBody.json.inj hbody)

end Response

namespace Service

variable {request : Request} {query : Text} {plan : ExecutionPlan}

/-! ### The answer with a plan -/

theorem withoutReserved_planBody (plan : ExecutionPlan) :
    (planBody plan).withoutReserved = planBody plan.withoutReserved := by
  rw [planBody, Json.withoutReserved_object_map ["ok", "plan"] rfl (by decide)]
  simp only [List.map_cons, List.map_nil, ExecutionPlan.withoutReserved_toJson]
  rfl

theorem isWritable_planBody (plan : ExecutionPlan) :
    (planBody plan).isWritable = plan.toJson.isWritable := by
  rw [planBody, Json.isWritable_object]
  simp [Json.isWritable]

theorem serve_explain (h : request.query? .explain = some query) (around : Surroundings)
    (service : Service) : (serve around service request).2 =
      (explain request.sandbox query).sent Endpoint.explain.path := by
  obtain ⟨hroute, hbody⟩ := Request.query?_eq_some_iff.mp h
  rw [serve_of_route hroute, serveAt, withQuery_of_some hbody]

theorem brings_explain {sandbox : Sandbox}
    (hplan : (Acquisition.fromSandbox sandbox query).outcome = .ok plan) :
    (explain sandbox query).Brings plan := by
  rw [explain, hplan]
  exact ⟨rfl, rfl⟩

theorem serve_explain_of_clear (h : request.query? .explain = some query)
    (hplan : (Acquisition.fromSandbox request.sandbox query).outcome = .ok plan)
    (hclear : ¬ plan.Obstructed) (around : Surroundings) (service : Service) :
    (serve around service request).2.Brings plan.withoutReserved := by
  obtain ⟨hstatus, hbody⟩ := brings_explain hplan
  have hwritable : (planBody plan).withoutReserved.isWritable = true := by
    rw [withoutReserved_planBody, isWritable_planBody]
    exact ExecutionPlan.isWritable_withoutReserved_iff.mpr hclear
  rw [serve_explain h, Response.sent_of_writable hbody hwritable, withoutReserved_planBody]
  exact ⟨hstatus, rfl⟩

theorem serve_explain_of_obstructed (h : request.query? .explain = some query)
    (hplan : (Acquisition.fromSandbox request.sandbox query).outcome = .ok plan)
    (hobstructed : plan.Obstructed) (around : Surroundings) (service : Service) :
    (serve around service request).2.status = 500 := by
  have hunwritable : ¬ (planBody plan).withoutReserved.isWritable = true := by
    rw [withoutReserved_planBody, isWritable_planBody, ExecutionPlan.isWritable_withoutReserved_iff]
    exact not_not_intro hobstructed
  rw [serve_explain h, Response.status_sent_of_unwritable (brings_explain hplan).2 hunwritable]

/-- A plan that was obtained for a query is delivered if and only if nothing in it is an obstacle or has a
reserved name. An obstacle makes an internal error of it; without one, the plan is delivered without what
has a reserved name. -/
theorem brings_explain_iff (h : request.query? .explain = some query)
    (hplan : (Acquisition.fromSandbox request.sandbox query).outcome = .ok plan)
    (around : Surroundings) (service : Service) :
    ((serve around service request).2.Brings plan ↔ ¬ plan.Obstructed ∧ ¬ plan.Curtailed) ∧
      ((serve around service request).2.status = 500 ↔ plan.Obstructed) ∧
      (¬ plan.Obstructed → (serve around service request).2.Brings plan.withoutReserved) := by
  have hclear := fun hclear => serve_explain_of_clear h hplan hclear around service
  have hobstructed := fun hobstructed => serve_explain_of_obstructed h hplan hobstructed around service
  refine ⟨⟨?_, ?_⟩, ⟨?_, hobstructed⟩, hclear⟩
  · intro hbrings
    have hnot : ¬ plan.Obstructed := fun hobs => hbrings.status_ne (hobstructed hobs)
    exact ⟨hnot, ExecutionPlan.withoutReserved_eq_iff.mp ((hclear hnot).plan_eq hbrings)⟩
  · rintro ⟨hnot, hwhole⟩
    have hbrings := hclear hnot
    rw [ExecutionPlan.withoutReserved_eq_iff.mpr hwhole] at hbrings
    exact hbrings
  · intro hstatus
    refine Classical.byContradiction fun hnot => ?_
    exact (hclear hnot).status_ne hstatus

/-! A cost that is written as a number and is no finite one. -/

def overflowing : Text := "[\x7b\"Plan\": \x7b\"Total Cost\": 1e999\x7d\x7d]"

def overflowingRequest : Request :=
  { Request.plain .explain (Request.bodyWith plainQuery) with
    sandbox := { steps := [.returns (some (.text overflowing))] } }

theorem query?_overflowingRequest : overflowingRequest.query? .explain = some plainQuery := by
  refine Request.query?_eq_some_iff.mpr ⟨?_, by decide +kernel⟩
  exact Request.route_plain .explain (Request.bodyWith plainQuery)

theorem exists_obstructed_overflowingRequest : ∃ plan,
    (Acquisition.fromSandbox overflowingRequest.sandbox plainQuery).outcome = .ok plan ∧
      plan.Obstructed := by
  have hcost : ((Acquisition.fromSandbox overflowingRequest.sandbox plainQuery).outcome.toOption.any
      fun plan => !plan.totalCost.isFinite) = true := by decide +kernel
  cases houtcome : (Acquisition.fromSandbox overflowingRequest.sandbox plainQuery).outcome with
  | error fault =>
    rw [houtcome] at hcost
    cases hcost
  | ok plan =>
    rw [houtcome] at hcost
    have hinfinite : plan.totalCost.isFinite = false := by
      simpa [Except.toOption] using hcost
    exact ⟨plan, rfl, Or.inl ⟨plan.totalCost, List.mem_cons_self .., hinfinite⟩⟩

theorem brings_explain_iff_overflowing : ∃ plan,
    overflowingRequest.query? .explain = some plainQuery ∧
      (Acquisition.fromSandbox overflowingRequest.sandbox plainQuery).outcome = .ok plan ∧
        (serve .counting { history := { maxItems := 5 } } overflowingRequest).2.status = 500 := by
  obtain ⟨plan, hplan, hobstructed⟩ := exists_obstructed_overflowingRequest
  refine ⟨plan, query?_overflowingRequest, hplan, ?_⟩
  exact (brings_explain_iff query?_overflowingRequest hplan .counting _).2.1.mpr hobstructed

/-- So a plan that was obtained is not always delivered. -/
theorem not_forall_brings : ¬ ∀ (around : Surroundings) (service : Service) (request : Request)
    (query : Text) (plan : ExecutionPlan), request.query? .explain = some query →
      (Acquisition.fromSandbox request.sandbox query).outcome = .ok plan →
        (serve around service request).2.Brings plan := by
  intro h
  obtain ⟨plan, hplan, hobstructed⟩ := exists_obstructed_overflowingRequest
  have hbrings := h .counting { history := { maxItems := 5 } } overflowingRequest plainQuery plan
    query?_overflowingRequest hplan
  exact hbrings.status_ne
    (serve_explain_of_obstructed query?_overflowingRequest hplan hobstructed .counting _)

end Service

end QueryAdvisor
