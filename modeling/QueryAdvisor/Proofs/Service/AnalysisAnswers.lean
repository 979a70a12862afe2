import QueryAdvisor.Proofs.Advice.Strategies
import QueryAdvisor.Proofs.Analysis.Written
import QueryAdvisor.Proofs.Service.Verdicts

/-!
# What an analysis is answered with

A request for an analysis is refused or gets its analysis, whatever becomes of the model and of the
history. Two things can be in the way, both of them in the model's reply:

    query rejected ──────────────────────────────▶ 400  reason, message
    query accepted ─┬─ any other reply or none ──▶ 200  the analysis
                    ├─ a garbled reply ──────────▶ 500  nothing of the analysis
                    └─ one nested too deeply ────▶ 500  there is no analysis

A reply is garbled if one of the texts that the analysis takes from it holds a surrogate alone, which an escape
can name but no response can carry. Nothing else ever makes an internal error of the request.
-/

namespace QueryAdvisor

namespace Advice

/-- The model replies with an object in which a text for the analysis holds a surrogate alone. -/
def Garbles (model : ModelBehaviour) : Prop := ∃ reply, Replies model reply ∧ Analysis.Garbled reply

/-- Nothing can be sent of what the model leads to, or it leads to nothing. -/
def Spoils (model : ModelBehaviour) : Prop := Garbles model ∨ NestsTooDeeply model

variable {model : ModelBehaviour} {query : Text} {analysis : Analysis}

/-- A surrogate in the analysis comes from the reply, never from the query. -/
theorem exists_hasSurrogate_texts_generate_iff (h : (generate model query).result = .ok analysis) :
    (∃ t ∈ analysis.texts, t.hasSurrogate = true) ↔ Garbles model := by
  rcases replies_or_fails_or_nests model with ⟨reply, hreplies⟩ | hfails | hnests
  · rw [generate_of_replies hreplies] at h
    obtain rfl := Except.ok.inj h
    rw [Analysis.exists_hasSurrogate_texts_ofObject_iff]
    constructor
    · intro hgarbled
      exact ⟨reply, hreplies, hgarbled⟩
    · rintro ⟨other, hother, hgarbled⟩
      exact replies_unique hother hreplies ▸ hgarbled
  · rw [generate_of_fails hfails] at h
    obtain rfl := Except.ok.inj h
    constructor
    · rintro ⟨t, ht, hsurrogate⟩
      rw [Analysis.hasSurrogate_texts_ofStructure query t ht] at hsurrogate
      cases hsurrogate
    · rintro ⟨reply, hreplies, -⟩
      exact absurd hreplies (not_replies_of_fails hfails reply)
  · exact absurd hnests ((exists_result_generate_iff query).mp ⟨analysis, h⟩)

theorem isWritable_generate_iff (h : (generate model query).result = .ok analysis) :
    analysis.toJson.isWritable = true ↔ ¬ Garbles model := by
  rw [Analysis.isWritable_toJson_iff, ← exists_hasSurrogate_texts_generate_iff h]
  simp only [not_exists, not_and, Bool.not_eq_true]

end Advice

namespace Response

/-- The response that a query calls for: what is wrong with it, or its analysis as the model leads to it. -/
def Delivers (model : ModelBehaviour) (query : Text) (response : Response) : Prop :=
  match Policy.check query with
  | some violation => response.status = 400 ∧ response.body = .json (rejectionBody violation)
  | none =>
    response.status = 200 ∧ ∃ analysis, (Advice.generate model query).result = .ok analysis ∧
      response.body = .json analysis.toJson

/-- An analysis is sent as it is, or not at all. -/
theorem sent_analysis {response : Response} {analysis : Analysis}
    (hbody : response.body = .json analysis.toJson) (path : Text) : response.sent path =
      if analysis.toJson.isWritable then response else response.broken path := by
  rw [sent, hbody]
  simp only [Analysis.withoutReserved_toJson, ← hbody]

end Response

namespace Service

variable {around : Surroundings} {service : Service} {request : Request} {query : Text}

theorem serve_analyses (h : request.query? .analyses = some query) :
    (serve around service request).2 =
      (analyze around request.model service query).2.sent Endpoint.analyses.path := by
  obtain ⟨hroute, hbody⟩ := Request.query?_eq_some_iff.mp h
  rw [serve_of_route hroute, serveAt, withQuery_of_some hbody]

/-- A query that is rejected is answered with what is wrong with it, -/
theorem serve_analyses_of_check (h : request.query? .analyses = some query) {violation : Violation}
    (hcheck : Policy.check query = some violation) : (serve around service request).2 =
      { Response.rejection violation with events := [.queryRejected violation] } := by
  rw [serve_analyses h, analyze_of_check hcheck]
  exact sent_rejection hcheck _ rfl _

/-- one that is accepted with its analysis, if there is one and it can be written, -/
theorem serve_analyses_of_clear (h : request.query? .analyses = some query)
    (haccepts : Policy.Accepts query) (hclear : ¬ Advice.Spoils request.model) :
    (serve around service request).2.status = 200 ∧
      ∃ analysis, (Advice.generate request.model query).result = .ok analysis ∧
        (serve around service request).2.body = .json analysis.toJson := by
  obtain ⟨hlegible, hflat⟩ := not_or.mp hclear
  obtain ⟨analysis, hresult⟩ := (Advice.exists_result_generate_iff query).mpr hflat
  obtain ⟨events, hanalyze⟩ := analyze_of_result haccepts hresult around service
  rw [serve_analyses h, hanalyze, Response.sent_analysis rfl,
    if_pos ((Advice.isWritable_generate_iff hresult).mpr hlegible)]
  exact ⟨rfl, analysis, hresult, rfl⟩

/-- and with an internal error otherwise. -/
theorem serve_analyses_of_spoils (h : request.query? .analyses = some query)
    (haccepts : Policy.Accepts query) (hspoils : Advice.Spoils request.model) :
    (serve around service request).2.status = 500 := by
  by_cases hnests : Advice.NestsTooDeeply request.model
  · rw [serve_analyses h, analyze_of_nests haccepts hnests]
    exact (Response.status_sent _ (unfinished query)).elim id id
  · obtain ⟨analysis, hresult⟩ := (Advice.exists_result_generate_iff query).mpr hnests
    obtain ⟨events, hanalyze⟩ := analyze_of_result haccepts hresult around service
    have hgarbles : Advice.Garbles request.model := hspoils.resolve_right hnests
    have hunwritable : ¬ analysis.toJson.isWritable = true := by
      rw [Advice.isWritable_generate_iff hresult]
      exact not_not_intro hgarbles
    rw [serve_analyses h, hanalyze, Response.sent_analysis rfl, if_neg hunwritable]
    rfl

theorem delivers_of_clear (h : request.query? .analyses = some query)
    (hclear : ¬ (Policy.Accepts query ∧ Advice.Spoils request.model)) :
    (serve around service request).2.Delivers request.model query := by
  rw [Response.Delivers]
  cases hcheck : Policy.check query with
  | some violation =>
    rw [serve_analyses_of_check h hcheck]
    exact ⟨rfl, rfl⟩
  | none => exact serve_analyses_of_clear h hcheck fun hspoils => hclear ⟨hcheck, hspoils⟩

theorem status_ne_of_delivers {model : ModelBehaviour} {response : Response}
    (h : response.Delivers model query) : response.status ≠ 500 := by
  rw [Response.Delivers] at h
  split at h
  · rw [h.1]
    decide
  · rw [h.1]
    decide

/-- A request for an analysis is answered as its query calls for, and without an internal error, unless the
query is accepted and the model's reply is garbled or nested too deeply. Neither the history nor any other
behaviour of the model makes a difference. -/
theorem delivers_analyses_iff (h : request.query? .analyses = some query) (around : Surroundings)
    (service : Service) :
    ((serve around service request).2.Delivers request.model query ↔
        ¬ (Policy.Accepts query ∧ Advice.Spoils request.model)) ∧
      ((serve around service request).2.status = 500 ↔
        Policy.Accepts query ∧ Advice.Spoils request.model) := by
  constructor
  · constructor
    · rintro hdelivers ⟨haccepts, hspoils⟩
      exact status_ne_of_delivers hdelivers (serve_analyses_of_spoils h haccepts hspoils)
    · intro hclear
      exact delivers_of_clear h hclear
  · constructor
    · intro hstatus
      refine Classical.byContradiction fun hclear => ?_
      exact status_ne_of_delivers (delivers_of_clear h hclear) hstatus
    · rintro ⟨haccepts, hspoils⟩
      exact serve_analyses_of_spoils h haccepts hspoils

/-! A reply whose headline is a surrogate alone, written as an escape. -/

def plainQuery : Text := "SELECT id FROM orders"

def garbledContent : Text := "\x7b\"headline\": \"\\ud800\"\x7d"

def garbledRequest : Request :=
  { Request.plain .analyses (Request.bodyWith plainQuery) with
    model := .returns { content := some garbledContent, error := none } }

theorem query?_garbledRequest : garbledRequest.query? .analyses = some plainQuery := by
  refine Request.query?_eq_some_iff.mpr ⟨?_, by decide +kernel⟩
  exact Request.route_plain .analyses (Request.bodyWith plainQuery)

theorem accepts_plainQuery : Policy.Accepts plainQuery := by decide +kernel

theorem garbles_garbledRequest : Advice.Garbles garbledRequest.model := by
  have hheadline : (Advice.generate garbledRequest.model plainQuery).result.toOption.any
      (fun analysis => analysis.headline.hasSurrogate) = true := by decide +kernel
  obtain ⟨analysis, hresult, hsurrogate⟩ := Json.exists_of_any_toOption hheadline
  exact (Advice.exists_hasSurrogate_texts_generate_iff hresult).mp
    ⟨_, List.mem_cons_self .., hsurrogate⟩

theorem delivers_analyses_iff_garbled :
    garbledRequest.query? .analyses = some plainQuery ∧
      (serve .counting { history := { maxItems := 5 } } garbledRequest).2.status = 500 := by
  refine ⟨query?_garbledRequest, ?_⟩
  exact (delivers_analyses_iff query?_garbledRequest .counting _).2.mpr
    ⟨accepts_plainQuery, Or.inl garbles_garbledRequest⟩

/-- So an accepted query does not always get its analysis. -/
theorem not_forall_delivers : ¬ ∀ (around : Surroundings) (service : Service) (request : Request)
    (query : Text), request.query? .analyses = some query →
      (serve around service request).2.Delivers request.model query := by
  intro h
  have hdelivers := h .counting { history := { maxItems := 5 } } garbledRequest plainQuery
    query?_garbledRequest
  exact status_ne_of_delivers hdelivers
    (serve_analyses_of_spoils query?_garbledRequest accepts_plainQuery
      (Or.inl garbles_garbledRequest))

end Service

end QueryAdvisor
