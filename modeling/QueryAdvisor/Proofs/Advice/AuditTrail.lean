import QueryAdvisor.Proofs.Advice.Strategies

/-!
# What the log tells about an analysis

An analysis of a query leaves one record in the log if the query is rejected, and two if it is not:

    rejected                    query_rejected, the reason
    accepted, model replies     analysis_model_ok, the verdict        ─▶ query_analyzed, the verdict
    accepted, model fails       analysis_model_fallback, the cause    ─▶ query_analyzed, the verdict
    accepted, nests too deeply  nothing

The records are written on the way, by the steps that decide. The main statement is that in the end they
tell the truth: the reason is the one that the policy gives, the verdict is that of the analysis that comes
out, the model is said to be of use exactly if it replied with an object, and the cause is what the model
itself gave for its failure, where it gave anything. Of a reply that is nested too deeply the log knows
nothing, since the work on the query ends where it is read.
-/

namespace QueryAdvisor.Advice

/-- The cause that the log names for a failure: the exception, or the error that came back. An empty error
is none, and neither is a reply of no use. -/
inductive Blames : ModelBehaviour → Text → Prop where
  | raised (exception : Text) : Blames (.raises exception) (Text.ofString "llm_error:" ++ exception)
  | erred (content : Option Text) {error : Text} (named : error ≠ []) :
    Blames (.returns { content, error := some error }) error
  | unnamed (content : Option Text) {error : Option Text} (empty : ∀ e, error = some e → e = []) :
    Blames (.returns { content, error }) "unparseable_reply"

/-- What a truthful log tells about the analysis of a query, by how the model behaved and what came out. -/
inductive Tells (model : ModelBehaviour) (query : Text) :
    Except AdviceFault Analysis → List Record → Prop where
  | rejected {violation : Violation} (rejects : Policy.check query = some violation) :
    Tells model query (.error (.rejected violation))
      [⟨.info, "query_rejected", [("reason", .text violation.reason)]⟩]
  | replied {reply : Members} {analysis : Analysis} (accepts : Policy.Accepts query)
    (replies : Replies model reply) :
    Tells model query (.ok analysis)
      [⟨.info, "analysis_model_ok", [("verdict", .str analysis.verdict.name)]⟩,
        ⟨.info, "query_analyzed", [("verdict", .str analysis.verdict.name)]⟩]
  | failed {cause : Text} {analysis : Analysis} (accepts : Policy.Accepts query) (fails : Fails model)
    (blames : Blames model cause) :
    Tells model query (.ok analysis)
      [⟨.warning, "analysis_model_fallback", [("reason", .str cause)]⟩,
        ⟨.info, "query_analyzed", [("verdict", .str analysis.verdict.name)]⟩]
  | unread (accepts : Policy.Accepts query) (nests : NestsTooDeeply model) :
    Tells model query (.error (.unread .tooDeep)) []

/-! ### The cause of a failure -/

/-- There is a cause for any failure, and it is the one that is written down. -/
theorem blames_iff {model : ModelBehaviour} {cause : Text} :
    Blames model cause ↔ cause = unusableReason model.inference := by
  constructor
  · intro h
    cases h with
    | raised exception => rfl
    | erred content named =>
      cases cause with
      | nil => exact absurd rfl named
      | cons c rest => rfl
    | @unnamed content error empty =>
      cases error with
      | none => rfl
      | some e =>
        obtain rfl := empty e rfl
        rfl
  · rintro rfl
    cases model with
    | raises exception => exact .raised exception
    | returns inference =>
      obtain ⟨content, error⟩ := inference
      cases error with
      | none => exact .unnamed content (by simp)
      | some error =>
        cases error with
        | nil => exact .unnamed content (by simp)
        | cons c rest => exact .erred content (by simp)

/-! ### The records -/

theorem analyze_of_rejects (model : ModelBehaviour) {query : Text} {violation : Violation}
    (h : Policy.check query = some violation) : analyze model query =
      { result := .error (.rejected violation), events := [.queryRejected violation] } := by
  rw [analyze, h]

theorem analyze_of_replies {model : ModelBehaviour} {query : Text} {reply : Members}
    (haccepts : Policy.Accepts query) (h : Replies model reply) : analyze model query =
      { result := .ok (.ofObject reply), questions := [question query]
        events := [.modelUsed (Analysis.ofObject reply).verdict,
          .queryAnalyzed (Analysis.ofObject reply).verdict] } := by
  rw [analyze, show Policy.check query = none from haccepts, generate_of_replies h]
  rfl

theorem analyze_of_fails {model : ModelBehaviour} {query : Text} (haccepts : Policy.Accepts query)
    (h : Fails model) : analyze model query =
      { result := .ok (.ofStructure query), questions := [question query]
        events := [.modelUnusable (unusableReason model.inference),
          .queryAnalyzed (Analysis.ofStructure query).verdict] } := by
  rw [analyze, show Policy.check query = none from haccepts, generate_of_fails h]
  rfl

theorem analyze_of_nests {model : ModelBehaviour} {query : Text} (haccepts : Policy.Accepts query)
    (h : NestsTooDeeply model) : analyze model query =
      { result := .error (.unread .tooDeep), questions := [question query] } := by
  rw [analyze, show Policy.check query = none from haccepts, generate_of_nests h]

theorem tells_analyze (model : ModelBehaviour) (query : Text) :
    Tells model query (analyze model query).result ((analyze model query).events.map Event.record) := by
  cases hcheck : Policy.check query with
  | some violation =>
    rw [analyze_of_rejects model hcheck]
    exact .rejected hcheck
  | none =>
    rcases replies_or_fails_or_nests model with ⟨reply, hreplies⟩ | hfails | hnests
    · rw [analyze_of_replies hcheck hreplies]
      exact .replied hcheck hreplies
    · rw [analyze_of_fails hcheck hfails]
      exact .failed hcheck hfails (blames_iff.mpr rfl)
    · rw [analyze_of_nests hcheck hnests]
      exact .unread hcheck hnests

/-- There is one truth: what came out of the analysis leaves no choice of what to tell. -/
theorem Tells.unique {model : ModelBehaviour} {query : Text} {result : Except AdviceFault Analysis}
    {records records' : List Record} (h : Tells model query result records)
    (h' : Tells model query result records') : records = records' := by
  cases h with
  | rejected _ => cases h' with | rejected _ => rfl
  | replied _ replies =>
    cases h' with
    | replied _ _ => rfl
    | failed _ fails _ => exact absurd replies (not_replies_of_fails fails _)
  | failed _ fails blames =>
    cases h' with
    | replied _ replies => exact absurd replies (not_replies_of_fails fails _)
    | failed _ _ blames' => rw [blames_iff.mp blames, blames_iff.mp blames']
  | unread _ _ => cases h' with | unread _ _ => rfl

/-- Over all queries and all behaviours of the model: the records that an analysis leaves are those, and
only those, that tell the truth about what came out of it. -/
theorem records_analyze_iff_tells (model : ModelBehaviour) (query : Text) (records : List Record) :
    (analyze model query).events.map Event.record = records ↔
      Tells model query (analyze model query).result records := by
  constructor
  · rintro rfl
    exact tells_analyze model query
  · exact (tells_analyze model query).unique

/-- But they are not two for every query that is accepted. -/
theorem not_forall_two_records : ¬ ∀ (model : ModelBehaviour) (query : Text), Policy.Accepts query →
    ∃ first second, (analyze model query).events.map Event.record = [first, second] := by
  intro h
  have haccepts : Policy.Accepts "SELECT id FROM orders" := by decide +kernel
  obtain ⟨first, second, hrecords⟩ := h bracketing "SELECT id FROM orders" haccepts
  rw [analyze_of_nests haccepts nests_bracketing] at hrecords
  cases hrecords

end QueryAdvisor.Advice
