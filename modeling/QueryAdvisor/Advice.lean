import QueryAdvisor.Analysis.Heuristic
import QueryAdvisor.Analysis.Prompt
import QueryAdvisor.Analysis.Reply
import QueryAdvisor.Audit
import QueryAdvisor.Model

/-!
# Advice on a query

Two ways to an analysis: the model's reply, if the model is of use, and the structure of the query
otherwise. They are never mixed. Between them they give a result for every reply but one that is nested too
deeply to be read: it is taken neither for an object nor for something of no use, and there is no analysis.
-/

namespace QueryAdvisor

/-- How the model behaves towards one question. -/
inductive ModelBehaviour where
  | raises (exception : Text)
  | returns (inference : Inference)
  deriving DecidableEq, Repr

/-- What the question brought back; an exception is an error like others. -/
def ModelBehaviour.inference : ModelBehaviour → Inference
  | .raises exception => .raised exception
  | .returns inference => inference

/-- A piece of work on a query: its result, what the model was asked, what was written down. -/
structure Advice (α : Type) where
  result : α
  questions : List (List Message) := []
  events : List Event := []

namespace Advice

/-- What the model is asked about a query. -/
def question (query : Text) : List Message :=
  [⟨"system", Prompt.system⟩, ⟨"user", Prompt.user query⟩]

/-- The object in the model's reply, if the model is of use. -/
def usableReply (i : Inference) : Except Json.Escape (Option Members) :=
  if i.ok then Analysis.parseReply i.content else .ok none

/-- What the model was not of use for: its own error if it names one. -/
def unusableReason (i : Inference) : Text :=
  (Model.nonempty? i.error).getD "unparseable_reply"

/-- An analysis of the query. The model is asked for it, and the structure of the query serves where the
model is of no use. -/
def generate (model : ModelBehaviour) (query : Text) : Advice (Except Json.Escape Analysis) :=
  match usableReply model.inference with
  | .error escape => { result := .error escape, questions := [question query] }
  | .ok none =>
    { result := .ok (Analysis.ofStructure query)
      questions := [question query]
      events := [.modelUnusable (unusableReason model.inference)] }
  | .ok (some reply) =>
    { result := .ok (Analysis.ofObject reply)
      questions := [question query]
      events := [.modelUsed (Analysis.ofObject reply).verdict] }

end Advice

/-- Why there is no analysis of a query. -/
inductive AdviceFault where
  | rejected (violation : Violation)
  /-- The model's reply cannot be read, and nobody is prepared for that. -/
  | unread (escape : Json.Escape)
  deriving DecidableEq, Repr

/-- An analysis of the query, if the policy allows it; only then is the model asked. -/
def Advice.analyze (model : ModelBehaviour) (query : Text) : Advice (Except AdviceFault Analysis) :=
  match Policy.check query with
  | some violation => { result := .error (.rejected violation), events := [.queryRejected violation] }
  | none =>
    let advice := generate model query
    match advice.result with
    | .error escape => { advice with result := .error (.unread escape) }
    | .ok analysis =>
      { result := .ok analysis
        questions := advice.questions
        events := advice.events ++ [.queryAnalyzed analysis.verdict] }

end QueryAdvisor
