import QueryAdvisor.Analysis
import QueryAdvisor.Json.Reader
import QueryAdvisor.Text.Blank

/-!
# Replies of a model

A model is asked for an analysis and may answer anything. `parseReply` finds the object in a reply, if
it is one, but does not get over a reply that is nested too deeply to be read; `ofObject` makes an analysis
of any object whatever, field by field: a field that is missing, of the wrong kind or blank gets a
placeholder, and no field looks at another.
-/

namespace QueryAdvisor.Analysis

/-! ### Placeholders -/

def defaultHeadline : Text := "Query analysis completed"
def defaultIssue : Text := "Unknown issue"
def defaultWhyItMatters : Text := "Unable to determine"
def defaultEstimatedRiskAt : Text := "Unknown"
def defaultAction : Text := "Review query structure"
def defaultImpact : Text := "Improve query performance"
def defaultConfidenceReason : Text := "Analysis based on query structure"
def defaultNextStep : Text := "Review the query and consider optimizations"

/-! ### One field -/

/-- The value, if it is a string with something in it; the placeholder otherwise. -/
def textOr (placeholder : Text) : Option Json → Text
  | some (.str t) => if Text.allBlank t then placeholder else t
  | _ => placeholder

/-- The members of the value, if it is an object. -/
def membersOf : Option Json → Members
  | some (.obj members) => members
  | _ => []

/-- The choice whose name the value is; the placeholder if there is none. -/
def choiceOr {α : Type} (choices : List α) (name : α → Text) (placeholder : α) : Option Json → α
  | some (.str t) => (choices.find? fun a => name a == t).getD placeholder
  | _ => placeholder

/-! ### The whole -/

/-- The analysis that an object describes. -/
def ofObject (reply : Members) : Analysis :=
  let risk := membersOf (reply.get? "primaryRisk")
  let fix := membersOf (reply.get? "recommendedFix")
  let confidence := membersOf (reply.get? "confidence")
  { verdict := choiceOr Verdict.all Verdict.name .risky (reply.get? "verdict")
    headline := textOr defaultHeadline (reply.get? "headline")
    primaryRisk :=
      { issue := textOr defaultIssue (risk.get? "issue")
        whyItMatters := textOr defaultWhyItMatters (risk.get? "whyItMatters")
        estimatedRiskAt := textOr defaultEstimatedRiskAt (risk.get? "estimatedRiskAt") }
    recommendedFix :=
      { action := textOr defaultAction (fix.get? "action")
        impact := textOr defaultImpact (fix.get? "impact") }
    confidence :=
      { level := choiceOr ConfidenceLevel.all ConfidenceLevel.name .medium (confidence.get? "level")
        reason := textOr defaultConfidenceReason (confidence.get? "reason") }
    nextStep := textOr defaultNextStep (reply.get? "nextStep") }

/-- The object that a reply consists of, if it is one. -/
def parseReply (content : Option Text) : Except Json.Escape (Option Members) :=
  match content with
  | none => .ok none
  | some t =>
    match Json.caught (Json.ofText t) with
    | .error escape => .error escape
    | .ok (some (.obj members)) => .ok (some members)
    | .ok _ => .ok none

theorem textOr_str {placeholder t : Text} (h : Text.allBlank t = false) :
    textOr placeholder (some (.str t)) = t := by
  simp [textOr, h]

/-- A field is never blank if its placeholder is not. -/
theorem allBlank_textOr {placeholder : Text} (h : Text.allBlank placeholder = false)
    (value : Option Json) : Text.allBlank (textOr placeholder value) = false := by
  unfold textOr
  split
  · split <;> simp_all
  · exact h

end QueryAdvisor.Analysis
