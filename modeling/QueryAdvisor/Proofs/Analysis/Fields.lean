import QueryAdvisor.Analysis.Heuristic
import QueryAdvisor.Analysis.Reply

/-!
# The texts of an analysis

An analysis has eight texts. One that is made of a model's reply takes each of them from a place of its
own in the reply, and a placeholder where there is no text to take:

    reply ─┬─ headline
           ├─ primaryRisk ────┬─ issue
           │                  ├─ whyItMatters
           │                  └─ estimatedRiskAt
           ├─ recommendedFix ─┬─ action
           │                  └─ impact
           ├─ confidence ─────── reason
           └─ nextStep

One that is made of the structure of a query has texts of the service's own, around the name of a table.
Either way something is said in each of the eight.
-/

namespace QueryAdvisor

/-- The value at the end of a path of names, if the path leads through objects. -/
def Json.at? : List Text → Json → Option Json
  | [], v => some v
  | name :: path, .obj members => (Members.get? name members).bind (Json.at? path)
  | _ :: _, _ => none

theorem Json.at?_singleton (name : Text) (members : Members) :
    Json.at? [name] (.obj members) = members.get? name := by
  rw [at?]
  cases members.get? name <;> rfl

namespace Analysis

/-- Where a reply holds a text of the analysis, and what stands for it if it is not there. -/
structure TextField where
  path : List Text
  placeholder : Text

def textFields : List TextField :=
  [⟨["headline"], defaultHeadline⟩,
    ⟨["primaryRisk", "issue"], defaultIssue⟩,
    ⟨["primaryRisk", "whyItMatters"], defaultWhyItMatters⟩,
    ⟨["primaryRisk", "estimatedRiskAt"], defaultEstimatedRiskAt⟩,
    ⟨["recommendedFix", "action"], defaultAction⟩,
    ⟨["recommendedFix", "impact"], defaultImpact⟩,
    ⟨["confidence", "reason"], defaultConfidenceReason⟩,
    ⟨["nextStep"], defaultNextStep⟩]

/-- What holds of all texts of an analysis, one after the other. -/
theorem forall_mem_texts_iff {P : Text → Prop} {a : Analysis} : (∀ t ∈ a.texts, P t) ↔
    P a.headline ∧ P a.primaryRisk.issue ∧ P a.primaryRisk.whyItMatters ∧
      P a.primaryRisk.estimatedRiskAt ∧ P a.recommendedFix.action ∧ P a.recommendedFix.impact ∧
        P a.confidence.reason ∧ P a.nextStep := by
  simp only [texts, List.forall_mem_cons, List.not_mem_nil, false_imp_iff, implies_true, and_true]

/-- A member of a member, where a value that is no object has no members. -/
theorem get?_membersOf (outer inner : Text) (reply : Members) :
    (membersOf (reply.get? outer)).get? inner = Json.at? [outer, inner] (.obj reply) := by
  rw [Json.at?]
  cases reply.get? outer with
  | none => rfl
  | some v =>
    cases v with
    | obj members => exact (Json.at?_singleton inner members).symm
    | _ => rfl

/-- The texts of the analysis of a reply, each from its own place. -/
theorem texts_ofObject (reply : Members) : (ofObject reply).texts =
    textFields.map fun field => textOr field.placeholder (Json.at? field.path (.obj reply)) := by
  simp only [texts, ofObject, textFields, List.map_cons, List.map_nil, get?_membersOf,
    Json.at?_singleton]

/-! ### Something is said in each text -/

/-- A text of the service's own begins with something that is no blank, and so is not blank itself. -/
theorem allBlank_literal {c : Char} (h : CodePoint.isBlank c = false) (rest : List Char) :
    Text.allBlank (Text.ofString (String.ofList (c :: rest))) = false := by
  simp [Text.allBlank, Text.ofString, h]

theorem allBlank_literal_append {c : Char} (h : CodePoint.isBlank c = false) (rest : List Char)
    (t : Text) : Text.allBlank (Text.ofString (String.ofList (c :: rest)) ++ t) = false := by
  simp [Text.allBlank, Text.ofString, h]

theorem allBlank_placeholder : ∀ field ∈ textFields, Text.allBlank field.placeholder = false := by
  simp only [textFields, List.forall_mem_cons, List.not_mem_nil, false_imp_iff, implies_true,
    and_true]
  refine ⟨?_, ?_, ?_, ?_, ?_, ?_, ?_, ?_⟩ <;> exact allBlank_literal (by decide) _

theorem allBlank_texts_ofObject (reply : Members) :
    ∀ t ∈ (ofObject reply).texts, Text.allBlank t = false := by
  intro t ht
  rw [texts_ofObject, List.mem_map] at ht
  obtain ⟨field, hfield, rfl⟩ := ht
  exact allBlank_textOr (allBlank_placeholder field hfield) _

theorem allBlank_texts_unfiltered (table : Text) :
    ∀ t ∈ (unfiltered table).texts, Text.allBlank t = false := by
  rw [forall_mem_texts_iff]
  simp only [unfiltered, structureConfidence, List.append_assoc]
  refine ⟨allBlank_literal_append (by decide) _ _, allBlank_literal_append (by decide) _ _,
    ?_, ?_, ?_, ?_, ?_, ?_⟩ <;> exact allBlank_literal (by decide) _

theorem allBlank_texts_allColumns (table : Text) :
    ∀ t ∈ (allColumns table).texts, Text.allBlank t = false := by
  rw [forall_mem_texts_iff]
  simp only [allColumns, structureConfidence]
  refine ⟨?_, allBlank_literal_append (by decide) _ _, ?_, ?_, ?_, ?_, ?_, ?_⟩ <;>
    exact allBlank_literal (by decide) _

theorem allBlank_texts_reasonable (hasJoin : Bool) :
    ∀ t ∈ (reasonable hasJoin).texts, Text.allBlank t = false := by
  rw [forall_mem_texts_iff]
  simp only [reasonable, structureConfidence]
  refine ⟨?_, ?_, ?_, ?_, ?_, ?_, ?_, ?_⟩
  · cases hasJoin <;> exact allBlank_literal (by decide) _
  all_goals exact allBlank_literal (by decide) _

/-- The structure of a query leads to one of three analyses. -/
theorem ofStructure_cases (query : Text) : ofStructure query = unfiltered (tableName query) ∨
    ofStructure query = allColumns (tableName query) ∨
      ∃ hasJoin, ofStructure query = reasonable hasJoin := by
  unfold ofStructure
  dsimp only
  split
  · exact Or.inl rfl
  · split
    · exact Or.inr (Or.inl rfl)
    · exact Or.inr (Or.inr ⟨_, rfl⟩)

theorem allBlank_texts_ofStructure (query : Text) :
    ∀ t ∈ (ofStructure query).texts, Text.allBlank t = false := by
  rcases ofStructure_cases query with h | h | ⟨hasJoin, h⟩
  · rw [h]
    exact allBlank_texts_unfiltered _
  · rw [h]
    exact allBlank_texts_allColumns _
  · rw [h]
    exact allBlank_texts_reasonable _

/-- How sure the service is of a structure, and what it makes of it. -/
theorem judgement_ofStructure (query : Text) : (ofStructure query).confidence.level = .medium ∧
    ((ofStructure query).verdict = .risky ∨ (ofStructure query).verdict = .safeForNow) := by
  rcases ofStructure_cases query with h | h | ⟨hasJoin, h⟩
  · rw [h]
    exact ⟨rfl, Or.inl rfl⟩
  · rw [h]
    exact ⟨rfl, Or.inr rfl⟩
  · rw [h]
    exact ⟨rfl, Or.inr rfl⟩

end Analysis

end QueryAdvisor
