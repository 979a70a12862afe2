import QueryAdvisor.Proofs.Advice.Strategies
import QueryAdvisor.Proofs.Analysis.Fields
import QueryAdvisor.Proofs.Json.Wire

/-!
# The wire form of an analysis

An analysis goes over the wire as an object, and a model is asked to answer in the same form. Writing an
analysis and reading a reply are two tables of the same ten places:

    analysis ──▶ ten texts at ten places ──▶ object ──▶ the same ten texts ──▶ analysis
                                               +
                                        whatever else is in it

So an analysis that says something in each of its texts comes back as it was, whatever else the reply holds
beside it. And since reading leaves no text blank, what was read once is read again as it is.
-/

namespace QueryAdvisor

namespace Json

/-! ### Objects with more in them -/

mutual

/-- The value holds all that another one holds, and in its objects perhaps more. -/
def Extends (v : Json) : Json → Prop
  | .obj members => ∃ more, v = .obj more ∧ HasMembers more members
  | w => v = w
termination_by structural w => w

/-- All of the members are there, each with a value that extends its own. -/
def HasMembers (more : Members) : List (Text × Json) → Prop
  | [] => True
  | (name, w) :: rest => (∃ v, more.get? name = some v ∧ Extends v w) ∧ HasMembers more rest
termination_by structural members => members

end

theorem extends_object_iff {v : Json} {pairs : List (String × Json)} : v.Extends (.object pairs) ↔
    ∃ more : Members, v = .obj more ∧
      ∀ pair ∈ pairs, ∃ w : Json, more.get? pair.1 = some w ∧ w.Extends pair.2 := by
  have hmembers : ∀ more : Members, HasMembers more (pairs.map fun pair => (pair.1, pair.2)) ↔
      ∀ pair ∈ pairs, ∃ w : Json, more.get? pair.1 = some w ∧ w.Extends pair.2 := by
    intro more
    induction pairs with
    | nil => simp [HasMembers]
    | cons pair rest ih => rw [List.map_cons, HasMembers, ih, List.forall_mem_cons]
  simp only [object, Extends, hmembers]

/-! ### Texts at the end of paths -/

theorem at?_append (path path' : List Text) (v : Json) :
    v.at? (path ++ path') = (v.at? path).bind (at? path') := by
  induction path generalizing v with
  | nil => rfl
  | cons name path ih =>
    cases v with
    | obj members =>
      rw [List.cons_append, at?, at?, Option.bind_assoc]
      congr 1
      funext w
      exact ih w
    | _ => rfl

theorem at?_object (name : String) (path : List Text) (pairs : List (String × Json)) :
    (object pairs).at? (Text.ofString name :: path) = (pairs.lookup name).bind (at? path) := by
  rw [object, at?, Members.get?_object]

theorem exists_extends_str_iff {path : List Text} {v : Json} {t : Text} :
    (∃ w : Json, v.at? path = some w ∧ w.Extends (.str t)) ↔ v.at? path = some (.str t) := by
  simp [Extends]

/-- At the end of a path stands an object with perhaps more in it if and only if each of its members stands
one name further on, again with perhaps more in it. -/
theorem exists_extends_object_iff {path : List Text} {v : Json} {pairs : List (String × Json)}
    (hpairs : pairs ≠ []) : (∃ w : Json, v.at? path = some w ∧ w.Extends (.object pairs)) ↔
      ∀ pair ∈ pairs, ∃ w : Json, v.at? (path ++ [(pair.1 : Text)]) = some w ∧ w.Extends pair.2 := by
  -- without a member nothing would say that there is an object
  obtain ⟨first, hfirst⟩ := List.exists_mem_of_ne_nil pairs hpairs
  simp only [at?_append, extends_object_iff]
  cases v.at? path with
  | none =>
    simp only [Option.bind_none, reduceCtorEq, false_and, exists_false, false_iff]
    exact fun hall => hall first hfirst
  | some u =>
    simp only [Option.some.injEq, exists_eq_left', Option.bind_some]
    cases u with
    | obj more => simp [at?_singleton]
    | _ =>
      simp only [at?, reduceCtorEq, false_and, exists_false, false_iff]
      exact fun hall => hall first hfirst

/-- The text at the end of a path of names. -/
def textAt? (path : List Text) (v : Json) : Option Text :=
  match v.at? path with
  | some (.str t) => some t
  | _ => none

theorem textAt?_eq_some_iff {path : List Text} {v : Json} {t : Text} :
    v.textAt? path = some t ↔ v.at? path = some (.str t) := by
  rw [textAt?]
  split <;> simp_all

end Json

namespace Analysis

/-! ### Ten places -/

/-- What an analysis has to say at a place of its wire form. -/
structure WireField where
  path : List Text
  value : Analysis → Text

def wireFields : List WireField :=
  [⟨["verdict"], fun a => a.verdict.name⟩,
    ⟨["headline"], fun a => a.headline⟩,
    ⟨["primaryRisk", "issue"], fun a => a.primaryRisk.issue⟩,
    ⟨["primaryRisk", "whyItMatters"], fun a => a.primaryRisk.whyItMatters⟩,
    ⟨["primaryRisk", "estimatedRiskAt"], fun a => a.primaryRisk.estimatedRiskAt⟩,
    ⟨["recommendedFix", "action"], fun a => a.recommendedFix.action⟩,
    ⟨["recommendedFix", "impact"], fun a => a.recommendedFix.impact⟩,
    ⟨["confidence", "level"], fun a => a.confidence.level.name⟩,
    ⟨["confidence", "reason"], fun a => a.confidence.reason⟩,
    ⟨["nextStep"], fun a => a.nextStep⟩]

/-- The value holds the texts of the analysis, each at its place. -/
def WrittenIn (a : Analysis) (v : Json) : Prop :=
  ∀ field ∈ wireFields, v.textAt? field.path = some (field.value a)

instance (a : Analysis) (v : Json) : Decidable (a.WrittenIn v) :=
  inferInstanceAs (Decidable (∀ field ∈ wireFields, v.textAt? field.path = some (field.value a)))

/-- The wire form of an analysis is in a value if and only if the ten texts are. -/
theorem extends_toJson_iff {v : Json} {a : Analysis} : v.Extends a.toJson ↔ a.WrittenIn v := by
  have hroot : v.Extends a.toJson ↔ ∃ w : Json, v.at? [] = some w ∧ w.Extends a.toJson := by
    simp [Json.at?]
  rw [hroot]
  simp only [WrittenIn, Json.textAt?_eq_some_iff, wireFields, toJson, riskToJson, fixToJson,
    confidenceToJson, Json.exists_extends_object_iff (List.cons_ne_nil _ _),
    Json.exists_extends_str_iff, List.forall_mem_cons, List.not_mem_nil, false_imp_iff, implies_true,
    and_true, List.nil_append, List.cons_append, and_assoc]

theorem writtenIn_toJson (a : Analysis) : a.WrittenIn a.toJson := by
  simp [WrittenIn, wireFields, Json.textAt?_eq_some_iff, Json.at?_object, Json.at?, toJson, riskToJson,
    fixToJson, confidenceToJson, List.lookup_cons]

/-! ### Reading what was written -/

/-- A choice is read from its name, if no other one has the same. -/
theorem choiceOr_name {α : Type} {choices : List α} {name : α → Text} {a : α} (hmem : a ∈ choices)
    (hname : ∀ b ∈ choices, name b = name a → b = a) (placeholder : α) :
    choiceOr choices name placeholder (some (.str (name a))) = a := by
  rw [choiceOr]
  cases hfind : choices.find? fun b => name b == name a with
  | none => exact absurd (beq_self_eq_true (name a)) (List.find?_eq_none.mp hfind a hmem)
  | some b =>
    have hsame := List.find?_some hfind
    exact hname b (List.mem_of_find?_eq_some hfind) (eq_of_beq hsame)

theorem choiceOr_verdict (v : Verdict) :
    choiceOr Verdict.all Verdict.name .risky (some (.str v.name)) = v := by
  cases v <;> exact choiceOr_name (by decide) (by decide) _

theorem choiceOr_level (level : ConfidenceLevel) :
    choiceOr ConfidenceLevel.all ConfidenceLevel.name .medium (some (.str level.name)) = level := by
  cases level <;> exact choiceOr_name (by decide) (by decide) _

/-- An analysis is its two choices and its eight texts. -/
theorem eq_of_texts_eq {a b : Analysis} (hverdict : a.verdict = b.verdict)
    (hlevel : a.confidence.level = b.confidence.level) (htexts : a.texts = b.texts) : a = b := by
  obtain ⟨_, _, ⟨_, _, _⟩, ⟨_, _⟩, ⟨_, _⟩, _⟩ := a
  obtain ⟨_, _, ⟨_, _, _⟩, ⟨_, _⟩, ⟨_, _⟩, _⟩ := b
  simp only [texts, List.cons.injEq, and_true] at htexts
  simp_all

/-- Of an object that holds the ten texts, none of the eight blank, the analysis is read again. -/
theorem ofObject_of_writtenIn {a : Analysis} {reply : Members} (hwritten : a.WrittenIn (.obj reply))
    (hsaid : ∀ t ∈ a.texts, Text.allBlank t = false) : ofObject reply = a := by
  simp only [WrittenIn, wireFields, Json.textAt?_eq_some_iff, List.forall_mem_cons, List.not_mem_nil,
    false_imp_iff, implies_true, and_true] at hwritten
  obtain ⟨hverdict, hheadline, hissue, hwhy, hrisk, haction, himpact, hlevel, hreason, hnext⟩ := hwritten
  obtain ⟨sheadline, sissue, swhy, srisk, saction, simpact, sreason, snext⟩ :=
    forall_mem_texts_iff.mp hsaid
  refine eq_of_texts_eq ?_ ?_ ?_
  · rw [ofObject, ← Json.at?_singleton, hverdict]
    exact choiceOr_verdict a.verdict
  · simp only [ofObject, get?_membersOf, hlevel]
    exact choiceOr_level a.confidence.level
  · rw [texts_ofObject]
    simp only [textFields, List.map_cons, List.map_nil, hheadline, hissue, hwhy, hrisk, haction, himpact,
      hreason, hnext, textOr_str sheadline, textOr_str sissue, textOr_str swhy, textOr_str srisk,
      textOr_str saction, textOr_str simpact, textOr_str sreason, textOr_str snext, texts]

/-- Just the analyses without a blank text are read from some object. -/
theorem exists_ofObject_eq_iff {a : Analysis} :
    (∃ reply, ofObject reply = a) ↔ ∀ t ∈ a.texts, Text.allBlank t = false := by
  constructor
  · rintro ⟨reply, rfl⟩
    exact allBlank_texts_ofObject reply
  · intro hsaid
    exact ⟨_, ofObject_of_writtenIn (writtenIn_toJson a) hsaid⟩

end Analysis

/-! ### There and back -/

namespace Advice

/-- A model that answers with the wire form of an analysis, in a text that may hold more beside it, gets that
analysis and no other, provided each of its eight texts says something. And what is read from an object, any
object whatever, is read again from its own wire form. -/
theorem generate_of_wire_and_ofObject_of_wire :
    (∀ a : Analysis, (∀ t ∈ a.texts, Text.allBlank t = false) → ∀ (content : Text) (v : Json),
      Json.ofText content = .ok v → v.Extends a.toJson → ∀ query,
        generate (.returns { content := some content, error := none }) query =
          { result := .ok a, questions := [question query], events := [.modelUsed a.verdict] }) ∧
      ∀ reply : Members, ∃ wire : Members, (Analysis.ofObject reply).toJson = .obj wire ∧
        Analysis.ofObject wire = Analysis.ofObject reply := by
  constructor
  · intro a hsaid content v hreads hextends query
    obtain ⟨reply, rfl, -⟩ := Json.extends_object_iff.mp hextends
    have hread : Analysis.ofObject reply = a :=
      Analysis.ofObject_of_writtenIn (Analysis.extends_toJson_iff.mp hextends) hsaid
    rw [generate_of_replies ⟨content, rfl, hreads⟩, hread]
  · intro reply
    have hsaid : ∀ t ∈ (Analysis.ofObject reply).texts, Text.allBlank t = false :=
      Analysis.exists_ofObject_eq_iff.mp ⟨reply, rfl⟩
    exact ⟨_, rfl, Analysis.ofObject_of_writtenIn (Analysis.writtenIn_toJson _) hsaid⟩

/-- A reply with members in an order of their own, with some that nobody asked for, and with a letter in an
escape. In pieces, since a text is read out of a long literal only slowly. -/
def wordyContent : Text := List.flatMap Text.ofString
  ["\x7b\"nextStep\": \"n\", \"tags\": [\x7b\x7d], ", "\"verdict\": \"CRITICAL\", \"headline\": \"h\", ",
    "\"confidence\": \x7b\"level\": \"LOW\", ", "\"percent\": 30, \"reason\": \" r \"\x7d, ",
    "\"primaryRisk\": \x7b\"issue\": \"i\", ", "\"whyItMatters\": \"w\", ",
    "\"estimatedRiskAt\": \"\\u00e9\"\x7d, ", "\"recommendedFix\": \x7b\"sql\": null, ",
    "\"action\": \"a\", \"impact\": \"p\"\x7d\x7d"]

/-- The analysis in it. -/
def wordyAnalysis : Analysis where
  verdict := .critical
  headline := "h"
  primaryRisk := ⟨"i", "w", "é"⟩
  recommendedFix := ⟨"a", "p"⟩
  confidence := ⟨.low, " r "⟩
  nextStep := "n"

theorem generate_of_wire_and_ofObject_of_wire_wordy :
    (∀ t ∈ wordyAnalysis.texts, Text.allBlank t = false) ∧
      ∃ v, Json.ofText wordyContent = .ok v ∧ v.Extends wordyAnalysis.toJson ∧
        (generate (.returns { content := some wordyContent, error := none }) "SELECT id FROM t").result =
          .ok wordyAnalysis := by
  have hsaid : ∀ t ∈ wordyAnalysis.texts, Text.allBlank t = false := by decide +kernel
  have hwritten : (Json.ofText wordyContent).toOption.any
      (fun v => decide (wordyAnalysis.WrittenIn v)) = true := by decide +kernel
  obtain ⟨v, hreads, hin⟩ := Json.exists_of_any_toOption hwritten
  have hextends : v.Extends wordyAnalysis.toJson :=
    Analysis.extends_toJson_iff.mpr (of_decide_eq_true hin)
  refine ⟨hsaid, v, hreads, hextends, ?_⟩
  rw [generate_of_wire_and_ofObject_of_wire.1 wordyAnalysis hsaid wordyContent v hreads hextends]

end Advice

end QueryAdvisor
