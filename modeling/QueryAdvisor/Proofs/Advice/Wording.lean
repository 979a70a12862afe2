import QueryAdvisor.Proofs.Advice.Strategies
import QueryAdvisor.Proofs.Analysis.Fields

/-!
# Every analysis says something

Neither what a model replies nor what a query holds can leave a text of an analysis blank. Where the
analysis is made of the query's structure, the service is moderately sure of it and never alarmed.
-/

namespace QueryAdvisor.Advice

open CodePoint (isBlank)

theorem allBlank_texts_generate {model : ModelBehaviour} {query : Text} {analysis : Analysis}
    (h : (generate model query).result = .ok analysis) :
    ∀ t ∈ analysis.texts, Text.allBlank t = false := by
  rcases replies_or_fails_or_nests model with ⟨reply, hreplies⟩ | hfails | hnests
  · rw [generate_of_replies hreplies] at h
    obtain rfl := Except.ok.inj h
    exact Analysis.allBlank_texts_ofObject reply
  · rw [generate_of_fails hfails] at h
    obtain rfl := Except.ok.inj h
    exact Analysis.allBlank_texts_ofStructure query
  · exact absurd hnests ((exists_result_generate_iff query).mp ⟨analysis, h⟩)

/-- Whatever the query and whatever the model does, each of the eight texts of the analysis that it comes to
has a code point that is no blank. If the model fails, there is an analysis, the level of confidence is medium
and the verdict is one of two. There is none just for a reply that is nested too deeply. -/
theorem exists_not_blank_generate (model : ModelBehaviour) (query : Text) :
    (∀ analysis, (generate model query).result = .ok analysis →
      ∀ t ∈ analysis.texts, ∃ c ∈ t, isBlank c = false) ∧
    (Fails model → ∃ analysis, (generate model query).result = .ok analysis ∧
      analysis.confidence.level = .medium ∧
        (analysis.verdict = .risky ∨ analysis.verdict = .safeForNow)) ∧
    ((∃ analysis, (generate model query).result = .ok analysis) ↔ ¬ NestsTooDeeply model) := by
  refine ⟨?_, ?_, exists_result_generate_iff query⟩
  · intro analysis hanalysis t ht
    have hnot := allBlank_texts_generate hanalysis t ht
    rw [Text.allBlank, List.all_eq_false] at hnot
    simpa using hnot
  · intro hfails
    rw [generate_of_fails hfails]
    exact ⟨_, rfl, Analysis.judgement_ofStructure query⟩

/-- So it is for a model that answers with an error beside an analysis. -/
theorem exists_not_blank_generate_erred :
    Fails (.returns { content := some "\x7b\x7d", error := some "busy" }) ∧
      ∃ analysis, (generate (.returns { content := some "\x7b\x7d", error := some "busy" })
        "SELECT id FROM t").result = .ok analysis ∧ analysis.confidence.level = .medium := by
  have hfails : Fails (.returns { content := some "\x7b\x7d", error := some "busy" }) := .erred _ _
  obtain ⟨analysis, hanalysis, hlevel, -⟩ :=
    (exists_not_blank_generate _ "SELECT id FROM t").2.1 hfails
  exact ⟨hfails, analysis, hanalysis, hlevel⟩

end QueryAdvisor.Advice
