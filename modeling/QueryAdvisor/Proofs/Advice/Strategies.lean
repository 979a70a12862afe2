import QueryAdvisor.Advice
import QueryAdvisor.Proofs.Json.Nesting

/-!
# Two strategies, never mixed

An analysis comes either from the model's reply or from the structure of the query. Which of the two is
decided by the model's behaviour alone:

    raises ─────────────────────────────────────┐
    returns an error, whatever the content ─────┤
    returns no content, or a blank one ─────────┼──▶ structure of the query
    returns what is no JSON, or no object ──────┘
    returns an object and no error ────────────────▶ the object, field by field
    returns what is nested too deeply ─────────────▶ no analysis

In the first case the analysis depends on the query alone, in the second on the reply alone. The third is
not meant to be: of a reply that is of no use the structure should serve, but this one is not found to be so.
-/

namespace QueryAdvisor

/-! ### Blank texts are no JSON -/

theorem CodePoint.ne_of_isBlank {c d : CodePoint} (hc : isBlank c = true) (hd : isBlank d = false) :
    c ≠ d := by
  rintro rfl
  rw [hc] at hd
  cases hd

theorem CodePoint.isDigit_of_isBlank {c : CodePoint} (h : isBlank c = true) : isDigit c = false := by
  simp only [isBlank, isWhiteSpace, Bool.or_eq_true, Bool.and_eq_true, beq_iff_eq,
    decide_eq_true_eq] at h
  simp only [isDigit, Bool.and_eq_false_iff, decide_eq_false_iff_not]
  omega

namespace Json

open CodePoint (isBlank ne_of_isBlank)

/-- No literal begins with a blank, -/
theorem literal?_of_isBlank {c : CodePoint} (h : isBlank c = true) (rest : Text) :
    literal? (c :: rest) = none := by
  have hheads : ∀ pair ∈ literals, pair.1.head?.any (fun c => !isBlank c) = true := by decide +kernel
  rw [literal?, List.findSome?_eq_none_iff]
  rintro ⟨word, value⟩ hmem
  have hhead := hheads (word, value) hmem
  cases word with
  | nil => cases hhead
  | cons first word =>
    have hfirst : first ≠ c := (ne_of_isBlank h (by simpa using hhead)).symm
    simp [List.isPrefixOf, hfirst]

/-- nor does a number, -/
theorem readNumber_of_isBlank {c : CodePoint} (h : isBlank c = true) (rest : Text) :
    readNumber (c :: rest) = .error .malformed := by
  have hminus : c ≠ '-' := ne_of_isBlank h (by decide)
  have hzero : c ≠ '0' := ne_of_isBlank h (by decide)
  have hdigits : (whole (c :: rest)).1 = [] := by
    rw [whole, if_neg hzero, Text.leadingDigits, List.takeWhile_cons_of_neg]
    rw [CodePoint.isDigit_of_isBlank h]
    exact Bool.false_ne_true
  rw [readNumber]
  simp [hminus, hdigits]

/-- nor any value, -/
theorem readValue_of_isBlank {c : CodePoint} (h : isBlank c = true) (rest : Text) (fuel depth : Nat) :
    readValue (fuel + 1) depth (c :: rest) = .error .malformed := by
  rw [readValue, if_neg (ne_of_isBlank h (by decide)), if_neg (ne_of_isBlank h (by decide)),
    if_neg (ne_of_isBlank h (by decide)), literal?_of_isBlank h, readNumber_of_isBlank h]

/-- so a text of nothing but blanks is no JSON. -/
theorem ofText_of_allBlank {t : Text} (h : Text.allBlank t = true) : ofText t = .error .malformed := by
  have hskip : ∀ c ∈ skip t, isBlank c = true := by
    intro c hc
    exact List.all_eq_true.mp h c ((List.dropWhile_sublist isSpace).mem hc)
  rw [ofText]
  cases hrest : skip t with
  | nil => rfl
  | cons c rest =>
    rw [hrest] at hskip
    rw [readValue_of_isBlank (hskip c (List.mem_cons_self ..))]

end Json

/-! ### Behaviours of the model -/

namespace Advice

/-- The model is of use: it returns an object, and no error beside it. -/
def Replies (model : ModelBehaviour) (reply : Members) : Prop :=
  ∃ content, model = .returns { content := some content, error := none } ∧
    Json.ofText content = .ok (.obj reply)

/-- The ways in which the model is of no use. An error counts even if it is empty, and whatever content
stands beside it. -/
inductive Fails : ModelBehaviour → Prop where
  | raised (exception : Text) : Fails (.raises exception)
  | erred (content : Option Text) (error : Text) : Fails (.returns { content, error := some error })
  | silent : Fails (.returns { content := none, error := none })
  | blank {content : Text} (blank : Text.allBlank content = true) :
    Fails (.returns { content := some content, error := none })
  | malformed {content : Text} {fault : Json.Fault} (reads : Json.ofText content = .error fault)
    (expected : fault ≠ .tooDeep) : Fails (.returns { content := some content, error := none })
  | noObject {content : Text} {v : Json} (reads : Json.ofText content = .ok v)
    (other : ∀ reply, v ≠ .obj reply) : Fails (.returns { content := some content, error := none })

/-- The model returns a content that is nested too deeply to be read, and no error beside it. -/
def NestsTooDeeply (model : ModelBehaviour) : Prop :=
  ∃ content, model = .returns { content := some content, error := none } ∧
    Json.ofText content = .error .tooDeep

/-- There is no fourth kind of behaviour. -/
theorem replies_or_fails_or_nests (model : ModelBehaviour) :
    (∃ reply, Replies model reply) ∨ Fails model ∨ NestsTooDeeply model := by
  cases model with
  | raises exception => exact Or.inr (Or.inl (.raised exception))
  | returns inference =>
    obtain ⟨content, error⟩ := inference
    cases error with
    | some error => exact Or.inr (Or.inl (.erred content error))
    | none =>
      cases content with
      | none => exact Or.inr (Or.inl .silent)
      | some content =>
        cases hreads : Json.ofText content with
        | error fault =>
          by_cases hdeep : fault = .tooDeep
          · exact Or.inr (Or.inr ⟨content, rfl, hdeep ▸ hreads⟩)
          · exact Or.inr (Or.inl (.malformed hreads hdeep))
        | ok v =>
          cases v with
          | obj reply => exact Or.inl ⟨reply, content, rfl, hreads⟩
          | _ => exact Or.inr (Or.inl (.noObject hreads (by simp)))

/-! ### What is made of the content -/

/-- Without an error beside it, a content is read; of an empty one that makes nothing either. -/
theorem usableReply_returns (content : Text) :
    usableReply { content := some content, error := none } = Analysis.parseReply (some content) := by
  cases content with
  | nil => rfl
  | cons c rest => rfl

theorem usableReply_of_replies {model : ModelBehaviour} {reply : Members} (h : Replies model reply) :
    usableReply model.inference = .ok (some reply) := by
  obtain ⟨content, rfl, hreads⟩ := h
  rw [ModelBehaviour.inference, usableReply_returns, Analysis.parseReply, hreads]
  rfl

theorem usableReply_of_fails {model : ModelBehaviour} (h : Fails model) :
    usableReply model.inference = .ok none := by
  cases h with
  -- here the content is not even read
  | raised exception => rfl
  | erred content error => rfl
  | silent => rfl
  | blank hblank =>
    rw [ModelBehaviour.inference, usableReply_returns, Analysis.parseReply,
      Json.ofText_of_allBlank hblank]
    rfl
  | malformed reads expected =>
    rw [ModelBehaviour.inference, usableReply_returns, Analysis.parseReply, reads,
      Json.caught_of_fault expected]
  | @noObject content v reads other =>
    rw [ModelBehaviour.inference, usableReply_returns, Analysis.parseReply, reads]
    cases v with
    | obj reply => exact absurd rfl (other reply)
    | _ => rfl

theorem usableReply_of_nests {model : ModelBehaviour} (h : NestsTooDeeply model) :
    usableReply model.inference = .error .tooDeep := by
  obtain ⟨content, rfl, hreads⟩ := h
  rw [ModelBehaviour.inference, usableReply_returns, Analysis.parseReply, hreads]
  rfl

/-! So no behaviour is of two kinds. -/

theorem not_replies_of_fails {model : ModelBehaviour} (h : Fails model) (reply : Members) :
    ¬ Replies model reply := by
  intro hreplies
  have husable := usableReply_of_replies hreplies
  rw [usableReply_of_fails h] at husable
  cases husable

theorem not_replies_of_nests {model : ModelBehaviour} (h : NestsTooDeeply model) (reply : Members) :
    ¬ Replies model reply := by
  intro hreplies
  have husable := usableReply_of_replies hreplies
  rw [usableReply_of_nests h] at husable
  cases husable

theorem not_fails_of_nests {model : ModelBehaviour} (h : NestsTooDeeply model) : ¬ Fails model := by
  intro hfails
  have husable := usableReply_of_fails hfails
  rw [usableReply_of_nests h] at husable
  cases husable

/-- A model replies with one object at most. -/
theorem replies_unique {model : ModelBehaviour} {reply reply' : Members} (h : Replies model reply)
    (h' : Replies model reply') : reply = reply' := by
  have husable := usableReply_of_replies h
  rw [usableReply_of_replies h'] at husable
  exact (Option.some.inj (Except.ok.inj husable)).symm

theorem isOk_usableReply_iff {model : ModelBehaviour} :
    (usableReply model.inference).isOk = false ↔ NestsTooDeeply model := by
  rcases replies_or_fails_or_nests model with ⟨reply, hreplies⟩ | hfails | hnests
  · rw [usableReply_of_replies hreplies]
    exact iff_of_false (by simp [Except.isOk, Except.toBool])
      fun hnests => not_replies_of_nests hnests reply hreplies
  · rw [usableReply_of_fails hfails]
    exact iff_of_false (by simp [Except.isOk, Except.toBool])
      fun hnests => not_fails_of_nests hnests hfails
  · rw [usableReply_of_nests hnests]
    exact iff_of_true rfl hnests

/-- Whether a reply is nested too deeply is found out by reading it. -/
instance (model : ModelBehaviour) : Decidable (NestsTooDeeply model) :=
  decidable_of_iff ((usableReply model.inference).isOk = false) isOk_usableReply_iff

/-! ### The analysis -/

theorem generate_of_replies {model : ModelBehaviour} {reply : Members} (h : Replies model reply)
    (query : Text) : generate model query =
      { result := .ok (.ofObject reply), questions := [question query]
        events := [.modelUsed (Analysis.ofObject reply).verdict] } := by
  rw [generate, usableReply_of_replies h]

theorem generate_of_fails {model : ModelBehaviour} (h : Fails model) (query : Text) :
    generate model query =
      { result := .ok (.ofStructure query), questions := [question query]
        events := [.modelUnusable (unusableReason model.inference)] } := by
  rw [generate, usableReply_of_fails h]

theorem generate_of_nests {model : ModelBehaviour} (h : NestsTooDeeply model) (query : Text) :
    generate model query = { result := .error .tooDeep, questions := [question query] } := by
  rw [generate, usableReply_of_nests h]

/-- There is an analysis just if the reply is not nested too deeply. -/
theorem exists_result_generate_iff {model : ModelBehaviour} (query : Text) :
    (∃ analysis, (generate model query).result = .ok analysis) ↔ ¬ NestsTooDeeply model := by
  constructor
  · rintro ⟨analysis, hanalysis⟩ hnests
    rw [generate_of_nests hnests] at hanalysis
    cases hanalysis
  · intro hflat
    rcases replies_or_fails_or_nests model with ⟨reply, hreplies⟩ | hfails | hnests
    · exact ⟨_, by rw [generate_of_replies hreplies]⟩
    · exact ⟨_, by rw [generate_of_fails hfails]⟩
    · exact absurd hnests hflat

/-- If the model replies with an object, there is an analysis and it is that of the object, for every query;
if the model fails, there is one and it is that of the query's structure, for every failure. The model does
always one of the two, never both, unless its reply is nested too deeply: then, and only then, there is no
analysis. -/
theorem result_generate (model : ModelBehaviour) :
    (∀ reply, Replies model reply → ∀ query, (generate model query).result = .ok (.ofObject reply)) ∧
      (Fails model → ∀ query, (generate model query).result = .ok (.ofStructure query)) ∧
      (∀ query, (∃ analysis, (generate model query).result = .ok analysis) ↔ ¬ NestsTooDeeply model) ∧
      ((∃ reply, Replies model reply) ↔ ¬ Fails model ∧ ¬ NestsTooDeeply model) ∧
      (NestsTooDeeply model → ¬ Fails model ∧
        ∀ query, (generate model query).result = .error .tooDeep) := by
  refine ⟨fun reply h query => ?_, fun h query => ?_, exists_result_generate_iff,
    ⟨?_, ?_⟩, fun h => ⟨not_fails_of_nests h, fun query => ?_⟩⟩
  · rw [generate_of_replies h]
  · rw [generate_of_fails h]
  · rintro ⟨reply, hreplies⟩
    exact ⟨fun hfails => not_replies_of_fails hfails reply hreplies,
      fun hnests => not_replies_of_nests hnests reply hreplies⟩
  · rintro ⟨hfails, hnests⟩
    exact (replies_or_fails_or_nests model).resolve_right (not_or.mpr ⟨hfails, hnests⟩)
  · rw [generate_of_nests h]

/-- A model that replies with brackets which open arrays, and with nothing else. -/
def bracketing : ModelBehaviour := .returns { content := some (Json.brackets 100000), error := none }

theorem nests_bracketing : NestsTooDeeply bracketing :=
  ⟨_, rfl, Json.ofText_brackets (by decide)⟩

/-- So there is not always an analysis. -/
theorem not_forall_exists_result_generate : ¬ ∀ (model : ModelBehaviour) (query : Text),
    ∃ analysis, (generate model query).result = .ok analysis := by
  intro h
  exact (exists_result_generate_iff "SELECT id FROM orders").mp (h bracketing _) nests_bracketing

end Advice

end QueryAdvisor
