import QueryAdvisor.Proofs.Analysis.WireForm

/-!
# A reply is read field by field

An analysis tells ten things, and a reply has a place for each of them. What is read for one of the ten
depends on the value at its own place alone:

    no value, or its path leads through no object ────▶ placeholder of the field
    a value that is no string ────────────────────────▶ placeholder of the field
    a string that means nothing for the field ────────▶ placeholder of the field
    a string that means something ────────────────────▶ what it means

A text means itself, as it stands, if it has something in it but blanks; a verdict and a level are meant
by their names alone. The main statement is that this describes all ten fields, so that a defect at one
place never shows at another.
-/

namespace QueryAdvisor.Analysis
open CodePoint (isBlank)

/-! ### Ten fields -/

/-- One thing that an analysis tells: where a reply holds it, what stands for it if it is not there, and
what a string at its place means. -/
structure Field (α : Type) where
  path : List Text
  value : Analysis → α
  placeholder : α
  Means : Text → α → Prop

namespace Field

/-- A field for any text that has something in it. -/
def ofText (path : List Text) (value : Analysis → Text) (placeholder : Text) : Field Text where
  path := path
  value := value
  placeholder := placeholder
  Means t a := a = t ∧ ∃ c ∈ t, isBlank c = false

/-- A field for choices that are known by their names. -/
def ofChoice {α : Type} (path : List Text) (value : Analysis → α) (placeholder : α) (name : α → Text) :
    Field α where
  path := path
  value := value
  placeholder := placeholder
  Means t a := name a = t

/-- What a value holds of the field. -/
inductive Reads {α : Type} (field : Field α) (v : Json) : α → Prop where
  | told {t : Text} {a : α} (there : v.at? field.path = some (.str t)) (means : field.Means t a) :
    field.Reads v a
  | missing (untold : ∀ t, v.at? field.path = some (.str t) → ∀ a, ¬ field.Means t a) :
    field.Reads v field.placeholder

end Field

/-- The ten fields, each with its place and its placeholder. -/
def fields : List (Σ α, Field α) :=
  [⟨_, .ofChoice ["verdict"] (fun a => a.verdict) .risky Verdict.name⟩,
    ⟨_, .ofText ["headline"] (fun a => a.headline) defaultHeadline⟩,
    ⟨_, .ofText ["primaryRisk", "issue"] (fun a => a.primaryRisk.issue) defaultIssue⟩,
    ⟨_, .ofText ["primaryRisk", "whyItMatters"] (fun a => a.primaryRisk.whyItMatters)
      defaultWhyItMatters⟩,
    ⟨_, .ofText ["primaryRisk", "estimatedRiskAt"] (fun a => a.primaryRisk.estimatedRiskAt)
      defaultEstimatedRiskAt⟩,
    ⟨_, .ofText ["recommendedFix", "action"] (fun a => a.recommendedFix.action) defaultAction⟩,
    ⟨_, .ofText ["recommendedFix", "impact"] (fun a => a.recommendedFix.impact) defaultImpact⟩,
    ⟨_, .ofChoice ["confidence", "level"] (fun a => a.confidence.level) .medium ConfidenceLevel.name⟩,
    ⟨_, .ofText ["confidence", "reason"] (fun a => a.confidence.reason) defaultConfidenceReason⟩,
    ⟨_, .ofText ["nextStep"] (fun a => a.nextStep) defaultNextStep⟩]

/-! ### Reading one field -/

namespace Field

/-- A function of the value at the place, if there is one, that reads the field. -/
structure ReadBy {α : Type} (field : Field α) (read : Option Json → α) : Prop where
  of_means : ∀ {t a}, field.Means t a → read (some (.str t)) = a
  of_not_means : ∀ {t}, (∀ a, ¬ field.Means t a) → read (some (.str t)) = field.placeholder
  of_ne_str : ∀ {v}, (∀ t, v ≠ some (.str t)) → read v = field.placeholder

variable {α : Type} {field : Field α} {read : Option Json → α}

theorem ReadBy.reads (h : field.ReadBy read) (v : Json) : field.Reads v (read (v.at? field.path)) := by
  by_cases hstr : ∃ t, v.at? field.path = some (.str t)
  · obtain ⟨t, hthere⟩ := hstr
    by_cases hmeans : ∃ a, field.Means t a
    · obtain ⟨a, hmeans⟩ := hmeans
      rw [hthere, h.of_means hmeans]
      exact .told hthere hmeans
    · rw [hthere, h.of_not_means (not_exists.mp hmeans)]
      refine .missing fun t' hthere' a hmeans' => hmeans ⟨a, ?_⟩
      rw [hthere] at hthere'
      cases hthere'
      exact hmeans'
  · rw [h.of_ne_str (not_exists.mp hstr)]
    exact .missing fun t hthere => absurd ⟨t, hthere⟩ hstr

/-- A value holds one thing of the field and no other. -/
theorem ReadBy.eq_iff (h : field.ReadBy read) {v : Json} {a : α} :
    read (v.at? field.path) = a ↔ field.Reads v a := by
  constructor
  · rintro rfl
    exact h.reads v
  · intro hreads
    cases hreads with
    | told there means => rw [there, h.of_means means]
    | missing untold =>
      by_cases hstr : ∃ t, v.at? field.path = some (.str t)
      · obtain ⟨t, hthere⟩ := hstr
        rw [hthere, h.of_not_means (untold t hthere)]
      · exact h.of_ne_str (not_exists.mp hstr)

theorem readBy_textOr {path : List Text} {value : Analysis → Text} {placeholder : Text} :
    (ofText path value placeholder).ReadBy (textOr placeholder) where
  of_means := by
    rintro t a ⟨rfl, hsaid⟩
    exact textOr_str (by simpa [Text.allBlank] using hsaid)
  of_not_means := by
    intro t hnone
    have hblank : Text.allBlank t = true := by
      rw [Text.allBlank, List.all_eq_true]
      intro c hc
      exact Bool.of_not_eq_false fun hsaid => hnone t ⟨rfl, c, hc, hsaid⟩
    simp [textOr, hblank, ofText]
  of_ne_str := by
    intro v hv
    rw [textOr]
    · rfl
    · exact fun t => hv t

/-- A choice is read if every one of them is read from its own name. -/
theorem readBy_choiceOr {choices : List α} {name : α → Text} {placeholder : α}
    (hname : ∀ a, choiceOr choices name placeholder (some (.str (name a))) = a) {path : List Text}
    {value : Analysis → α} :
    (ofChoice path value placeholder name).ReadBy (choiceOr choices name placeholder) where
  of_means := by
    rintro t a rfl
    exact hname a
  of_not_means := by
    intro t hnone
    have hfind : choices.find? (fun a => name a == t) = none := by
      rw [List.find?_eq_none]
      intro a _ hsame
      exact hnone a (eq_of_beq hsame)
    rw [choiceOr, hfind]
    rfl
  of_ne_str := by
    intro v hv
    rw [choiceOr]
    · rfl
    · exact fun t => hv t

end Field

/-! ### Reading all ten -/

/-- Of any reply the field is read from the value at its own place. -/
def Field.Separate {α : Type} (field : Field α) : Prop :=
  ∃ read, field.ReadBy read ∧
    ∀ reply : Members, field.value (ofObject reply) = read (Json.at? field.path (.obj reply))

theorem Field.Separate.ofText {path : List Text} {value : Analysis → Text} {placeholder : Text}
    (h : ∀ reply : Members,
      value (ofObject reply) = textOr placeholder (Json.at? path (.obj reply))) :
    (Field.ofText path value placeholder).Separate :=
  ⟨_, readBy_textOr, h⟩

theorem separate_of_mem : ∀ field ∈ fields, field.2.Separate := by
  simp only [fields, List.forall_mem_cons, List.not_mem_nil, false_imp_iff, implies_true, and_true]
  refine ⟨⟨_, Field.readBy_choiceOr choiceOr_verdict, ?verdict⟩,
    .ofText ?_, .ofText ?_, .ofText ?_, .ofText ?_, .ofText ?_, .ofText ?_,
    ⟨_, Field.readBy_choiceOr choiceOr_level, ?level⟩,
    .ofText ?_, .ofText ?_⟩ <;> intro reply <;>
    simp only [Field.ofChoice, ofObject, get?_membersOf, Json.at?_singleton]

/-- There is nothing in an analysis but its ten fields. -/
theorem eq_of_values_eq {a b : Analysis} (h : ∀ field ∈ fields, field.2.value a = field.2.value b) :
    a = b := by
  simp only [fields, List.forall_mem_cons, List.not_mem_nil, false_imp_iff, implies_true, and_true,
    Field.ofText, Field.ofChoice] at h
  obtain ⟨hverdict, hheadline, hissue, hwhy, hrisk, haction, himpact, hlevel, hreason, hnext⟩ := h
  refine eq_of_texts_eq hverdict hlevel ?_
  rw [texts, texts, hheadline, hissue, hwhy, hrisk, haction, himpact, hreason, hnext]

/-- What an analysis tells in a field is what the reply holds of the field, at its own place; and so two
replies that agree at the place of a field give the same for it, whatever else is in them. Two that agree
at all ten places give the same analysis. -/
theorem value_ofObject_iff_reads :
    (∀ field ∈ fields, ∀ (reply : Members) (a : field.1),
      field.2.value (ofObject reply) = a ↔ field.2.Reads (.obj reply) a) ∧
    (∀ field ∈ fields, ∀ reply reply' : Members,
      Json.at? field.2.path (.obj reply) = Json.at? field.2.path (.obj reply') →
        field.2.value (ofObject reply) = field.2.value (ofObject reply')) ∧
    ∀ reply reply' : Members, (∀ field ∈ fields,
      Json.at? field.2.path (.obj reply) = Json.at? field.2.path (.obj reply')) →
        ofObject reply = ofObject reply' := by
  have hagree : ∀ field ∈ fields, ∀ reply reply' : Members,
      Json.at? field.2.path (.obj reply) = Json.at? field.2.path (.obj reply') →
        field.2.value (ofObject reply) = field.2.value (ofObject reply') := by
    intro field hfield reply reply' hplace
    obtain ⟨read, -, hread⟩ := separate_of_mem field hfield
    rw [hread, hread, hplace]
  refine ⟨?_, hagree, ?_⟩
  · intro field hfield reply a
    obtain ⟨read, hreadBy, hread⟩ := separate_of_mem field hfield
    rw [hread]
    exact hreadBy.eq_iff
  · intro reply reply' hplaces
    exact eq_of_values_eq fun field hfield => hagree field hfield reply reply' (hplaces field hfield)

/-- A reply with a level, and with nothing of use at the other places. -/
def levelOnly : Members :=
  [("verdict", .int 7), ("headline", .text "  "), ("primaryRisk", .text "none"),
    ("confidence", .object [("level", .text "LOW"), ("reason", .arr [])])]

/-- A reply with the same level and much else. -/
def levelAmongOthers : Members :=
  [("confidence", .object [("reason", .text "seen"), ("level", .text "LOW")]),
    ("verdict", .text "CRITICAL"), ("recommendedFix", .object [("action", .text " act ")])]

/-- The two replies agree at the place of the level, and so do their analyses. -/
theorem value_ofObject_iff_reads_level :
    Json.at? ["confidence", "level"] (.obj levelOnly) =
        Json.at? ["confidence", "level"] (.obj levelAmongOthers) ∧
      (ofObject levelOnly).confidence.level = (ofObject levelAmongOthers).confidence.level := by
  have hplace : Json.at? ["confidence", "level"] (.obj levelOnly) =
      Json.at? ["confidence", "level"] (.obj levelAmongOthers) := rfl
  refine ⟨hplace, ?_⟩
  exact value_ofObject_iff_reads.2.1
    ⟨_, .ofChoice ["confidence", "level"] (fun a => a.confidence.level) .medium ConfidenceLevel.name⟩
    (by simp [fields]) levelOnly levelAmongOthers hplace

end QueryAdvisor.Analysis
