import QueryAdvisor.Proofs.Analysis.Fields
import QueryAdvisor.Proofs.Json.Wire

/-!
# Analyses that can be written

A surrogate alone has no bytes, so an analysis can be written exactly if none of its texts holds one. What
the service says of its own accord never does, and of a query it repeats a word at most. A reply can hold
anything that an escape names:

    query  ──▶ characters of a word ──▶ no surrogates ─────────▶ can be written
    reply  ──▶ the text at a path ───▶ perhaps a surrogate ───▶ cannot be written
-/

namespace QueryAdvisor

namespace CodePoint

theorem isWord_of_isSurrogate {c : CodePoint} (h : isSurrogate c = true) : isWord c = false := by
  have hclear : ∀ range ∈ Text.wordRanges, range.2 < 0xD800 ∨ 0xDFFF < range.1 := by decide +kernel
  simp only [isSurrogate, Bool.and_eq_true, decide_eq_true_eq] at h
  rw [isWord, if_neg (by omega), Text.inRanges, List.any_eq_false]
  intro range hmem
  have hapart := hclear range hmem
  simp only [Bool.and_eq_true, decide_eq_true_eq]
  omega

theorem isBlank_of_isSurrogate {c : CodePoint} (h : isSurrogate c = true) : isBlank c = false := by
  simp only [isSurrogate, Bool.and_eq_true, decide_eq_true_eq] at h
  simp only [isBlank, isWhiteSpace, Bool.or_eq_false_iff, Bool.and_eq_false_iff, beq_eq_false_iff_ne,
    decide_eq_false_iff_not]
  omega

end CodePoint

namespace Text

theorem allBlank_of_hasSurrogate {t : Text} (h : t.hasSurrogate = true) : allBlank t = false := by
  obtain ⟨c, hc, hsurrogate⟩ := List.any_eq_true.mp h
  rw [allBlank, List.all_eq_false]
  exact ⟨c, hc, by rw [CodePoint.isBlank_of_isSurrogate hsurrogate]; decide⟩

theorem hasSurrogate_takeWhile_isWord (t : Text) :
    hasSurrogate (t.takeWhile CodePoint.isWord) = false := by
  rw [hasSurrogate, List.any_eq_false]
  intro c hc hsurrogate
  have hword := List.all_eq_true.mp (List.all_takeWhile (p := CodePoint.isWord) (l := t)) c hc
  rw [CodePoint.isWord_of_isSurrogate hsurrogate] at hword
  cases hword

end Text

theorem Verdict.hasSurrogate_name (v : Verdict) : v.name.hasSurrogate = false := by
  cases v <;> exact Text.hasSurrogate_ofString _

theorem ConfidenceLevel.hasSurrogate_name (level : ConfidenceLevel) :
    level.name.hasSurrogate = false := by
  cases level <;> exact Text.hasSurrogate_ofString _

namespace Analysis

/-! ### By the structure of a query -/

theorem hasSurrogate_of_tableHere? {t name : Text} (h : tableHere? t = some name) :
    name.hasSurrogate = false := by
  simp only [tableHere?, Option.bind_eq_bind, Option.bind_eq_some_iff] at h
  obtain ⟨behind, -, rest, -, hname⟩ := h
  split at hname
  · cases hname
  · exact Option.some.inj hname ▸ Text.hasSurrogate_takeWhile_isWord rest

theorem hasSurrogate_of_firstTable? {t name : Text} (h : firstTable? t = some name) :
    name.hasSurrogate = false := by
  induction t with
  | nil => cases h
  | cons c rest ih =>
    rw [firstTable?] at h
    split at h
    · next found hfound => exact Option.some.inj h ▸ hasSurrogate_of_tableHere? hfound
    · exact ih h

theorem hasSurrogate_tableName (query : Text) : (tableName query).hasSurrogate = false := by
  rw [tableName]
  cases hfirst : firstTable? query with
  | none => exact Text.hasSurrogate_ofString _
  | some name => exact hasSurrogate_of_firstTable? hfirst

theorem hasSurrogate_texts_ofStructure (query : Text) :
    ∀ t ∈ (ofStructure query).texts, t.hasSurrogate = false := by
  have htable := hasSurrogate_tableName query
  rw [forall_mem_texts_iff]
  rcases ofStructure_cases query with h | h | ⟨hasJoin, h⟩
  · rw [h]
    simp [unfiltered, structureConfidence, structureReason, Text.hasSurrogate_append,
      Text.hasSurrogate_ofString, htable]
  · rw [h]
    simp [allColumns, structureConfidence, structureReason, Text.hasSurrogate_append,
      Text.hasSurrogate_ofString, htable]
  · rw [h]
    cases hasJoin <;>
      simp [reasonable, structureConfidence, structureReason, Text.hasSurrogate_ofString]

/-! ### By a reply -/

theorem hasSurrogate_placeholder : ∀ field ∈ textFields, field.placeholder.hasSurrogate = false := by
  simp only [textFields, List.forall_mem_cons, List.not_mem_nil, false_imp_iff, implies_true,
    and_true]
  refine ⟨?_, ?_, ?_, ?_, ?_, ?_, ?_, ?_⟩ <;> exact Text.hasSurrogate_ofString _

/-- A surrogate in a field comes from the reply, and from the field's own place in it. -/
theorem hasSurrogate_textOr_iff {placeholder : Text} (h : placeholder.hasSurrogate = false)
    {value : Option Json} : (textOr placeholder value).hasSurrogate = true ↔
      ∃ t, value = some (.str t) ∧ t.hasSurrogate = true := by
  constructor
  · intro hsurrogate
    unfold textOr at hsurrogate
    split at hsurrogate
    · next t =>
      split at hsurrogate
      · rw [h] at hsurrogate
        cases hsurrogate
      · exact ⟨t, rfl, hsurrogate⟩
    · rw [h] at hsurrogate
      cases hsurrogate
  · rintro ⟨t, rfl, hsurrogate⟩
    rwa [textOr_str (Text.allBlank_of_hasSurrogate hsurrogate)]

/-- A text of the reply, at the place of one of the eight fields, holds a surrogate alone. -/
def Garbled (reply : Members) : Prop :=
  ∃ field ∈ textFields, ∃ t, Json.at? field.path (.obj reply) = some (.str t) ∧ t.hasSurrogate = true

theorem exists_hasSurrogate_texts_ofObject_iff {reply : Members} :
    (∃ t ∈ (ofObject reply).texts, t.hasSurrogate = true) ↔ Garbled reply := by
  rw [texts_ofObject]
  constructor
  · rintro ⟨t, ht, hsurrogate⟩
    obtain ⟨field, hfield, rfl⟩ := List.mem_map.mp ht
    exact ⟨field, hfield,
      (hasSurrogate_textOr_iff (hasSurrogate_placeholder field hfield)).mp hsurrogate⟩
  · rintro ⟨field, hfield, htext⟩
    exact ⟨_, List.mem_map_of_mem hfield,
      (hasSurrogate_textOr_iff (hasSurrogate_placeholder field hfield)).mpr htext⟩

/-! ### What can be written -/

/-- No name in an analysis is reserved. -/
theorem withoutReserved_toJson (a : Analysis) : a.toJson.withoutReserved = a.toJson := by
  have hrisk : (riskToJson a.primaryRisk).withoutReserved = riskToJson a.primaryRisk :=
    Json.withoutReserved_object ["issue", "whyItMatters", "estimatedRiskAt"] rfl (by decide)
      (by simp [Json.withoutReserved])
  have hfix : (fixToJson a.recommendedFix).withoutReserved = fixToJson a.recommendedFix :=
    Json.withoutReserved_object ["action", "impact"] rfl (by decide)
      (by simp [Json.withoutReserved])
  have hconfidence : (confidenceToJson a.confidence).withoutReserved = confidenceToJson a.confidence :=
    Json.withoutReserved_object ["level", "reason"] rfl (by decide)
      (by simp [Json.withoutReserved])
  exact Json.withoutReserved_object
    ["verdict", "headline", "primaryRisk", "recommendedFix", "confidence", "nextStep"] rfl
    (by decide) (by simp [Json.withoutReserved, hrisk, hfix, hconfidence])

/-- Of an analysis only the eight texts can keep it from being written. -/
theorem isWritable_toJson_iff {a : Analysis} :
    a.toJson.isWritable = true ↔ ∀ t ∈ a.texts, t.hasSurrogate = false := by
  rw [forall_mem_texts_iff, toJson, riskToJson, fixToJson, confidenceToJson]
  simp only [Json.isWritable_object, List.all_cons, List.all_nil, Json.isWritable,
    Verdict.hasSurrogate_name, ConfidenceLevel.hasSurrogate_name, Bool.and_true, Bool.and_eq_true,
    Bool.not_eq_true', and_assoc, true_and, Bool.not_false]

end Analysis

end QueryAdvisor
