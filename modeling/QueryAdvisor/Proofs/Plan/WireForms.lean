import QueryAdvisor.Plan.Acquisition
import QueryAdvisor.Proofs.Json.Nesting

/-!
# The forms in which a plan comes

A database may return one and the same document in many forms, and the summary does not tell which:

    {…}                           ─┐
    [{…}, …]                       ├─▶ {…} ──▶ a summary, or what is wrong with the document
    a text that writes one of them │
    bytes that hold such a text   ─┘
    text or bytes nested too deeply ──────▶ a fault that nobody is prepared for
    anything else ────────────────────────▶ no plan document

Text and bytes are read once. A string that comes out of them is a value like any other, whatever it
writes in turn, and no document.
-/

namespace QueryAdvisor

/-- What was returned holds the value: it is the value, or a text that writes it, or the bytes of such a
text in one of the encodings. -/
inductive RawPlan.Holds : RawPlan → Json → Prop where
  | value (v : Json) : Holds (.value v) v
  | text {t : Text} {v : Json} (writes : Json.ofText t = .ok v) : Holds (.text t) v
  | bytes {b : Bytes} {t : Text} {v : Json} (encodes : Text.ofBytes? b = some t)
    (writes : Json.ofText t = .ok v) : Holds (.bytes b) v

/-- The value is the object, or an array with the object in front. -/
inductive Json.LeadsWith (d : Members) : Json → Prop where
  | alone : LeadsWith d (.obj d)
  | first (others : List Json) : LeadsWith d (.arr (.obj d :: others))

/-- What was returned is a form of the object. -/
def RawPlan.IsFormOf (raw : RawPlan) (d : Members) : Prop := ∃ v, raw.Holds v ∧ v.LeadsWith d

/-- What was returned is a text, or the bytes of one, that is nested too deeply to be read. -/
inductive RawPlan.TooDeep : RawPlan → Prop where
  | text {t : Text} (reads : Json.ofText t = .error .tooDeep) : TooDeep (.text t)
  | bytes {b : Bytes} {t : Text} (encodes : Text.ofBytes? b = some t)
    (reads : Json.ofText t = .error .tooDeep) : TooDeep (.bytes b)

/-! ### What is read -/

/-- What was returned holds one value at most: the one that is read. -/
theorem RawPlan.holds_iff_read? {raw : RawPlan} {v : Json} :
    raw.Holds v ↔ raw.read? = .ok (some v) := by
  cases raw with
  | value w =>
    constructor
    · rintro ⟨⟩
      rfl
    · intro h
      obtain rfl := Option.some.inj (Except.ok.inj h)
      exact .value w
  | text t =>
    rw [read?, Json.caught_eq_some_iff]
    constructor
    · rintro ⟨⟩
      assumption
    · exact .text
  | bytes b =>
    rw [read?, Json.caught_eq_some_iff]
    constructor
    · rintro (_ | _ | ⟨hencodes, hwrites⟩)
      rw [Json.ofBytes_of_text hencodes]
      exact hwrites
    · intro h
      obtain ⟨t, hencodes, hwrites⟩ := Json.exists_text_of_ofBytes h (by simp)
      exact .bytes hencodes hwrites

theorem RawPlan.tooDeep_iff_read? {raw : RawPlan} :
    raw.TooDeep ↔ raw.read? = .error .tooDeep := by
  cases raw with
  | value w =>
    constructor
    · rintro ⟨⟩
    · intro h
      cases h
  | text t =>
    rw [read?, Json.caught_eq_error_iff]
    constructor
    · rintro ⟨⟩
      assumption
    · exact .text
  | bytes b =>
    rw [read?, Json.caught_eq_error_iff]
    constructor
    · rintro (_ | ⟨hencodes, hreads⟩)
      rw [Json.ofBytes_of_text hencodes]
      exact hreads
    · intro h
      obtain ⟨t, hencodes, hreads⟩ := Json.exists_text_of_ofBytes h (by simp)
      exact .bytes hencodes hreads

theorem RawPlan.not_tooDeep_of_holds {raw : RawPlan} {v : Json} (h : raw.Holds v) : ¬ raw.TooDeep := by
  intro hdeep
  have hread : raw.read? = .error .tooDeep := RawPlan.tooDeep_iff_read?.mp hdeep
  rw [RawPlan.holds_iff_read?.mp h] at hread
  cases hread

namespace PlanDocument

theorem ofJson?_of_leadsWith {v : Json} {d : Members} (h : v.LeadsWith d) :
    ofJson? v = ofObject? (some (.obj d)) := by
  cases h with
  | alone => rfl
  | first others => rfl

/-- All forms of an object are the same document, or none. -/
theorem ofRaw?_of_isFormOf {raw : RawPlan} {d : Members} (h : raw.IsFormOf d) :
    ofRaw? raw = .ok (ofObject? (some (.obj d))) := by
  obtain ⟨v, hholds, hleads⟩ := h
  rw [ofRaw?, RawPlan.holds_iff_read?.mp hholds, ← ofJson?_of_leadsWith hleads]
  rfl

theorem ofRaw?_eq_error_iff {raw : RawPlan} : ofRaw? raw = .error .tooDeep ↔ raw.TooDeep := by
  rw [RawPlan.tooDeep_iff_read?, ofRaw?]
  cases raw.read? <;> simp [Except.map]

/-- Of an object it takes one under `Plan` to be a document. -/
theorem ofObject?_eq_none_iff {d : Members} :
    ofObject? (some (.obj d)) = none ↔ ∀ root, d.get? "Plan" ≠ some (.obj root) := by
  rw [ofObject?]
  split
  · next root hroot => simp [hroot]
  · next hnone =>
    refine iff_of_true rfl ?_
    intro root hroot
    exact hnone root hroot

/-- An object that leads is all that is looked at. -/
theorem ofJson?_eq_none_iff {v : Json} :
    ofJson? v = none ↔ ∀ d, v.LeadsWith d → ∀ root, d.get? "Plan" ≠ some (.obj root) := by
  by_cases hleads : ∃ d, v.LeadsWith d
  · obtain ⟨d, hd⟩ := hleads
    rw [ofJson?_of_leadsWith hd, ofObject?_eq_none_iff]
    constructor
    · intro h d' hd'
      cases hd with
      | alone => cases hd'; exact h
      | first others => cases hd'; exact h
    · intro h
      exact h d hd
  · refine iff_of_true ?_ fun d hd => absurd ⟨d, hd⟩ hleads
    cases v with
    | obj members => exact absurd ⟨members, .alone⟩ hleads
    | arr items =>
      cases items with
      | nil => rfl
      | cons item others =>
        cases item with
        | obj members => exact absurd ⟨members, .first others⟩ hleads
        | _ => rfl
    | _ => rfl

theorem ofRaw?_eq_none_iff {raw : RawPlan} : ofRaw? raw = .ok none ↔
    ¬ raw.TooDeep ∧ ∀ d, raw.IsFormOf d → ∀ root, d.get? "Plan" ≠ some (.obj root) := by
  have hforms : (∀ d, raw.IsFormOf d → ∀ root, d.get? "Plan" ≠ some (.obj root)) ↔
      ∀ v, raw.read? = .ok (some v) → ofJson? v = none := by
    simp only [← RawPlan.holds_iff_read?, ofJson?_eq_none_iff]
    constructor
    · intro h v hholds d hleads
      exact h d ⟨v, hholds, hleads⟩
    · rintro h d ⟨v, hholds, hleads⟩
      exact h v hholds d hleads
  rw [hforms, ← ofRaw?_eq_error_iff, ofRaw?]
  cases hread : raw.read? with
  | error escape => simp [Except.map]
  | ok value => cases value <;> simp [Except.map]

end PlanDocument

/-! ### What comes of it -/

namespace Acquisition

/-- Only the document counts, and without one the fault is that there is none. -/
theorem summarize_congr {raw raw' : RawPlan} (h : PlanDocument.ofRaw? raw = PlanDocument.ofRaw? raw')
    (analyzed : Bool) : summarize (.ok (raw, analyzed)) = summarize (.ok (raw', analyzed)) := by
  rw [summarize, summarize, h]

theorem summarize_eq_invalid_iff {raw : RawPlan} {analyzed : Bool} :
    summarize (.ok (raw, analyzed)) = .error .invalid ↔ PlanDocument.ofRaw? raw = .ok none := by
  rw [summarize]
  cases PlanDocument.ofRaw? raw with
  | error escape => simp
  | ok doc? =>
    cases doc? with
    | none => simp
    | some doc =>
      dsimp only
      cases ExecutionPlan.ofDocument doc analyzed with
      | error fault => simp
      | ok plan => simp

theorem summarize_eq_unread_iff {raw : RawPlan} {analyzed : Bool} :
    summarize (.ok (raw, analyzed)) = .error (.unread .tooDeep) ↔ raw.TooDeep := by
  rw [← PlanDocument.ofRaw?_eq_error_iff, summarize]
  cases PlanDocument.ofRaw? raw with
  | error other => simp
  | ok doc? =>
    cases doc? with
    | none => simp
    | some doc =>
      dsimp only
      cases ExecutionPlan.ofDocument doc analyzed with
      | error fault => simp
      | ok plan => simp

theorem outcome_ofQuery {explain : Text → Explanation} {query : Text} (haccepts : Policy.Accepts query) :
    (ofQuery explain query).outcome = summarize (explain query).outcome := by
  rw [ofQuery, show Policy.check query = none from haccepts]

/-- For an accepted query the attempt to get a plan ends alike for all forms of an object that databases
return. It ends in the fault that there is no plan document if and only if what is returned is no form of
an object that has an object under `Plan`, and is not nested too deeply either: so it does where nothing can
be read for another reason, and where what is read, once, is neither an object nor an array with one in
front, a string among others. What is nested too deeply, and only that, ends it in a fault of which nobody is
told. -/
theorem outcome_ofQuery_of_forms {explain explain' : Text → Explanation} {query : Text}
    (haccepts : Policy.Accepts query) {raw raw' : RawPlan} {analyzed : Bool}
    (hraw : (explain query).outcome = .ok (raw, analyzed))
    (hraw' : (explain' query).outcome = .ok (raw', analyzed)) :
    (∀ d, raw.IsFormOf d → raw'.IsFormOf d →
      (ofQuery explain query).outcome = (ofQuery explain' query).outcome) ∧
    ((ofQuery explain query).outcome = .error .invalid ↔
      ¬ raw.TooDeep ∧ ∀ d, raw.IsFormOf d → ∀ root, d.get? "Plan" ≠ some (.obj root)) ∧
    (¬ raw.TooDeep → (∀ v d, raw.Holds v → ¬ v.LeadsWith d) →
      (ofQuery explain query).outcome = .error .invalid) ∧
    ((ofQuery explain query).outcome = .error (.unread .tooDeep) ↔ raw.TooDeep) ∧
    PlanFault.invalid.message? = some "Invalid execution plan returned" ∧
    (PlanFault.unread .tooDeep).message? = none := by
  have hinvalid : (ofQuery explain query).outcome = .error .invalid ↔
      ¬ raw.TooDeep ∧ ∀ d, raw.IsFormOf d → ∀ root, d.get? "Plan" ≠ some (.obj root) := by
    rw [outcome_ofQuery haccepts, hraw, summarize_eq_invalid_iff, PlanDocument.ofRaw?_eq_none_iff]
  refine ⟨?_, hinvalid, ?_, ?_, rfl, rfl⟩
  · intro d hform hform'
    rw [outcome_ofQuery haccepts, outcome_ofQuery haccepts, hraw, hraw']
    apply summarize_congr
    rw [PlanDocument.ofRaw?_of_isFormOf hform, PlanDocument.ofRaw?_of_isFormOf hform']
  · intro hflat hnone
    refine hinvalid.mpr ⟨hflat, ?_⟩
    rintro d ⟨v, hholds, hleads⟩
    exact absurd hleads (hnone v d hholds)
  · rw [outcome_ofQuery haccepts, hraw, summarize_eq_unread_iff]

/-- A database that returns the same for each query. -/
def returning (raw : RawPlan) (_ : Text) : Explanation := { outcome := .ok (raw, true) }

/-- A plan document. -/
def costsFive : Members := [("Plan", .obj [("Total Cost", .int 5)])]

/-- The value is the document. -/
def isCostsFive : Json → Bool
  | .obj [(plan, .obj [(cost, .int n)])] => plan = "Plan" && cost = "Total Cost" && n = 5
  | _ => false

theorem eq_of_isCostsFive {v : Json} (h : isCostsFive v = true) : v = .obj costsFive := by
  unfold isCostsFive at h
  split at h
  · simp only [Bool.and_eq_true, decide_eq_true_eq] at h
    obtain ⟨⟨rfl, rfl⟩, rfl⟩ := h
    rfl
  · cases h

/-- The document leads the value. -/
def leadsCostsFive : Json → Bool
  | .arr (first :: _) => isCostsFive first
  | v => isCostsFive v

theorem leadsWith_of_leadsCostsFive {v : Json} (h : leadsCostsFive v = true) :
    v.LeadsWith costsFive := by
  unfold leadsCostsFive at h
  split at h
  · rw [eq_of_isCostsFive h]
    exact .first _
  · rw [eq_of_isCostsFive h]
    exact .alone

/-- The document as text. -/
def costsFiveText : Text := "\x7b\"Plan\": \x7b\"Total Cost\": 5\x7d\x7d"

/-- The document in front of an array, as text. -/
def costsFiveInArray : Text := "[\x7b\"Plan\": \x7b\"Total Cost\": 5\x7d\x7d, 7]"

/-- The document in UTF-16, little end first, with the mark that says so. -/
def costsFiveUtf16 : Bytes :=
  [255, 254] ++ costsFiveText.flatMap fun c => [c.val.toUInt8, 0]

/-- A text that writes a string that writes the document. -/
def costsFiveTwice : Text := "\"\x7b\\\"Plan\\\": \x7b\\\"Total Cost\\\": 5\x7d\x7d\""

/-- An array in text and an object in bytes give the same plan; text in text gives none. -/
theorem outcome_ofQuery_of_forms_costsFive :
    Policy.Accepts "SELECT id FROM items" ∧
    (returning (.text costsFiveInArray) "SELECT id FROM items").outcome =
      .ok (.text costsFiveInArray, true) ∧
    (returning (.bytes costsFiveUtf16) "SELECT id FROM items").outcome =
      .ok (.bytes costsFiveUtf16, true) ∧
    (RawPlan.text costsFiveInArray).IsFormOf costsFive ∧
    (RawPlan.bytes costsFiveUtf16).IsFormOf costsFive ∧
    (ofQuery (returning (.text costsFiveInArray)) "SELECT id FROM items").outcome =
      (ofQuery (returning (.bytes costsFiveUtf16)) "SELECT id FROM items").outcome ∧
    (ofQuery (returning (.text costsFiveTwice)) "SELECT id FROM items").outcome =
      .error .invalid := by
  have haccepts : Policy.Accepts "SELECT id FROM items" := by decide +kernel
  have hutf16 : Text.ofBytes? costsFiveUtf16 = some costsFiveText := by decide +kernel
  obtain ⟨array, harray, hfirst⟩ := Json.exists_of_any_toOption
    (show (Json.ofText costsFiveInArray).toOption.any leadsCostsFive = true by decide +kernel)
  obtain ⟨object, hobject, halone⟩ := Json.exists_of_any_toOption
    (show (Json.ofText costsFiveText).toOption.any leadsCostsFive = true by decide +kernel)
  obtain ⟨twice, htwice, hnone⟩ := Json.exists_of_any_toOption
    (show (Json.ofText costsFiveTwice).toOption.any (PlanDocument.ofJson? · |>.isNone) = true by
      decide +kernel)
  have hform : (RawPlan.text costsFiveInArray).IsFormOf costsFive :=
    ⟨array, .text harray, leadsWith_of_leadsCostsFive hfirst⟩
  have hform' : (RawPlan.bytes costsFiveUtf16).IsFormOf costsFive :=
    ⟨object, .bytes hutf16 hobject, leadsWith_of_leadsCostsFive halone⟩
  have hreturns : ∀ raw, (returning raw "SELECT id FROM items").outcome = .ok (raw, true) :=
    fun _ => rfl
  obtain ⟨hsame, -⟩ := outcome_ofQuery_of_forms haccepts (hreturns (.text costsFiveInArray))
    (hreturns (.bytes costsFiveUtf16))
  obtain ⟨-, hinvalid, -⟩ := outcome_ofQuery_of_forms haccepts (hreturns (.text costsFiveTwice))
    (hreturns (.text costsFiveTwice))
  refine ⟨haccepts, hreturns _, hreturns _, hform, hform', hsame _ hform hform',
    hinvalid.mpr ⟨RawPlan.not_tooDeep_of_holds (.text htwice), ?_⟩⟩
  rintro d ⟨v, (_ | hwrites | _), hleads⟩
  obtain rfl : v = twice := Except.ok.inj (hwrites.symm.trans htwice)
  exact PlanDocument.ofJson?_eq_none_iff.mp (Option.isNone_iff_eq_none.mp hnone) d hleads

/-- A text with more brackets than are read gives no document, and it is not said that it gives none. -/
theorem not_forall_outcome_eq_invalid : ¬ ∀ (explain : Text → Explanation) (query : Text) (raw : RawPlan)
    (analyzed : Bool), Policy.Accepts query → (explain query).outcome = .ok (raw, analyzed) →
      (∀ v d, raw.Holds v → ¬ v.LeadsWith d) → (ofQuery explain query).outcome = .error .invalid := by
  intro h
  have haccepts : Policy.Accepts "SELECT id FROM items" := by decide +kernel
  have hdeep : (RawPlan.text (Json.brackets 100000)).TooDeep :=
    .text (Json.ofText_brackets (by decide))
  have hinvalid := h (returning (.text (Json.brackets 100000))) "SELECT id FROM items" _ true haccepts rfl
    fun v d hholds => absurd hdeep (RawPlan.not_tooDeep_of_holds hholds)
  rw [outcome_ofQuery haccepts, returning, summarize_eq_invalid_iff,
    PlanDocument.ofRaw?_eq_none_iff] at hinvalid
  exact hinvalid.1 hdeep

end Acquisition

end QueryAdvisor
