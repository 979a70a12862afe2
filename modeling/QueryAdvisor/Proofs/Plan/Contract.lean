import QueryAdvisor.Proofs.Plan.Shape
import QueryAdvisor.Proofs.Plan.Total
import QueryAdvisor.Proofs.Plan.WireForms
import QueryAdvisor.Proofs.Sandbox.Fallback
import QueryAdvisor.Service

/-!
# Which queries get a plan or a reason

An attempt to get a plan is meant to end in one of three ways: with the plan, with what is wrong with the
query, or with a sentence on why there is no plan. Between the database and the plan lies the document
that the database returns, and only its top is checked there:

    query rejected ─────────────────────────────▶ what is wrong with the query
    no connection, no row, nothing to be read,
    no object under Plan ───────────────────────▶ a sentence
    an object under Plan ─┬─ sound throughout ──▶ the plan
                          └─ anything else ─────▶ a fault without a sentence
    a text nested too deeply ───────────────────▶ a fault without a sentence

A document is sound if the plan in it has the shape of a plan down to the leaves, its costs give a number,
and so does each of the other three values that are asked for.
-/

namespace QueryAdvisor

/-! ### Numbers in a document -/

/-- The number that a text writes. -/
def Text.numeral? (t : Text) : Option Double := if t.hasSurrogate then none else Number.real? t

/-- The value gives the number: as a quantity, or as a text that writes it. -/
inductive Json.Gives (v : Json) (x : Double) : Prop where
  | quantity {q : Quantity} (reads : v.quantity? = some q) (real : q.real? = some x)
  | numeral {t : Text} (reads : v.text? = some t) (writes : t.numeral? = some x)

namespace Json

theorem elim_eq_ok_iff {fault : NumberFault} {number : Option Double} {x : Double} :
    number.elim (.error fault) Except.ok = .ok x ↔ number = some x := by
  cases number <;> simp

/-- A truth value is converted like the integer it counts as. -/
theorem toReal_of_quantity {v : Json} {q : Quantity} (h : v.quantity? = some q) :
    v.toReal = q.real?.elim (.error .wrongKind) .ok := by
  have hone : Double.ofInt? 1 = some .one := by decide +kernel
  have hzero : Double.ofInt? 0 = some .zero := by decide +kernel
  cases v with
  | float x => cases h; rfl
  | int n => cases h; rfl
  | bool b =>
    cases h
    cases b
    · simp [toReal, Quantity.real?, hzero]
    · simp [toReal, Quantity.real?, hone]
  | _ => cases h

theorem toReal_str_eq_ok_iff {t : Text} {x : Double} :
    (Json.str t).toReal = .ok x ↔ t.numeral? = some x := by
  rw [toReal, Text.numeral?]
  split
  · simp
  · exact elim_eq_ok_iff

theorem gives_of_quantity {v : Json} {q : Quantity} (h : v.quantity? = some q) {x : Double}
    (hreal : v.toReal = .ok x) : v.Gives x := by
  rw [toReal_of_quantity h, elim_eq_ok_iff] at hreal
  exact .quantity h hreal

theorem gives_iff {v : Json} {x : Double} : v.Gives x ↔ v.toReal = .ok x := by
  constructor
  · rintro (⟨hread, hreal⟩ | ⟨hread, hwrites⟩)
    · rw [toReal_of_quantity hread, elim_eq_ok_iff]
      exact hreal
    · cases v with
      | str t => cases hread; exact toReal_str_eq_ok_iff.mpr hwrites
      | _ => cases hread
  · intro hreal
    cases v with
    | bool _ | int _ | float _ => exact gives_of_quantity rfl hreal
    | str t => exact .numeral rfl (toReal_str_eq_ok_iff.mp hreal)
    | _ => cases hreal

end Json

namespace PlanNode

/-- The tree gives the number as its cost: by the quantities in it, or by the texts in it. -/
inductive Gives (node : PlanNode) (x : Double) : Prop where
  | quantity {q : Quantity} (sum : node.sum? .quantities = some q) (real : q.real? = some x)
  | numeral {t : Text} (sum : node.sum? .texts = some t) (writes : t.numeral? = some x)

/-- What is added up as values and then converted is what was added up within one of the kinds. -/
theorem gives_iff {node : PlanNode} {x : Double} :
    node.Gives x ↔ ∃ v, node.cost = .ok v ∧ v.toReal = .ok x := by
  constructor
  · rintro (⟨hsum, hreal⟩ | ⟨hsum, hwrites⟩)
    · obtain ⟨v, hv, hread⟩ := (cost_iff .quantities _ node).mpr hsum
      exact ⟨v, hv, Json.gives_iff.mp (.quantity hread hreal)⟩
    · obtain ⟨v, hv, hread⟩ := (cost_iff .texts _ node).mpr hsum
      exact ⟨v, hv, Json.gives_iff.mp (.numeral hread hwrites)⟩
  · rintro ⟨v, hv, hreal⟩
    rcases Json.gives_iff.mpr hreal with ⟨hread, hreal⟩ | ⟨hread, hwrites⟩
    · exact .quantity ((cost_iff .quantities _ node).mp ⟨v, hv, hread⟩) hreal
    · exact .numeral ((cost_iff .texts _ node).mp ⟨v, hv, hread⟩) hwrites

end PlanNode

/-! ### Sound documents -/

namespace PlanDocument

/-- The values for the other numbers of a summary, where the document has them. -/
def optional (doc : PlanDocument) : List (Option Json) :=
  [Json.field? "Execution Time" doc.members, Json.field? "Plan Rows" doc.root,
    Json.field? "Actual Rows" doc.root]

/-- The document holds a plan whose cost and other numbers can be had. -/
structure Sound (doc : PlanDocument) : Prop where
  shaped : PlanShaped (.obj doc.root)
  total : ∀ node, PlanNode.ofJson (.obj doc.root) = .ok node → ∃ x, node.Gives x
  others : ∀ v, some v ∈ doc.optional → ∃ x, v.Gives x

end PlanDocument

namespace ExecutionPlan

theorem exists_ofNumbers_iff {doc : PlanDocument} {analyzed : Bool} {total : Except NumberFault Double}
    {time rows actual : Except NumberFault (Option Double)} :
    (∃ plan, ofNumbers doc analyzed total time rows actual = .ok plan) ↔
      (∃ x, total = .ok x) ∧ ∀ number ∈ [time, rows, actual], ∃ y, number = .ok y := by
  cases total <;> cases time <;> cases rows <;> cases actual <;> simp [ofNumbers]

theorem exists_toReal?_iff {value : Option Json} :
    (∃ y, Json.toReal? value = .ok y) ↔ ∀ v, value = some v → ∃ x, v.Gives x := by
  cases value with
  | none => simp [Json.toReal?]
  | some v =>
    simp only [Json.toReal?, Option.some.injEq, forall_eq', Json.gives_iff]
    cases v.toReal <;> simp [Except.map]

theorem forall_toReal?_iff {values : List (Option Json)} :
    (∀ number ∈ values.map Json.toReal?, ∃ y, number = .ok y) ↔
      ∀ v, some v ∈ values → ∃ x, v.Gives x := by
  simp only [List.forall_mem_map, exists_toReal?_iff]
  constructor
  · intro h v hv
    exact h (some v) hv v rfl
  · rintro h _ hvalue v rfl
    exact h v hvalue

/-- A summary comes by way of a tree that gives its cost. -/
theorem exists_ofDocument_iff_exists_node {doc : PlanDocument} {analyzed : Bool} :
    (∃ plan, ofDocument doc analyzed = .ok plan) ↔ ∃ node, PlanNode.ofJson (.obj doc.root) = .ok node ∧
      (∃ x, node.Gives x) ∧ ∀ v, some v ∈ doc.optional → ∃ x, v.Gives x := by
  rw [ofDocument]
  cases PlanNode.ofJson (.obj doc.root) with
  | error fault => simp
  | ok node =>
    simp only [Except.ok.injEq, exists_eq_left', PlanNode.gives_iff, ← forall_toReal?_iff]
    cases node.cost with
    | error fault => simp
    | ok cost =>
      simp only [Except.ok.injEq, exists_eq_left']
      exact exists_ofNumbers_iff

/-- There is a summary of a document if and only if it is sound. -/
theorem exists_ofDocument_iff {doc : PlanDocument} {analyzed : Bool} :
    (∃ plan, ofDocument doc analyzed = .ok plan) ↔ doc.Sound := by
  rw [exists_ofDocument_iff_exists_node]
  constructor
  · rintro ⟨node, hnode, hgives, hothers⟩
    refine ⟨PlanNode.exists_ofJson_iff.mp ⟨node, hnode⟩, fun node' hnode' => ?_, hothers⟩
    rw [hnode] at hnode'
    exact Except.ok.inj hnode' ▸ hgives
  · rintro ⟨hshaped, htotal, hothers⟩
    obtain ⟨node, hnode⟩ := PlanNode.exists_ofJson_iff.mpr hshaped
    exact ⟨node, hnode, htotal node hnode, hothers⟩

end ExecutionPlan

/-! ### Faults -/

/-- The fault is one that is meant to be: it tells what is wrong with the query, or why there is no plan. -/
inductive PlanFault.Documented : PlanFault → Prop where
  | rejected (violation : Violation) : Documented (.rejected violation)
  | explain {fault : ExplainFault} (reported : ∀ exception, fault ≠ .escaped exception) :
    Documented (.explain fault)
  | invalid : Documented .invalid

/-- Just the documented faults have a sentence for the user. -/
theorem PlanFault.documented_iff_message? {fault : PlanFault} :
    fault.Documented ↔ ∃ message, fault.message? = some message := by
  constructor
  · intro hdocumented
    cases hdocumented with
    | rejected violation => exact ⟨_, rfl⟩
    | invalid => exact ⟨_, rfl⟩
    | @explain fault reported =>
      cases fault with
      | escaped exception => exact absurd rfl (reported exception)
      | _ => exact ⟨_, rfl⟩
  · rintro ⟨message, hmessage⟩
    cases fault with
    | rejected violation => exact .rejected violation
    | invalid => exact .invalid
    | unread escape => cases hmessage
    | summary fault => cases hmessage
    | explain fault =>
      refine .explain fun exception hescaped => ?_
      rw [hescaped] at hmessage
      cases hmessage

namespace Acquisition

/-- The attempt ends in a fault that is not meant to be. -/
def Breaks (outcome : Except PlanFault ExecutionPlan) : Prop :=
  ∃ fault, outcome = .error fault ∧ ¬ fault.Documented

theorem breaks_summarize_of_doc {raw : RawPlan} {analyzed : Bool} {doc : PlanDocument}
    (hdoc : PlanDocument.ofRaw? raw = .ok (some doc)) :
    Breaks (summarize (.ok (raw, analyzed))) ↔ ¬ doc.Sound := by
  have hsound : (∃ plan, ExecutionPlan.ofDocument doc analyzed = .ok plan) ↔ doc.Sound :=
    ExecutionPlan.exists_ofDocument_iff
  rw [summarize, hdoc, ← hsound]
  dsimp only
  cases ExecutionPlan.ofDocument doc analyzed with
  | ok plan => simp [Breaks]
  | error fault =>
    constructor
    · rintro - ⟨plan, hplan⟩
      cases hplan
    · intro _
      exact ⟨.summary fault, rfl, by rintro ⟨⟩⟩

theorem breaks_summarize_of_tooDeep {raw : RawPlan} (h : raw.TooDeep) (analyzed : Bool) :
    Breaks (summarize (.ok (raw, analyzed))) :=
  ⟨.unread .tooDeep, summarize_eq_unread_iff.mpr h, by rintro ⟨⟩⟩

end Acquisition

/-- What was returned holds neither a plan nor a reason why there is none: it is nested too deeply to be
read, or it is a document that is not sound. -/
def RawPlan.Misleads (raw : RawPlan) : Prop :=
  raw.TooDeep ∨ ∃ doc, PlanDocument.ofRaw? raw = .ok (some doc) ∧ ¬ doc.Sound

theorem Acquisition.breaks_summarize_ok_iff {raw : RawPlan} {analyzed : Bool} :
    Breaks (summarize (.ok (raw, analyzed))) ↔ raw.Misleads := by
  constructor
  · intro hbreaks
    refine or_iff_not_imp_left.mpr fun hflat => ?_
    cases hread : PlanDocument.ofRaw? raw with
    | error escape =>
      cases escape
      exact absurd (PlanDocument.ofRaw?_eq_error_iff.mp hread) hflat
    | ok doc? =>
      cases doc? with
      | none =>
        obtain ⟨fault, hfault, hundocumented⟩ := hbreaks
        rw [summarize_eq_invalid_iff.mpr hread] at hfault
        obtain rfl := Except.error.inj hfault
        exact absurd .invalid hundocumented
      | some doc => exact ⟨doc, rfl, (breaks_summarize_of_doc hread).mp hbreaks⟩
  · rintro (hdeep | ⟨doc, hdoc, hunsound⟩)
    · exact breaks_summarize_of_tooDeep hdeep analyzed
    · exact (breaks_summarize_of_doc hdoc).mpr hunsound

/-- For a query that is accepted, the database returns something that misleads. -/
def Sandbox.Misleads (sandbox : Sandbox) (query : Text) : Prop :=
  Policy.Accepts query ∧
    ∃ raw analyzed, (sandbox.explain query true).outcome = .ok (raw, analyzed) ∧ raw.Misleads

theorem Acquisition.breaks_summarize_iff {outcome : Except ExplainFault (RawPlan × Bool)}
    (h : ∀ exception, outcome ≠ .error (.escaped exception)) : Breaks (summarize outcome) ↔
      ∃ raw analyzed, outcome = .ok (raw, analyzed) ∧ raw.Misleads := by
  cases outcome with
  | error fault =>
    have hreported : (PlanFault.explain fault).Documented :=
      .explain fun exception hescaped => h exception (by rw [hescaped])
    constructor
    · rintro ⟨_, ⟨⟩, hundocumented⟩
      exact absurd hreported hundocumented
    · rintro ⟨raw, analyzed, ⟨⟩, -⟩
  | ok pair =>
    obtain ⟨raw, analyzed⟩ := pair
    rw [breaks_summarize_ok_iff]
    constructor
    · intro hmisleads
      exact ⟨raw, analyzed, rfl, hmisleads⟩
    · rintro ⟨_, _, ⟨⟩, hmisleads⟩
      exact hmisleads

theorem Acquisition.breaks_fromSandbox_iff {sandbox : Sandbox} (h : sandbox.Reports) {query : Text} :
    Breaks (fromSandbox sandbox query).outcome ↔ sandbox.Misleads query := by
  rw [fromSandbox, ofQuery]
  cases hcheck : Policy.check query with
  | some violation =>
    constructor
    · rintro ⟨fault, hfault, hundocumented⟩
      cases hfault
      exact absurd (.rejected violation) hundocumented
    · rintro ⟨haccepts, -⟩
      rw [show Policy.check query = none from haccepts] at hcheck
      cases hcheck
  | none =>
    have haccepts : Policy.Accepts query := hcheck
    rw [Sandbox.Misleads, and_iff_right haccepts]
    exact breaks_summarize_iff (Sandbox.explain_ne_escaped h query true)

namespace Service

/-- An explanation is an internal error just for a fault that is not meant to be: of all others the client
is told. -/
theorem status_answerPlan_eq_500_iff {outcome : Except PlanFault ExecutionPlan} :
    (answerPlan outcome).status = 500 ↔ Acquisition.Breaks outcome := by
  cases outcome with
  | ok plan => simp [answerPlan, Response.ok, Acquisition.Breaks]
  | error fault =>
    have hbreaks : Acquisition.Breaks (.error fault) ↔ fault.message? = none := by
      simp [Acquisition.Breaks, PlanFault.documented_iff_message?, Option.eq_none_iff_forall_ne_some]
    rw [hbreaks]
    unfold answerPlan
    split
    · next heq => cases heq
    · next violation heq =>
      cases heq
      simp [Response.rejection, PlanFault.message?]
    · next heq =>
      cases heq
      split
      · next message hmessage => simp [Response.ok, hmessage]
      · next hmessage => simp [Response.broken, hmessage]

/-- Over every query and every database that reports its failures, an attempt to get a plan ends with the
plan, with what is wrong with the query or with a sentence on why there is no plan, and is answered as
such, unless the query is accepted and the database returns for it a document that is not sound, or a text
that is nested too deeply. -/
theorem breaks_iff_misleads {sandbox : Sandbox} (h : sandbox.Reports) (query : Text) :
    (Acquisition.Breaks (Acquisition.fromSandbox sandbox query).outcome ↔ sandbox.Misleads query) ∧
      ((explain sandbox query).status = 500 ↔ sandbox.Misleads query) := by
  have hbreaks : Acquisition.Breaks (Acquisition.fromSandbox sandbox query).outcome ↔
      sandbox.Misleads query := Acquisition.breaks_fromSandbox_iff h
  exact ⟨hbreaks, status_answerPlan_eq_500_iff.trans hbreaks⟩

/-- A document with null for the child of its root. -/
def nullChild : RawPlan := .value (.arr [.object [("Plan", .object [("Plans", .arr [.null])])]])

/-- A database that returns it. -/
def nullChildSandbox : Sandbox where
  steps := [.returns (some nullChild)]

theorem reports_nullChildSandbox : nullChildSandbox.Reports :=
  ⟨by simp [nullChildSandbox], by simp [nullChildSandbox]⟩

theorem misleads_nullChildSandbox : nullChildSandbox.Misleads "SELECT id FROM items" := by
  have hstatement : Statement.ofQuery? "SELECT id FROM items" = some "SELECT id FROM items" := by
    decide +kernel
  refine ⟨by decide +kernel, nullChild, true, ?_, Or.inr ⟨⟨_, _⟩, rfl, ?_⟩⟩
  · rw [Sandbox.explain_of_statement rfl hstatement]
    rfl
  · rintro ⟨hshaped, -, -⟩
    obtain ⟨node, hnode⟩ := PlanNode.exists_ofJson_iff.mpr hshaped
    cases hnode

theorem breaks_iff_misleads_nullChild : nullChildSandbox.Reports ∧
    (explain nullChildSandbox "SELECT id FROM items").status = 500 := by
  refine ⟨reports_nullChildSandbox, ?_⟩
  exact (breaks_iff_misleads reports_nullChildSandbox _).2.mpr misleads_nullChildSandbox

/-- So there is not always a plan or a reason. -/
theorem not_forall_not_breaks : ¬ ∀ (sandbox : Sandbox) (query : Text), sandbox.Reports →
    ¬ Acquisition.Breaks (Acquisition.fromSandbox sandbox query).outcome := by
  intro h
  exact h nullChildSandbox "SELECT id FROM items" reports_nullChildSandbox
    ((Acquisition.breaks_fromSandbox_iff reports_nullChildSandbox).mpr misleads_nullChildSandbox)

end Service

end QueryAdvisor
