import QueryAdvisor.Proofs.Plan.Shape

/-!
# The first fault of a plan

Whatever stands under `Plans` is gone through part by part: the items of an array, the characters of a
text, the names of an object. Each part is a place of the plan, with a number for every step down from the
root:

    [] ─┬─ [0] ─┬─ [0, 0]
        │       └─ [0, 1]
        └─ [1] ─── [1, 0]

Places are read in the order of their lists of numbers, so each comes before all places below it, and
everything below it before the next part: `[] < [0] < [0, 0] < [0, 1] < [1] < [1, 0]`. A value is malformed
as it stands if it is no object, or if what is under its `Plans` cannot be gone through, like a number. A
value is read as a tree if no place in it is malformed, and otherwise the fault is that of the first place
that is.
-/

namespace QueryAdvisor

namespace Json

/-- The value is something, and has no parts: true, or a number that is not zero. -/
inductive Indivisible : Json → Prop where
  | truth : Indivisible (.bool true)
  | int {n : Int} (nonzero : n ≠ 0) : Indivisible (.int n)
  | float {x : Double} (nonzero : x.isZero = false) : Indivisible (.float x)

/-- What one comes by on the way through a value: the items of an array, the characters of a text, the
names of an object. -/
def parts : Json → List Json
  | .arr items => items
  | .str t => t.map fun c => .str [c]
  | .obj members => members.map fun member => .str member.1
  | _ => []

end Json

namespace PlanNode

/-! ### Places -/

/-- The parts of what stands under `Plans`. -/
def listed : Json → List Json
  | .obj members => ((Members.get? childrenName members).getD .null).parts
  | _ => []

/-- The value at a place: each number says to which part to go down. -/
def visited? : Json → List Nat → Option Json
  | v, [] => some v
  | v, i :: place => (listed v)[i]?.bind (visited? · place)

/-- The value as it stands is no plan, whatever there is below it. -/
inductive Malformed : Json → Fault → Prop where
  | notANode {v : Json} (other : ∀ members, v ≠ .obj members) : Malformed v .notANode
  | notAList {members : Members} {v : Json} (holds : members.get? childrenName = some v)
    (indivisible : v.Indivisible) : Malformed (.obj members) .notAList

/-- At that place of the value, something is malformed. -/
def FaultAt (v : Json) (place : List Nat) (fault : Fault) : Prop :=
  ∃ part, visited? v place = some part ∧ Malformed part fault

/-- Nothing is malformed at any place of the value. -/
def Faultless (v : Json) : Prop := ∀ place fault, ¬ FaultAt v place fault

/-- The fault is that of the first malformed place of the value. -/
def FirstFault (v : Json) (fault : Fault) : Prop :=
  ∃ place, FaultAt v place fault ∧ ∀ earlier < place, ∀ other, ¬ FaultAt v earlier other

variable {v : Json} {fault : Fault}

theorem faultAt_nil_iff : FaultAt v [] fault ↔ Malformed v fault := by
  simp [FaultAt, visited?]

theorem faultAt_cons_iff {i : Nat} {place : List Nat} :
    FaultAt v (i :: place) fault ↔ ∃ part, (listed v)[i]? = some part ∧ FaultAt part place fault := by
  simp only [FaultAt, visited?, Option.bind_eq_some_iff]
  constructor
  · rintro ⟨w, ⟨part, hpart, hw⟩, hmalformed⟩
    exact ⟨part, hpart, w, hw, hmalformed⟩
  · rintro ⟨part, hpart, w, hw, hmalformed⟩
    exact ⟨w, ⟨part, hpart, hw⟩, hmalformed⟩

/-- A value is malformed in one way only. -/
theorem Malformed.unique {other : Fault} (h : Malformed v fault) (h' : Malformed v other) :
    fault = other := by
  cases h with
  | notANode hother =>
    cases h' with
    | notANode _ => rfl
    | notAList _ _ => exact absurd rfl (hother _)
  | notAList _ _ =>
    cases h' with
    | notANode hother => exact absurd rfl (hother _)
    | notAList _ _ => rfl

theorem malformed_of_indivisible {members : Members}
    (h : ((members.get? childrenName).getD .null).Indivisible) : Malformed (.obj members) .notAList := by
  cases hget : members.get? childrenName with
  | none =>
    rw [hget] at h
    cases h
  | some w =>
    rw [hget, Option.getD_some] at h
    exact .notAList hget h

/-- Induction over a value through what stands under `Plans`. -/
theorem listed_induction {P : Json → Prop} (step : ∀ v, (∀ part ∈ listed v, P part) → P v) (v : Json) :
    P v := by
  -- a character or a name is no value within the value, but there is nothing below it
  have hstr : ∀ t, P (.str t) := fun t => step _ (by simp [listed])
  induction v using Json.items_induction with
  | step v ih =>
    refine step v fun part hpart => ?_
    cases v with
    | obj members =>
      cases hget : Members.get? childrenName members with
      | none => simp [listed, hget, Json.parts] at hpart
      | some w =>
        rw [listed, hget, Option.getD_some] at hpart
        cases w with
        | arr items => exact ih members rfl childrenName items hget part hpart
        | str t =>
          obtain ⟨c, -, rfl⟩ := List.mem_map.mp hpart
          exact hstr _
        | obj inner =>
          obtain ⟨member, -, rfl⟩ := List.mem_map.mp hpart
          exact hstr _
        | _ => simp [Json.parts] at hpart
    | _ => simp [listed] at hpart

/-! ### One level of places -/

theorem faultless_iff :
    Faultless v ↔ (∀ fault, ¬ Malformed v fault) ∧ ∀ part ∈ listed v, Faultless part := by
  constructor
  · intro h
    refine ⟨fun fault hmalformed => h [] fault (faultAt_nil_iff.mpr hmalformed), ?_⟩
    intro part hpart place fault hfault
    obtain ⟨i, hi⟩ := List.mem_iff_getElem?.mp hpart
    exact h (i :: place) fault (faultAt_cons_iff.mpr ⟨part, hi, hfault⟩)
  · rintro ⟨hwell, hlisted⟩ place fault hfault
    cases place with
    | nil => exact hwell fault (faultAt_nil_iff.mp hfault)
    | cons i place =>
      obtain ⟨part, hpart, hfault⟩ := faultAt_cons_iff.mp hfault
      exact hlisted part (List.mem_of_getElem? hpart) place fault hfault

/-- Nothing comes before the root. -/
theorem firstFault_iff_of_malformed {other : Fault} (h : Malformed v other) :
    FirstFault v fault ↔ other = fault := by
  constructor
  · rintro ⟨place, hfault, hfirst⟩
    cases place with
    | nil => exact h.unique (faultAt_nil_iff.mp hfault)
    | cons i place => exact absurd (faultAt_nil_iff.mpr h) (hfirst [] (List.nil_lt_cons i place) other)
  · rintro rfl
    exact ⟨[], faultAt_nil_iff.mpr h, fun earlier hearlier => absurd hearlier (List.not_lt_nil earlier)⟩

/-- The first fault below a root that is not malformed is that of a part, with no fault in the parts before
it. -/
theorem firstFault_iff_of_not_malformed (h : ∀ fault, ¬ Malformed v fault) :
    FirstFault v fault ↔ ∃ (i : Nat) (part : Json), (listed v)[i]? = some part ∧ FirstFault part fault ∧
      ∀ j < i, ∀ earlier, (listed v)[j]? = some earlier → Faultless earlier := by
  constructor
  · rintro ⟨place, hfault, hfirst⟩
    cases place with
    | nil => exact absurd (faultAt_nil_iff.mp hfault) (h fault)
    | cons i place =>
      obtain ⟨part, hpart, hfault⟩ := faultAt_cons_iff.mp hfault
      refine ⟨i, part, hpart, ⟨place, hfault, fun earlier hearlier other hother => ?_⟩, ?_⟩
      · have hlt : i :: earlier < i :: place := List.cons_lt_cons_iff.mpr (Or.inr ⟨rfl, hearlier⟩)
        exact hfirst _ hlt other (faultAt_cons_iff.mpr ⟨part, hpart, hother⟩)
      · intro j hj sibling hsibling deeper other hother
        have hlt : j :: deeper < i :: place := List.cons_lt_cons_iff.mpr (Or.inl hj)
        exact hfirst _ hlt other (faultAt_cons_iff.mpr ⟨sibling, hsibling, hother⟩)
  · rintro ⟨i, part, hpart, ⟨place, hfault, hfirst⟩, hbefore⟩
    refine ⟨i :: place, faultAt_cons_iff.mpr ⟨part, hpart, hfault⟩, fun earlier hearlier other hother => ?_⟩
    cases earlier with
    | nil => exact h other (faultAt_nil_iff.mp hother)
    | cons j deeper =>
      obtain ⟨sibling, hsibling, hother⟩ := faultAt_cons_iff.mp hother
      rcases List.cons_lt_cons_iff.mp hearlier with hj | ⟨rfl, hdeeper⟩
      · exact hbefore j hj sibling hsibling deeper other hother
      · obtain rfl := Option.some.inj (hpart.symm.trans hsibling)
        exact hfirst deeper hdeeper other hother

/-! ### One level of reading -/

/-- The children are read part by part, from whatever has parts or is nothing. -/
theorem ofChildren_cases (v : Json) : v.Indivisible ∧ ofChildren v = .error .notAList ∨
    ¬ v.Indivisible ∧ ofChildren v = ofItems v.parts := by
  cases v with
  | null => exact Or.inr ⟨by rintro ⟨⟩, rfl⟩
  | arr items => exact Or.inr ⟨by rintro ⟨⟩, rfl⟩
  | bool b =>
    cases b with
    | false => exact Or.inr ⟨by rintro ⟨⟩, rfl⟩
    | true => exact Or.inl ⟨.truth, rfl⟩
  | int n =>
    by_cases hn : n = 0
    · subst hn
      refine Or.inr ⟨?_, rfl⟩
      intro h
      cases h with
      | int nonzero => exact nonzero rfl
    · exact Or.inl ⟨.int hn, by rw [ofChildren, if_neg hn]⟩
  | float x =>
    cases hx : x.isZero with
    | false => exact Or.inl ⟨.float hx, by simp [ofChildren, hx]⟩
    | true =>
      refine Or.inr ⟨?_, by simp [ofChildren, hx, Json.parts, ofItems]⟩
      intro h
      cases h with
      | float nonzero => simp [hx] at nonzero
  | str t => exact Or.inr ⟨by rintro ⟨⟩, by cases t <;> rfl⟩
  | obj members => exact Or.inr ⟨by rintro ⟨⟩, by cases members <;> rfl⟩

theorem ofJson_of_malformed (h : Malformed v fault) : ofJson v = .error fault := by
  cases h with
  | notANode other =>
    cases v with
    | obj members => exact absurd rfl (other members)
    | _ => rfl
  | @notAList members below holds indivisible =>
    rcases ofChildren_cases below with ⟨-, hread⟩ | ⟨hdivisible, -⟩
    · rw [ofJson, ofMembers_eq, holds, Option.getD_some, hread]
    · exact absurd indivisible hdivisible

/-- A value that is not malformed as it stands is an object whose children are read part by part. -/
theorem exists_obj_of_not_malformed (h : ∀ fault, ¬ Malformed v fault) :
    ∃ members, v = .obj members ∧ ofMembers members = ofItems (listed v) := by
  cases v with
  | obj members =>
    refine ⟨members, rfl, ?_⟩
    rcases ofChildren_cases ((Members.get? childrenName members).getD .null) with
      ⟨hindivisible, -⟩ | ⟨-, hread⟩
    · exact absurd (malformed_of_indivisible hindivisible) (h .notAList)
    · rw [ofMembers_eq, hread, listed]
  | _ => exact absurd (.notANode nofun) (h .notANode)

theorem exists_ofJson_iff_of_not_malformed (h : ∀ fault, ¬ Malformed v fault) :
    (∃ node, ofJson v = .ok node) ↔ ∀ part ∈ listed v, ∃ node, ofJson part = .ok node := by
  obtain ⟨members, hv, hread⟩ := exists_obj_of_not_malformed h
  rw [← exists_ofItems_iff, ← hread, hv, ofJson]
  cases ofMembers members with
  | error fault => simp
  | ok children => simp

theorem ofJson_eq_error_iff_of_not_malformed (h : ∀ fault, ¬ Malformed v fault) :
    ofJson v = .error fault ↔ ofItems (listed v) = .error fault := by
  obtain ⟨members, hv, hread⟩ := exists_obj_of_not_malformed h
  rw [← hread, hv, ofJson]
  cases ofMembers members with
  | error fault => simp
  | ok children => simp

theorem ofItems_cons_eq_error_iff {item : Json} {rest : List Json} :
    ofItems (item :: rest) = .error fault ↔
      ofJson item = .error fault ∨ (∃ node, ofJson item = .ok node) ∧ ofItems rest = .error fault := by
  rw [ofItems]
  cases ofJson item with
  | error first => simp
  | ok node =>
    cases ofItems rest with
    | error first => simp
    | ok nodes => simp

/-- The fault among some items is that of the first one that is not read. -/
theorem ofItems_eq_error_iff {items : List Json} : ofItems items = .error fault ↔
    ∃ (i : Nat) (item : Json), items[i]? = some item ∧ ofJson item = .error fault ∧
      ∀ j < i, ∀ earlier, items[j]? = some earlier → ∃ node, ofJson earlier = .ok node := by
  induction items with
  | nil => simp [ofItems]
  | cons item rest ih =>
    rw [ofItems_cons_eq_error_iff, ih]
    constructor
    · rintro (hfault | ⟨hread, i, other, hother, hfault, hbefore⟩)
      · exact ⟨0, item, rfl, hfault, fun j hj => absurd hj (Nat.not_lt_zero j)⟩
      · refine ⟨i + 1, other, hother, hfault, fun j hj earlier hearlier => ?_⟩
        cases j with
        | zero => exact Option.some.inj hearlier ▸ hread
        | succ j => exact hbefore j (Nat.lt_of_succ_lt_succ hj) earlier hearlier
    · rintro ⟨i, other, hother, hfault, hbefore⟩
      cases i with
      | zero => exact Or.inl (Option.some.inj hother ▸ hfault)
      | succ i =>
        refine Or.inr ⟨hbefore 0 (Nat.succ_pos i) item rfl, i, other, hother, hfault, ?_⟩
        intro j hj
        exact hbefore (j + 1) (Nat.succ_lt_succ hj)

/-! ### All levels -/

/-- A value is read as a tree if and only if no place of it is malformed. -/
theorem exists_ofJson_iff_faultless : (∃ node, ofJson v = .ok node) ↔ Faultless v := by
  induction v using listed_induction with
  | step v ih =>
    rw [faultless_iff]
    by_cases h : ∃ fault, Malformed v fault
    · obtain ⟨fault, hmalformed⟩ := h
      rw [ofJson_of_malformed hmalformed]
      constructor
      · rintro ⟨node, hnode⟩
        cases hnode
      · rintro ⟨hwell, -⟩
        exact absurd hmalformed (hwell fault)
    · rw [not_exists] at h
      rw [exists_ofJson_iff_of_not_malformed h, and_iff_right h]
      exact forall₂_congr ih

/-- A value that is not read as a tree has the fault of its first malformed place. -/
theorem ofJson_eq_error_iff : ofJson v = .error fault ↔ FirstFault v fault := by
  induction v using listed_induction with
  | step v ih =>
    by_cases h : ∃ other, Malformed v other
    · obtain ⟨other, hmalformed⟩ := h
      rw [ofJson_of_malformed hmalformed, firstFault_iff_of_malformed hmalformed, Except.error.injEq]
    · rw [not_exists] at h
      rw [ofJson_eq_error_iff_of_not_malformed h, ofItems_eq_error_iff, firstFault_iff_of_not_malformed h]
      refine exists₂_congr fun i part => and_congr_right fun hpart => ?_
      simp only [ih part (List.mem_of_getElem? hpart), exists_ofJson_iff_faultless]

/-- What reading comes to, for every value: a tree if and only if the value has the shape of a plan, that
is, if nothing is malformed at any place, whatever total costs are stated above it; then the tree is the one
that the value describes; and otherwise the fault is that of the first malformed place. -/
theorem outcome_ofJson (v : Json) :
    ((∃ node, ofJson v = .ok node) ↔ PlanShaped v) ∧ (PlanShaped v ↔ Faultless v) ∧
      (∀ node, ofJson v = .ok node ↔ Describes v node) ∧
      ∀ fault, ofJson v = .error fault ↔ FirstFault v fault := by
  refine ⟨exists_ofJson_iff, ?_, fun node => ofJson_eq_ok_iff, fun fault => ofJson_eq_error_iff⟩
  rw [← exists_ofJson_iff, exists_ofJson_iff_faultless]

/-- The text lies deeper than the number, under a total cost, and comes first. -/
example : ofJson (.object [("Total Cost", .int 1), ("Plans", .arr
    [.object [("Total Cost", .int 0), ("Plans", .text "ab")], .object [("Plans", .int 3)]])]) =
    .error .notANode := rfl

end PlanNode

end QueryAdvisor
