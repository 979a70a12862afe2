import Mathlib.Data.List.Forall2
import QueryAdvisor.Plan.Node

/-!
# The shape of a plan

A value is read as a plan node if it is an object, and then on through what stands under `Plans`, all the
way down. Only the top of a document is looked at before it is read:

    object ─┬─ no Plans, or nothing under them ──▶ a leaf
            ├─ Plans: [object, …] ───────────────▶ a node, read on below each item
            └─ Plans: anything else ─────────────▶ no plan
    no object ───────────────────────────────────▶ no plan

`PlanShaped` says this without reading, and a value is read as a tree exactly if it has that shape. Which
tree that is `Describes` says, one level at a time.
-/

namespace QueryAdvisor

/-- An object without children, or one whose children are plans in turn. -/
inductive PlanShaped : Json → Prop where
  | leaf {members : Members}
    (bare : ∀ v, members.get? PlanNode.childrenName = some v → v.isNothing = true) :
    PlanShaped (.obj members)
  | parent {members : Members} {items : List Json}
    (holds : members.get? PlanNode.childrenName = some (.arr items)) (nonempty : items ≠ [])
    (shaped : ∀ item ∈ items, PlanShaped item) : PlanShaped (.obj members)

/-! ### Values within values -/

theorem Members.sizeOf_lt_of_get? {name : Text} {members : Members} {v : Json}
    (h : members.get? name = some v) : sizeOf v < sizeOf members := by
  induction members with
  | nil => cases h
  | cons member rest ih =>
    obtain ⟨n, w⟩ := member
    rw [Members.get?_cons] at h
    split at h
    · obtain rfl := Option.some.inj h
      simp only [List.cons.sizeOf_spec, Prod.mk.sizeOf_spec]
      omega
    · have hlt := ih h
      simp only [List.cons.sizeOf_spec]
      omega

/-- The children of a node are smaller than the node. -/
theorem Json.sizeOf_child_lt {name : Text} {members : Members} {items : List Json} {item : Json}
    (h : members.get? name = some (.arr items)) (hitem : item ∈ items) :
    sizeOf item < sizeOf (Json.obj members) := by
  have hmembers := Members.sizeOf_lt_of_get? h
  have hitems := List.sizeOf_lt_of_mem hitem
  simp only [Json.obj.sizeOf_spec, Json.arr.sizeOf_spec] at *
  omega

/-- Induction over the items of the lists in objects, which is how plans stand in one another. -/
theorem Json.items_induction {P : Json → Prop} (step : ∀ v, (∀ members : Members, v = .obj members →
      ∀ name items, members.get? name = some (.arr items) → ∀ item ∈ items, P item) → P v) (v : Json) :
    P v := by
  refine step v fun members hv name items hget item hitem => ?_
  have hsmaller : sizeOf item < sizeOf v := by
    rw [hv]
    exact Json.sizeOf_child_lt hget hitem
  exact items_induction step item
termination_by sizeOf v
decreasing_by exact hsmaller

namespace PlanNode

/-! ### One level -/

theorem exists_obj_of_ofJson {v : Json} {node : PlanNode} (h : ofJson v = .ok node) :
    ∃ members : Members, v = .obj members := by
  cases v with
  | obj members => exact ⟨members, rfl⟩
  | _ => cases h

/-- Items are read one by one. -/
theorem ofItems_eq_ok_iff {items : List Json} {nodes : List PlanNode} :
    ofItems items = .ok nodes ↔ List.Forall₂ (fun item node => ofJson item = .ok node) items nodes := by
  induction items generalizing nodes with
  | nil => simp [ofItems, eq_comm]
  | cons item rest ih =>
    rw [List.forall₂_cons_left_iff, ofItems]
    cases ofJson item with
    | error fault => simp
    | ok node =>
      simp only [Except.ok.injEq, ← ih]
      cases ofItems rest with
      | error fault => simp
      | ok others => simp [eq_comm]

/-- Items are read if each of them is. -/
theorem exists_ofItems_iff {items : List Json} :
    (∃ nodes, ofItems items = .ok nodes) ↔ ∀ item ∈ items, ∃ node, ofJson item = .ok node := by
  induction items with
  | nil => simp [ofItems]
  | cons item rest ih =>
    rw [List.forall_mem_cons, ← ih, ofItems]
    cases hitem : ofJson item with
    | error fault => simp
    | ok node =>
      cases hrest : ofItems rest with
      | error fault => simp
      | ok nodes => simp

/-- Children are read from nothing, or from an array. -/
theorem ofChildren_eq_ok_iff {v : Json} {nodes : List PlanNode} : ofChildren v = .ok nodes ↔
    (v.isNothing = true ∧ nodes = []) ∨ ∃ items, v = .arr items ∧ ofItems items = .ok nodes := by
  have hnil : [] = nodes ↔ nodes = [] := eq_comm
  cases v with
  | null => simp [ofChildren, Json.isNothing, hnil]
  | bool b => cases b <;> simp [ofChildren, Json.isNothing, hnil]
  | int n => by_cases h : n = 0 <;> simp [ofChildren, Json.isNothing, h, hnil]
  | float x => by_cases h : x.isZero <;> simp [ofChildren, Json.isNothing, h, hnil]
  | str t => cases t <;> simp [ofChildren, Json.isNothing, hnil]
  | obj members => cases members <;> simp [ofChildren, Json.isNothing, hnil]
  | arr items =>
    simp only [ofChildren, Json.isNothing, Json.arr.injEq, exists_eq_left', iff_or_self, and_imp,
      List.isEmpty_iff]
    rintro rfl rfl
    rfl

theorem exists_ofChildren_iff {v : Json} : (∃ nodes, ofChildren v = .ok nodes) ↔
    v.isNothing = true ∨ ∃ items, v = .arr items ∧ ∀ item ∈ items, ∃ node, ofJson item = .ok node := by
  simp only [ofChildren_eq_ok_iff, exists_or, exists_eq_right, ← exists_ofItems_iff]
  refine or_congr_right ⟨?_, ?_⟩
  · rintro ⟨nodes, items, hitems, hnodes⟩
    exact ⟨items, hitems, nodes, hnodes⟩
  · rintro ⟨items, hitems, nodes, hnodes⟩
    exact ⟨nodes, items, hitems, hnodes⟩

theorem exists_ofJson_obj_iff {members : Members} : (∃ node, ofJson (.obj members) = .ok node) ↔
    ∃ children, ofChildren ((members.get? childrenName).getD .null) = .ok children := by
  rw [ofJson, ofMembers_eq]
  cases ofChildren ((members.get? childrenName).getD .null) with
  | error fault => simp
  | ok children => simp

/-! ### All levels -/

theorem shaped_of_ofJson {v : Json} (h : ∃ node, ofJson v = .ok node) : PlanShaped v := by
  induction v using Json.items_induction with
  | step v ih =>
    obtain ⟨members, rfl⟩ := exists_obj_of_ofJson h.choose_spec
    rw [exists_ofJson_obj_iff, exists_ofChildren_iff] at h
    cases hget : members.get? childrenName with
    | none => exact .leaf (by simp [hget])
    | some below =>
      rw [hget, Option.getD_some] at h
      rcases h with hnothing | ⟨items, rfl, hitems⟩
      · refine .leaf fun v hv => ?_
        rw [hget] at hv
        exact Option.some.inj hv ▸ hnothing
      · by_cases hempty : items = []
        · refine .leaf fun v hv => ?_
          rw [hget] at hv
          rw [← Option.some.inj hv, hempty]
          rfl
        · refine .parent hget hempty fun item hitem => ?_
          exact ih members rfl childrenName items hget item hitem (hitems item hitem)

theorem ofJson_of_shaped {v : Json} (h : PlanShaped v) : ∃ node, ofJson v = .ok node := by
  induction h with
  | leaf bare =>
    rw [exists_ofJson_obj_iff, exists_ofChildren_iff]
    left
    cases hget : Members.get? childrenName _ with
    | none => rfl
    | some below => exact bare below hget
  | parent holds _ _ ih =>
    rw [exists_ofJson_obj_iff, holds, Option.getD_some, exists_ofChildren_iff]
    exact Or.inr ⟨_, rfl, ih⟩

/-- A value is read as a tree if and only if it has the shape of a plan. -/
theorem exists_ofJson_iff {v : Json} : (∃ node, ofJson v = .ok node) ↔ PlanShaped v :=
  ⟨shaped_of_ofJson, ofJson_of_shaped⟩

/-! ### The tree of a value -/

/-- The value describes the tree: the node has the costs of an object, and its children are one by one what
the items under `Plans` describe; there are none if nothing is there. -/
inductive Describes : Json → PlanNode → Prop where
  | leaf {members : Members} {startup total : Option Json}
    (hasStartup : Json.field? startupName members = startup)
    (hasTotal : Json.field? totalName members = total)
    (bare : ((members.get? childrenName).getD .null).isNothing = true) :
    Describes (.obj members) ⟨startup, total, []⟩
  | parent {members : Members} {startup total : Option Json} {items : List Json}
    {children : List PlanNode} (hasStartup : Json.field? startupName members = startup)
    (hasTotal : Json.field? totalName members = total)
    (holds : members.get? childrenName = some (.arr items))
    (below : List.Forall₂ Describes items children) :
    Describes (.obj members) ⟨startup, total, children⟩

/-- A value is read as the tree that it describes. -/
theorem ofJson_of_describes {v : Json} {node : PlanNode} (h : Describes v node) : ofJson v = .ok node := by
  induction v using Json.items_induction generalizing node with
  | step v ih =>
    cases h with
    | leaf hasStartup hasTotal bare =>
      have hchildren := ofChildren_eq_ok_iff.mpr (Or.inl ⟨bare, rfl⟩)
      rw [ofJson, ofMembers_eq, hchildren, hasStartup, hasTotal]
    | @parent members startup total items children hasStartup hasTotal holds below =>
      have hread : ∀ item ∈ items, ∀ node, Describes item node → ofJson item = .ok node :=
        fun item hitem node => ih members rfl childrenName items holds item hitem
      have hitems : ofItems items = .ok children :=
        ofItems_eq_ok_iff.mpr (((List.forall₂_and_left items children).mpr ⟨hread, below⟩).imp
          fun item node h => h.1 node h.2)
      rw [ofJson, ofMembers_eq, holds, Option.getD_some, ofChildren, hitems, hasStartup, hasTotal]

theorem describes_of_ofJson {v : Json} {node : PlanNode} (h : ofJson v = .ok node) : Describes v node := by
  induction v using Json.items_induction generalizing node with
  | step v ih =>
    obtain ⟨members, rfl⟩ := exists_obj_of_ofJson h
    rw [ofJson, ofMembers_eq] at h
    cases hread : ofChildren ((members.get? childrenName).getD .null) with
    | error fault =>
      rw [hread] at h
      cases h
    | ok children =>
      rw [hread] at h
      obtain rfl := Except.ok.inj h
      rcases ofChildren_eq_ok_iff.mp hread with ⟨hnothing, rfl⟩ | ⟨items, hget, hitems⟩
      · exact .leaf rfl rfl hnothing
      · have holds : members.get? childrenName = some (.arr items) := by
          rcases Option.getD_eq_iff.mp hget with hsome | ⟨-, hnull⟩
          · exact hsome
          · cases hnull
        have hdescribes : ∀ item ∈ items, ∀ node, ofJson item = .ok node → Describes item node :=
          fun item hitem node => ih members rfl childrenName items holds item hitem
        have hread := ofItems_eq_ok_iff.mp hitems
        exact .parent rfl rfl holds (((List.forall₂_and_left items children).mpr ⟨hdescribes, hread⟩).imp
          fun item node h => h.1 node h.2)

/-- A value is read as the tree that it describes, and as no other. -/
theorem ofJson_eq_ok_iff {v : Json} {node : PlanNode} : ofJson v = .ok node ↔ Describes v node :=
  ⟨describes_of_ofJson, ofJson_of_describes⟩

end PlanNode

end QueryAdvisor
