import Mathlib.Logic.Basic
import QueryAdvisor.Proofs.Json.Wire

/-!
# What a value is made of

Whether a value can be written, and whether it is written whole, is decided by its parts. These are reached
through items and members, and a reserved member bars the way to all that is in it:

    v ─┬─ items ─────────────▶ parts of each
       ├─ members ───────────▶ names, and parts of each value
       └─ reserved members ──▷ nothing, they are not sent

`Sends` says which parts are reached. A value can be written if none of them is an obstacle, and leaves
whole if none of them has a reserved member.
-/

namespace QueryAdvisor.Json

/-- The second value is a part of the first one, and is sent with it. -/
inductive Sends : Json → Json → Prop where
  | whole (v : Json) : Sends v v
  | item {items : List Json} {v part : Json} (here : v ∈ items) (inside : Sends v part) :
    Sends (.arr items) part
  | name {members : Members} {member : Text × Json} (here : member ∈ members)
    (kept : reserved.isPrefixOf member.1 = false) : Sends (.obj members) (.str member.1)
  | value {members : Members} {member : Text × Json} {part : Json} (here : member ∈ members)
    (kept : reserved.isPrefixOf member.1 = false) (inside : Sends member.2 part) :
    Sends (.obj members) part

/-- There is no way to write the value: a number that is not finite, or a text with a surrogate alone. -/
inductive Obstacle : Json → Prop where
  | number {x : Double} (h : x.isFinite = false) : Obstacle (.float x)
  | text {t : Text} (h : t.hasSurrogate = true) : Obstacle (.str t)

/-- The value is an object with a reserved member. -/
inductive Curtailed : Json → Prop where
  | object {members : Members} {member : Text × Json} (here : member ∈ members)
    (taken : reserved.isPrefixOf member.1 = true) : Curtailed (.obj members)

/-! ### Values in values -/

/-- Induction over a value through its items and the values of its members. -/
@[elab_as_elim]
theorem parts_induction {P : Json → Prop} (null : P .null) (bool : ∀ b, P (.bool b))
    (int : ∀ n, P (.int n)) (float : ∀ x, P (.float x)) (str : ∀ t, P (.str t))
    (arr : ∀ items, (∀ v ∈ items, P v) → P (.arr items))
    (obj : ∀ members : Members, (∀ member ∈ members, P member.2) → P (.obj members)) (v : Json) : P v := by
  refine Json.rec (motive_2 := fun items => ∀ v ∈ items, P v)
    (motive_3 := fun members => ∀ member ∈ members, P member.2) (motive_4 := fun member => P member.2)
    null bool int float str arr obj ?_ ?_ ?_ ?_ ?_ v
  · simp
  · intro v rest hv hrest
    exact List.forall_mem_cons.mpr ⟨hv, hrest⟩
  · simp
  · intro member rest hmember hrest
    exact List.forall_mem_cons.mpr ⟨hmember, hrest⟩
  · intro name v hv
    exact hv

/-! What is true of all parts is true of a list if it is true of its items, and of an object if it is true
of what is kept. -/

variable {P : Json → Prop}

theorem forall_sends_leaf_iff {v : Json} (harr : ∀ items, v ≠ .arr items)
    (hobj : ∀ members, v ≠ .obj members) : (∀ part, Sends v part → P part) ↔ P v := by
  constructor
  · intro h
    exact h v (.whole v)
  · intro h part hpart
    cases hpart with
    | whole => exact h
    | item _ _ => exact absurd rfl (harr _)
    | name _ _ => exact absurd rfl (hobj _)
    | value _ _ _ => exact absurd rfl (hobj _)

theorem forall_sends_arr_iff {items : List Json} : (∀ part, Sends (.arr items) part → P part) ↔
    P (.arr items) ∧ ∀ v ∈ items, ∀ part, Sends v part → P part := by
  constructor
  · intro h
    exact ⟨h _ (.whole _), fun v hv part hpart => h part (.item hv hpart)⟩
  · rintro ⟨hwhole, hitems⟩ part hpart
    cases hpart with
    | whole => exact hwhole
    | item here inside => exact hitems _ here part inside

theorem forall_sends_obj_iff {members : Members} : (∀ part, Sends (.obj members) part → P part) ↔
    P (.obj members) ∧ ∀ member ∈ members, reserved.isPrefixOf member.1 = false →
      P (.str member.1) ∧ ∀ part, Sends member.2 part → P part := by
  constructor
  · intro h
    exact ⟨h _ (.whole _), fun member here kept =>
      ⟨h _ (.name here kept), fun part hpart => h part (.value here kept hpart)⟩⟩
  · rintro ⟨hwhole, hmembers⟩ part hpart
    cases hpart with
    | whole => exact hwhole
    | name here kept => exact (hmembers _ here kept).1
    | value here kept inside => exact (hmembers _ here kept).2 part inside

/-! ### What can be written -/

theorem obstacle_float_iff {x : Double} : Obstacle (.float x) ↔ x.isFinite = false := by
  constructor
  · intro h
    cases h with
    | number h => exact h
  · exact .number

theorem obstacle_str_iff {t : Text} : Obstacle (.str t) ↔ t.hasSurrogate = true := by
  constructor
  · intro h
    cases h with
    | text h => exact h
  · exact .text

/-- What leaves of a value can be written if and only if no part of it is an obstacle. -/
theorem isWritable_withoutReserved_iff {v : Json} :
    v.withoutReserved.isWritable = true ↔ ∀ part, Sends v part → ¬ Obstacle part := by
  induction v using parts_induction with
  | float x =>
    rw [forall_sends_leaf_iff (by simp) (by simp), obstacle_float_iff, withoutReserved, isWritable,
      Bool.not_eq_false]
  | str t =>
    rw [forall_sends_leaf_iff (by simp) (by simp), obstacle_str_iff, withoutReserved, isWritable,
      Bool.not_eq_true', Bool.not_eq_true]
  | arr items ih =>
    have hwhole : ¬ Obstacle (.arr items) := by rintro ⟨⟩
    rw [forall_sends_arr_iff, withoutReserved, isWritable, areWritable_eq_all,
      itemsWithoutReserved_eq_map, List.all_map, List.all_eq_true]
    simp only [Function.comp_apply, hwhole, not_false_eq_true, true_and]
    exact forall₂_congr ih
  | obj members ih =>
    have hwhole : ¬ Obstacle (.obj members) := by rintro ⟨⟩
    rw [forall_sends_obj_iff, withoutReserved, isWritable, membersWritable_eq_all,
      membersWithoutReserved_eq_map, List.all_map, List.all_eq_true]
    simp only [List.mem_filter, Function.comp_apply, hwhole, not_false_eq_true, true_and, and_imp,
      Bool.and_eq_true, Bool.not_eq_true', obstacle_str_iff, Bool.not_eq_true]
    refine forall₂_congr fun member hmember => ?_
    rw [ih member hmember]
  | _ =>
    rw [forall_sends_leaf_iff (by simp) (by simp)]
    exact iff_of_true rfl (by rintro ⟨⟩)

/-! ### What leaves whole -/

theorem not_curtailed_obj_iff {members : Members} : ¬ Curtailed (.obj members) ↔
    ∀ member ∈ members, reserved.isPrefixOf member.1 = false := by
  constructor
  · intro h member here
    exact Bool.eq_false_iff.mpr fun taken => h (.object here taken)
  · rintro h ⟨here, taken⟩
    rw [h _ here] at taken
    cases taken

theorem itemsWithoutReserved_eq_iff {items : List Json} :
    itemsWithoutReserved items = items ↔ ∀ v ∈ items, v.withoutReserved = v := by
  rw [itemsWithoutReserved_eq_map]
  simpa using List.map_inj_left (f := withoutReserved) (g := id) (l := items)

theorem map_withoutReserved_eq_iff {members : Members} :
    (members.map fun member => (member.1, member.2.withoutReserved)) = members ↔
      ∀ member ∈ members, member.2.withoutReserved = member.2 := by
  simpa [Prod.ext_iff] using List.map_inj_left (g := id) (l := members)
    (f := fun member => (member.1, member.2.withoutReserved))

/-- Members are all there and unchanged if none is left out and no value is changed. -/
theorem membersWithoutReserved_eq_iff {members : Members} :
    membersWithoutReserved members = members ↔ ∀ member ∈ members,
      reserved.isPrefixOf member.1 = false ∧ member.2.withoutReserved = member.2 := by
  rw [membersWithoutReserved_eq_map, forall₂_and, ← map_withoutReserved_eq_iff]
  constructor
  · intro h
    -- what is left out is missed in the length
    have hlength := congrArg List.length h
    rw [List.length_map] at hlength
    have hkept := List.length_filter_eq_length_iff.mp hlength
    rw [List.filter_eq_self.mpr hkept] at h
    exact ⟨by simpa using hkept, h⟩
  · rintro ⟨hkept, hvalues⟩
    rw [List.filter_eq_self.mpr (by simpa using hkept)]
    exact hvalues

/-- A value leaves whole if and only if none of its parts has a reserved member. -/
theorem withoutReserved_eq_iff {v : Json} :
    v.withoutReserved = v ↔ ∀ part, Sends v part → ¬ Curtailed part := by
  induction v using parts_induction with
  | arr items ih =>
    have hwhole : ¬ Curtailed (.arr items) := by rintro ⟨⟩
    rw [forall_sends_arr_iff, withoutReserved, Json.arr.injEq, itemsWithoutReserved_eq_iff]
    simp only [hwhole, not_false_eq_true, true_and]
    exact forall₂_congr ih
  | obj members ih =>
    have hname : ∀ t, ¬ Curtailed (.str t) := by rintro t ⟨⟩
    rw [forall_sends_obj_iff, withoutReserved, Json.obj.injEq, membersWithoutReserved_eq_iff,
      not_curtailed_obj_iff, ← forall₂_and]
    refine forall₂_congr fun member hmember => ?_
    rw [ih member hmember]
    simp only [hname, not_false_eq_true, true_and]
    exact and_congr_right fun kept => by simp [kept]
  | _ =>
    rw [forall_sends_leaf_iff (by simp) (by simp)]
    exact iff_of_true rfl (by rintro ⟨⟩)

end QueryAdvisor.Json
