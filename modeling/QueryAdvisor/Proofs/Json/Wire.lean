import QueryAdvisor.Json.Wire

/-!
# What leaves the service as it is

A response is written without its reserved members, and only if it can be written. Most of what the
service says holds neither a reserved name nor anything that cannot be written, and so leaves as it is:

    objects with plain names ──▶ lists ──▶ texts without surrogates, finite numbers

`Leaves` is closed under lists and objects, so a body is judged by the values at its leaves.
-/

namespace QueryAdvisor

/-- A string has no surrogates, so a text from a literal has none. -/
theorem Text.hasSurrogate_ofString (s : String) : hasSurrogate (ofString s) = false := by
  rw [hasSurrogate, ofString, List.any_map, List.any_eq_false]
  intro c _
  have hvalid := c.valid
  have hval : (CodePoint.ofChar c).val = c.val.toNat := rfl
  simp only [UInt32.isValidChar, Nat.isValidChar] at hvalid
  simp only [Function.comp_apply, CodePoint.isSurrogate, Bool.and_eq_true, decide_eq_true_eq]
  omega

theorem Text.ofString_inj {s t : String} : ofString s = ofString t ↔ s = t := by
  constructor
  · intro h
    have hinj : Function.Injective CodePoint.ofChar := by
      intro c d hcd
      exact Char.ext (UInt32.toNat_inj.mp (congrArg CodePoint.val hcd))
    exact String.toList_inj.mp (List.map_inj_right (fun c d hcd => hinj hcd) |>.mp h)
  · rintro rfl
    rfl

/-- A member of an object is found under its name as it is spelled. -/
theorem Members.get?_object (name : String) (pairs : List (String × Json)) :
    get? (Text.ofString name) (pairs.map fun pair => (Text.ofString pair.1, pair.2)) =
      pairs.lookup name := by
  induction pairs with
  | nil => rfl
  | cons pair rest ih =>
    obtain ⟨first, v⟩ := pair
    rw [List.map_cons, get?_cons, List.lookup_cons, ih]
    by_cases hfirst : first = name
    · simp [hfirst]
    · have hother : (name == first) = false := by simpa using Ne.symm hfirst
      simp [Text.ofString_inj, hfirst, hother]

namespace Json

/-! ### Item by item, member by member -/

theorem areWritable_eq_all (items : List Json) : areWritable items = items.all isWritable := by
  induction items with
  | nil => rfl
  | cons v rest ih => rw [areWritable, List.all_cons, ih]

theorem membersWritable_eq_all (members : Members) :
    membersWritable members = members.all fun member => !member.1.hasSurrogate && member.2.isWritable := by
  induction members with
  | nil => rfl
  | cons member rest ih => rw [membersWritable, List.all_cons, ih]

theorem itemsWithoutReserved_eq_map (items : List Json) :
    itemsWithoutReserved items = items.map withoutReserved := by
  induction items with
  | nil => rfl
  | cons v rest ih => rw [itemsWithoutReserved, List.map_cons, ih]

theorem membersWithoutReserved_eq_map (members : Members) : membersWithoutReserved members =
    (members.filter fun member => !reserved.isPrefixOf member.1).map
      fun member => (member.1, member.2.withoutReserved) := by
  induction members with
  | nil => rfl
  | cons member rest ih =>
    rw [membersWithoutReserved, ih, List.filter_cons]
    cases reserved.isPrefixOf member.1 <;> rfl

/-! ### Values that leave -/

/-- The value is written as it is: nothing in it is reserved, and all of it can be written. -/
structure Leaves (v : Json) : Prop where
  unchanged : v.withoutReserved = v
  writable : v.isWritable = true

theorem leaves_null : Leaves .null := ⟨rfl, rfl⟩

theorem leaves_bool (b : Bool) : Leaves (.bool b) := ⟨rfl, rfl⟩

theorem leaves_float {x : Double} (h : x.isFinite = true) : Leaves (.float x) :=
  ⟨rfl, by rw [isWritable, h]⟩

theorem leaves_str {t : Text} (h : t.hasSurrogate = false) : Leaves (.str t) :=
  ⟨rfl, by rw [isWritable, h]; rfl⟩

theorem leaves_text (s : String) : Leaves (.text s) := leaves_str (Text.hasSurrogate_ofString s)

theorem leaves_arr {items : List Json} (h : ∀ v ∈ items, Leaves v) : Leaves (.arr items) := by
  constructor
  · rw [withoutReserved, itemsWithoutReserved_eq_map,
      List.map_congr_left fun v hv => (h v hv).unchanged, List.map_id']
  · rw [isWritable, areWritable_eq_all, List.all_eq_true]
    exact fun v hv => (h v hv).writable

/-- An object keeps all of its members if none of its names is reserved. -/
theorem withoutReserved_object_map {pairs : List (String × Json)} (names : List String)
    (hpairs : pairs.map Prod.fst = names)
    (hnames : ∀ name ∈ names, reserved.isPrefixOf (Text.ofString name) = false) :
    (object pairs).withoutReserved = object (pairs.map fun pair => (pair.1, pair.2.withoutReserved)) := by
  subst hpairs
  have hkept : ∀ member ∈ pairs.map fun pair => (Text.ofString pair.1, pair.2),
      (!reserved.isPrefixOf member.1) = true := by
    intro member hmember
    obtain ⟨pair, hpair, rfl⟩ := List.mem_map.mp hmember
    rw [hnames pair.1 (List.mem_map_of_mem hpair)]
    rfl
  rw [object, withoutReserved, membersWithoutReserved_eq_map, List.filter_eq_self.mpr hkept, object,
    List.map_map, List.map_map]
  rfl

/-- An object is not changed if none of its names is reserved and none of its values is changed. -/
theorem withoutReserved_object {pairs : List (String × Json)} (names : List String)
    (hpairs : pairs.map Prod.fst = names)
    (hnames : ∀ name ∈ names, reserved.isPrefixOf (Text.ofString name) = false)
    (hvalues : ∀ pair ∈ pairs, pair.2.withoutReserved = pair.2) :
    (object pairs).withoutReserved = object pairs := by
  have hsame : (pairs.map fun pair => (pair.1, pair.2.withoutReserved)) = pairs := by
    refine (List.map_congr_left fun pair hpair => ?_).trans (List.map_id' pairs)
    rw [hvalues pair hpair]
  rw [withoutReserved_object_map names hpairs hnames, hsame]

/-- Names are written as they stand, so an object can be written if its values can. -/
theorem isWritable_object (pairs : List (String × Json)) :
    (object pairs).isWritable = pairs.all fun pair => pair.2.isWritable := by
  rw [object, isWritable, membersWritable_eq_all, List.all_map]
  simp [Function.comp_def, Text.hasSurrogate_ofString]

/-- An object leaves as it is if none of its names is reserved and all of its values do. -/
theorem leaves_object {pairs : List (String × Json)} (names : List String)
    (hpairs : pairs.map Prod.fst = names)
    (hnames : ∀ name ∈ names, reserved.isPrefixOf (Text.ofString name) = false)
    (hvalues : ∀ pair ∈ pairs, Leaves pair.2) : Leaves (.object pairs) := by
  constructor
  · exact withoutReserved_object names hpairs hnames fun pair hpair => (hvalues pair hpair).unchanged
  · rw [isWritable_object, List.all_eq_true]
    exact fun pair hpair => (hvalues pair hpair).writable

end Json

end QueryAdvisor
