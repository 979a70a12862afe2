import QueryAdvisor.Json.Reader

/-!
# How deep the reader goes

An array or an object is opened by one code point, and each that is still open takes one from the depth that
is left. The reader keeps to that depth in both directions:

    a value that is read ─────────────▶ goes no deeper
    an opening that goes too deep ────▶ a fault, whatever stands behind it

Beside the depth the readers carry `fuel`, on which all inductions are; opening takes two of it, one for the
value and one for its items or members.
-/

namespace QueryAdvisor.Json

/-- No more than `n` arrays and objects of the value stand within one another. -/
inductive Within : Nat → Json → Prop where
  | flat {n : Nat} {v : Json} (array : ∀ items, v ≠ .arr items) (object : ∀ members, v ≠ .obj members) :
    Within n v
  | arr {n : Nat} {items : List Json} (each : ∀ v ∈ items, Within n v) : Within (n + 1) (.arr items)
  | obj {n : Nat} {members : Members} (each : ∀ member ∈ members, Within n member.2) :
    Within (n + 1) (.obj members)

/-! ### Results that are no faults -/

theorem exists_of_map_eq_ok {ε α β : Type} {result : Except ε α} {f : α → β} {b : β}
    (h : result.map f = .ok b) : ∃ a, result = .ok a ∧ f a = b := by
  cases result with
  | error fault => cases h
  | ok a => exact ⟨a, rfl, Except.ok.inj h⟩

/-- Two values are not compared by computation, but a test on the one that results can be computed. -/
theorem exists_of_any_toOption {ε α : Type} {result : Except ε α} {test : α → Bool}
    (h : result.toOption.any test = true) : ∃ a, result = .ok a ∧ test a = true := by
  cases result with
  | error fault => cases h
  | ok a => exact ⟨a, rfl, h⟩

/-! ### What is read goes no deeper -/

theorem within_of_literal? {t rest : Text} {v : Json} (h : literal? t = some (v, rest)) (n : Nat) :
    v.Within n := by
  have hflat : ∀ pair ∈ literals, pair.2.Within n := by
    simp only [literals, List.forall_mem_cons, List.not_mem_nil, false_imp_iff, implies_true, and_true]
    refine ⟨?_, ?_, ?_, ?_, ?_, ?_⟩ <;> exact .flat (by simp) (by simp)
  obtain ⟨⟨word, value⟩, hmem, hpair⟩ := List.exists_of_findSome?_eq_some h
  dsimp only at hpair
  split at hpair
  · obtain ⟨rfl, -⟩ := Prod.mk.inj (Option.some.inj hpair)
    exact hflat _ hmem
  · cases hpair

theorem within_of_readNumber {t rest : Text} {v : Json} (h : readNumber t = .ok (v, rest)) (n : Nat) :
    v.Within n := by
  rw [readNumber] at h
  generalize whole _ = digits at h
  dsimp only at h
  split at h
  · cases h
  · split at h
    · split at h
      · cases h
      · obtain ⟨rfl, -⟩ := Prod.mk.inj (Except.ok.inj h)
        exact .flat (by simp) (by simp)
    · obtain ⟨rfl, -⟩ := Prod.mk.inj (Except.ok.inj h)
      exact .flat (by simp) (by simp)

theorem mem_set {name : Text} {value : Json} {members : Members} {member : Text × Json}
    (h : member ∈ members.set name value) : member.2 = value ∨ member ∈ members := by
  induction members with
  | nil =>
    obtain rfl := List.mem_singleton.mp h
    exact Or.inl rfl
  | cons first rest ih =>
    obtain ⟨n, v⟩ := first
    rw [Members.set] at h
    split at h
    · rcases List.mem_cons.mp h with rfl | hrest
      · exact Or.inl rfl
      · exact Or.inr (List.mem_cons_of_mem _ hrest)
    · rcases List.mem_cons.mp h with rfl | hrest
      · exact Or.inr (List.mem_cons_self ..)
      · exact (ih hrest).imp_right (List.mem_cons_of_mem _)

/-- The members of an object hold no other values than were written for them. -/
theorem forall_mem_ofPairs {P : Json → Prop} {pairs : List (Text × Json)} (h : ∀ pair ∈ pairs, P pair.2) :
    ∀ member ∈ Members.ofPairs pairs, P member.2 := by
  have hfold : ∀ members : Members, (∀ member ∈ members, P member.2) →
      ∀ member ∈ pairs.foldl (fun members pair => members.set pair.1 pair.2) members, P member.2 := by
    induction pairs with
    | nil => exact fun _ hmembers => hmembers
    | cons pair rest ih =>
      obtain ⟨hpair, hrest⟩ := List.forall_mem_cons.mp h
      intro members hmembers
      refine ih hrest _ fun member hmember => ?_
      rcases mem_set hmember with hvalue | hold
      · exact hvalue ▸ hpair
      · exact hmembers member hold
  exact hfold [] (List.forall_mem_nil _)

/-- With this fuel, each of the three readers keeps to the depth that it is given. -/
structure Keeps (fuel : Nat) : Prop where
  value {depth : Nat} {t rest : Text} {v : Json} :
    readValue fuel depth t = .ok (v, rest) → v.Within depth
  items {depth : Nat} {t rest : Text} {items : List Json} :
    readItems fuel depth t = .ok (items, rest) → ∀ v ∈ items, v.Within depth
  members {depth : Nat} {t rest : Text} {pairs : List (Text × Json)} :
    readMembers fuel depth t = .ok (pairs, rest) → ∀ pair ∈ pairs, pair.2.Within depth

/-- What opening comes to, of an array or an object, once there is an opening code point: some depth was left,
and there is nothing in it or what is read behind the opening. -/
theorem exists_of_opened {α : Type} (make : List α → Json) {depth : Nat} {closed : Prop}
    [Decidable closed] {behind : Text} {reading : Except Fault (List α × Text)} {v : Json} {rest : Text}
    (h : (if depth = 0 then .error .tooDeep
      else if closed then .ok (make [], behind)
      else reading.map fun (parts, rest) => (make parts, rest)) = .ok (v, rest)) :
    depth - 1 + 1 = depth ∧
      ∃ parts, v = make parts ∧ (parts = [] ∨ ∃ rest, reading = .ok (parts, rest)) := by
  split at h
  · cases h
  · next hdepth =>
    refine ⟨Nat.succ_pred_eq_of_ne_zero hdepth, ?_⟩
    split at h
    · obtain ⟨rfl, -⟩ := Prod.mk.inj (Except.ok.inj h)
      exact ⟨[], rfl, Or.inl rfl⟩
    · obtain ⟨⟨parts, last⟩, hparts, hv⟩ := exists_of_map_eq_ok h
      obtain ⟨rfl, -⟩ := Prod.mk.inj hv
      exact ⟨parts, rfl, Or.inr ⟨last, hparts⟩⟩

theorem within_of_readValue {fuel : Nat} (ih : Keeps fuel) {depth : Nat} {t rest : Text} {v : Json}
    (h : readValue (fuel + 1) depth t = .ok (v, rest)) : v.Within depth := by
  cases t with
  | nil => cases h
  | cons c behind =>
    rw [readValue] at h
    split at h
    · obtain ⟨⟨s, _⟩, _, hv⟩ := exists_of_map_eq_ok h
      obtain ⟨rfl, -⟩ := Prod.mk.inj hv
      exact .flat (by simp) (by simp)
    · split at h
      · obtain ⟨hdepth, items, rfl, rfl | ⟨last, hitems⟩⟩ := exists_of_opened .arr h
        · exact hdepth ▸ .arr (List.forall_mem_nil _)
        · exact hdepth ▸ .arr (ih.items hitems)
      · split at h
        · obtain ⟨hdepth, pairs, rfl, rfl | ⟨last, hpairs⟩⟩ :=
            exists_of_opened (fun pairs => .obj (Members.ofPairs pairs)) h
          · exact hdepth ▸ .obj (List.forall_mem_nil _)
          · exact hdepth ▸ .obj (forall_mem_ofPairs (ih.members hpairs))
        · split at h
          · next result hliteral =>
            obtain rfl := Except.ok.inj h
            exact within_of_literal? hliteral depth
          · exact within_of_readNumber h depth

theorem within_of_readItems {fuel : Nat} (ih : Keeps fuel) {depth : Nat} {t rest : Text}
    {items : List Json} (h : readItems (fuel + 1) depth t = .ok (items, rest)) :
    ∀ v ∈ items, v.Within depth := by
  rw [readItems] at h
  split at h
  · cases h
  · next value behind hvalue =>
    have hfirst := ih.value hvalue
    split at h
    · cases h
    · split at h
      · obtain ⟨⟨values, last⟩, hvalues, hitems⟩ := exists_of_map_eq_ok h
        obtain ⟨rfl, -⟩ := Prod.mk.inj hitems
        exact List.forall_mem_cons.mpr ⟨hfirst, ih.items hvalues⟩
      · split at h
        · obtain ⟨rfl, -⟩ := Prod.mk.inj (Except.ok.inj h)
          exact List.forall_mem_singleton.mpr hfirst
        · cases h

theorem within_of_readMembers {fuel : Nat} (ih : Keeps fuel) {depth : Nat} {t rest : Text}
    {pairs : List (Text × Json)} (h : readMembers (fuel + 1) depth t = .ok (pairs, rest)) :
    ∀ pair ∈ pairs, pair.2.Within depth := by
  cases t with
  | nil => cases h
  | cons c behind =>
    rw [readMembers] at h
    split at h
    · cases h
    · split at h
      · cases h
      · split at h
        · cases h
        · split at h
          · cases h
          · next name _ _ _ value behind hvalue =>
            have hfirst := ih.value hvalue
            split at h
            · cases h
            · split at h
              · obtain ⟨⟨others, last⟩, hothers, hpairs⟩ := exists_of_map_eq_ok h
                obtain ⟨rfl, -⟩ := Prod.mk.inj hpairs
                exact List.forall_mem_cons.mpr ⟨hfirst, ih.members hothers⟩
              · split at h
                · obtain ⟨rfl, -⟩ := Prod.mk.inj (Except.ok.inj h)
                  exact List.forall_mem_singleton.mpr hfirst
                · cases h

theorem keeps (fuel : Nat) : Keeps fuel := by
  induction fuel with
  -- without fuel nothing is read
  | zero => exact ⟨by rintro _ _ _ _ ⟨⟩, by rintro _ _ _ _ ⟨⟩, by rintro _ _ _ _ ⟨⟩⟩
  | succ fuel ih => exact ⟨within_of_readValue ih, within_of_readItems ih, within_of_readMembers ih⟩

/-- A value that is read goes no deeper than the reader. -/
theorem within_of_ofText {t : Text} {v : Json} (h : ofText t = .ok v) : v.Within maxDepth := by
  rw [ofText] at h
  split at h
  · cases h
  · next value rest hvalue =>
    split at h
    · obtain rfl := Except.ok.inj h
      exact (keeps _).value hvalue
    · cases h

/-! ### An opening that goes too deep -/

/-- A text of nothing but brackets that open arrays. -/
def brackets (n : Nat) : Text := List.replicate n '['

theorem skip_brackets (n : Nat) (t : Text) : skip (brackets (n + 1) ++ t) = brackets (n + 1) ++ t := rfl

theorem readValue_brackets (t : Text) {depth : Nat} : ∀ {n fuel : Nat}, depth < n → 2 * depth < fuel →
    readValue fuel depth (brackets n ++ t) = .error .tooDeep := by
  induction depth with
  | zero =>
    rintro (_ | n) (_ | fuel) hdepth hfuel
    · exact absurd hdepth (Nat.lt_irrefl 0)
    · exact absurd hdepth (Nat.lt_irrefl 0)
    · exact absurd hfuel (Nat.lt_irrefl 0)
    · rfl
  | succ depth ih =>
    intro n fuel hdepth hfuel
    -- one bracket is open, and there is another one behind it, so an item is read
    obtain ⟨n, rfl⟩ : ∃ k, n = k + 2 := ⟨n - 2, by omega⟩
    obtain ⟨fuel, rfl⟩ : ∃ k, fuel = k + 2 := ⟨fuel - 2, by omega⟩
    have hitem : readItems (fuel + 1) depth (brackets (n + 1) ++ t) = .error .tooDeep := by
      rw [readItems, @ih (n + 1) fuel (by omega) (by omega)]
    rw [brackets, List.replicate_succ, List.cons_append, ← brackets, readValue, if_neg (by decide),
      if_pos rfl, if_neg (Nat.succ_ne_zero depth), skip_brackets, Nat.add_sub_cancel, hitem]
    rfl

/-- More brackets in a row than the reader goes down are a fault, whatever stands behind them, -/
theorem ofText_brackets_append {n : Nat} (h : maxDepth < n) (t : Text) :
    ofText (brackets n ++ t) = .error .tooDeep := by
  have hlength : n ≤ (brackets n ++ t).length := by
    rw [List.length_append, brackets, List.length_replicate]
    exact Nat.le_add_right _ _
  have hskip : skip (brackets n ++ t) = brackets n ++ t := by
    cases n with
    | zero => exact absurd h (Nat.not_lt_zero _)
    | succ n => exact skip_brackets n t
  rw [ofText, hskip, readValue_brackets t h (by omega)]

/-- even if that is nothing. -/
theorem ofText_brackets {n : Nat} (h : maxDepth < n) : ofText (brackets n) = .error .tooDeep := by
  rw [← List.append_nil (brackets n)]
  exact ofText_brackets_append h []

end QueryAdvisor.Json
