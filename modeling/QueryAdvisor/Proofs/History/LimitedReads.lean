import QueryAdvisor.Proofs.History.RecentList

/-!
# Limited reads of the history

A read with a limit should show the first entries of a read without one, as many as the limit says:

    rows ──── the maximum ────▶ full read ──── the limit ────▶ what is meant
      │                                                             ?
      └── the smaller of the two, none at least ──▶ limited read ═══╝

The two ways agree as long as the two counts mean the same where they are negative. They do not: a
negative limit asks for nothing, a negative maximum is no maximum. The smaller of the two is then the
maximum, and taken as a limit it asks for nothing. So a history without a maximum shows all that it
holds to a full read and nothing to a limited one.
-/

namespace QueryAdvisor.History

/-- A read with the limit shows the first entries of the full read, all of them if there are fewer. A
negative limit asks for none. -/
def ReadsFirst (h : History) (limit : Int) : Prop :=
  ∃ entries, (h.recent none).map view = .ok entries ∧
    (h.recent (some limit)).map view = .ok (entries.take limit.toNat)

/-! ### One read -/

variable {h : History}

/-- With a limit, whatever its size, the count that is asked for fits where the maximum does. -/
theorem fits_count (hfits : fits h.maxItems = true) (limit : Option Int) :
    fits (h.count limit) = true := by
  have hbound : 0 < Int.pow 2 63 := by decide
  cases limit with
  | none => exact hfits
  | some limit =>
    rw [count]
    simp only [fits, Bool.and_eq_true, decide_eq_true_eq] at hfits ⊢
    omega

theorem view_recent_none (hopen : h.isOpen = true) (hfits : fits h.maxItems = true) :
    (h.recent none).map view = .ok (cut h.maxItems (view h.rows)) := by
  have hcount := fits_count hfits none
  rw [recent, hopen, hcount, ← view_firstRows]
  rfl

/-- A limited read takes the smaller of the two counts, and nothing if that is negative. -/
theorem view_recent_some (hopen : h.isOpen = true) (hfits : fits h.maxItems = true) (limit : Int) :
    (h.recent (some limit)).map view = .ok ((view h.rows).take (min limit h.maxItems).toNat) := by
  have hcount := fits_count hfits (some limit)
  have hrows : view (firstRows (h.count (some limit)) h.rows) =
      (view h.rows).take (min limit h.maxItems).toNat := by
    have hnat : (max 0 (min limit h.maxItems)).toNat = (min limit h.maxItems).toNat := by omega
    rw [view_firstRows, count, cut, if_neg (by omega), hnat]
  rw [recent, hopen, hcount, ← hrows]
  rfl

theorem view_recent_some_of_neg (hopen : h.isOpen = true) (hfits : fits h.maxItems = true)
    (hmax : h.maxItems < 0) (limit : Int) : (h.recent (some limit)).map view = .ok [] := by
  have hnone : (min limit h.maxItems).toNat = 0 := by omega
  rw [view_recent_some hopen hfits, hnone, List.take_zero]

/-- A limited read goes wrong where there is no maximum, but something to show and some of it asked
for. -/
theorem readsFirst_iff (hopen : h.isOpen = true) (hfits : fits h.maxItems = true) (limit : Int) :
    h.ReadsFirst limit ↔ 0 ≤ h.maxItems ∨ limit ≤ 0 ∨ h.rows = [] := by
  rw [ReadsFirst, view_recent_none hopen hfits]
  rcases Int.lt_or_le h.maxItems 0 with hmax | hmax
  · rw [view_recent_some_of_neg hopen hfits hmax, cut, if_pos hmax]
    constructor
    · rintro ⟨entries, hall, hfirst⟩
      obtain rfl := Except.ok.inj hall
      right
      rcases Int.lt_or_le 0 limit with hlimit | hlimit
      · have hnil := (Except.ok.inj hfirst).symm
        rw [List.take_eq_nil_iff] at hnil
        rcases hnil with hzero | hview
        · omega
        · exact Or.inr (List.map_eq_nil_iff.mp hview)
      · exact Or.inl hlimit
    · rintro (hmax' | hlimit | hrows)
      · omega
      · have hzero : limit.toNat = 0 := by omega
        exact ⟨_, rfl, by rw [hzero, List.take_zero]⟩
      · exact ⟨_, rfl, by rw [hrows, view, List.map_nil, List.take_nil]⟩
  · have hmin : min limit.toNat h.maxItems.toNat = (min limit h.maxItems).toNat := by omega
    refine iff_of_true ⟨_, rfl, ?_⟩ (Or.inl hmax)
    rw [view_recent_some hopen hfits, cut, if_neg (by omega), List.take_take, hmin]

/-! ### What a run leaves -/

/-- No operation closes the history or changes its maximum. -/
theorem step_fixed (h : History) (op : Operation) :
    (h.step op).1.isOpen = h.isOpen ∧ (h.step op).1.maxItems = h.maxItems := by
  cases op with
  | add query time => exact add_fixed h query time
  | clear => exact clear_fixed h

theorem run_fixed (h : History) (ops : List Operation) :
    (run h ops).1.isOpen = h.isOpen ∧ (run h ops).1.maxItems = h.maxItems := by
  induction ops generalizing h with
  | nil => exact ⟨rfl, rfl⟩
  | cons op ops ih =>
    obtain ⟨hopen, hmax⟩ := step_fixed h op
    obtain ⟨hopen', hmax'⟩ := ih (h.step op).1
    exact ⟨hopen'.trans hopen, hmax'.trans hmax⟩

/-- Without a maximum nothing is left only if nothing came since all was forgotten. -/
theorem rows_run_eq_nil_iff (hopen : h.isOpen = true) (hfits : fits h.maxItems = true)
    (hmax : h.maxItems < 0) (ops : List Operation) :
    (run h ops).1.rows = [] ↔ made ops = [] ∧ (h.rows = [] ∨ .clear ∈ ops) := by
  induction ops using List.reverseRecOn with
  | nil => simp [run, made]
  | append_singleton ops op ih =>
    obtain ⟨hopen', hmax'⟩ := run_fixed h ops
    rw [hopen] at hopen'
    rw [run_concat]
    cases op with
    | add query time =>
      have hmem : Operation.clear ∈ ops ++ [.add query time] ↔ .clear ∈ ops := by simp
      rw [made_concat_add, hmem, step]
      by_cases hquery : query.any Text.hasSurrogate = true
      · rw [add_of_not_unicode hopen' hquery, Operation.addition?, if_pos hquery,
          Option.toList_none, List.append_nil]
        exact ih
      · have hunicode : query.any Text.hasSurrogate = false := by simpa using hquery
        rw [add_of_unicode hopen' (by rw [hmax']; exact hfits) hunicode, Operation.addition?,
          if_neg hquery, firstRows, if_pos (by rw [hmax']; exact hmax), push]
        simp
    | clear =>
      rw [made_concat_clear, step, clear_of_isOpen hopen']
      simp

/-- After any operations on a history, new or not, a limited read shows the first entries of the full
read, unless the maximum is negative, the limit is positive and the history holds something: then the
full read shows all of it and the limited one nothing. -/
theorem readsFirst_run_iff (hopen : h.isOpen = true) (hfits : fits h.maxItems = true)
    (ops : List Operation) (limit : Int) :
    ((run h ops).1.ReadsFirst limit ↔
      0 ≤ h.maxItems ∨ limit ≤ 0 ∨ (made ops = [] ∧ (h.rows = [] ∨ .clear ∈ ops))) ∧
    (h.maxItems < 0 →
      ((run h ops).1.recent none).map view = .ok (view (run h ops).1.rows) ∧
      ((run h ops).1.recent (some limit)).map view = .ok []) := by
  obtain ⟨hopen', hmax'⟩ := run_fixed h ops
  have hopen' := hopen'.trans hopen
  have hfits' : fits (run h ops).1.maxItems = true := by
    rw [hmax']
    exact hfits
  constructor
  · rw [readsFirst_iff hopen' hfits', hmax']
    rcases Int.lt_or_le h.maxItems 0 with hmax | hmax
    · rw [rows_run_eq_nil_iff hopen hfits hmax]
    · exact iff_of_true (Or.inl hmax) (Or.inl hmax)
  · intro hmax
    rw [← hmax'] at hmax
    refine ⟨?_, view_recent_some_of_neg hopen' hfits' hmax limit⟩
    rw [view_recent_none hopen' hfits', cut, if_pos hmax]

/-- A run that forgets one query and remembers two. -/
def rememberTwo : List Operation :=
  [.add (some "a") (.finite false 1), .clear, .add (some "b") (.finite false 2),
    .add (some "c") (.finite false 3)]

/-- With a maximum of five, a limit of one asks for the newest of the two; without a maximum it asks for
nothing. -/
theorem readsFirst_run_iff_rememberTwo :
    fits 5 = true ∧ (run { maxItems := 5 } rememberTwo).1.ReadsFirst 1 ∧
    fits (-1) = true ∧ ¬ (run { maxItems := -1 } rememberTwo).1.ReadsFirst 1 := by
  have hfive : fits 5 = true := by decide
  have hnone : fits (-1) = true := by decide
  obtain ⟨hiff, -⟩ := readsFirst_run_iff (h := { maxItems := 5 }) rfl hfive rememberTwo 1
  obtain ⟨hiff', -⟩ := readsFirst_run_iff (h := { maxItems := -1 }) rfl hnone rememberTwo 1
  refine ⟨hfive, hiff.mpr (Or.inl (by decide)), hnone, ?_⟩
  rw [hiff']
  decide

/-- A run that remembers one query. -/
def rememberOne : List Operation := [.add (some "SELECT 1") (.finite false 1000)]

/-- It does not hold for every maximum that fits, all operations and every limit. -/
theorem not_forall_readsFirst : ¬ ∀ (n : Int), fits n = true → ∀ (ops : List Operation) (limit : Int),
    (run { maxItems := n } ops).1.ReadsFirst limit := by
  intro h
  obtain ⟨entries, hall, hfirst⟩ := h (-1) (by decide) rememberOne 3
  have hentries : entries = [(some (Text.ofString "SELECT 1"), Double.finite false 1000)] :=
    (Except.ok.inj hall).symm.trans (by decide +kernel)
  have hnothing : [] = entries.take 3 := Except.ok.inj hfirst
  rw [hentries] at hnothing
  cases hnothing

end QueryAdvisor.History
