import Mathlib.Data.List.Induction
import QueryAdvisor.History

/-!
# The history is a list of recent queries

Seen from outside, the history is the list of all additions since it was cleared, without those that a
later addition of the same text supersedes, newest first, cut to the maximum. The history itself never
holds that list: it drops the superseded row and whatever is beyond the maximum at each addition.

    additions  ──current──▶  one per text  ──reverse──▶  newest first  ──cut──▶  `recentList`
        │ add, one by one                                                            ║
        ▼                                                                            ║
    rows, cut at each addition  ═════════════════ view ══════════════════════════════╝

That nothing is lost by cutting early is the point: an addition removes one earlier entry at most, so
of the entries within the maximum at most one makes room, and the new one takes it.
-/

namespace QueryAdvisor.History

/-! ### Runs -/

/-- What a history can be asked to change: to remember a query, at the time that the clock shows then,
and to forget all. -/
inductive Operation where
  | add (query : Option Text) (time : Double)
  | clear
  deriving DecidableEq, Repr

/-- The history after one operation, and what an addition returned. -/
def step (h : History) : Operation → History × List (Except HistoryFault Nat)
  | .add query time => ((h.add query time).1, [(h.add query time).2])
  | .clear => (h.clear.1, [])

/-- The history after some operations, and what the additions returned. -/
def run (h : History) : List Operation → History × List (Except HistoryFault Nat)
  | [] => (h, [])
  | op :: ops => ((run (h.step op).1 ops).1, (h.step op).2 ++ (run (h.step op).1 ops).2)

/-- The numbers among what additions returned. -/
def ids (answers : List (Except HistoryFault Nat)) : List Nat :=
  answers.filterMap Except.toOption

theorem ids_concat_ok (answers : List (Except HistoryFault Nat)) (id : Nat) :
    ids (answers ++ [.ok id]) = ids answers ++ [id] := by
  rw [ids, List.filterMap_append, ids]
  rfl

theorem ids_concat_error (answers : List (Except HistoryFault Nat)) (fault : HistoryFault) :
    ids (answers ++ [.error fault]) = ids answers := by
  rw [ids, List.filterMap_append, ids]
  exact List.append_nil _

/-! ### The list that is meant -/

/-- A query, if there was one, and when it was added. -/
abbrev Entry := Option Text × Double

/-- An earlier entry is superseded by a later one with the same text; a missing text equals no other. -/
def Superseded (earlier later : Entry) : Prop := earlier.1 ≠ none ∧ earlier.1 = later.1

instance (earlier later : Entry) : Decidable (Superseded earlier later) :=
  inferInstanceAs (Decidable (_ ∧ _))

/-- The entry that an operation makes. Text that is not Unicode is refused. -/
def Operation.addition? : Operation → Option Entry
  | .add query time => if query.any Text.hasSurrogate then none else some (query, time)
  | .clear => none

/-- The entries made since the last clear, oldest first. -/
def made (ops : List Operation) : List Entry :=
  (ops.reverse.takeWhile (· ≠ .clear)).reverse.filterMap Operation.addition?

/-- The entries that no later one supersedes, oldest first. -/
def current : List Entry → List Entry
  | [] => []
  | e :: later => if ∃ e' ∈ later, Superseded e e' then current later else e :: current later

/-- The first `n` elements; all of them if `n` is negative. -/
def cut {α : Type} (n : Int) (l : List α) : List α := if n < 0 then l else l.take n.toNat

/-- What a history with a maximum should show after some operations, newest first. -/
def recentList (maxItems : Int) (ops : List Operation) : List Entry :=
  cut maxItems (current (made ops)).reverse

/-- What rows show. -/
def view (rows : List HistoryRow) : List Entry := rows.map fun row => (row.query, row.time)

/-! ### One more operation -/

theorem run_concat (h : History) (ops : List Operation) (op : Operation) :
    run h (ops ++ [op]) =
      (((run h ops).1.step op).1, (run h ops).2 ++ ((run h ops).1.step op).2) := by
  induction ops generalizing h with
  | nil => simp [run]
  | cons op' ops ih => rw [List.cons_append, run, ih, run, List.append_assoc]

theorem made_concat_add (ops : List Operation) (query : Option Text) (time : Double) :
    made (ops ++ [.add query time]) = made ops ++ (Operation.add query time).addition?.toList := by
  rw [made, List.reverse_concat, List.takeWhile_cons_of_pos (by simp), List.reverse_cons,
    List.filterMap_append, made, List.filterMap_cons, List.filterMap_nil]
  cases (Operation.add query time).addition? <;> rfl

theorem made_concat_clear (ops : List Operation) : made (ops ++ [.clear]) = [] := by
  simp [made]

/-! ### One more entry -/

theorem current_sublist (l : List Entry) : (current l).Sublist l := by
  induction l with
  | nil => exact List.Sublist.refl _
  | cons e later ih =>
    rw [current]
    split
    · exact ih.cons e
    · exact ih.cons_cons e

/-- A new entry takes the place of the one that it supersedes. -/
theorem current_concat (l : List Entry) (e : Entry) :
    current (l ++ [e]) = (current l).filter (fun e' => ¬ Superseded e' e) ++ [e] := by
  induction l with
  | nil => simp [current]
  | cons e' later ih =>
    have hlater : (∃ x ∈ later ++ [e], Superseded e' x) ↔
        (∃ x ∈ later, Superseded e' x) ∨ Superseded e' e := by
      simp [or_and_right, exists_or]
    rw [List.cons_append, current, current, ih]
    by_cases hold : ∃ x ∈ later, Superseded e' x
    · rw [if_pos (hlater.mpr (Or.inl hold)), if_pos hold]
    · rw [if_neg hold]
      by_cases hnew : Superseded e' e
      · rw [if_pos (hlater.mpr (Or.inr hnew)), List.filter_cons_of_neg (by simpa using hnew)]
      · rw [if_neg (by simp [hold, hnew]), List.filter_cons_of_pos (by simpa using hnew),
          List.cons_append]

/-- There is one entry at most that a new one supersedes. -/
theorem countP_superseded_le_one (e : Entry) (l : List Entry) :
    (current l).countP (fun e' => Superseded e' e) ≤ 1 := by
  induction l with
  | nil => simp [current]
  | cons e' later ih =>
    rw [current]
    split
    · exact ih
    · next hold =>
      by_cases hnew : Superseded e' e
      · have hnone : (current later).countP (fun x => Superseded x e) = 0 := by
          rw [List.countP_eq_zero]
          intro x hx hsame
          obtain ⟨-, hxe⟩ : Superseded x e := by simpa using hsame
          exact hold ⟨x, (current_sublist later).mem hx, hnew.1, hnew.2.trans hxe.symm⟩
        rw [List.countP_cons, hnone]
        split <;> omega
      · rw [List.countP_cons_of_neg (by simpa using hnew)]
        exact ih

/-! ### Cutting early -/

theorem cut_cut {α : Type} (n : Int) (l : List α) : cut n (cut n l) = cut n l := by
  rw [cut, cut]
  split
  · rfl
  · rw [List.take_take, Nat.min_self]

theorem cut_nil {α : Type} (n : Int) : cut n ([] : List α) = [] := by
  rw [cut]
  split <;> simp

theorem cut_sublist {α : Type} (n : Int) (l : List α) : (cut n l).Sublist l := by
  rw [cut]
  split
  · exact List.Sublist.refl _
  · exact List.take_sublist _ _

theorem map_cut {α β : Type} (f : α → β) (n : Int) (l : List α) :
    cut n (l.map f) = (cut n l).map f := by
  rw [cut, cut]
  split
  · rfl
  · rw [List.map_take]

/-- Where a filter drops one element at most, a cut before it loses nothing within one less. -/
theorem take_filter_take {α : Type} {p : α → Bool} (n : Nat) {l : List α}
    (h : l.countP (fun a => !p a) ≤ 1) :
    ((l.take (n + 1)).filter p).take n = (l.filter p).take n := by
  induction l generalizing n with
  | nil => simp
  | cons a l ih =>
    rw [List.take_succ_cons]
    by_cases ha : p a = true
    · rw [List.filter_cons_of_pos ha, List.filter_cons_of_pos ha]
      cases n with
      | zero => rfl
      | succ m =>
        rw [List.countP_cons_of_neg (by simp [ha])] at h
        rw [List.take_succ_cons, List.take_succ_cons, ih m h]
    · -- the one element that is dropped, so that the rest is kept whole
      rw [List.countP_cons_of_pos (by simpa using ha)] at h
      have hrest : ∀ b ∈ l, p b = true := by
        have hzero : l.countP (fun b => !p b) = 0 := by omega
        simpa [List.countP_eq_zero] using hzero
      have htake : ∀ b ∈ l.take n, p b = true := fun b hb => hrest b (List.mem_of_mem_take hb)
      rw [List.filter_cons_of_neg ha, List.filter_cons_of_neg ha, List.filter_eq_self.mpr hrest,
        List.filter_eq_self.mpr htake, List.take_take, Nat.min_self]

/-- A new entry, put in front of the others that the filter keeps, needs no more of them than the cut
left. -/
theorem cut_cons_filter_cut {α : Type} {p : α → Bool} (n : Int) (a : α) {l : List α}
    (h : l.countP (fun b => !p b) ≤ 1) :
    cut n (a :: (cut n l).filter p) = cut n (a :: l.filter p) := by
  rw [cut, cut, cut]
  split
  · rfl
  · cases n.toNat with
    | zero => rfl
    | succ m => rw [List.take_succ_cons, List.take_succ_cons, take_filter_take m h]

/-! ### The rows show the list -/

theorem view_firstRows (n : Int) (rows : List HistoryRow) :
    view (firstRows n rows) = cut n (view rows) := by
  rw [firstRows, cut, view]
  split
  · rfl
  · rw [List.map_take, view]

theorem view_push (h : History) (query : Option Text) (time : Double) : view (h.push query time) =
    (query, time) :: (view h.rows).filter (fun e => ¬ Superseded e (query, time)) := by
  have hwithout : view (without query h.rows) =
      (view h.rows).filter (fun e => ¬ Superseded e (query, time)) := by
    cases query with
    | none =>
      have hkept : ∀ e ∈ view h.rows, decide (¬ Superseded e (none, time)) = true := by
        intro e _
        simp +contextual [Superseded]
      rw [without, List.filter_eq_self.mpr hkept]
    | some q =>
      rw [without, view, view, List.filter_map]
      congr 1
      apply List.filter_congr
      intro row _
      by_cases hsame : row.query = some q <;> simp [Superseded, hsame]
  rw [push, view, List.map_cons, ← hwithout, view]

/-- An entry more: it comes first, and takes the place of the one that it supersedes. -/
theorem recentList_concat_add (maxItems : Int) {ops : List Operation} {query : Option Text}
    {time : Double} (hquery : query.any Text.hasSurrogate = false) :
    recentList maxItems (ops ++ [.add query time]) = cut maxItems ((query, time) ::
      (recentList maxItems ops).filter (fun e => ¬ Superseded e (query, time))) := by
  have haddition : (Operation.add query time).addition? = some (query, time) := by
    simp [Operation.addition?, hquery]
  have hone : (current (made ops)).reverse.countP
      (fun e => !decide (¬ Superseded e (query, time))) ≤ 1 := by
    simpa [List.countP_reverse] using countP_superseded_le_one (query, time) (made ops)
  rw [recentList, made_concat_add, haddition, Option.toList_some, current_concat, List.reverse_concat,
    ← List.filter_reverse, recentList, cut_cons_filter_cut maxItems _ hone]

theorem recentList_concat_refused (maxItems : Int) {ops : List Operation} {query : Option Text}
    {time : Double} (hquery : query.any Text.hasSurrogate = true) :
    recentList maxItems (ops ++ [.add query time]) = recentList maxItems ops := by
  have haddition : (Operation.add query time).addition? = none := by
    simp [Operation.addition?, hquery]
  rw [recentList, made_concat_add, haddition, Option.toList_none, List.append_nil, recentList]

theorem recentList_concat_clear (maxItems : Int) (ops : List Operation) :
    recentList maxItems (ops ++ [.clear]) = [] := by
  rw [recentList, made_concat_clear, current, List.reverse_nil, cut_nil]

/-! ### The whole run -/

theorem add_of_unicode {h : History} (hopen : h.isOpen = true) (hfits : fits h.maxItems = true)
    {query : Option Text} (hquery : query.any Text.hasSurrogate = false) (time : Double) :
    h.add query time =
      ({ h with rows := firstRows h.maxItems (h.push query time), lastId := h.lastId + 1 },
        .ok (h.lastId + 1)) := by
  simp [add, hopen, hfits, hquery]

theorem add_of_not_unicode {h : History} (hopen : h.isOpen = true) {query : Option Text}
    (hquery : query.any Text.hasSurrogate = true) (time : Double) :
    h.add query time = (h, .error .notUnicode) := by
  simp [add, hopen, hquery]

/-- Whatever the maximum, the history has a new row, and up to the maximum it shows all that it should. -/
theorem exists_rows_add {h : History} (hopen : h.isOpen = true) {query : Option Text}
    (hquery : query.any Text.hasSurrogate = false) (time : Double) :
    ∃ rows, (h.add query time).1 = { h with rows := rows, lastId := h.lastId + 1 } ∧
      rows.Sublist (h.push query time) ∧
      cut h.maxItems (view rows) = cut h.maxItems (view (h.push query time)) := by
  cases hfits : fits h.maxItems with
  | true =>
    refine ⟨firstRows h.maxItems (h.push query time), ?_, ?_, ?_⟩
    · rw [add_of_unicode hopen hfits hquery]
    · exact cut_sublist h.maxItems _
    · rw [view_firstRows, cut_cut]
  | false =>
    -- the rows are not even cut
    refine ⟨h.push query time, ?_, List.Sublist.refl _, rfl⟩
    simp [add, hopen, hfits, hquery]

theorem clear_of_isOpen {h : History} (hopen : h.isOpen = true) :
    h.clear = ({ h with rows := [] }, .ok ()) := by
  rw [clear, if_pos hopen]

/-- The history shows the recent list of the operations so far, and no number is above the last. -/
structure Tracks (n : Int) (ops : List Operation) (h : History)
    (answers : List (Except HistoryFault Nat)) : Prop where
  isOpen : h.isOpen = true
  maxItems : h.maxItems = n
  rows : view h.rows = recentList n ops
  ids : ∀ id ∈ ids answers, id ≤ h.lastId

/-- One operation more. -/
theorem tracks_step {n : Int} (hfits : fits n = true) {ops : List Operation} {h : History}
    {answers : List (Except HistoryFault Nat)} (ht : Tracks n ops h answers) (op : Operation) :
    Tracks n (ops ++ [op]) (h.step op).1 (answers ++ (h.step op).2) := by
  obtain ⟨hopen, rfl, hrows, hids⟩ := ht
  cases op with
  | add query time =>
    by_cases hquery : query.any Text.hasSurrogate = true
    · rw [step, add_of_not_unicode hopen hquery]
      refine ⟨hopen, rfl, ?_, ?_⟩
      · rw [recentList_concat_refused h.maxItems hquery]
        exact hrows
      · rw [ids_concat_error]
        exact hids
    · have hquery : query.any Text.hasSurrogate = false := by simpa using hquery
      rw [step, add_of_unicode hopen hfits hquery]
      refine ⟨hopen, rfl, ?_, ?_⟩
      · rw [recentList_concat_add h.maxItems hquery, ← hrows, view_firstRows, view_push]
      · intro id hid
        rw [ids_concat_ok] at hid
        rcases List.mem_append.mp hid with hid | hid
        · exact Nat.le_succ_of_le (hids id hid)
        · exact Nat.le_of_eq (List.mem_singleton.mp hid)
  | clear =>
    rw [step, clear_of_isOpen hopen]
    refine ⟨hopen, rfl, ?_, ?_⟩
    · rw [recentList_concat_clear]
      rfl
    · simpa using hids

/-- Any number of operations on a new history. -/
theorem tracks_run {n : Int} (hfits : fits n = true) (ops : List Operation) :
    Tracks n ops (run { maxItems := n } ops).1 (run { maxItems := n } ops).2 := by
  induction ops using List.reverseRecOn with
  | nil =>
    refine ⟨rfl, rfl, ?_, ?_⟩
    · simp [run, view, recentList, made, current, cut]
    · simp [run, History.ids]
  | append_singleton ops op ih =>
    rw [run_concat]
    exact tracks_step hfits ih op

/-- After any operations on a new history its rows show the recent list of them; and an addition then
returns a number above all that were returned before, or refuses text that is not Unicode. -/
theorem recent_run {n : Int} (hfits : fits n = true) (ops : List Operation) :
    ((run { maxItems := n } ops).1.recent none).map view = .ok (recentList n ops) ∧
      ∀ (query : Option Text) (time : Double),
        (∃ id, ((run { maxItems := n } ops).1.add query time).2 = .ok id ∧
          ∀ earlier ∈ ids (run { maxItems := n } ops).2, earlier < id) ∨
        (query.any Text.hasSurrogate = true ∧
          ((run { maxItems := n } ops).1.add query time).2 = .error .notUnicode) := by
  obtain ⟨hopen, hmax, hrows, hids⟩ := tracks_run hfits ops
  constructor
  · rw [recent, hopen, count, hmax, hfits]
    have hcut : view (firstRows n (run { maxItems := n } ops).1.rows) = recentList n ops := by
      rw [view_firstRows, hrows, recentList, cut_cut]
    exact congrArg Except.ok hcut
  · intro query time
    by_cases hquery : query.any Text.hasSurrogate = true
    · right
      rw [add_of_not_unicode hopen hquery]
      exact ⟨hquery, rfl⟩
    · left
      rw [add_of_unicode hopen (by rw [hmax]; exact hfits) (by simpa using hquery)]
      refine ⟨_, rfl, ?_⟩
      intro earlier hearlier
      exact Nat.lt_succ_of_le (hids earlier hearlier)

/-- A run on a history of two, in which a query comes again after one without text, behind a clear. -/
def comesAgain : List Operation :=
  [.add (some "a") (.finite false 1), .clear, .add (some "a") (.finite false 2),
    .add none (.finite false 3), .add (some "b") (.finite false 4), .add none (.finite false 5),
    .add (some "b") (.finite false 6)]

/-- The query that came again is first, the missing one behind it stays, and the next number is new. -/
theorem recent_run_comesAgain : fits 2 = true ∧
    ((run { maxItems := 2 } comesAgain).1.recent none).map view =
      .ok [(some "b", .finite false 6), (none, .finite false 5)] ∧
    ∃ id, ((run { maxItems := 2 } comesAgain).1.add none (.finite false 7)).2 = .ok id ∧
      ∀ earlier ∈ ids (run { maxItems := 2 } comesAgain).2, earlier < id := by
  have hfits : fits 2 = true := by decide
  obtain ⟨hrecent, hadd⟩ := recent_run hfits comesAgain
  refine ⟨hfits, hrecent.trans (congrArg Except.ok ?_), ?_⟩
  · decide +kernel
  · rcases hadd none (.finite false 7) with hid | ⟨hsurrogate, -⟩
    · exact hid
    · cases hsurrogate

end QueryAdvisor.History
