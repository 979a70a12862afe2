import QueryAdvisor.Number.Double
import QueryAdvisor.Text

/-!
# The history of queries

The queries analyzed last, newest first. A query that comes again moves to the front; a missing query
equals no other. After each addition the rows beyond the maximum are gone for good, and the number of a
row is never given to another. A negative maximum is none.
-/

namespace QueryAdvisor

/-- A query that was analyzed. -/
structure HistoryRow where
  id : Nat
  query : Option Text
  time : Double
  deriving DecidableEq, Repr

/-- The rows, newest first, with the greatest number given so far. -/
structure History where
  maxItems : Int
  rows : List HistoryRow := []
  lastId : Nat := 0
  isOpen : Bool := true
  deriving DecidableEq, Repr

/-- Why the history did not do something. -/
inductive HistoryFault where
  | closed
  /-- A count does not fit into 64 bits. -/
  | countTooLarge
  /-- A query with a surrogate alone in it cannot be stored. -/
  | notUnicode
  deriving DecidableEq, Repr

/-- The sentence that goes with a fault. -/
def HistoryFault.message : HistoryFault → Text
  | .closed => "Cannot operate on a closed database."
  | .countTooLarge => "Python int too large to convert to SQLite INTEGER"
  | .notUnicode => "The query is not Unicode text."

namespace History

/-- A count that fits into 64 bits. -/
def fits (n : Int) : Bool := -Int.pow 2 63 ≤ n && n < Int.pow 2 63

/-- The first `n` rows, all of them if `n` is negative. -/
def firstRows (n : Int) (rows : List HistoryRow) : List HistoryRow :=
  if n < 0 then rows else rows.take n.toNat

/-- The rows of other queries. A missing query has no rows of its own. -/
def without (query : Option Text) (rows : List HistoryRow) : List HistoryRow :=
  match query with
  | none => rows
  | some q => rows.filter fun row => row.query ≠ some q

/-- The query can be stored: the history is open and the text is Unicode. Only then is the clock
read. -/
def canStore (h : History) (query : Option Text) : Bool :=
  h.isOpen && !(query.any Text.hasSurrogate)

/-- The rows with a new one in front. -/
def push (h : History) (query : Option Text) (time : Double) : List HistoryRow :=
  ⟨h.lastId + 1, query, time⟩ :: without query h.rows

/-- Remember a query. The new row is there even if its number is never told because the maximum does not
fit. -/
def add (h : History) (query : Option Text) (time : Double) : History × Except HistoryFault Nat :=
  if !h.isOpen then (h, .error .closed)
  else if query.any Text.hasSurrogate then (h, .error .notUnicode)
  else if !fits h.maxItems then
    ({ h with rows := h.push query time, lastId := h.lastId + 1 }, .error .countTooLarge)
  else
    ({ h with rows := firstRows h.maxItems (h.push query time), lastId := h.lastId + 1 },
      .ok (h.lastId + 1))

/-- How many rows are asked for: never more than the maximum, and a negative limit is none. -/
def count (h : History) : Option Int → Int
  | none => h.maxItems
  | some limit => max 0 (min limit h.maxItems)

/-- The newest rows. -/
def recent (h : History) (limit : Option Int) : Except HistoryFault (List HistoryRow) :=
  if !h.isOpen then .error .closed
  else if !fits (h.count limit) then .error .countTooLarge
  else .ok (firstRows (h.count limit) h.rows)

/-- Forget all rows; their numbers stay used. -/
def clear (h : History) : History × Except HistoryFault Unit :=
  if h.isOpen then ({ h with rows := [] }, .ok ()) else (h, .error .closed)

/-- From now on nothing works. -/
def close (h : History) : History := { h with isOpen := false }

/-- An addition neither closes the history nor changes its maximum. -/
theorem add_fixed (h : History) (query : Option Text) (time : Double) :
    (h.add query time).1.isOpen = h.isOpen ∧ (h.add query time).1.maxItems = h.maxItems := by
  rw [add]
  split
  · exact ⟨rfl, rfl⟩
  · split
    · exact ⟨rfl, rfl⟩
    · split <;> exact ⟨rfl, rfl⟩

theorem clear_fixed (h : History) :
    h.clear.1.isOpen = h.isOpen ∧ h.clear.1.maxItems = h.maxItems := by
  rw [clear]
  split <;> exact ⟨rfl, rfl⟩

theorem firstRows_nil (n : Int) : firstRows n [] = [] := by
  unfold firstRows
  split <;> simp

theorem length_firstRows_le {n : Int} (h : 0 ≤ n) (rows : List HistoryRow) :
    (firstRows n rows).length ≤ n.toNat := by
  rw [firstRows, if_neg (by omega)]
  exact List.length_take_le _ _

end History

end QueryAdvisor
