import QueryAdvisor.Text

/-!
# Lines

A text is its lines with line feeds between them:

    cutLines    "ab⏎⏎c"  ──▶  ["ab", "", "c"]
    lines       "ab⏎⏎c"  ◀──  ["ab", "", "c"]

Cutting is undone by `lines`. The other way round, pieces that are written one after the other keep their
own lines, so that the lines of a text that was put together are known from those of its pieces.
-/

namespace QueryAdvisor
open CodePoint (lineFeed)

namespace Text

/-- The lines of a text: the pieces between its line feeds. -/
def cutLines (t : Text) : List Text := t.splitOn lineFeed

theorem cutLines_of_not_mem {t : Text} (h : lineFeed ∉ t) : cutLines t = [t] :=
  List.splitOn_eq_singleton h

/-- A line feed parts the lines before it from those behind it. -/
theorem cutLines_append_lineFeed (s t : Text) :
    cutLines (s ++ lineFeed :: t) = cutLines s ++ cutLines t :=
  List.splitOn_append_cons_self ..

theorem lines_cons_of_ne_nil (t : Text) {rest : List Text} (h : rest ≠ []) :
    lines (t :: rest) = t ++ lineFeed :: lines rest := by
  cases rest with
  | nil => exact absurd rfl h
  | cons _ _ => rfl

theorem lines_append {ts rest : List Text} (hts : ts ≠ []) (hrest : rest ≠ []) :
    lines (ts ++ rest) = lines ts ++ lineFeed :: lines rest := by
  induction ts with
  | nil => exact absurd rfl hts
  | cons t ts ih =>
    cases ts with
    | nil => exact lines_cons_of_ne_nil t hrest
    | cons t' ts =>
      rw [List.cons_append, lines_cons_of_ne_nil t (by simp), ih (by simp),
        lines_cons_of_ne_nil t (by simp), List.append_assoc, List.cons_append]

/-- Pieces that are written with line feeds between them have their own lines, one piece after the
other. -/
theorem cutLines_lines {ts : List Text} (h : ts ≠ []) : cutLines (lines ts) = ts.flatMap cutLines := by
  induction ts with
  | nil => exact absurd rfl h
  | cons t ts ih =>
    cases ts with
    | nil => simp [lines]
    | cons t' ts =>
      rw [lines_cons_of_ne_nil t (by simp), cutLines_append_lineFeed, ih (by simp)]
      rfl

/-- Pieces without a line feed are single lines. -/
theorem flatMap_cutLines_of_not_mem {ts : List Text} (h : ∀ t ∈ ts, lineFeed ∉ t) :
    ts.flatMap cutLines = ts := by
  induction ts with
  | nil => rfl
  | cons t ts ih =>
    obtain ⟨ht, hts⟩ := List.forall_mem_cons.mp h
    rw [List.flatMap_cons, cutLines_of_not_mem ht, ih hts, List.singleton_append]

theorem lines_eq_intercalate (ts : List Text) : lines ts = [lineFeed].intercalate ts := by
  induction ts with
  | nil => rfl
  | cons t ts ih =>
    cases ts with
    | nil => simp [lines]
    | cons t' ts =>
      rw [lines_cons_of_ne_nil t (by simp), ih, List.intercalate_cons_cons, List.append_assoc,
        List.singleton_append]

/-- A text is its lines with line feeds between them. -/
theorem lines_cutLines (t : Text) : lines (cutLines t) = t := by
  rw [lines_eq_intercalate]
  exact List.intercalate_splitOn lineFeed

end Text

end QueryAdvisor
