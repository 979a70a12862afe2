import Mathlib.Data.List.DropRight
import QueryAdvisor.Proofs.Text.Words

/-!
# Trimming

What `dropEnd` does to two texts in a row depends on the second alone: if all of it goes, the end of
the first is next, and otherwise the first stays whole. `trim` takes blanks from both ends, which
changes neither the words of a text nor the number of any mark.
-/

namespace QueryAdvisor.Text
open CodePoint (isBlank)

/-! ### At the end -/

theorem dropEnd_eq_rdropWhile (p : CodePoint → Bool) (t : Text) : dropEnd p t = t.rdropWhile p := rfl

theorem dropEnd_append_of_all {p : CodePoint → Bool} {t : Text} (h : t.all p = true) (s : Text) :
    dropEnd p (s ++ t) = dropEnd p s := by
  have hall : ∀ c ∈ t.reverse, p c = true := by simpa using h
  rw [dropEnd, List.reverse_append, List.dropWhile_append_of_pos hall, dropEnd]

theorem dropEnd_append_of_not_all {p : CodePoint → Bool} {t : Text} (h : ¬ t.all p = true)
    (s : Text) : dropEnd p (s ++ t) = s ++ dropEnd p t := by
  have hrest : (t.reverse.dropWhile p).isEmpty = false := by
    simpa [List.isEmpty_eq_false_iff, List.dropWhile_eq_nil_iff] using h
  rw [dropEnd, List.reverse_append, List.dropWhile_append, hrest, if_neg (by decide),
    List.reverse_append, List.reverse_reverse, dropEnd]

/-- A text without the class keeps its end. -/
theorem dropEnd_eq_self {p : CodePoint → Bool} {t : Text} (h : ∀ c ∈ t, p c = false) :
    dropEnd p t = t := by
  rw [dropEnd_eq_rdropWhile, List.rdropWhile_eq_self_iff]
  intro hne
  rw [h _ (List.getLast_mem hne)]
  decide

theorem mem_of_mem_dropEnd {p : CodePoint → Bool} {t : Text} {c : CodePoint}
    (h : c ∈ dropEnd p t) : c ∈ t :=
  (List.rdropWhile_prefix p t).mem h

theorem trimEnd_append_blanks {t : Text} (h : allBlank t = true) (s : Text) :
    trimEnd (s ++ t) = trimEnd s :=
  dropEnd_append_of_all h s

theorem trimEnd_append_of_not_blank {t : Text} (h : ¬ allBlank t = true) (s : Text) :
    trimEnd (s ++ t) = s ++ trimEnd t :=
  dropEnd_append_of_not_all h s

theorem trimEnd_trimEnd (t : Text) : trimEnd (trimEnd t) = trimEnd t :=
  List.rdropWhile_idempotent isBlank t

theorem trimEnd_ne_nil {t : Text} (h : ¬ allBlank t = true) : trimEnd t ≠ [] := by
  rw [trimEnd, dropEnd_eq_rdropWhile, Ne, List.rdropWhile_eq_nil_iff]
  simpa [allBlank] using h

/-- A trimmed text ends in no blank. -/
theorem isBlank_of_trimEnd_eq_concat {t s : Text} {c : CodePoint} (h : trimEnd t = s ++ [c]) :
    isBlank c = false := by
  have hdrop : t.rdropWhile isBlank = s ++ [c] := h
  have hlast := List.rdropWhile_last_not isBlank t (by rw [hdrop]; simp)
  simpa [hdrop] using hlast

theorem words_trimEnd (t : Text) : words (trimEnd t) = words t := by
  obtain ⟨tail, htail, hblank⟩ := exists_dropEnd_append isBlank t
  have hwords : words (trimEnd t ++ tail) = words (trimEnd t) := words_append_blanks hblank _
  rw [← hwords]
  exact congrArg words htail.symm

/-! ### At both ends -/

theorem trim_append_blanks {t : Text} (h : allBlank t = true) (s : Text) :
    trim (s ++ t) = trim s := by
  have hnone : t.dropWhile isBlank = [] :=
    List.dropWhile_eq_nil_iff.mpr (List.all_eq_true.mp h)
  rw [trim, trim, List.dropWhile_append]
  split
  · next hs => rw [hnone, List.isEmpty_iff.mp hs]
  · exact trimEnd_append_blanks h _

theorem trim_trimEnd (t : Text) : trim (trimEnd t) = trim t := by
  obtain ⟨tail, htail, hblank⟩ := exists_dropEnd_append isBlank t
  have hsame : trim (trimEnd t ++ tail) = trim (trimEnd t) := trim_append_blanks hblank _
  rw [← hsame]
  exact congrArg trim htail.symm

/-- What is dropped in front of a text leaves a last code point that is no blank. -/
theorem dropWhile_concat {c : CodePoint} (h : isBlank c = false) (t : Text) :
    (t ++ [c]).dropWhile isBlank = t.dropWhile isBlank ++ [c] := by
  rw [List.dropWhile_append]
  split
  · next ht => simp [List.isEmpty_iff.mp ht, h]
  · rfl

/-- Behind a text that ends in no blank only the front is trimmed. -/
theorem trim_concat {c : CodePoint} (h : isBlank c = false) (t : Text) :
    trim (t ++ [c]) = t.dropWhile isBlank ++ [c] := by
  rw [trim, dropWhile_concat h, trimEnd, dropEnd_concat, h, if_neg (by decide)]

/-- What is trimmed is blank. -/
theorem exists_trim_append (t : Text) : ∃ lead tail, t = lead ++ trim t ++ tail ∧
    allBlank lead = true ∧ allBlank tail = true := by
  obtain ⟨tail, htail, hblank⟩ := exists_dropEnd_append isBlank (t.dropWhile isBlank)
  refine ⟨t.takeWhile isBlank, tail, ?_, List.all_takeWhile, hblank⟩
  calc t = t.takeWhile isBlank ++ t.dropWhile isBlank := List.takeWhile_append_dropWhile.symm
    _ = t.takeWhile isBlank ++ (trim t ++ tail) := congrArg _ htail
    _ = t.takeWhile isBlank ++ trim t ++ tail := (List.append_assoc ..).symm

theorem words_trim (t : Text) : words (trim t) = words t := by
  obtain ⟨lead, tail, ht, hlead, htail⟩ := exists_trim_append t
  have hwords : words (lead ++ trim t ++ tail) = words (trim t) := by
    rw [words_append_blanks htail, words_blanks_append hlead]
  rw [← ht] at hwords
  exact hwords.symm

theorem count_of_allBlank {c : CodePoint} (hc : isBlank c = false) {t : Text}
    (h : allBlank t = true) : t.count c = 0 := by
  rw [List.count_eq_zero]
  intro hmem
  have hblank := List.all_eq_true.mp h c hmem
  rw [hc] at hblank
  cases hblank

theorem count_trim {c : CodePoint} (hc : isBlank c = false) (t : Text) :
    (trim t).count c = t.count c := by
  obtain ⟨lead, tail, ht, hlead, htail⟩ := exists_trim_append t
  have hcount : (lead ++ trim t ++ tail).count c = (trim t).count c := by
    rw [List.count_append, List.count_append, count_of_allBlank hc hlead,
      count_of_allBlank hc htail, Nat.zero_add, Nat.add_zero]
  rw [← ht] at hcount
  exact hcount.symm

end QueryAdvisor.Text
