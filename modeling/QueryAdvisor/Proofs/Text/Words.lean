import QueryAdvisor.Text.Search

/-!
# Words

`Text.words` cuts a text at its blanks and keeps the pieces that are not empty. Everything about it
follows from one equation for `splitBlank`: where two texts meet, the last piece of the first and the
first piece of the second become one piece.

The scan `Text.hasWord` cuts nothing, it looks for the word behind each blank. Both find the same:
what the text starts with is its first piece, and what stands behind a blank is one of the others.
-/

namespace QueryAdvisor.Text
open CodePoint (isBlank)

/-! ### Pieces -/

theorem splitBlank_ne_nil (t : Text) : splitBlank t ≠ [] := by
  cases t with
  | nil => simp [splitBlank]
  | cons c t =>
    rw [splitBlank]
    split
    · exact List.cons_ne_nil _ _
    · split <;> exact List.cons_ne_nil _ _

theorem splitBlank_cons_blank {c : CodePoint} (h : isBlank c = true) (t : Text) :
    splitBlank (c :: t) = [] :: splitBlank t := by
  rw [splitBlank, if_pos h]

theorem splitBlank_cons_of_not {c : CodePoint} (h : isBlank c = false) {t first : Text}
    {rest : List Text} (ht : splitBlank t = first :: rest) :
    splitBlank (c :: t) = (c :: first) :: rest := by
  rw [splitBlank, if_neg (by simp [h]), ht]

/-- Where two texts meet, the last piece of the one and the first piece of the other become one. -/
theorem splitBlank_append {s t : Text} {init : List Text} {last first : Text} {rest : List Text}
    (hs : splitBlank s = init ++ [last]) (ht : splitBlank t = first :: rest) :
    splitBlank (s ++ t) = init ++ (last ++ first) :: rest := by
  induction s generalizing init last with
  | nil =>
    have hnil : ([] : List Text) ++ [[]] = init ++ [last] := hs
    obtain ⟨rfl, hlast⟩ := List.append_inj' hnil rfl
    obtain rfl : [] = last := by simpa using hlast
    exact ht
  | cons c s ih =>
    obtain ⟨s₁, ss, hsplit⟩ := List.exists_cons_of_ne_nil (splitBlank_ne_nil s)
    by_cases hc : isBlank c = true
    · rw [splitBlank_cons_blank hc] at hs
      obtain ⟨init', rfl⟩ : ∃ init', init = [] :: init' := by
        cases init with
        | nil => rw [hsplit] at hs; simp at hs
        | cons i init' => exact ⟨init', by rw [List.cons_append, List.cons.injEq] at hs; rw [hs.1]⟩
      rw [List.cons_append, splitBlank_cons_blank hc, List.cons_append, ih (List.cons.inj hs).2]
    · have hc : isBlank c = false := by simpa using hc
      rw [splitBlank_cons_of_not hc hsplit] at hs
      -- the piece that `c` opens is either the last one or the first of `init`
      cases init with
      | nil =>
        obtain ⟨rfl, rfl⟩ : c :: s₁ = last ∧ ss = [] := by simpa using hs
        have hlast : splitBlank s = [] ++ [s₁] := hsplit
        have hmeet := ih hlast
        rw [List.cons_append, splitBlank_cons_of_not hc hmeet]
        rfl
      | cons i init' =>
        obtain ⟨rfl, rfl⟩ : c :: s₁ = i ∧ ss = init' ++ [last] := by simpa using hs
        have hlater : splitBlank s = (s₁ :: init') ++ [last] := hsplit
        have hmeet := ih hlater
        rw [List.cons_append, splitBlank_cons_of_not hc hmeet]
        rfl

/-- A text without blanks is one piece. -/
theorem splitBlank_of_no_blank {t : Text} (h : ∀ c ∈ t, isBlank c = false) : splitBlank t = [t] := by
  induction t with
  | nil => rfl
  | cons c t ih =>
    obtain ⟨hc, ht⟩ := List.forall_mem_cons.mp h
    rw [splitBlank_cons_of_not hc (ih ht)]

/-- Every text has a last piece. -/
theorem exists_splitBlank_eq_concat (t : Text) : ∃ init last, splitBlank t = init ++ [last] := by
  obtain ⟨init, last, h⟩ := (List.eq_nil_or_concat (splitBlank t)).resolve_left (splitBlank_ne_nil t)
  exact ⟨init, last, by rw [h, List.concat_eq_append]⟩

/-- A blank separates. -/
theorem splitBlank_append_blank {c : CodePoint} (h : isBlank c = true) (s t : Text) :
    splitBlank (s ++ c :: t) = splitBlank s ++ splitBlank t := by
  obtain ⟨init, last, hs⟩ := exists_splitBlank_eq_concat s
  rw [splitBlank_append hs (splitBlank_cons_blank h t), hs, List.append_nil, List.append_assoc]
  rfl

/-! ### Words -/

theorem words_append_blank {c : CodePoint} (h : isBlank c = true) (s t : Text) :
    words (s ++ c :: t) = words s ++ words t := by
  rw [words, splitBlank_append_blank h, List.filter_append]
  rfl

/-- Blanks in front belong to no word. -/
theorem words_blanks_append {s : Text} (h : allBlank s = true) (t : Text) :
    words (s ++ t) = words t := by
  induction s with
  | nil => rfl
  | cons c s ih =>
    obtain ⟨hc, hs⟩ : isBlank c = true ∧ allBlank s = true := by simpa [allBlank] using h
    have hcut := words_append_blank hc [] (s ++ t)
    rw [List.nil_append, ih hs] at hcut
    exact hcut

/-- Blanks at the end belong to no word. -/
theorem words_append_blanks {t : Text} (ht : allBlank t = true) (s : Text) :
    words (s ++ t) = words s := by
  cases t with
  | nil => rw [List.append_nil]
  | cons c t =>
    obtain ⟨hc, ht⟩ : isBlank c = true ∧ allBlank t = true := by simpa [allBlank] using ht
    have hnone : words t = [] := by rw [← List.append_nil t, words_blanks_append ht]; rfl
    rw [words_append_blank hc, hnone, List.append_nil]

theorem mem_words {w t : Text} : w ∈ words t ↔ w ∈ splitBlank t ∧ w ≠ [] := by
  simp [words]

/-- What is no blank lengthens the last word, or it is a new one behind a blank. -/
theorem words_concat {c : CodePoint} (hc : isBlank c = false) (t : Text) :
    ∃ init last, words (t ++ [c]) = init ++ [last ++ [c]] ∧
      ∀ w, w ∈ words t ↔ w ∈ init ∨ w = last ∧ w ≠ [] := by
  obtain ⟨pieces, last, ht⟩ := exists_splitBlank_eq_concat t
  have hone : splitBlank [c] = [[c]] := splitBlank_of_no_blank (by simpa using hc)
  refine ⟨pieces.filter (fun w => !w.isEmpty), last, ?_, ?_⟩
  · rw [words, splitBlank_append ht hone, List.filter_append]
    simp
  · intro w
    rw [mem_words, ht, List.mem_append, List.mem_singleton, List.mem_filter]
    by_cases hw : w = []
    · simp [hw]
    · simp [hw]

/-! ### The scan for a word -/

theorem startsWord_cons (w c : CodePoint) (word t : Text) :
    startsWord (w :: word) (c :: t) = (w == c && startsWord word t) := by
  rw [startsWord, startsWord, List.isPrefixOf, Bool.and_assoc]
  rfl

/-- The first piece is what the text starts with, the others stand behind its blanks. -/
theorem scan_iff_mem_splitBlank {word : Text} (hword : ∀ c ∈ word, isBlank c = false) {t first : Text}
    {rest : List Text} (ht : splitBlank t = first :: rest) :
    (startsWord word t = true ↔ first = word) ∧
      (hasWordBehindBlank word t = true ↔ word ∈ rest) := by
  induction t generalizing word first rest with
  | nil =>
    obtain ⟨rfl, rfl⟩ : [] = first ∧ [] = rest := by simpa [splitBlank] using ht
    constructor
    · cases word <;> simp [startsWord, atBoundary]
    · simp [hasWordBehindBlank]
  | cons c t ih =>
    obtain ⟨first', rest', hsplit⟩ := List.exists_cons_of_ne_nil (splitBlank_ne_nil t)
    by_cases hc : isBlank c = true
    · rw [splitBlank_cons_blank hc, hsplit] at ht
      obtain ⟨rfl, rfl⟩ : [] = first ∧ first' :: rest' = rest := by simpa using ht
      constructor
      · cases word with
        | nil => simp [startsWord, atBoundary, hc]
        | cons w word =>
          have hne : w ≠ c := by
            rintro rfl
            exact absurd hc (by simp [hword w List.mem_cons_self])
          rw [startsWord_cons, beq_eq_false_iff_ne.mpr hne, Bool.false_and]
          simp
      · obtain ⟨hstart, hbehind⟩ := ih hword hsplit
        rw [hasWordBehindBlank, hc, Bool.true_and, Bool.or_eq_true, hstart, hbehind, List.mem_cons,
          eq_comm]
    · have hc : isBlank c = false := by simpa using hc
      rw [splitBlank_cons_of_not hc hsplit] at ht
      obtain ⟨rfl, rfl⟩ : c :: first' = first ∧ rest' = rest := by simpa using ht
      constructor
      · cases word with
        | nil => simp [startsWord, atBoundary, hc]
        | cons w word =>
          obtain ⟨hstart, -⟩ := ih (fun d hd => hword d (List.mem_cons_of_mem w hd)) hsplit
          rw [startsWord_cons, Bool.and_eq_true, beq_iff_eq, hstart, List.cons.injEq, eq_comm]
      · obtain ⟨-, hbehind⟩ := ih hword hsplit
        rw [hasWordBehindBlank, hc, Bool.false_and, Bool.false_or, hbehind]

/-- The scan finds exactly the words of the text. -/
theorem hasWord_iff_mem_words {word t : Text} (hne : word ≠ [])
    (hword : ∀ c ∈ word, isBlank c = false) : hasWord word t = true ↔ word ∈ words t := by
  obtain ⟨first, rest, ht⟩ := List.exists_cons_of_ne_nil (splitBlank_ne_nil t)
  obtain ⟨hstart, hbehind⟩ := scan_iff_mem_splitBlank hword ht
  rw [mem_words, and_iff_left hne, ht, hasWord, Bool.or_eq_true, hstart, hbehind, List.mem_cons,
    eq_comm]

end QueryAdvisor.Text
