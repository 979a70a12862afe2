import Mathlib.Logic.Relation
import QueryAdvisor.Proofs.Text.Capitals
import QueryAdvisor.Proofs.Text.Trim

/-!
# Layout and letter case

A text can be written differently in two ways. A change of layout adds or removes a blank at an end, or
puts another blank in the place of one; a change of letter case puts the other form of an ASCII letter.

    add, remove        ␣ a ␣ b      ⟷   a ␣ b         seen by neither:  `level`, trimmed, with
    replace            a ␣ b        ⟷   a ⇥ b                           spaces for its blanks
    lower, raise       a b          ⟷   A b           not seen by:      `map asciiUpper`

So whatever can be computed from such a form alone does not depend on how the text is written. A search
for a pattern without blanks is of this kind: where blanks become spaces, it finds what it found.
-/

namespace QueryAdvisor

namespace CodePoint

def space : CodePoint := ' '

/-- A space for a blank, any other code point unchanged. -/
def levelled (c : CodePoint) : CodePoint := if isBlank c then space else c

theorem levelled_of_isBlank {c : CodePoint} (h : isBlank c = true) : c.levelled = space :=
  if_pos h

theorem levelled_of_not_isBlank {c : CodePoint} (h : isBlank c = false) : c.levelled = c :=
  if_neg (by simp [h])

theorem isBlank_levelled (c : CodePoint) : isBlank c.levelled = isBlank c := by
  by_cases h : isBlank c = true
  · rw [levelled_of_isBlank h, h]
    decide
  · rw [levelled_of_not_isBlank (by simpa using h)]

theorem levelled_levelled (c : CodePoint) : c.levelled.levelled = c.levelled := by
  by_cases h : isBlank c = true
  · rw [levelled_of_isBlank h]
    decide
  · have hkept : c.levelled = c := levelled_of_not_isBlank (by simpa using h)
    rw [hkept, hkept]

/-- Only blanks become something else, and what they become is a blank. -/
theorem levelled_eq_iff {d : CodePoint} (hd : isBlank d = false) (c : CodePoint) :
    c.levelled = d ↔ c = d := by
  by_cases h : isBlank c = true
  · have hleft : c.levelled ≠ d := by
      intro hsame
      rw [← hsame, isBlank_levelled, h] at hd
      cases hd
    have hright : c ≠ d := by
      rintro rfl
      rw [h] at hd
      cases hd
    exact iff_of_false hleft hright
  · rw [levelled_of_not_isBlank (by simpa using h)]

/-- The first is a capital of ASCII, the second its small form. -/
def IsCapitalOf (capital small : CodePoint) : Prop :=
  isUpperLetter capital = true ∧ small.val = capital.val + 0x20

theorem asciiUpper_of_not_isLowerLetter {c : CodePoint} (h : isLowerLetter c = false) :
    c.asciiUpper = c :=
  if_neg (by simp [h])

theorem IsCapitalOf.asciiUpper_eq {capital small : CodePoint} (h : IsCapitalOf capital small) :
    capital.asciiUpper = small.asciiUpper := by
  obtain ⟨hcapital, hval⟩ := h
  simp only [isUpperLetter, Bool.and_eq_true, decide_eq_true_eq] at hcapital
  have hsmall : isLowerLetter small = true := by
    simp only [isLowerLetter, Bool.and_eq_true, decide_eq_true_eq]
    omega
  have hlower : isLowerLetter capital = false := by
    simp only [isLowerLetter, Bool.and_eq_false_iff, decide_eq_false_iff_not]
    omega
  apply CodePoint.ext
  rw [asciiUpper_of_not_isLowerLetter hlower, asciiUpper, if_pos hsmall]
  show capital.val = small.val - 0x20
  omega

/-- A capital, or the capital of a small letter, is no small letter. -/
theorem isLowerLetter_asciiUpper (c : CodePoint) : isLowerLetter c.asciiUpper = false := by
  by_cases h : isLowerLetter c = true
  · rw [asciiUpper, if_pos h]
    simp only [isLowerLetter, Bool.and_eq_true, decide_eq_true_eq] at h
    simp only [isLowerLetter, Bool.and_eq_false_iff, decide_eq_false_iff_not]
    omega
  · rwa [asciiUpper_of_not_isLowerLetter (by simpa using h), ← Bool.not_eq_true]

theorem val_asciiUpper_lt_iff (c : CodePoint) : c.asciiUpper.val < 0x80 ↔ c.val < 0x80 := by
  by_cases h : isLowerLetter c = true
  · rw [asciiUpper, if_pos h]
    simp only [isLowerLetter, Bool.and_eq_true, decide_eq_true_eq] at h
    show c.val - 0x20 < 0x80 ↔ c.val < 0x80
    omega
  · rw [asciiUpper_of_not_isLowerLetter (by simpa using h)]

/-- Both forms of a letter have the same capital. -/
theorem upper_asciiUpper (c : CodePoint) : c.asciiUpper.upper = c.upper := by
  by_cases h : c.val < 0x80
  · rw [upper, if_pos ((val_asciiUpper_lt_iff c).mpr h),
      asciiUpper_of_not_isLowerLetter (isLowerLetter_asciiUpper c), upper, if_pos h]
  · have hlower : isLowerLetter c = false := by
      simp only [isLowerLetter, Bool.and_eq_false_iff, decide_eq_false_iff_not]
      omega
    rw [asciiUpper_of_not_isLowerLetter hlower]

theorem isBlank_asciiUpper_eq (c : CodePoint) : isBlank c.asciiUpper = isBlank c := by
  by_cases h : isBlank c = true
  · rw [asciiUpper_of_not_isLowerLetter (isLowerLetter_of_isBlank h)]
  · have h : isBlank c = false := by simpa using h
    rw [isBlank_asciiUpper h, h]

/-- Only letters become something else, and what they become is a letter. -/
theorem asciiUpper_eq_iff {d : CodePoint} (hlower : isLowerLetter d = false)
    (hupper : isUpperLetter d = false) (c : CodePoint) : c.asciiUpper = d ↔ c = d := by
  by_cases h : isLowerLetter c = true
  · have hcapital : isUpperLetter c.asciiUpper = true := by
      rw [asciiUpper, if_pos h]
      simp only [isLowerLetter, Bool.and_eq_true, decide_eq_true_eq] at h
      simp only [isUpperLetter, Bool.and_eq_true, decide_eq_true_eq]
      omega
    refine iff_of_false ?_ ?_
    · rintro rfl
      rw [hcapital] at hupper
      cases hupper
    · rintro rfl
      rw [h] at hlower
      cases hlower
  · rw [asciiUpper_of_not_isLowerLetter (by simpa using h)]

end CodePoint

namespace Text
open CodePoint (isBlank levelled asciiUpper IsCapitalOf)

/-! ### What is changed -/

/-- One change of layout. -/
inductive ChangesLayout : Text → Text → Prop
  | addFront {c : CodePoint} (h : isBlank c = true) (t : Text) : ChangesLayout t (c :: t)
  | addEnd {c : CodePoint} (h : isBlank c = true) (t : Text) : ChangesLayout t (t ++ [c])
  | removeFront {c : CodePoint} (h : isBlank c = true) (t : Text) : ChangesLayout (c :: t) t
  | removeEnd {c : CodePoint} (h : isBlank c = true) (t : Text) : ChangesLayout (t ++ [c]) t
  | replace {c d : CodePoint} (hc : isBlank c = true) (hd : isBlank d = true) (s t : Text) :
    ChangesLayout (s ++ c :: t) (s ++ d :: t)

/-- One change of letter case. -/
inductive ChangesCase : Text → Text → Prop
  | lower {capital small : CodePoint} (h : IsCapitalOf capital small) (s t : Text) :
    ChangesCase (s ++ capital :: t) (s ++ small :: t)
  | raise {capital small : CodePoint} (h : IsCapitalOf capital small) (s t : Text) :
    ChangesCase (s ++ small :: t) (s ++ capital :: t)

/-- Any number of changes of layout and letter case, in any order. -/
def Rewritten : Text → Text → Prop :=
  Relation.ReflTransGen fun s t => ChangesLayout s t ∨ ChangesCase s t

/-- Any number of changes of layout alone. -/
def Relaid : Text → Text → Prop := Relation.ReflTransGen ChangesLayout

theorem Relaid.rewritten {s t : Text} (h : Relaid s t) : Rewritten s t :=
  Relation.ReflTransGen.mono (fun _ _ => Or.inl) s t h

/-! ### What is not changed -/

/-- The text without the blanks at its ends, and with a space for each blank in it. -/
def level (t : Text) : Text := (trim t).map levelled

/-- A mapping that keeps blanks and other code points apart goes past a trim. -/
theorem trim_map {f : CodePoint → CodePoint} (hf : ∀ c, isBlank (f c) = isBlank c) (t : Text) :
    trim (t.map f) = (trim t).map f := by
  have hclass : isBlank ∘ f = isBlank := funext hf
  rw [trim, trim, trimEnd, trimEnd, dropEnd, dropEnd, List.dropWhile_map, hclass, ← List.map_reverse,
    List.dropWhile_map, hclass, List.map_reverse]

theorem trim_blank_cons {c : CodePoint} (h : isBlank c = true) (t : Text) : trim (c :: t) = trim t := by
  rw [trim, trim, List.dropWhile_cons_of_pos h]

theorem trim_append_blank {c : CodePoint} (h : isBlank c = true) (t : Text) :
    trim (t ++ [c]) = trim t :=
  trim_append_blanks (by simpa [allBlank] using h) t

/-- What sees neither a blank at an end nor which blank stands in a place does not see a change of
layout. -/
theorem ChangesLayout.eq_of {α : Type} {f : Text → α}
    (front : ∀ c t, isBlank c = true → f (c :: t) = f t)
    (back : ∀ c t, isBlank c = true → f (t ++ [c]) = f t) (within : ∀ t, f (t.map levelled) = f t)
    {s t : Text} (h : ChangesLayout s t) : f t = f s := by
  cases h with
  | addFront hc _ => exact front _ _ hc
  | addEnd hc _ => exact back _ _ hc
  | removeFront hc _ => exact (front _ _ hc).symm
  | removeEnd hc _ => exact (back _ _ hc).symm
  | replace hc hd s t =>
    rw [← within, ← within (s ++ _ :: t), List.map_append, List.map_append, List.map_cons,
      List.map_cons, CodePoint.levelled_of_isBlank hc, CodePoint.levelled_of_isBlank hd]

/-- A change of layout is not seen in the levelled text. -/
theorem ChangesLayout.level_eq {s t : Text} (h : ChangesLayout s t) : level s = level t := by
  symm
  apply h.eq_of
  · intro c t hc
    rw [level, level, trim_blank_cons hc]
  · intro c t hc
    rw [level, level, trim_append_blank hc]
  · intro t
    have hlevelled : levelled ∘ levelled = levelled := funext CodePoint.levelled_levelled
    rw [level, level, trim_map CodePoint.isBlank_levelled, List.map_map, hlevelled]

/-- A change of letter case is not seen in capitals. -/
theorem ChangesCase.map_asciiUpper_eq {s t : Text} (h : ChangesCase s t) :
    s.map asciiUpper = t.map asciiUpper := by
  cases h with
  | lower hcapital s t =>
    rw [List.map_append, List.map_append, List.map_cons, List.map_cons, hcapital.asciiUpper_eq]
  | raise hcapital s t =>
    rw [List.map_append, List.map_append, List.map_cons, List.map_cons, hcapital.asciiUpper_eq]

/-! ### What is counted and found -/

theorem count_map_of_iff {f : CodePoint → CodePoint} {d : CodePoint} (h : ∀ c, f c = d ↔ c = d)
    (t : Text) : (t.map f).count d = t.count d := by
  induction t with
  | nil => rfl
  | cons c t ih => simp only [List.map_cons, List.count_cons, ih, beq_iff_eq, h c]

theorem upper_map_asciiUpper (t : Text) : upper (t.map asciiUpper) = upper t := by
  induction t with
  | nil => rfl
  | cons c t ih => rw [List.map_cons, upper_cons, upper_cons, CodePoint.upper_asciiUpper, ih]

theorem upper_levelled (c : CodePoint) : c.levelled.upper = c.upper.map levelled := by
  by_cases h : isBlank c = true
  · have hspace : isBlank CodePoint.space = true := by decide
    rw [CodePoint.levelled_of_isBlank h, CodePoint.upper_of_isBlank h,
      CodePoint.upper_of_isBlank hspace, List.map_singleton, CodePoint.levelled_of_isBlank h]
  · have h : isBlank c = false := by simpa using h
    have hkept : c.upper.map levelled = c.upper.map id :=
      List.map_congr_left fun d hd =>
        CodePoint.levelled_of_not_isBlank (CodePoint.isBlank_of_mem_upper h hd)
    rw [CodePoint.levelled_of_not_isBlank h, hkept, List.map_id]

theorem upper_map_levelled (t : Text) : upper (t.map levelled) = (upper t).map levelled := by
  induction t with
  | nil => rfl
  | cons c t ih =>
    rw [List.map_cons, upper_cons, upper_cons, upper_levelled, ih, List.map_append]

variable {pattern : Text}

/-- A pattern is found at the start after either of two mappings that give its code points for the same
ones. -/
theorem isPrefixOf_map_congr {f g : CodePoint → CodePoint} (h : ∀ p ∈ pattern, ∀ c, f c = p ↔ g c = p)
    (t : Text) : pattern.isPrefixOf (t.map f) = pattern.isPrefixOf (t.map g) := by
  induction pattern generalizing t with
  | nil => cases t <;> rfl
  | cons p pattern ih =>
    obtain ⟨hp, hrest⟩ := List.forall_mem_cons.mp h
    cases t with
    | nil => rfl
    | cons c t =>
      have hsame : (p == f c) = (p == g c) := by
        rw [Bool.eq_iff_iff, beq_iff_eq, beq_iff_eq, eq_comm, hp, eq_comm]
      rw [List.map_cons, List.map_cons, List.isPrefixOf, List.isPrefixOf, hsame, ih hrest]

theorem isPrefixOf_map_levelled (hpattern : ∀ c ∈ pattern, isBlank c = false) (t : Text) :
    pattern.isPrefixOf (t.map levelled) = pattern.isPrefixOf t := by
  have hsame := isPrefixOf_map_congr (g := id)
    (fun p hp c => CodePoint.levelled_eq_iff (hpattern p hp) c) t
  rwa [List.map_id] at hsame

theorem occurs_map_levelled (hpattern : ∀ c ∈ pattern, isBlank c = false) (t : Text) :
    occurs pattern (t.map levelled) = occurs pattern t := by
  induction t with
  | nil => rfl
  | cons c t ih =>
    rw [List.map_cons, occurs, occurs, ih, ← List.map_cons, isPrefixOf_map_levelled hpattern]

theorem startsWord_map_levelled (hpattern : ∀ c ∈ pattern, isBlank c = false) (t : Text) :
    startsWord pattern (t.map levelled) = startsWord pattern t := by
  have hboundary : ∀ rest : Text, atBoundary (rest.map levelled) = atBoundary rest := by
    intro rest
    cases rest with
    | nil => rfl
    | cons c rest => exact CodePoint.isBlank_levelled c
  rw [startsWord, startsWord, isPrefixOf_map_levelled hpattern, ← List.map_drop, hboundary]

theorem hasWord_map_levelled (hpattern : ∀ c ∈ pattern, isBlank c = false) (t : Text) :
    hasWord pattern (t.map levelled) = hasWord pattern t := by
  have hbehind : hasWordBehindBlank pattern (t.map levelled) = hasWordBehindBlank pattern t := by
    induction t with
    | nil => rfl
    | cons c t ih =>
      rw [List.map_cons, hasWordBehindBlank, hasWordBehindBlank, CodePoint.isBlank_levelled,
        startsWord_map_levelled hpattern, ih]
  rw [hasWord, hasWord, startsWord_map_levelled hpattern, hbehind]

end Text

end QueryAdvisor
