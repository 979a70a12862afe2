import QueryAdvisor.Proofs.Text.Words
import QueryAdvisor.Text.Upper

/-!
# Blanks in upper case

The capital of a code point is the code point itself, or it comes from a table, and the tables hold
letters and combining marks only. So upper case neither makes nor removes a blank, and the words of a
text in upper case are the words of the text, each in upper case.
-/

namespace QueryAdvisor

namespace CodePoint

/-! ### What the tables hold -/

/-- Stretches outside ASCII, by first and last code point, that hold all blanks there are and no letter
with a capital. -/
def blankStretches : List (Nat × Nat) :=
  [(0x85, 0xA0), (0x1680, 0x1680), (0x2000, 0x205F), (0x3000, 0x3000)]

/-- What lies between two numbers lies in none of the stretches. -/
def IsApart (first last : Nat) : Prop :=
  ∀ stretch ∈ blankStretches, last < stretch.1 ∨ stretch.2 < first

instance (first last : Nat) : Decidable (IsApart first last) :=
  decidable_of_iff ((blankStretches.all fun stretch =>
      Nat.blt last stretch.1 || Nat.blt stretch.2 first) = true) (by simp [IsApart, Nat.blt_eq])

theorem not_isApart_of_isBlank {c : CodePoint} (h : isBlank c = true) (hc : 0x20 < c.val)
    {first last : Nat} (hfirst : first ≤ c.val) (hlast : c.val ≤ last) : ¬ IsApart first last := by
  simp only [isBlank, isWhiteSpace, Bool.or_eq_true, Bool.and_eq_true, decide_eq_true_eq,
    beq_iff_eq] at h
  intro hapart
  simp only [IsApart, blankStretches, List.forall_mem_cons, List.not_mem_nil, false_implies,
    implies_true, and_true] at hapart
  omega

theorem longCapitals_apart : ∀ entry ∈ Text.longCapitals,
    entry.2 ≠ [] ∧ IsApart entry.1 entry.1 ∧ ∀ n ∈ entry.2, isBlank (ofNat n) = false := by
  decide +kernel

theorem capitalRuns_apart : ∀ run ∈ Text.capitalRuns, 0x20 < run.image ∧
    IsApart run.first run.last ∧ IsApart run.image (run.image + (run.last - run.first)) := by
  decide +kernel

theorem lookup_apart {n : Nat} {capitals : List Nat}
    (h : Text.longCapitals.lookup n = some capitals) :
    capitals ≠ [] ∧ IsApart n n ∧ ∀ m ∈ capitals, isBlank (ofNat m) = false := by
  obtain ⟨before, after, hlist, -⟩ := List.lookup_eq_some_iff.mp h
  exact longCapitals_apart (n, capitals) (by rw [hlist]; simp)

theorem image?_apart {run : Text.CaseRun} (hrun : run ∈ Text.capitalRuns) {n m : Nat}
    (h : run.image? n = some m) : IsApart n n ∧ isBlank (ofNat m) = false := by
  obtain ⟨hvisible, hsource, himage⟩ := capitalRuns_apart run hrun
  rw [Text.CaseRun.image?] at h
  split at h
  · next hin =>
    obtain rfl := Option.some.inj h
    simp only [Bool.and_eq_true, decide_eq_true_eq] at hin
    constructor
    · intro stretch hstretch
      have := hsource stretch hstretch
      omega
    · by_cases hm : run.image + (n - run.first) < 0x110000
      · rw [← Bool.not_eq_true]
        intro hblank
        refine not_isApart_of_isBlank hblank ?_ ?_ ?_ himage
        · rw [val_ofNat hm]
          omega
        · rw [val_ofNat hm]
          omega
        · rw [val_ofNat hm]
          omega
      · rw [ofNat, dif_neg hm]
        decide
  · cases h

/-! ### The capital of one code point -/

theorem isLowerLetter_of_isBlank {c : CodePoint} (h : isBlank c = true) :
    isLowerLetter c = false := by
  simp only [isBlank, isWhiteSpace, Bool.or_eq_true, Bool.and_eq_true, decide_eq_true_eq,
    beq_iff_eq] at h
  simp only [isLowerLetter, Bool.and_eq_false_iff, decide_eq_false_iff_not]
  omega

/-- A letter of ASCII and its capital are no blanks. -/
theorem isBlank_asciiUpper {c : CodePoint} (h : isBlank c = false) : isBlank c.asciiUpper = false := by
  rw [asciiUpper]
  split
  · next hlower =>
    simp only [isLowerLetter, Bool.and_eq_true, decide_eq_true_eq] at hlower
    simp only [isBlank, isWhiteSpace, Bool.or_eq_false_iff, Bool.and_eq_false_iff,
      decide_eq_false_iff_not, beq_eq_false_iff_ne]
    omega
  · exact h

/-- What is no blank has no blank in its capital. -/
theorem isBlank_of_mem_upper {c d : CodePoint} (hc : isBlank c = false) (h : d ∈ c.upper) :
    isBlank d = false := by
  rw [upper] at h
  split at h
  · obtain rfl : d = c.asciiUpper := by simpa using h
    exact isBlank_asciiUpper hc
  · rw [upperByTable] at h
    split at h
    · next capitals hlookup =>
      obtain ⟨n, hn, rfl⟩ := List.mem_map.mp h
      exact (lookup_apart hlookup).2.2 n hn
    · obtain rfl := List.mem_singleton.mp h
      cases hfind : Text.capitalRuns.findSome? (·.image? c.val) with
      | none => exact hc
      | some m =>
        obtain ⟨run, hrun, himage⟩ := List.exists_of_findSome?_eq_some hfind
        exact (image?_apart hrun himage).2

theorem upper_ne_nil (c : CodePoint) : c.upper ≠ [] := by
  rw [upper]
  split
  · exact List.cons_ne_nil _ _
  · rw [upperByTable]
    split
    · next capitals hlookup => simpa using (lookup_apart hlookup).1
    · exact List.cons_ne_nil _ _

/-- A blank outside ASCII is in none of the tables. -/
theorem no_capital_of_isBlank {c : CodePoint} (h : isBlank c = true) (hwide : 0x20 < c.val) :
    Text.longCapitals.lookup c.val = none ∧
      Text.capitalRuns.findSome? (·.image? c.val) = none := by
  have hnone := not_isApart_of_isBlank h hwide (Nat.le_refl _) (Nat.le_refl _)
  constructor
  · rw [Option.eq_none_iff_forall_ne_some]
    intro capitals hlookup
    exact hnone (lookup_apart hlookup).2.1
  · rw [List.findSome?_eq_none_iff]
    intro run hrun
    rw [Option.eq_none_iff_forall_ne_some]
    intro m himage
    exact hnone (image?_apart hrun himage).1

/-- A blank is its own capital. -/
theorem upper_of_isBlank {c : CodePoint} (h : isBlank c = true) : c.upper = [c] := by
  rw [upper]
  split
  · rw [asciiUpper, if_neg (by simp [isLowerLetter_of_isBlank h])]
  · next hwide =>
    obtain ⟨hlong, hrun⟩ := no_capital_of_isBlank h (by omega)
    rw [upperByTable, hlong, hrun]
    rfl

end CodePoint

namespace Text
open CodePoint (isBlank)

/-- Upper case cuts a text where it was cut before. -/
theorem splitBlank_upper (t : Text) : splitBlank (upper t) = (splitBlank t).map upper := by
  induction t with
  | nil => rfl
  | cons c t ih =>
    by_cases hc : isBlank c = true
    · rw [upper_cons, CodePoint.upper_of_isBlank hc, List.singleton_append, splitBlank_cons_blank hc,
        ih, splitBlank_cons_blank hc, List.map_cons, upper_nil]
    · have hc : isBlank c = false := by simpa using hc
      obtain ⟨first, rest, hsplit⟩ := List.exists_cons_of_ne_nil (splitBlank_ne_nil t)
      have hone : splitBlank c.upper = [] ++ [c.upper] :=
        splitBlank_of_no_blank fun d hd => CodePoint.isBlank_of_mem_upper hc hd
      have hmore : splitBlank (upper t) = upper first :: rest.map upper := by
        rw [ih, hsplit, List.map_cons]
      rw [upper_cons, splitBlank_append hone hmore, splitBlank_cons_of_not hc hsplit, List.map_cons,
        upper_cons, List.nil_append]

theorem isEmpty_upper (t : Text) : (upper t).isEmpty = t.isEmpty := by
  cases t with
  | nil => rfl
  | cons c t => simp [CodePoint.upper_ne_nil c]

/-- The words of a text in upper case are its words, each in upper case. -/
theorem words_upper (t : Text) : words (upper t) = (words t).map upper := by
  rw [words, words, splitBlank_upper, List.filter_map]
  congr 1
  apply List.filter_congr
  intro w _
  exact congrArg not (isEmpty_upper w)

end Text

end QueryAdvisor
