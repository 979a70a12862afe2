import QueryAdvisor.Analysis.Heuristic
import QueryAdvisor.Proofs.Text.Capitals

/-!
# The table that a query names

The name of the table is searched from the start of the query, place by place. At one place it takes the
keyword in any letter case, all the blanks behind it and all the word characters behind these,

    SELECT x , from ( … FROM ⟨blanks⟩ ⟨name⟩ …
               ╰ no name behind it, the search goes on
                            ╰ the first place with a name

and it gives up the place if one of the three is missing. Since no blank is a word character, taking all
the blanks loses no name. The main statement describes the name without a search: a maximal run of word
characters at the leftmost place where there is one, and `table` where there is no such place.
-/

namespace QueryAdvisor

namespace CodePoint

theorem wordRanges_apart : ∀ range ∈ Text.wordRanges, IsApart range.1 range.2 := by decide +kernel

/-- No word character is a blank. -/
theorem isBlank_of_isWord {c : CodePoint} (h : isWord c = true) : isBlank c = false := by
  rw [← Bool.not_eq_true]
  intro hblank
  rw [isWord] at h
  split at h
  · simp only [isAsciiWord, isDigit, isUpperLetter, isLowerLetter, Bool.or_eq_true, Bool.and_eq_true,
      decide_eq_true_eq, beq_iff_eq] at h
    simp only [isBlank, isWhiteSpace, Bool.or_eq_true, Bool.and_eq_true, decide_eq_true_eq,
      beq_iff_eq] at hblank
    omega
  · obtain ⟨range, hrange, hin⟩ := List.any_eq_true.mp h
    simp only [Bool.and_eq_true, decide_eq_true_eq] at hin
    exact not_isApart_of_isBlank hblank (by omega) hin.1 hin.2 (wordRanges_apart range hrange)

end CodePoint

/-! ### Runs -/

namespace Text
open CodePoint (isBlank)

variable {p : CodePoint → Bool} {run rest : Text}

/-- A run of a class up to what is not of the class is what a scan for the class skips. -/
theorem dropWhile_run (hrun : run.all p = true) (hrest : ∀ c, rest.head? = some c → p c = false) :
    (run ++ rest).dropWhile p = rest := by
  rw [List.dropWhile_append_of_pos (List.all_eq_true.mp hrun)]
  cases rest with
  | nil => rfl
  | cons c rest => rw [List.dropWhile_cons_of_neg (by simp [hrest c rfl])]

/-- And it is what the scan takes. -/
theorem takeWhile_run (hrun : run.all p = true) (hrest : ∀ c, rest.head? = some c → p c = false) :
    (run ++ rest).takeWhile p = run := by
  have hsplit := List.takeWhile_append_dropWhile (p := p) (l := run ++ rest)
  rw [dropWhile_run hrun hrest] at hsplit
  exact List.append_cancel_right hsplit

/-- Behind what a scan for a class skips nothing more of the class follows. -/
theorem not_of_head?_dropWhile (p : CodePoint → Bool) (t : Text) :
    ∀ c, (t.dropWhile p).head? = some c → p c = false := by
  intro c hc
  have hneg := List.head?_dropWhile_not p t
  rw [hc] at hneg
  simpa using hneg

end Text

namespace Analysis
open CodePoint (isBlank isWord asciiUpper star)
open Text (allBlank)

/-! ### What a place must hold -/

/-- The text starts with `FROM` in any letter case, one or more blanks and a word character. -/
def StartsMention (t : Text) : Prop :=
  ∃ keyword blanks c rest, t = keyword ++ (blanks ++ c :: rest) ∧
    keyword.map asciiUpper = Text.ofString "FROM" ∧ blanks ≠ [] ∧ allBlank blanks = true ∧
    isWord c = true

/-- The text starts with `FROM` in any letter case, one or more blanks and a name, which is a run of word
characters that does not go on behind it. -/
def Mentions (t name : Text) : Prop :=
  ∃ keyword blanks rest, t = keyword ++ (blanks ++ (name ++ rest)) ∧
    keyword.map asciiUpper = Text.ofString "FROM" ∧ blanks ≠ [] ∧ allBlank blanks = true ∧
    name ≠ [] ∧ name.all isWord = true ∧ ∀ c, rest.head? = some c → isWord c = false

/-- The name stands at the leftmost place of the query that holds the start of a mention. Places are the
ends of the query, the longer the more to the left. -/
def IsFirstTable (query name : Text) : Prop :=
  ∃ place, place <:+ query ∧ Mentions place name ∧
    ∀ earlier, earlier <:+ query → place.length < earlier.length → ¬ StartsMention earlier

/-- The name by which an analysis calls the table of a query. -/
def IsTableName (query name : Text) : Prop :=
  IsFirstTable query name ∨
    name = Text.ofString "table" ∧ ∀ place, place <:+ query → ¬ StartsMention place

theorem Mentions.startsMention {t name : Text} (h : Mentions t name) : StartsMention t := by
  obtain ⟨keyword, blanks, rest, rfl, hkeyword, hne, hblanks, hname, hword, -⟩ := h
  obtain ⟨c, name, rfl⟩ := List.exists_cons_of_ne_nil hname
  refine ⟨keyword, blanks, c, name ++ rest, rfl, hkeyword, hne, hblanks, ?_⟩
  exact List.all_eq_true.mp hword c List.mem_cons_self

/-! ### One place -/

theorem afterKeyword?_eq_some_iff {keyword t rest : Text} : afterKeyword? keyword t = some rest ↔
    ∃ written, t = written ++ rest ∧ written.map asciiUpper = keyword := by
  rw [afterKeyword?]
  constructor
  · intro h
    split at h
    · next hprefix =>
      obtain rfl := Option.some.inj h
      refine ⟨t.take keyword.length, (List.take_append_drop _ t).symm, ?_⟩
      -- what was cut off is no longer than the keyword, so the keyword is all of it
      have hle : ((t.take keyword.length).map asciiUpper).length ≤ keyword.length := by
        rw [List.length_map, List.length_take]
        exact Nat.min_le_left _ _
      exact ((List.isPrefixOf_iff_prefix.mp hprefix).eq_of_length_le hle).symm
    · cases h
  · rintro ⟨written, rfl, rfl⟩
    simp

theorem afterBlanks?_eq_some_iff {t rest : Text} : afterBlanks? t = some rest ↔
    ∃ blanks, t = blanks ++ rest ∧ blanks ≠ [] ∧ allBlank blanks = true ∧
      ∀ c, rest.head? = some c → isBlank c = false := by
  constructor
  · intro h
    cases t with
    | nil => cases h
    | cons c t =>
      rw [afterBlanks?] at h
      split at h
      · next hc =>
        obtain rfl := Option.some.inj h
        refine ⟨c :: t.takeWhile isBlank, ?_, List.cons_ne_nil _ _, ?_,
          Text.not_of_head?_dropWhile isBlank t⟩
        · rw [List.cons_append, List.takeWhile_append_dropWhile]
        · rw [allBlank, List.all_cons, hc, List.all_takeWhile]
          rfl
      · cases h
  · rintro ⟨blanks, rfl, hne, hblanks, hrest⟩
    obtain ⟨c, blanks, rfl⟩ := List.exists_cons_of_ne_nil hne
    obtain ⟨hc, hblanks⟩ : isBlank c = true ∧ blanks.all isBlank = true := by
      simpa [allBlank] using hblanks
    rw [List.cons_append, afterBlanks?, if_pos hc, Text.dropWhile_run hblanks hrest]

/-- The name found at a place is the name that is mentioned there. -/
theorem tableHere?_eq_some_iff {t name : Text} : tableHere? t = some name ↔ Mentions t name := by
  simp only [tableHere?, Option.bind_eq_bind, Option.bind_eq_some_iff, afterKeyword?_eq_some_iff,
    afterBlanks?_eq_some_iff]
  constructor
  · rintro ⟨behind, ⟨keyword, rfl, hkeyword⟩, rest, ⟨blanks, rfl, hne, hblanks, -⟩, hname⟩
    split at hname
    · cases hname
    · next hfound =>
      obtain rfl := Option.some.inj hname
      refine ⟨keyword, blanks, rest.dropWhile isWord, ?_, hkeyword, hne, hblanks, by simpa using hfound,
        List.all_takeWhile, Text.not_of_head?_dropWhile isWord rest⟩
      rw [List.takeWhile_append_dropWhile]
  · rintro ⟨keyword, blanks, rest, rfl, hkeyword, hne, hblanks, hname, hword, hrest⟩
    refine ⟨_, ⟨keyword, rfl, hkeyword⟩, name ++ rest, ⟨blanks, rfl, hne, hblanks, ?_⟩, ?_⟩
    · obtain ⟨c, name, rfl⟩ := List.exists_cons_of_ne_nil hname
      intro d hd
      obtain rfl : c = d := by simpa using hd
      exact CodePoint.isBlank_of_isWord (List.all_eq_true.mp hword c List.mem_cons_self)
    · rw [Text.takeWhile_run hword hrest, if_neg (by simpa using hname)]

/-- A place with the start of a mention mentions a name. -/
theorem exists_mentions_iff {t : Text} : (∃ name, Mentions t name) ↔ StartsMention t := by
  constructor
  · rintro ⟨name, h⟩
    exact h.startsMention
  · rintro ⟨keyword, blanks, c, rest, rfl, hkeyword, hne, hblanks, hc⟩
    refine ⟨(c :: rest).takeWhile isWord, keyword, blanks, (c :: rest).dropWhile isWord, ?_, hkeyword,
      hne, hblanks, ?_, List.all_takeWhile, Text.not_of_head?_dropWhile isWord _⟩
    · rw [List.takeWhile_append_dropWhile]
    · rw [List.takeWhile_cons_of_pos hc]
      exact List.cons_ne_nil _ _

theorem tableHere?_eq_none_iff {t : Text} : tableHere? t = none ↔ ¬ StartsMention t := by
  rw [← exists_mentions_iff, Option.eq_none_iff_forall_ne_some]
  simp only [ne_eq, tableHere?_eq_some_iff, not_exists]

/-! ### All places -/

/-- Nothing is found if and only if no place has the start of a mention. -/
theorem firstTable?_eq_none_iff {t : Text} :
    firstTable? t = none ↔ ∀ place, place <:+ t → ¬ StartsMention place := by
  induction t with
  | nil =>
    refine iff_of_true rfl ?_
    intro place hplace
    rw [List.suffix_nil.mp hplace, ← tableHere?_eq_none_iff]
    decide +kernel
  | cons c t ih =>
    simp only [List.suffix_cons_iff, forall_eq_or_imp]
    rw [← tableHere?_eq_none_iff, ← ih, firstTable?]
    cases tableHere? (c :: t) <;> simp

/-- What is found is the name mentioned at the leftmost place that has the start of a mention. -/
theorem firstTable?_eq_some_iff {t name : Text} :
    firstTable? t = some name ↔ IsFirstTable t name := by
  induction t with
  | nil =>
    refine iff_of_false (by simp [firstTable?]) ?_
    rintro ⟨place, hplace, hmentions, -⟩
    rw [List.suffix_nil.mp hplace] at hmentions
    exact absurd hmentions.startsMention (firstTable?_eq_none_iff.mp rfl [] List.suffix_rfl)
  | cons c t ih =>
    rw [firstTable?]
    cases hhere : tableHere? (c :: t) with
    | some found =>
      have hfound := tableHere?_eq_some_iff.mp hhere
      constructor
      · intro h
        obtain rfl := Option.some.inj h
        refine ⟨c :: t, List.suffix_rfl, hfound, ?_⟩
        intro earlier hearlier hlonger
        exact absurd hearlier.length_le (by omega)
      · rintro ⟨place, hplace, hmentions, hfirst⟩
        -- the whole text has the start of a mention, so no other place is the leftmost
        rcases List.suffix_cons_iff.mp hplace with rfl | hplace
        · rw [← tableHere?_eq_some_iff, hhere] at hmentions
          exact hmentions
        · have hlonger : place.length < (c :: t).length := Nat.lt_succ_of_le hplace.length_le
          exact absurd hfound.startsMention (hfirst _ List.suffix_rfl hlonger)
    | none =>
      have hnone := tableHere?_eq_none_iff.mp hhere
      change firstTable? t = some name ↔ _
      rw [ih]
      constructor
      · rintro ⟨place, hplace, hmentions, hfirst⟩
        refine ⟨place, List.suffix_cons_iff.mpr (Or.inr hplace), hmentions, ?_⟩
        intro earlier hearlier hlonger
        rcases List.suffix_cons_iff.mp hearlier with rfl | hearlier
        · exact hnone
        · exact hfirst earlier hearlier hlonger
      · rintro ⟨place, hplace, hmentions, hfirst⟩
        rcases List.suffix_cons_iff.mp hplace with rfl | hplace
        · exact absurd hmentions.startsMention hnone
        · exact ⟨place, hplace, hmentions, fun earlier hearlier =>
            hfirst earlier (List.suffix_cons_iff.mpr (Or.inr hearlier))⟩

/-- The name in an analysis is the one that the description gives, and no other. -/
theorem isTableName_iff {query name : Text} : IsTableName query name ↔ name = tableName query := by
  rw [IsTableName, ← firstTable?_eq_some_iff, ← firstTable?_eq_none_iff, tableName]
  cases firstTable? query with
  | none => simp [someTable]
  | some found => simp [eq_comm]

end Analysis

end QueryAdvisor
