import QueryAdvisor.Proofs.Analysis.Findings
import QueryAdvisor.Proofs.Text.Layout

/-!
# The analysis by structure does not see how a query is written

Four searches make up an analysis by structure: three in the upper-case form, and the one for the table
in the query itself. Each looks for a stretch that starts and ends in no blank,

    WHERE        JOIN        SELECT ⟨blanks⟩ *        from ⟨blanks⟩ ⟨name⟩

so blanks at the ends of the query are in none of them, and within a stretch one blank is as good as
another. Letter case is gone in the upper-case form. In the query the keyword is matched in any case, so
the search stops at the same place as before; what it takes from there is the name as it is written.
-/

namespace QueryAdvisor

theorem CodePoint.isWord_of_isBlank {c : CodePoint} (hc : isBlank c = true) : isWord c = false := by
  rw [← Bool.not_eq_true]
  intro hword
  rw [isBlank_of_isWord hword] at hc
  cases hc

/-! ### Stretches between blanks -/

namespace Text
open CodePoint (isBlank)

/-- The text starts and ends in no blank. -/
def IsTight (t : Text) : Prop :=
  (∀ c, t.head? = some c → isBlank c = false) ∧ ∀ c, t.getLast? = some c → isBlank c = false

variable {stretch : Text} {c : CodePoint}

/-- A blank in front is in no such stretch. -/
theorem IsTight.infix_cons_iff (h : stretch.IsTight) (hc : isBlank c = true) (t : Text) :
    stretch <:+: c :: t ↔ stretch <:+: t := by
  rw [List.infix_cons_iff, or_iff_right_of_imp]
  intro hprefix
  rcases List.prefix_cons_iff.mp hprefix with rfl | ⟨rest, rfl, -⟩
  · exact List.nil_infix
  · have hfirst := h.1 c rfl
    rw [hc] at hfirst
    cases hfirst

/-- Nor is a blank at the end. -/
theorem IsTight.infix_concat_iff (h : stretch.IsTight) (hc : isBlank c = true) (t : Text) :
    stretch <:+: t ++ [c] ↔ stretch <:+: t := by
  rw [List.infix_concat_iff, or_iff_right_of_imp]
  intro hsuffix
  rcases List.suffix_concat_iff.mp hsuffix with rfl | ⟨rest, rfl, -⟩
  · exact List.nil_infix
  · have hlast := h.2 c (by simp)
    rw [hc] at hlast
    cases hlast

theorem isTight_of_no_blank (h : ∀ d ∈ stretch, isBlank d = false) : stretch.IsTight :=
  ⟨fun d hd => h d (List.mem_of_mem_head? hd), fun d hd => h d (List.mem_of_mem_getLast? hd)⟩

end Text

namespace Analysis
open CodePoint (isBlank isWord levelled asciiUpper star)
open Text (allBlank upper ChangesLayout ChangesCase Relaid Rewritten)

/-! ### Code points of one kind for another -/

/-- A mapping of code points that the search for a table does not see: blanks become blanks, word
characters become word characters, and what matches a keyword goes on to match it. -/
structure KeepsKinds (f : CodePoint → CodePoint) : Prop where
  isBlank : ∀ c, isBlank (f c) = isBlank c
  isWord : ∀ c, isWord (f c) = isWord c
  letter : ∀ {letter}, CodePoint.isBlank letter = false →
    ∀ c, (f c).asciiUpper = letter ↔ c.asciiUpper = letter

theorem keepsKinds_levelled : KeepsKinds levelled where
  isBlank := CodePoint.isBlank_levelled
  isWord c := by
    by_cases h : isBlank c = true
    · rw [CodePoint.levelled_of_isBlank h, CodePoint.isWord_of_isBlank h]
      decide
    · rw [CodePoint.levelled_of_not_isBlank (by simpa using h)]
  letter {letter} hletter c := by
    by_cases h : isBlank c = true
    · -- neither a blank nor the space in its place is a letter
      have hne : ∀ d, isBlank d = true → d.asciiUpper ≠ letter := by
        rintro d hd rfl
        rw [CodePoint.isBlank_asciiUpper_eq, hd] at hletter
        cases hletter
      have hlevelled : isBlank c.levelled = true := by rw [CodePoint.isBlank_levelled, h]
      exact iff_of_false (hne _ hlevelled) (hne c h)
    · rw [CodePoint.levelled_of_not_isBlank (by simpa using h)]

theorem keepsKinds_asciiUpper : KeepsKinds asciiUpper where
  isBlank := CodePoint.isBlank_asciiUpper_eq
  isWord c := by
    by_cases h : c.isLowerLetter = true
    · -- both forms of a letter are word characters
      rw [asciiUpper, if_pos h]
      simp only [CodePoint.isLowerLetter, Bool.and_eq_true, decide_eq_true_eq] at h
      have hascii : ∀ d : CodePoint, (0x41 ≤ d.val ∧ d.val ≤ 0x5A) ∨ (0x61 ≤ d.val ∧ d.val ≤ 0x7A) →
          isWord d = true := by
        intro d hd
        rw [isWord, if_pos (by omega)]
        simp only [CodePoint.isAsciiWord, CodePoint.isDigit, CodePoint.isUpperLetter,
          CodePoint.isLowerLetter, Bool.or_eq_true, Bool.and_eq_true, decide_eq_true_eq]
        omega
      rw [hascii c (Or.inr h), hascii ⟨c.val - 0x20, _⟩ (Or.inl (by dsimp only; omega))]
    · rw [CodePoint.asciiUpper_of_not_isLowerLetter (by simpa using h)]
  letter _ c := by
    rw [CodePoint.asciiUpper_of_not_isLowerLetter (CodePoint.isLowerLetter_asciiUpper c)]

namespace KeepsKinds

variable {f : CodePoint → CodePoint} {keyword : Text}

theorem isPrefixOf_map (hf : KeepsKinds f) (hkeyword : ∀ c ∈ keyword, CodePoint.isBlank c = false)
    (t : Text) :
    keyword.isPrefixOf ((t.map f).map asciiUpper) = keyword.isPrefixOf (t.map asciiUpper) := by
  rw [List.map_map]
  exact Text.isPrefixOf_map_congr (fun letter hletter => hf.letter (hkeyword letter hletter)) t

theorem afterKeyword?_map (hf : KeepsKinds f) (hkeyword : ∀ c ∈ keyword, CodePoint.isBlank c = false)
    (t : Text) : afterKeyword? keyword (t.map f) = (afterKeyword? keyword t).map (List.map f) := by
  rw [afterKeyword?, afterKeyword?, ← List.map_take, hf.isPrefixOf_map hkeyword, ← List.map_drop]
  split <;> rfl

theorem dropWhile_isBlank_map (hf : KeepsKinds f) (t : Text) :
    (t.map f).dropWhile CodePoint.isBlank = (t.dropWhile CodePoint.isBlank).map f := by
  have hclass : CodePoint.isBlank ∘ f = CodePoint.isBlank := funext hf.isBlank
  rw [List.dropWhile_map, hclass]

theorem takeWhile_isWord_map (hf : KeepsKinds f) (t : Text) :
    (t.map f).takeWhile CodePoint.isWord = (t.takeWhile CodePoint.isWord).map f := by
  have hclass : CodePoint.isWord ∘ f = CodePoint.isWord := funext hf.isWord
  rw [List.takeWhile_map, hclass]

theorem afterBlanks?_map (hf : KeepsKinds f) (t : Text) :
    afterBlanks? (t.map f) = (afterBlanks? t).map (List.map f) := by
  cases t with
  | nil => rfl
  | cons c t =>
    rw [List.map_cons, afterBlanks?, afterBlanks?, hf.isBlank, hf.dropWhile_isBlank_map]
    split <;> rfl

/-- Each place mentions what it mentioned. -/
theorem tableHere?_map (hf : KeepsKinds f) (t : Text) :
    tableHere? (t.map f) = (tableHere? t).map (List.map f) := by
  have hfrom : ∀ c ∈ Text.ofString "FROM", CodePoint.isBlank c = false := by decide
  simp only [tableHere?, Option.bind_eq_bind, hf.afterKeyword?_map hfrom]
  cases afterKeyword? (Text.ofString "FROM") t with
  | none => rfl
  | some behind =>
    simp only [Option.map_some, Option.bind_some, hf.afterBlanks?_map]
    cases afterBlanks? behind with
    | none => rfl
    | some rest =>
      simp only [Option.map_some, Option.bind_some, hf.takeWhile_isWord_map, List.isEmpty_map]
      split <;> rfl

/-- So the search stops where it stopped. -/
theorem firstTable?_map (hf : KeepsKinds f) (t : Text) :
    firstTable? (t.map f) = (firstTable? t).map (List.map f) := by
  induction t with
  | nil => rfl
  | cons c t ih =>
    rw [List.map_cons, firstTable?, firstTable?, ← List.map_cons, hf.tableHere?_map, ih]
    cases tableHere? (c :: t) <;> rfl

end KeepsKinds

/-! ### The table -/

/-- No place that starts with a blank mentions a name. -/
theorem tableHere?_blank_cons {c : CodePoint} (hc : isBlank c = true) (t : Text) :
    tableHere? (c :: t) = none := by
  rw [tableHere?_eq_none_iff]
  rintro ⟨keyword, blanks, d, rest, hplace, hkeyword, -⟩
  cases keyword with
  | nil => cases hkeyword
  | cons letter keyword =>
    obtain ⟨rfl, -⟩ := List.cons.inj hplace
    have hletter : c.asciiUpper = CodePoint.ofChar 'F' := (List.cons.inj hkeyword).1
    have hblank := CodePoint.isBlank_asciiUpper_eq c
    rw [hletter, hc] at hblank
    exact absurd hblank (by decide)

/-- A blank behind a place is not in the name that is mentioned there. -/
theorem mentions_concat_iff {c : CodePoint} (hc : isBlank c = true) {t name : Text} :
    Mentions (t ++ [c]) name ↔ Mentions t name := by
  constructor
  · rintro ⟨keyword, blanks, rest, hplace, hkeyword, hne, hblanks, hname, hword, hrest⟩
    rcases List.eq_nil_or_concat rest with rfl | ⟨rest, d, rfl⟩
    · -- the name would end in the blank
      obtain ⟨init, d, rfl⟩ := (List.eq_nil_or_concat name).resolve_left hname
      obtain rfl : c = d := by simpa using congrArg List.getLast? hplace
      have hlast := List.all_eq_true.mp hword c (by simp)
      rw [CodePoint.isWord_of_isBlank hc] at hlast
      cases hlast
    · refine ⟨keyword, blanks, rest, ?_, hkeyword, hne, hblanks, hname, hword, ?_⟩
      · simp only [List.concat_eq_append, ← List.append_assoc] at hplace ⊢
        exact List.append_inj_left' hplace rfl
      · intro e he
        exact hrest e (by simp [he])
  · rintro ⟨keyword, blanks, rest, rfl, hkeyword, hne, hblanks, hname, hword, hrest⟩
    refine ⟨keyword, blanks, rest ++ [c], by simp, hkeyword, hne, hblanks, hname, hword, ?_⟩
    intro e he
    cases rest with
    | nil =>
      obtain rfl : c = e := by simpa using he
      exact CodePoint.isWord_of_isBlank hc
    | cons d rest => exact hrest e (by simpa using he)

theorem tableHere?_concat {c : CodePoint} (hc : isBlank c = true) (t : Text) :
    tableHere? (t ++ [c]) = tableHere? t := by
  ext name
  rw [tableHere?_eq_some_iff, tableHere?_eq_some_iff, mentions_concat_iff hc]

theorem firstTable?_blank_cons {c : CodePoint} (hc : isBlank c = true) (t : Text) :
    firstTable? (c :: t) = firstTable? t := by
  rw [firstTable?, tableHere?_blank_cons hc]

theorem firstTable?_concat {c : CodePoint} (hc : isBlank c = true) (t : Text) :
    firstTable? (t ++ [c]) = firstTable? t := by
  induction t with
  | nil => exact firstTable?_blank_cons hc []
  | cons d t ih =>
    rw [List.cons_append, firstTable?, firstTable?, ← List.cons_append, tableHere?_concat hc, ih]

theorem all_isWord_of_firstTable? {t name : Text} (h : firstTable? t = some name) :
    name.all isWord = true := by
  obtain ⟨place, -, ⟨_, _, _, _, _, _, _, _, hword, _⟩, -⟩ := firstTable?_eq_some_iff.mp h
  exact hword

/-- A name has no blanks in it, so that spaces for blanks leave it as it is. -/
theorem firstTable?_map_levelled (t : Text) : firstTable? (t.map levelled) = firstTable? t := by
  rw [keepsKinds_levelled.firstTable?_map]
  cases hfound : firstTable? t with
  | none => rfl
  | some name =>
    have hword := List.all_eq_true.mp (all_isWord_of_firstTable? hfound)
    have hsame : name.map levelled = name.map id := List.map_congr_left fun c hc =>
      CodePoint.levelled_of_not_isBlank (CodePoint.isBlank_of_isWord (hword c hc))
    rw [Option.map_some, hsame, List.map_id]

/-- A change of layout leaves the table as it is. -/
theorem firstTable?_of_changesLayout {s t : Text} (h : ChangesLayout s t) :
    firstTable? t = firstTable? s := by
  apply h.eq_of
  · intro c t hc
    exact firstTable?_blank_cons hc t
  · intro c t hc
    exact firstTable?_concat hc t
  · exact firstTable?_map_levelled

/-- A change of letter case leaves the table as it is, up to letter case. -/
theorem firstTable?_of_changesCase {s t : Text} (h : ChangesCase s t) :
    (firstTable? t).map (List.map asciiUpper) = (firstTable? s).map (List.map asciiUpper) := by
  rw [← keepsKinds_asciiUpper.firstTable?_map, ← keepsKinds_asciiUpper.firstTable?_map,
    h.map_asciiUpper_eq]

/-! ### The finding -/

theorem selectsStar_iff_contains {u : Text} : SelectsStar u ↔ ∃ blanks,
    (Text.ofString "SELECT" ++ (blanks ++ [star])) <:+: u ∧ blanks ≠ [] ∧ allBlank blanks = true := by
  constructor
  · rintro ⟨before, blanks, after, rfl, hne, hblanks⟩
    exact ⟨blanks, ⟨before, after, by simp⟩, hne, hblanks⟩
  · rintro ⟨blanks, ⟨before, after, rfl⟩, hne, hblanks⟩
    exact ⟨before, blanks, after, by simp, hne, hblanks⟩

theorem isTight_selectStar (blanks : Text) :
    (Text.ofString "SELECT" ++ (blanks ++ [star])).IsTight := by
  constructor
  · intro c hc
    obtain rfl : CodePoint.ofChar 'S' = c := Option.some.inj hc
    decide
  · intro c hc
    obtain rfl : star = c := by simpa using hc
    decide

/-- Space for blank, a star is selected where it was. -/
theorem startsSelectStar_map_levelled (t : Text) :
    startsSelectStar (t.map levelled) = startsSelectStar t := by
  have hselect : ∀ c ∈ Text.ofString "SELECT", isBlank c = false := by decide
  have hstar : isBlank star = false := by decide
  rw [startsSelectStar, startsSelectStar, Text.isPrefixOf_map_levelled hselect, ← List.map_drop,
    keepsKinds_levelled.afterBlanks?_map]
  cases afterBlanks? (t.drop 6) with
  | none => rfl
  | some rest =>
    cases rest with
    | nil => rfl
    | cons c rest =>
      have hsame : (c.levelled == star) = (c == star) := by
        rw [Bool.eq_iff_iff, beq_iff_eq, beq_iff_eq, CodePoint.levelled_eq_iff hstar]
      simp [hsame]

theorem selectsStar_map_levelled (u : Text) : SelectsStar (u.map levelled) ↔ SelectsStar u := by
  rw [← hasSelectStar_iff, ← hasSelectStar_iff, ← Bool.eq_iff_iff]
  induction u with
  | nil => rfl
  | cons c u ih =>
    rw [List.map_cons, hasSelectStar, hasSelectStar, ← List.map_cons, startsSelectStar_map_levelled, ih]

namespace Finding

theorem words_no_blank : ∀ word ∈ [whereWord, joinWord], ∀ c ∈ word, isBlank c = false := by
  decide +kernel

/-- Three facts about the upper-case form decide what applies. -/
theorem applies_congr {u u' : Text}
    (hwords : ∀ word ∈ [whereWord, joinWord], (word <:+: u' ↔ word <:+: u))
    (hstar : SelectsStar u' ↔ SelectsStar u) : Applies u' = Applies u := by
  have hwhere := hwords whereWord (by simp)
  have hjoin := hwords joinWord (by simp)
  funext finding
  cases finding <;> simp only [Applies, hwhere, hjoin, hstar]

theorem applies_congr_of_tight {u u' : Text}
    (h : ∀ stretch : Text, stretch.IsTight → (stretch <:+: u' ↔ stretch <:+: u)) :
    Applies u' = Applies u := by
  apply applies_congr
  · intro word hword
    exact h word (Text.isTight_of_no_blank (words_no_blank word hword))
  · simp only [selectsStar_iff_contains, h _ (isTight_selectStar _)]

theorem applies_map_levelled (u : Text) : Applies (u.map levelled) = Applies u := by
  apply applies_congr
  · intro word hword
    rw [← Text.occurs_iff, ← Text.occurs_iff, Text.occurs_map_levelled (words_no_blank word hword)]
  · exact selectsStar_map_levelled u

/-- A change of layout leaves what applies as it is. -/
theorem applies_of_changesLayout {s t : Text} (h : ChangesLayout s t) :
    Applies (upper t) = Applies (upper s) := by
  apply h.eq_of (f := fun t => Applies (upper t))
  · intro c t hc
    rw [Text.upper_cons, CodePoint.upper_of_isBlank hc]
    exact applies_congr_of_tight fun stretch htight => htight.infix_cons_iff hc _
  · intro c t hc
    rw [Text.upper_append, Text.upper_cons, Text.upper_nil, CodePoint.upper_of_isBlank hc]
    exact applies_congr_of_tight fun stretch htight => htight.infix_concat_iff hc _
  · intro t
    rw [Text.upper_map_levelled, applies_map_levelled]

end Finding

theorem upper_of_changesCase {s t : Text} (h : ChangesCase s t) : upper t = upper s := by
  rw [← Text.upper_map_asciiUpper, ← h.map_asciiUpper_eq, Text.upper_map_asciiUpper]

/-! ### Any number of changes -/

theorem firstTable?_of_relaid {s t : Text} (h : Relaid s t) : firstTable? t = firstTable? s := by
  induction h with
  | refl => rfl
  | tail _ hchange ih => rw [firstTable?_of_changesLayout hchange, ih]

/-- The finding stays, and the table up to letter case. -/
structure Alike (s t : Text) : Prop where
  applies : Finding.Applies (upper t) = Finding.Applies (upper s)
  table : (firstTable? t).map (List.map asciiUpper) = (firstTable? s).map (List.map asciiUpper)

theorem alike_of_rewritten {s t : Text} (h : Rewritten s t) : Alike s t := by
  induction h with
  | refl => exact ⟨rfl, rfl⟩
  | tail _ hchange ih =>
    obtain ⟨happlies, htable⟩ := ih
    rcases hchange with hlayout | hcase
    · refine ⟨(Finding.applies_of_changesLayout hlayout).trans happlies, ?_⟩
      rw [firstTable?_of_changesLayout hlayout, htable]
    · refine ⟨?_, (firstTable?_of_changesCase hcase).trans htable⟩
      rw [upper_of_changesCase hcase, happlies]

/-- Queries that differ in layout and letter case get the analysis of the same finding, each for the table
that it names; the two names are the same up to letter case, and the same if only the layout differs. -/
theorem ofStructure_of_rewritten {query query' : Text} (h : Rewritten query query') :
    (∃ finding : Finding, ofStructure query = finding.analysis (tableName query) ∧
        ofStructure query' = finding.analysis (tableName query')) ∧
      (tableName query').map asciiUpper = (tableName query).map asciiUpper ∧
      (Relaid query query' → tableName query' = tableName query) := by
  obtain ⟨happlies, htable⟩ := alike_of_rewritten h
  refine ⟨?_, ?_, ?_⟩
  · obtain ⟨finding, hfinding⟩ := Finding.exists_applies (upper query)
    have hfinding' : finding.Applies (upper query') := (congrFun happlies finding).mpr hfinding
    exact ⟨finding, Finding.ofStructure_of_applies hfinding, Finding.ofStructure_of_applies hfinding'⟩
  · have hname : ∀ t, (tableName t).map asciiUpper =
        ((firstTable? t).map (List.map asciiUpper)).getD (someTable.map asciiUpper) := by
      intro t
      rw [tableName]
      cases firstTable? t <;> rfl
    rw [hname, hname, htable]
  · intro hrelaid
    rw [tableName, tableName, firstTable?_of_relaid hrelaid]

/-- A query that selects all columns of a table. -/
def plainUsers : Text :=
  Text.ofString "select * from" ++
    CodePoint.space :: CodePoint.ofChar 'u' :: Text.ofString "sers where id = 1"

/-- The query with a tab for a space. -/
def tabbedUsers : Text :=
  Text.ofString "select * from" ++
    CodePoint.tab :: CodePoint.ofChar 'u' :: Text.ofString "sers where id = 1"

/-- And with a capital for a small letter of the name, behind a line feed. -/
def dressedUsers : Text :=
  CodePoint.lineFeed :: (Text.ofString "select * from" ++
    CodePoint.tab :: CodePoint.ofChar 'U' :: Text.ofString "sers where id = 1")

theorem relaid_tabbedUsers : Relaid plainUsers tabbedUsers :=
  .single (.replace (by decide) (by decide) _ _)

theorem rewritten_dressedUsers : Rewritten plainUsers dressedUsers := by
  have hcapital : CodePoint.IsCapitalOf (CodePoint.ofChar 'U') (CodePoint.ofChar 'u') := by
    unfold CodePoint.IsCapitalOf
    decide
  have hraise := ChangesCase.raise hcapital (Text.ofString "select * from" ++ [CodePoint.tab])
    (Text.ofString "sers where id = 1")
  rw [← List.append_cons, ← List.append_cons] at hraise
  exact (relaid_tabbedUsers.rewritten.tail (Or.inr hraise)).tail (Or.inl (.addFront (by decide) _))

/-- The dressed query gets the same analysis for the name with a capital, the tabbed one for the same
name. -/
theorem ofStructure_of_rewritten_dressedUsers : Rewritten plainUsers dressedUsers ∧
    (∃ finding : Finding, ofStructure plainUsers = finding.analysis "users" ∧
      ofStructure dressedUsers = finding.analysis "Users") ∧
    Relaid plainUsers tabbedUsers ∧ tableName tabbedUsers = tableName plainUsers := by
  have hplain : tableName plainUsers = "users" := by decide +kernel
  have hdressed : tableName dressedUsers = "Users" := by decide +kernel
  obtain ⟨hfinding, -, -⟩ := ofStructure_of_rewritten rewritten_dressedUsers
  rw [hplain, hdressed] at hfinding
  obtain ⟨-, -, hsame⟩ := ofStructure_of_rewritten relaid_tabbedUsers.rewritten
  exact ⟨rewritten_dressedUsers, hfinding, relaid_tabbedUsers, hsame relaid_tabbedUsers⟩

end Analysis

end QueryAdvisor
