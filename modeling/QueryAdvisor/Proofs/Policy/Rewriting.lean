import Mathlib.Data.List.Find
import QueryAdvisor.Proofs.Policy.Rules
import QueryAdvisor.Proofs.Text.Layout

/-!
# The policy does not see how a query is written

Of a query the check sees two texts, and of these only some sides:

    query ──trim──▶ t   is it empty, its length, how many of five marks
                    │ upper
                    ▼
                    u   words, starts and markers, all without blanks

A space for a blank changes neither a length nor a number of marks, nor what is found. A capital for a
small letter is not seen in `u`, and in `t` it is no mark. So one change of layout or of letter case
leaves the verdict as it is, and any number of them does.
-/

namespace QueryAdvisor.Policy
open CodePoint (isBlank levelled asciiUpper openParen closeParen singleQuote doubleQuote semicolon)
open Text (ChangesLayout ChangesCase Rewritten level trim upper)

/-- The code points that are counted. -/
def marks : List CodePoint := [openParen, closeParen, singleQuote, doubleQuote, semicolon]

theorem marks_plain : ∀ mark ∈ marks, isBlank mark = false ∧ mark.isLowerLetter = false ∧
    mark.isUpperLetter = false := by decide

/-- What the check sees of the query itself stays when other code points than the marks change. -/
theorem checkTrimmed_map {f : CodePoint → CodePoint} (hf : ∀ mark ∈ marks, ∀ c, f c = mark ↔ c = mark)
    (t u : Text) : checkTrimmed (t.map f) u = checkTrimmed t u := by
  have hcount : ∀ mark ∈ marks, (t.map f).count mark = t.count mark :=
    fun mark hmark => Text.count_map_of_iff (hf mark hmark) t
  rw [checkTrimmed, checkTrimmed, List.isEmpty_map, List.length_map, hcount openParen (by simp [marks]),
    hcount closeParen (by simp [marks]), hcount singleQuote (by simp [marks]),
    hcount doubleQuote (by simp [marks]), hcount semicolon (by simp [marks])]

/-- The words that the check looks for have no blanks in them. -/
theorem startWords_no_blank : ∀ word ∈ [selectWord, withWord, fromWord],
    ∀ c ∈ word, isBlank c = false := by decide +kernel

theorem firstWord?_map_levelled {words : List Text}
    (hwords : ∀ word ∈ words, ∀ c ∈ word, isBlank c = false) (u : Text) :
    firstWord? words (u.map levelled) = firstWord? words u := by
  rw [firstWord?, firstWord?]
  exact List.find?_congr fun word hword => Text.hasWord_map_levelled (hwords word hword) u

theorem firstMarker?_map_levelled {markers : List Text}
    (hmarkers : ∀ marker ∈ markers, ∀ c ∈ marker, isBlank c = false) (u : Text) :
    firstMarker? markers (u.map levelled) = firstMarker? markers u := by
  rw [firstMarker?, firstMarker?]
  exact List.find?_congr fun marker hmarker => Text.occurs_map_levelled (hmarkers marker hmarker) u

theorem checkWords_map_levelled (u : Text) : checkWords (u.map levelled) = checkWords u := by
  have hforbidden : ∀ rule : Rule, ∀ culprit ∈ rule.forbidden, ∀ c ∈ culprit, isBlank c = false :=
    fun rule culprit hculprit => (rule.forbidden_wellFormed culprit hculprit).2
  have hwords : ∀ rule : Rule, firstWord? rule.forbidden (u.map levelled) =
      firstWord? rule.forbidden u := fun rule => firstWord?_map_levelled (hforbidden rule) u
  have hmarkers : firstMarker? dangerousMarkers (u.map levelled) = firstMarker? dangerousMarkers u :=
    firstMarker?_map_levelled (hforbidden .marker) u
  have hdefinition := hwords .definition
  have hmanipulation := hwords .manipulation
  have htransaction := hwords .transaction
  simp only [Rule.forbidden] at hdefinition hmanipulation htransaction
  rw [checkWords, checkWords, hdefinition, hmanipulation, htransaction, hmarkers]

/-- What the check sees of the upper-case form stays when its blanks become spaces. -/
theorem checkTrimmed_map_levelled (t u : Text) :
    checkTrimmed t (u.map levelled) = checkTrimmed t u := by
  rw [checkTrimmed, checkTrimmed, checkWords_map_levelled,
    Text.isPrefixOf_map_levelled (startWords_no_blank selectWord (by simp)),
    Text.isPrefixOf_map_levelled (startWords_no_blank withWord (by simp)),
    Text.occurs_map_levelled (startWords_no_blank fromWord (by simp))]

/-! ### One change -/

/-- The verdict on a query can be read off the levelled query. -/
theorem check_eq_checkTrimmed_level (query : Text) :
    check query = checkTrimmed (level query) (upper (level query)) := by
  have hmarks : ∀ mark ∈ marks, ∀ c, levelled c = mark ↔ c = mark :=
    fun mark hmark => CodePoint.levelled_eq_iff (marks_plain mark hmark).1
  rw [level, Text.upper_map_levelled, checkTrimmed_map_levelled, checkTrimmed_map hmarks, check]

/-- Capitals get the same verdict. -/
theorem check_map_asciiUpper (query : Text) : check (query.map asciiUpper) = check query := by
  have hmarks : ∀ mark ∈ marks, ∀ c, asciiUpper c = mark ↔ c = mark := fun mark hmark =>
    CodePoint.asciiUpper_eq_iff (marks_plain mark hmark).2.1 (marks_plain mark hmark).2.2
  rw [check, check, Text.trim_map CodePoint.isBlank_asciiUpper_eq, Text.upper_map_asciiUpper,
    checkTrimmed_map hmarks]

theorem check_eq_of_changesLayout {s t : Text} (h : ChangesLayout s t) : check t = check s := by
  rw [check_eq_checkTrimmed_level, ← h.level_eq, ← check_eq_checkTrimmed_level]

theorem check_eq_of_changesCase {s t : Text} (h : ChangesCase s t) : check t = check s := by
  rw [← check_map_asciiUpper, ← h.map_asciiUpper_eq, check_map_asciiUpper]

/-! ### Any number of changes -/

/-- Queries that differ in layout and letter case get the same verdict: the same violation, with the same
word or marker, or none. -/
theorem check_eq_of_rewritten {query query' : Text} (h : Rewritten query query') :
    check query' = check query := by
  induction h with
  | refl => rfl
  | tail _ hchange ih =>
    rcases hchange with hlayout | hcase
    · rw [check_eq_of_changesLayout hlayout, ih]
    · rw [check_eq_of_changesCase hcase, ih]

/-- A query that ends in a forbidden word. -/
def plainDrop : Text :=
  Text.ofString "select a FROM t WHERE" ++ CodePoint.space :: CodePoint.ofChar 'd' :: Text.ofString "rop"

/-- The query with a tab for a space, a capital for a small letter and a line feed at its end. -/
def dressedDrop : Text :=
  Text.ofString "select a FROM t WHERE" ++ CodePoint.tab :: CodePoint.ofChar 'D' :: Text.ofString "rop" ++
    [CodePoint.lineFeed]

/-- The second query is the first, written differently, and gets the same verdict. -/
theorem check_eq_of_rewritten_dressedDrop : Rewritten plainDrop dressedDrop ∧
    check dressedDrop = check plainDrop := by
  have hcapital : CodePoint.IsCapitalOf (CodePoint.ofChar 'D') (CodePoint.ofChar 'd') := by
    unfold CodePoint.IsCapitalOf
    decide
  have hraise := ChangesCase.raise hcapital (Text.ofString "select a FROM t WHERE" ++ [CodePoint.tab])
    (Text.ofString "rop")
  rw [← List.append_cons, ← List.append_cons] at hraise
  have hspaced : Rewritten plainDrop (Text.ofString "select a FROM t WHERE" ++
      CodePoint.tab :: CodePoint.ofChar 'd' :: Text.ofString "rop") :=
    .single (Or.inl (.replace (by decide) (by decide) _ _))
  have hrewritten : Rewritten plainDrop dressedDrop :=
    (hspaced.tail (Or.inr hraise)).tail (Or.inl (.addEnd (by decide) _))
  exact ⟨hrewritten, check_eq_of_rewritten hrewritten⟩

end QueryAdvisor.Policy
