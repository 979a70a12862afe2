import QueryAdvisor.Proofs.Analysis.TableName

/-!
# What the structure of a query says

Three facts about the upper-case form decide what an analysis by structure finds:

    `WHERE` occurs?  ──no──▶  unfiltered     risky           50k+ rows    names the table
         │ yes
    `SELECT *`?      ──yes─▶  all columns    safe for now   100k+ rows    names the table
         │ no
    `JOIN` occurs?   ──yes─▶  joined         safe for now   500k+ rows    speaks of join columns
                     ──no──▶  plain          safe for now   500k+ rows

At least one finding applies to a text, and no analysis says what two findings have to say; so the
analysis is the one of a finding if and only if that finding applies. The table is the one that the query
names.
-/

namespace QueryAdvisor.Analysis
open CodePoint (isBlank star)
open Text (allBlank upper)

def whereWord : Text := "WHERE"
def joinWord : Text := "JOIN"
def joinColumns : Text := "join columns"

/-- `SELECT`, one or more blanks and a star stand somewhere in the text. -/
def SelectsStar (u : Text) : Prop :=
  ∃ before blanks after, u = before ++ (Text.ofString "SELECT" ++ (blanks ++ star :: after)) ∧
    blanks ≠ [] ∧ allBlank blanks = true

/-- What can be found in the structure of a query. -/
inductive Finding where
  | unfiltered
  | allColumns
  | joined
  | plain
  deriving DecidableEq, Repr

namespace Finding

/-- When a finding applies to a query that is `u` in upper case. -/
def Applies (u : Text) : Finding → Prop
  | .unfiltered => ¬ whereWord <:+: u
  | .allColumns => whereWord <:+: u ∧ SelectsStar u
  | .joined => whereWord <:+: u ∧ ¬ SelectsStar u ∧ joinWord <:+: u
  | .plain => whereWord <:+: u ∧ ¬ SelectsStar u ∧ ¬ joinWord <:+: u

/-- The analysis of a finding, for the table that the query names. -/
def analysis (table : Text) : Finding → Analysis
  | .unfiltered => Analysis.unfiltered table
  | .allColumns => Analysis.allColumns table
  | .joined => reasonable true
  | .plain => reasonable false

/-- What an analysis has to say for a finding. -/
def Tells (table : Text) (a : Analysis) : Finding → Prop
  | .unfiltered => a.verdict = .risky ∧ a.primaryRisk.estimatedRiskAt = Text.ofString "50k+ rows" ∧
    table <:+: a.headline ∧ table <:+: a.primaryRisk.issue
  | .allColumns => a.verdict = .safeForNow ∧
    a.primaryRisk.estimatedRiskAt = Text.ofString "100k+ rows" ∧ table <:+: a.primaryRisk.issue
  | .joined => a.verdict = .safeForNow ∧
    a.primaryRisk.estimatedRiskAt = Text.ofString "500k+ rows" ∧
    joinColumns <:+: a.headline
  | .plain => a.verdict = .safeForNow ∧
    a.primaryRisk.estimatedRiskAt = Text.ofString "500k+ rows" ∧
    ¬ joinColumns <:+: a.headline

end Finding

/-! ### The search for a star -/

theorem startsSelectStar_iff {t : Text} : startsSelectStar t = true ↔
    ∃ blanks after, t = Text.ofString "SELECT" ++ (blanks ++ star :: after) ∧ blanks ≠ [] ∧
      allBlank blanks = true := by
  have hlength : (Text.ofString "SELECT").length = 6 := by decide
  rw [startsSelectStar, Bool.and_eq_true, List.isPrefixOf_iff_prefix, Option.any_eq_true]
  constructor
  · rintro ⟨⟨behind, rfl⟩, rest, hrest, hstar⟩
    rw [← hlength, List.drop_left, afterBlanks?_eq_some_iff] at hrest
    obtain ⟨blanks, rfl, hne, hblanks, -⟩ := hrest
    obtain ⟨after, rfl⟩ : ∃ after, rest = star :: after := by
      cases rest with
      | nil => simp at hstar
      | cons c after => exact ⟨after, by simpa using hstar⟩
    exact ⟨blanks, after, rfl, hne, hblanks⟩
  · rintro ⟨blanks, after, rfl, hne, hblanks⟩
    refine ⟨List.prefix_append _ _, star :: after, ?_, by simp⟩
    rw [← hlength, List.drop_left, afterBlanks?_eq_some_iff]
    refine ⟨blanks, rfl, hne, hblanks, ?_⟩
    intro c hc
    obtain rfl : star = c := by simpa using hc
    decide

/-- What stands somewhere stands at the start of an end of the text. -/
theorem selectsStar_iff {u : Text} :
    SelectsStar u ↔ ∃ place, place <:+ u ∧ startsSelectStar place = true := by
  constructor
  · rintro ⟨before, blanks, after, rfl, hne, hblanks⟩
    exact ⟨_, List.suffix_append _ _, startsSelectStar_iff.mpr ⟨blanks, after, rfl, hne, hblanks⟩⟩
  · rintro ⟨place, ⟨before, rfl⟩, hstarts⟩
    obtain ⟨blanks, after, rfl, hne, hblanks⟩ := startsSelectStar_iff.mp hstarts
    exact ⟨before, blanks, after, rfl, hne, hblanks⟩

theorem hasSelectStar_iff {u : Text} : hasSelectStar u = true ↔ SelectsStar u := by
  rw [selectsStar_iff]
  induction u with
  | nil =>
    refine iff_of_false (by simp [hasSelectStar]) ?_
    rintro ⟨place, hplace, hstarts⟩
    rw [List.suffix_nil.mp hplace] at hstarts
    exact absurd hstarts (by decide)
  | cons c u ih =>
    rw [hasSelectStar, Bool.or_eq_true, ih]
    simp only [List.suffix_cons_iff, or_and_right, exists_or, exists_eq_left]

/-! ### One finding -/

namespace Finding

theorem exists_applies (u : Text) : ∃ finding : Finding, finding.Applies u := by
  by_cases hwhere : whereWord <:+: u
  · by_cases hstar : SelectsStar u
    · exact ⟨.allColumns, hwhere, hstar⟩
    · by_cases hjoin : joinWord <:+: u
      · exact ⟨.joined, hwhere, hstar, hjoin⟩
      · exact ⟨.plain, hwhere, hstar, hjoin⟩
  · exact ⟨.unfiltered, hwhere⟩

/-- What applies is found. -/
theorem ofStructure_of_applies {query : Text} {finding : Finding}
    (h : finding.Applies (upper query)) :
    ofStructure query = finding.analysis (tableName query) := by
  have hwhere : Text.occurs whereWord (upper query) = true ↔ whereWord <:+: upper query :=
    Text.occurs_iff
  have hjoin : Text.occurs joinWord (upper query) = true ↔ joinWord <:+: upper query :=
    Text.occurs_iff
  have hstar : hasSelectStar (upper query) = true ↔ SelectsStar (upper query) := hasSelectStar_iff
  change (if !Text.occurs whereWord (upper query) then Analysis.unfiltered (tableName query)
    else if hasSelectStar (upper query) then Analysis.allColumns (tableName query)
    else reasonable (Text.occurs joinWord (upper query))) = _
  cases finding with
  | unfiltered =>
    rw [Bool.eq_false_iff.mpr (mt hwhere.mp h)]
    rfl
  | allColumns =>
    rw [hwhere.mpr h.1, hstar.mpr h.2]
    rfl
  | joined =>
    rw [hwhere.mpr h.1, Bool.eq_false_iff.mpr (mt hstar.mp h.2.1), hjoin.mpr h.2.2]
    rfl
  | plain =>
    rw [hwhere.mpr h.1, Bool.eq_false_iff.mpr (mt hstar.mp h.2.1),
      Bool.eq_false_iff.mpr (mt hjoin.mp h.2.2)]
    rfl

/-- Only the headline of a joined query speaks of join columns. -/
theorem occurs_headline_reasonable : ∀ hasJoin,
    Text.occurs joinColumns (reasonable hasJoin).headline = hasJoin := by
  decide +kernel

/-- The analysis of a finding says what it has to say. -/
theorem tells_analysis (table : Text) (finding : Finding) :
    finding.Tells table (finding.analysis table) := by
  cases finding with
  | unfiltered =>
    exact ⟨rfl, rfl, ⟨_, _, rfl⟩, ⟨_, _, rfl⟩⟩
  | allColumns =>
    exact ⟨rfl, rfl, (List.suffix_append _ _).isInfix⟩
  | joined =>
    exact ⟨rfl, rfl, Text.occurs_iff.mp (occurs_headline_reasonable true)⟩
  | plain =>
    refine ⟨rfl, rfl, ?_⟩
    rw [← Text.occurs_iff, Bool.not_eq_true]
    exact occurs_headline_reasonable false

theorem estimates_ne : Text.ofString "100k+ rows" ≠ Text.ofString "500k+ rows" := by decide

/-- No analysis says what two findings have to say. -/
theorem eq_of_tells {table : Text} {a : Analysis} {finding finding' : Finding}
    (h : finding.Tells table a) (h' : finding'.Tells table a) : finding = finding' := by
  cases finding with
  | unfiltered =>
    cases finding' with
    | unfiltered => rfl
    | allColumns | joined | plain => exact absurd (h.1.symm.trans h'.1) (by decide)
  | allColumns =>
    cases finding' with
    | unfiltered => exact absurd (h.1.symm.trans h'.1) (by decide)
    | allColumns => rfl
    | joined | plain => exact absurd (h.2.1.symm.trans h'.2.1) estimates_ne
  | joined =>
    cases finding' with
    | unfiltered => exact absurd (h.1.symm.trans h'.1) (by decide)
    | allColumns => exact absurd (h'.2.1.symm.trans h.2.1) estimates_ne
    | joined => rfl
    | plain => exact absurd h.2.2 h'.2.2
  | plain =>
    cases finding' with
    | unfiltered => exact absurd (h.1.symm.trans h'.1) (by decide)
    | allColumns => exact absurd (h'.2.1.symm.trans h.2.1) estimates_ne
    | joined => exact absurd h'.2.2 h.2.2
    | plain => rfl

end Finding

/-- The analysis of a query by its structure is the one of a finding, for the table that the query names,
if and only if the finding applies; and it then says what this finding has to say. -/
theorem ofStructure_eq_analysis_iff (query : Text) : ∃ table,
    (∀ name, IsTableName query name ↔ name = table) ∧
      ∀ finding : Finding,
        (ofStructure query = finding.analysis table ↔ finding.Applies (upper query)) ∧
          (finding.Applies (upper query) → finding.Tells table (ofStructure query)) := by
  refine ⟨tableName query, fun name => isTableName_iff, ?_⟩
  intro finding
  constructor
  · constructor
    · intro h
      obtain ⟨found, hfound⟩ := Finding.exists_applies (upper query)
      have htells := finding.tells_analysis (tableName query)
      rw [← h, Finding.ofStructure_of_applies hfound] at htells
      obtain rfl := Finding.eq_of_tells htells (found.tells_analysis (tableName query))
      exact hfound
    · exact Finding.ofStructure_of_applies
  · intro h
    rw [Finding.ofStructure_of_applies h]
    exact finding.tells_analysis (tableName query)

end QueryAdvisor.Analysis
