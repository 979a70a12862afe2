import QueryAdvisor.Analysis
import QueryAdvisor.Text.Search
import QueryAdvisor.Text.Upper
import QueryAdvisor.Text.Word

/-!
# Analysis by structure

What can be said about a query without a model. Three facts decide: whether `WHERE`, `JOIN` and a
`SELECT *` occur in its upper-case form; a fourth, the name of its first table, is only quoted. The name
is searched in the query as it is written, and any place where `FROM`, blanks and a word character stand
in a row counts, also inside a longer word.
-/

namespace QueryAdvisor.Analysis

open CodePoint (isBlank isWord)

/-! ### What is looked for -/

/-- The text behind a keyword at its start; ASCII letters match in either case. -/
def afterKeyword? (keyword : Text) (t : Text) : Option Text :=
  if keyword.isPrefixOf ((t.take keyword.length).map CodePoint.asciiUpper) then
    some (t.drop keyword.length)
  else none

/-- The text behind one or more blanks at its start. -/
def afterBlanks? : Text → Option Text
  | [] => none
  | c :: rest => if isBlank c then some (rest.dropWhile isBlank) else none

/-- The name of the table, if the text starts with `FROM`, blanks and a name. -/
def tableHere? (t : Text) : Option Text := do
  let rest ← afterKeyword? "FROM" t
  let rest ← afterBlanks? rest
  let name := rest.takeWhile isWord
  if name.isEmpty then none else some name

/-- The name behind the first `FROM` that has one. -/
def firstTable? : Text → Option Text
  | [] => none
  | c :: rest =>
    match tableHere? (c :: rest) with
    | some name => some name
    | none => firstTable? rest

/-- The text starts with `SELECT`, blanks and a star. -/
def startsSelectStar (t : Text) : Bool :=
  ("SELECT" : Text).isPrefixOf t &&
    ((afterBlanks? (t.drop 6)).any fun rest => rest.head? == some CodePoint.star)

/-- `SELECT *` stands somewhere in an upper-case text. -/
def hasSelectStar : Text → Bool
  | [] => false
  | c :: rest => startsSelectStar (c :: rest) || hasSelectStar rest

/-! ### The decision -/

/-- What stands for the name of a table that was not found. -/
def someTable : Text := "table"

/-- The name of the first table. -/
def tableName (query : Text) : Text := (firstTable? query).getD someTable

def structureReason : Text :=
  "Analysis based on query structure only - actual performance depends on indexes and data distribution"

def structureConfidence : Confidence := ⟨.medium, structureReason⟩

/-- Every row is read. -/
def unfiltered (table : Text) : Analysis where
  verdict := .risky
  headline :=
    Text.ofString "Risky query - will scan entire " ++ table ++ " table without filtering"
  primaryRisk :=
    { issue := Text.ofString "Sequential scan on " ++ table ++ " (no WHERE clause)"
      whyItMatters := "Execution time grows linearly with table size - will scan all rows"
      estimatedRiskAt := "50k+ rows" }
  recommendedFix :=
    { action := "Add WHERE clause to filter rows"
      impact := "Eliminates full table scan and reduces rows examined" }
  confidence := structureConfidence
  nextStep := "Add WHERE clause to filter rows, then re-analyze"

/-- Every column is read. -/
def allColumns (table : Text) : Analysis where
  verdict := .safeForNow
  headline := "Safe for now, but SELECT * may cause issues as data grows"
  primaryRisk :=
    { issue := Text.ofString "SELECT * retrieves all columns from " ++ table
      whyItMatters := "Retrieves unnecessary data, increasing memory and network overhead"
      estimatedRiskAt := "100k+ rows" }
  recommendedFix :=
    { action := "Replace SELECT * with specific column names"
      impact := "Reduces data transfer and improves query efficiency" }
  confidence := structureConfidence
  nextStep := "Review query performance and add indexes if needed"

/-- Nothing stands out. -/
def reasonable (hasJoin : Bool) : Analysis where
  verdict := .safeForNow
  headline :=
    if hasJoin then "Query structure looks reasonable - check indexes on join columns"
    else "Query structure looks reasonable"
  primaryRisk :=
    { issue := "Query structure looks reasonable but may need indexes"
      whyItMatters := "Performance depends on whether indexes exist on filtered/joined columns"
      estimatedRiskAt := "500k+ rows" }
  recommendedFix :=
    { action := "Ensure indexes exist on WHERE and JOIN clause columns"
      impact := "Enables index scans instead of sequential scans" }
  confidence := structureConfidence
  nextStep := "Review query performance and add indexes if needed"

/-- The analysis of a query by its structure. -/
def ofStructure (query : Text) : Analysis :=
  let upper := Text.upper query
  if !Text.occurs "WHERE" upper then unfiltered (tableName query)
  else if hasSelectStar upper then allColumns (tableName query)
  else reasonable (Text.occurs "JOIN" upper)

end QueryAdvisor.Analysis
