import QueryAdvisor.Text.Search
import QueryAdvisor.Text.Upper

/-!
# The read-only policy

A lexical check of a query before anything else sees it: length, balance of brackets and quotes, how it
starts, forbidden words, dangerous markers, number of statements. The rules stand in a fixed order and
the first one violated is reported, so a query that breaks several always gets the same answer.

Lengths and counts are taken from the query without the blanks around it; words and markers are
searched in its upper-case form, which can be longer.
-/

namespace QueryAdvisor

/-- What is wrong with a query, with the word or marker that gave it away. -/
inductive Violation where
  | empty
  | tooShort
  | tooLong
  | unbalancedParens
  | unclosedSingleQuote
  | unclosedDoubleQuote
  | notSelectOrWith
  | missingFrom
  | definition (keyword : Text)
  | manipulation (keyword : Text)
  | transaction (keyword : Text)
  | dangerous (marker : Text)
  | severalStatements
  deriving DecidableEq, Repr

namespace Violation

/-- The code by which clients know the violation. -/
def reason : Violation → String
  | .empty => "empty"
  | .tooShort => "too-short"
  | .tooLong => "too-long"
  | .unbalancedParens => "unbalanced-parens"
  | .unclosedSingleQuote => "unclosed-single-quote"
  | .unclosedDoubleQuote => "unclosed-double-quote"
  | .notSelectOrWith => "not-select-or-cte"
  | .missingFrom => "missing-from"
  | .definition _ => "forbidden-ddl"
  | .manipulation _ => "forbidden-dml"
  | .transaction _ => "forbidden-transaction-control"
  | .dangerous _ => "forbidden-function"
  | .severalStatements => "multiple-statements"

/-- The word or marker that was found. -/
def keyword? : Violation → Option Text
  | .definition k | .manipulation k | .transaction k | .dangerous k => some k
  | _ => none

/-- The sentence shown to the user. -/
def message : Violation → Text
  | .empty => "Query cannot be empty"
  | .tooShort => "Query is too short to be valid"
  | .tooLong => "Query is too long (max 100,000 characters)"
  | .unbalancedParens => "Unbalanced parentheses in query"
  | .unclosedSingleQuote => "Unclosed single quotes in query"
  | .unclosedDoubleQuote => "Unclosed double quotes in query"
  | .notSelectOrWith => "Only SELECT queries are allowed. Query must start with SELECT or WITH"
  | .missingFrom => "SELECT query must include a FROM clause"
  | .definition k =>
    Text.ofString "DDL statement '" ++ k ++ "' is not allowed. Only SELECT queries are permitted"
  | .manipulation k =>
    Text.ofString "DML statement '" ++ k ++ "' is not allowed. Only SELECT queries are permitted"
  | .transaction k => Text.ofString "Transaction control '" ++ k ++ "' is not allowed"
  | .dangerous _ => "Dangerous function is not allowed for security reasons"
  | .severalStatements => "Multiple statements detected. Please submit only one query at a time"

end Violation

namespace Policy

open CodePoint (openParen closeParen singleQuote doubleQuote semicolon)

def minLength : Nat := 10
def maxLength : Nat := 100000

/-- The words that define or change the schema. -/
def definitionWords : List Text :=
  ["CREATE", "ALTER", "DROP", "TRUNCATE", "RENAME", "GRANT", "REVOKE", "COMMENT"]

/-- The words that change data. -/
def manipulationWords : List Text := ["INSERT", "UPDATE", "DELETE", "MERGE", "CALL"]

/-- The words that control transactions. -/
def transactionWords : List Text := ["BEGIN", "COMMIT", "ROLLBACK", "SAVEPOINT"]

/-- What may not occur even inside another word. -/
def dangerousMarkers : List Text := ["PG_READ_FILE", "PG_LS_DIR", "COPY", "\\COPY"]

def selectWord : Text := "SELECT"
def withWord : Text := "WITH"
def fromWord : Text := "FROM"

/-- The first of the words that stands in an upper-case text. -/
def firstWord? (words : List Text) (upper : Text) : Option Text :=
  words.find? (Text.hasWord · upper)

/-- The first of the markers that occurs in an upper-case text. -/
def firstMarker? (markers : List Text) (upper : Text) : Option Text :=
  markers.find? (Text.occurs · upper)

/-- The forbidden words and markers in an upper-case text, one kind after the other. -/
def checkWords (upper : Text) : Option Violation :=
  (firstWord? definitionWords upper).map .definition
    <|> (firstWord? manipulationWords upper).map .manipulation
    <|> (firstWord? transactionWords upper).map .transaction
    <|> (firstMarker? dangerousMarkers upper).map .dangerous

/-- All rules for a query without the blanks around it, and its upper-case form. -/
def checkTrimmed (t upper : Text) : Option Violation :=
  if t.isEmpty then some .empty
  else if t.length < minLength then some .tooShort
  else if maxLength < t.length then some .tooLong
  else if t.count openParen ≠ t.count closeParen then some .unbalancedParens
  else if t.count singleQuote % 2 ≠ 0 then some .unclosedSingleQuote
  else if t.count doubleQuote % 2 ≠ 0 then some .unclosedDoubleQuote
  else if !selectWord.isPrefixOf upper && !withWord.isPrefixOf upper then some .notSelectOrWith
  else if selectWord.isPrefixOf upper && !Text.occurs fromWord upper then some .missingFrom
  else checkWords upper <|> if 1 < t.count semicolon then some .severalStatements else none

/-- The first rule that a query violates; none if the query is accepted. -/
def check (query : Text) : Option Violation :=
  checkTrimmed (Text.trim query) (Text.upper (Text.trim query))

/-- The query violates no rule. -/
def Accepts (query : Text) : Prop := check query = none

instance (query : Text) : Decidable (Accepts query) := inferInstanceAs (Decidable (_ = none))

end Policy

end QueryAdvisor
