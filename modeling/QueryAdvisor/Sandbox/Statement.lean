import QueryAdvisor.Text.Blank

/-!
# The statement for the sandbox

A query goes to the sandbox behind an `EXPLAIN` command, so what ends it has to go, and what could be a
second statement must not be there. Whether a `;` that is left stands inside a literal is judged by the
quotes before it: it does if those of either kind are odd in number.
-/

namespace QueryAdvisor.Statement

open CodePoint (semicolon singleQuote doubleQuote)

/-- The text without blanks, semicolons and again blanks at its end. -/
def withoutTerminator (sql : Text) : Text :=
  Text.trimEnd (Text.dropEnd (· = semicolon) (Text.trimEnd sql))

/-- Quotes of both kinds are even in number. -/
def quotesEven (t : Text) : Bool :=
  t.count singleQuote % 2 == 0 && t.count doubleQuote % 2 == 0

/-- The statement of a query; none if something seems to follow a `;`. -/
def ofQuery? (sql : Text) : Option Text :=
  let s := withoutTerminator sql
  if s.contains semicolon && quotesEven (s.takeWhile (· ≠ semicolon)) then none else some s

/-- Runs the query and measures. -/
def analyzeCommand : Text := "EXPLAIN (ANALYZE, BUFFERS, FORMAT JSON) "

/-- Plans the query only. -/
def planCommand : Text := "EXPLAIN (FORMAT JSON) "

end QueryAdvisor.Statement
