import QueryAdvisor.Text

/-!
# The prompt

What a model is asked. The query stands between two fence lines, unchanged; all other lines are the
same for every query.
-/

namespace QueryAdvisor.Prompt

/-- What the model is told about its part. -/
def system : Text := Text.lines [
  "You are a senior database engineer analyzing SQL query performance.",
  "Analyze the query structure and predict performance at various scales.",
  "Be specific, actionable, and reference the actual table and column names from the user's query."]

/-- The lines before the query: the shape of the answer. -/
def opening : List Text := [
  "You are a senior database engineer analyzing a SQL query.",
  "",
  "Analyze this SQL query and provide a JSON response with the following EXACT structure:",
  "",
  "\x7b",
  "  \"verdict\": \"SAFE_FOR_NOW|RISKY|CRITICAL|OPTIMAL\",",
  "  \"headline\": \"One sentence summary of the query's performance status\",",
  "  \"primaryRisk\": \x7b",
  "    \"issue\": \"e.g., 'Sequential scan on orders table', 'No index on user_id column', 'Cartesian product in JOIN'\",",
  "    \"whyItMatters\": \"Why this is a problem and what happens if not addressed\",",
  "    \"estimatedRiskAt\": \"e.g., '500k+ rows', '100k+ rows', 'Current scale'\"",
  "  \x7d,",
  "  \"recommendedFix\": \x7b",
  "    \"action\": \"Specific actionable fix (e.g., 'Add index on orders.user_id')\",",
  "    \"impact\": \"What will improve after implementing this fix\"",
  "  \x7d,",
  "  \"confidence\": \x7b",
  "    \"level\": \"HIGH|MEDIUM|LOW\",",
  "    \"reason\": \"Why you're confident or not confident in this analysis\"",
  "  \x7d,",
  "  \"nextStep\": \"Specific next action for the user (e.g., 'Re-run EXPLAIN ANALYZE after adding the index', 'Monitor query performance as table grows')\"",
  "\x7d",
  "",
  "SQL Query to Analyze:"]

/-- The line before the query. -/
def fenceOpen : Text := "```sql"

/-- The line behind the query. -/
def fenceClose : Text := "```"

/-- The lines behind the query: what to mind. -/
def closing : List Text := [
  "",
  "Analysis Guidelines:",
  "- Verdict: SAFE_FOR_NOW = works fine now but may degrade, RISKY = performance issues likely, CRITICAL = immediate problems, OPTIMAL = well-optimized",
  "- Headline: One clear sentence that captures the essence",
  "- Primary Risk: Focus on the single most important issue",
  "- Recommended Fix: One specific, actionable fix (include SQL if creating an index)",
  "- Confidence: Based on how clear the query structure is",
  "- Next Step: What the user should do next",
  "",
  "IMPORTANT: Reference the actual table and column names from the user's query. Be specific about THEIR tables and columns.",
  "",
  "Provide the JSON response now."]

/-- What the model is asked about a query. -/
def user (query : Text) : Text :=
  Text.lines (opening ++ [fenceOpen, query, fenceClose] ++ closing)

end QueryAdvisor.Prompt
