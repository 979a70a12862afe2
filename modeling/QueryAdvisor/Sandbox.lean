import QueryAdvisor.Audit
import QueryAdvisor.Plan.Execution
import QueryAdvisor.Sandbox.Statement
import QueryAdvisor.Settings

/-!
# The sandbox

A database in which queries are explained, never more. A query is first run and measured; if the
database refuses that, it is only planned. A query that may hold a second statement is not sent at all.

The database is a script here: whether it lets itself be connected to, and what it does with each
statement it gets.
-/

namespace QueryAdvisor

/-- Why the database did not do something. -/
inductive SandboxFailure where
  /-- It said so, with this message. -/
  | database (message : Text)
  /-- Something else broke, and nobody here knows what to do about it. -/
  | foreign (exception : Text)
  deriving DecidableEq, Repr

/-- What becomes of one statement. -/
inductive SandboxStep where
  | fails (failure : SandboxFailure)
  /-- The statement runs; perhaps there is a row, with this value in its first column. -/
  | returns (row : Option RawPlan)

/-- How the database behaves. Statements beyond the list run and return no row. -/
structure Sandbox where
  connectFailure : Option SandboxFailure := none
  steps : List SandboxStep := []

/-- Why a query was not explained. -/
inductive ExplainFault where
  | trailingStatement
  | sandboxDown
  | noRow
  | unavailable
  /-- A failure that is passed on as it is. -/
  | escaped (exception : Text)
  deriving DecidableEq, Repr

namespace ExplainFault

def invalidPlanMessage : Text := "Invalid execution plan returned"

def trailingStatementMessage : Text :=
  "Only a single statement can be explained. Remove anything after the ';'."

def sandboxDownMessage : Text :=
  "The analysis sandbox is unavailable right now, so no execution plan could be produced. Try again later."

def unavailableMessage : Text :=
  "Query could not be parsed. This may be because the tables referenced in your query do not exist in the analysis sandbox. The tool analyzes query patterns generically - ensure your query uses valid SQL syntax."

/-- The sentence shown to the user; a failure that is passed on has none. -/
def message? : ExplainFault → Option Text
  | .trailingStatement => some trailingStatementMessage
  | .sandboxDown => some sandboxDownMessage
  | .noRow => some invalidPlanMessage
  | .unavailable => some unavailableMessage
  | .escaped _ => none

end ExplainFault

/-- An attempt to explain a query: how it ended, how often a connection was asked for, which statements
were sent, what was written down. -/
structure Explanation where
  /-- The plan, and whether the query was run for it. -/
  outcome : Except ExplainFault (RawPlan × Bool)
  connections : Nat := 0
  executed : List Text := []
  events : List Event := []

namespace Sandbox

/-- What becomes of the next statement, and the script behind it. -/
def next (steps : List SandboxStep) : SandboxStep × List SandboxStep :=
  match steps with
  | [] => (.returns none, [])
  | step :: rest => (step, rest)

/-- The plan in a row. -/
def firstColumn (analyzed : Bool) (row : Option RawPlan) : Except ExplainFault (RawPlan × Bool) :=
  match row with
  | none => .error .noRow
  | some raw => .ok (raw, analyzed)

/-- Plan the statement. -/
def planOnly (steps : List SandboxStep) (statement : Text) : Explanation :=
  let sent := [Statement.planCommand ++ statement]
  match (next steps).1 with
  | .returns row => { outcome := firstColumn false row, connections := 1, executed := sent }
  | .fails (.database message) =>
    { outcome := .error .unavailable, connections := 1, executed := sent
      events := [.explainFailed message] }
  | .fails (.foreign exception) =>
    { outcome := .error (.escaped exception), connections := 1, executed := sent }

/-- Run the statement; plan it, if the database refuses to run it. -/
def runOrPlan (steps : List SandboxStep) (statement : Text) : Explanation :=
  let sent := Statement.analyzeCommand ++ statement
  match next steps with
  | (.returns row, _) => { outcome := firstColumn true row, connections := 1, executed := [sent] }
  | (.fails (.database message), rest) =>
    let second := planOnly rest statement
    { second with
      executed := sent :: second.executed
      events := .analyzeFailed message :: second.events }
  | (.fails (.foreign exception), _) =>
    { outcome := .error (.escaped exception), connections := 1, executed := [sent] }

/-- Explain a query. -/
def explain (sandbox : Sandbox) (sql : Text) (analyze : Bool) : Explanation :=
  match Statement.ofQuery? sql with
  | none => { outcome := .error .trailingStatement }
  | some statement =>
    match sandbox.connectFailure with
    | some (.database message) =>
      { outcome := .error .sandboxDown, connections := 1, events := [.sandboxUnreachable message] }
    | some (.foreign exception) => { outcome := .error (.escaped exception), connections := 1 }
    | none =>
      if analyze then runOrPlan sandbox.steps statement else planOnly sandbox.steps statement

/-! ### How to connect -/

/-- Where the sandbox is. -/
inductive Target where
  | url (url : Text)
  | parts (host : Text) (port : Int) (database user password : Text)
  deriving DecidableEq, Repr

/-- The target: the address given, else the address configured, else the configured parts. An empty
address is none. -/
def target (settings : Settings) (url : Option Text) : Target :=
  match (url.filter (!·.isEmpty)) <|> (settings.sandboxUrl.filter (!·.isEmpty)) with
  | some url => .url url
  | none =>
    .parts settings.host settings.port settings.database settings.user settings.password

/-- What a session is told: a limit on the time of a statement, and to write nothing. -/
def sessionOptions (settings : Settings) : Text :=
  Text.ofString "-c statement_timeout=" ++ Text.ofInt settings.statementTimeout ++
    Text.ofString " -c default_transaction_read_only=on"

end Sandbox

end QueryAdvisor
