import QueryAdvisor.Number.Quantity

/-!
# Settings

Everything that can be configured, with its default.
-/

namespace QueryAdvisor

structure Settings where
  /-- The credential of the model service. -/
  apiKey : Option Text := none
  model : Text := "gpt-4o-mini"
  temperature : Quantity := .real (.ofDecimal false 3 (-1))
  /-- How long to wait for the model, in seconds. -/
  modelTimeout : Quantity := .real (.ofDecimal false 30 0)
  /-- Where the sandbox is; it wins over the five parts below. -/
  sandboxUrl : Option Text := none
  host : Text := "localhost"
  port : Int := 5432
  database : Text := "sandbox"
  user : Text := "querylens_ro"
  password : Text := "querylens_ro_pw"
  /-- How long a statement may run, in milliseconds. -/
  statementTimeout : Int := 30000
  historyPath : Text := "logs/history.db"
  historyMax : Int := 5
  logLevel : Text := "INFO"
  logPath : Text := "logs/querylens.jsonl"
  logRotation : Text := "10 MB"
  logRetention : Text := "7 days"

end QueryAdvisor
