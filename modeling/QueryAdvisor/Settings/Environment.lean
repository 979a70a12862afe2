import QueryAdvisor.Number.Lenient
import QueryAdvisor.Settings
import QueryAdvisor.Settings.VariableFile
import QueryAdvisor.Text.Lower

/-!
# Settings from the environment

Each setting has the name of a variable. It is taken from the environment, else from the variable file,
else it has its default; capitals and small letters in names are the same. Faults are listed in the
order of the settings, then the names in the file that belong to no setting.
-/

namespace QueryAdvisor

/-- Why the settings cannot be read. -/
inductive SettingFault where
  | notReal
  | notWhole
  /-- A whole number of too many digits. -/
  | wholeTooLong
  | unknownName
  deriving DecidableEq, Repr

/-- A setting, or a default for it and what is wrong. -/
structure SettingResult (α : Type) where
  value : α
  fault : Option SettingFault := none

namespace Settings

/-- The names of the settings, in order. -/
def names : List Text := [
  "OPENAI_API_KEY", "LLM_MODEL", "LLM_TEMPERATURE", "LLM_TIMEOUT_S", "SANDBOX_DATABASE_URL",
  "PG_HOST", "PG_PORT", "PG_DB", "PG_USER", "PG_PASSWORD", "STATEMENT_TIMEOUT_MS",
  "HISTORY_DB_PATH", "HISTORY_MAX", "LOG_LEVEL", "LOG_PATH", "LOG_ROTATION", "LOG_RETENTION"]

/-- A name in small letters. -/
def fold (name : Text) : Text := Text.lower name

/-- The values of all variables by their folded names, the later ones of a name first. -/
def merge (environment : List (Text × Text)) (file : List VariableFile.Binding) : List (Text × Text) :=
  (environment.reverse.map fun v => (fold v.1, v.2)) ++
    ((file.foldl (fun values v => VariableFile.assign (fold v.1) v.2 values) []).filterMap fun v =>
      v.2.map fun value => (v.1, value))

/-- The value of the variable of that name. -/
def lookup (values : List (Text × Text)) (name : Text) : Option Text :=
  values.lookup (fold name)

def textOr (default : Text) (value : Option Text) : SettingResult Text := ⟨value.getD default, none⟩

def realOr (default : Quantity) : Option Text → SettingResult Quantity
  | none => ⟨default, none⟩
  | some t =>
    match Number.real? t with
    | some x => ⟨.real x, none⟩
    | none => ⟨default, some .notReal⟩

def wholeOr (default : Int) : Option Text → SettingResult Int
  | none => ⟨default, none⟩
  | some t =>
    match Number.whole t with
    | .ok n => ⟨n, none⟩
    | .error .malformed => ⟨default, some .notWhole⟩
    | .error .tooLong => ⟨default, some .wholeTooLong⟩

/-- The names in a variable file that belong to no setting, in small letters. Without a value they do
not count. -/
def unknownNames (file : List VariableFile.Binding) : List Text :=
  ((file.foldl (fun values v => VariableFile.assign (fold v.1) v.2 values) []).filter fun v =>
    (v.2.any fun value => !value.isEmpty) && !(names.map fold).contains v.1).map (·.1)

/-- The settings, or everything that is wrong with them. -/
def ofEnvironment (environment : List (Text × Text)) (file : Text) :
    Except (List (Text × SettingFault)) Settings :=
  let bindings := VariableFile.read environment file
  let get := lookup (merge environment bindings)
  let defaults : Settings := {}
  let temperature := realOr defaults.temperature (get "LLM_TEMPERATURE")
  let timeout := realOr defaults.modelTimeout (get "LLM_TIMEOUT_S")
  let port := wholeOr defaults.port (get "PG_PORT")
  let statementTimeout := wholeOr defaults.statementTimeout (get "STATEMENT_TIMEOUT_MS")
  let historyMax := wholeOr defaults.historyMax (get "HISTORY_MAX")
  let text (default : Text) (name : Text) : Text := (get name).getD default
  let faults : List (Text × Option SettingFault) := [
    ("LLM_TEMPERATURE", temperature.fault), ("LLM_TIMEOUT_S", timeout.fault),
    ("PG_PORT", port.fault), ("STATEMENT_TIMEOUT_MS", statementTimeout.fault),
    ("HISTORY_MAX", historyMax.fault)]
  match (faults.filterMap fun f => f.2.map fun fault => (f.1, fault)) ++
      ((unknownNames bindings).map fun name => (name, .unknownName)) with
  | [] => .ok {
      apiKey := (get "OPENAI_API_KEY") <|> defaults.apiKey
      model := text defaults.model "LLM_MODEL"
      temperature := temperature.value
      modelTimeout := timeout.value
      sandboxUrl := (get "SANDBOX_DATABASE_URL") <|> defaults.sandboxUrl
      host := text defaults.host "PG_HOST"
      port := port.value
      database := text defaults.database "PG_DB"
      user := text defaults.user "PG_USER"
      password := text defaults.password "PG_PASSWORD"
      statementTimeout := statementTimeout.value
      historyPath := text defaults.historyPath "HISTORY_DB_PATH"
      historyMax := historyMax.value
      logLevel := text defaults.logLevel "LOG_LEVEL"
      logPath := text defaults.logPath "LOG_PATH"
      logRotation := text defaults.logRotation "LOG_ROTATION"
      logRetention := text defaults.logRetention "LOG_RETENTION" }
  | faults => .error faults

/-- The settings as an object, under the names of their variables. -/
def toJson (s : Settings) : Json :=
  .object [("OPENAI_API_KEY", .ofText? s.apiKey), ("LLM_MODEL", .str s.model),
    ("LLM_TEMPERATURE", s.temperature.toJson), ("LLM_TIMEOUT_S", s.modelTimeout.toJson),
    ("SANDBOX_DATABASE_URL", .ofText? s.sandboxUrl), ("PG_HOST", .str s.host),
    ("PG_PORT", .int s.port), ("PG_DB", .str s.database), ("PG_USER", .str s.user),
    ("PG_PASSWORD", .str s.password), ("STATEMENT_TIMEOUT_MS", .int s.statementTimeout),
    ("HISTORY_DB_PATH", .str s.historyPath), ("HISTORY_MAX", .int s.historyMax),
    ("LOG_LEVEL", .str s.logLevel), ("LOG_PATH", .str s.logPath),
    ("LOG_ROTATION", .str s.logRotation), ("LOG_RETENTION", .str s.logRetention)]

end Settings

end QueryAdvisor
