import QueryAdvisor.Audit
import QueryAdvisor.Audit.Template
import QueryAdvisor.Settings

/-!
# Where the log goes

A log file takes the records from a threshold upwards, one line each. The message of a record with
fields is a template for them; that of a record without fields stands as it is. A message that no
encoding has a place for leaves no line.
-/

namespace QueryAdvisor

/-- An open log file. -/
structure LogSink where
  path : Text
  threshold : Severity

/-- A line of a log file: the record, and the text it is shown as. -/
structure LogLine where
  text : Text
  record : Record

/-- The record with its message filled by its fields. -/
def Record.filled (record : Record) : Except TemplateFault Record :=
  if record.fields.isEmpty then .ok record
  else (Template.fill record.fields record.message).map fun message =>
    { record with message := message }

namespace LogSink

/-- The file at the path given, else at the path configured, with the threshold configured; none if
that is the name of no severity. An empty path is none. -/
def open? (settings : Settings) (path : Option Text) : Option LogSink :=
  (Severity.ofName? settings.logLevel).map fun threshold =>
    { path := (path.filter (!·.isEmpty)).getD settings.logPath, threshold := threshold }

/-- The line for a record whose message is filled, unless it cannot be encoded. -/
def line? (record : Record) : Option LogLine :=
  if record.message.hasSurrogate then none
  else some ⟨record.message ++ [CodePoint.lineFeed], record⟩

/-- The line that a record leaves in the file, if it leaves one. A record below the threshold is not
looked at. -/
def write (sink : LogSink) (record : Record) : Except TemplateFault (Option LogLine) :=
  if record.severity.rank < sink.threshold.rank then .ok none else record.filled.map line?

/-- The lines that some records leave in the file. -/
def lines (sink : LogSink) (records : List Record) : Except TemplateFault (List LogLine) :=
  (records.mapM sink.write).map fun lines => lines.filterMap id

end LogSink

end QueryAdvisor
