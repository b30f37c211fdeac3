import SpanTelemetry.Text.Basic

namespace SpanTelemetry

/-!
# Log entries

* `LogEntry` — what is reported while spans are mapped and exported.
* `LogEntry.level`, `LogEntry.message` — how an entry is written.
-/

/-- The weight of a log entry. -/
inductive LogLevel where
  | debug
  | warning
  | error
  deriving DecidableEq, Repr

/-- The name of a level. -/
def LogLevel.name : LogLevel → String
  | debug => "DEBUG"
  | warning => "WARNING"
  | error => "ERROR"

/-- What is reported while spans are mapped and exported. -/
inductive LogEntry where
  /-- An attribute has a value of a type that is not valid. -/
  | unexpectedAttribute (typeName : String)
  /-- The sampling percentage of a trace state is no number. -/
  | badSamplingPercentage (text : String)
  /-- A batch was handed over after the shutdown. -/
  | alreadyShutdown
  /-- The sink refused an item. -/
  | exportFailed (reason : String)
  /-- So many spans of a batch were exported. -/
  | exported (spans : Nat)
  /-- A span was left out because of its kind. -/
  | skipped (span reason : String)
  /-- A span was left out because its mapping failed. -/
  | notMapped (span : String)
  deriving DecidableEq, Repr

namespace LogEntry

/-- The weight of an entry. -/
def level : LogEntry → LogLevel
  | unexpectedAttribute _ => .warning
  | badSamplingPercentage _ => .warning
  | alreadyShutdown => .warning
  | exportFailed _ => .error
  | exported _ => .debug
  | skipped _ _ => .warning
  | notMapped _ => .error

/-- The message of an entry. -/
def message : LogEntry → String
  | unexpectedAttribute typeName => "unexpected attribute type: " ++ typeName
  | badSamplingPercentage text => "error parsing sampling percentage trace state: " ++ text
  | alreadyShutdown => "Exporter already shutdown, ignoring batch"
  | exportFailed reason => "Failed to export spans: " ++ reason
  | exported spans => "Exported " ++ Text.integer spans ++ " spans"
  | skipped span reason => "Skipping span " ++ span ++ ": " ++ reason
  | notMapped span => "Failed to map span " ++ span ++ ", skipping it"

/-- The line of an entry: its level and its message. -/
def line (e : LogEntry) : String := e.level.name ++ ": " ++ e.message

end LogEntry

end SpanTelemetry
