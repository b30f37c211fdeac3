import SpanTelemetry.Table
import SpanTelemetry.Text.Basic

namespace SpanTelemetry

open Text

/-!
# Connection strings

A connection string holds settings as `key=value` between semicolons.

* `ConnectionString.read` — the settings in a connection string.
* `ConnectionString.readInstrumentationKey` — the one setting that has to be there.
* `ConnectionStringError` — why a connection string is refused.
-/

/-- Why a connection string is refused. -/
inductive ConnectionStringError where
  /-- A segment is no pair of a key and a value. -/
  | invalidSegment (segment : String)
  /-- No instrumentation key is named. -/
  | missingInstrumentationKey
  deriving DecidableEq, Repr

/-- The text of an error. -/
def ConnectionStringError.message : ConnectionStringError → String
  | invalidSegment segment => "Invalid connection string segment: " ++ segment
  | missingInstrumentationKey => "Connection string is missing the InstrumentationKey"

namespace ConnectionString

/-- A key, in lower case, with its value, both without blanks around them. -/
def readSegment (segment : List Char) : Except ConnectionStringError (String × String) :=
  let invalid := ConnectionStringError.invalidSegment (String.ofList segment)
  match cutFirst '=' segment with
  | none => .error invalid
  | some (key, value) =>
      if (trim key).isEmpty then .error invalid
      else .ok (String.ofList (lowercase (trim key)), String.ofList (trim value))

/-- The segments between semicolons that are not blank, without the blanks around them. -/
def segments (text : String) : List (List Char) :=
  ((pieces ';' text.toList).map trim).filter fun segment => !segment.isEmpty

/-- The settings in a connection string; of equal keys the last counts. -/
def read (text : String) : Except ConnectionStringError (Table String) :=
  ((segments text).mapM readSegment).map Table.ofList

/-- The key of the instrumentation key. -/
abbrev instrumentationKey : String := "instrumentationkey"

/-- The instrumentation key in a connection string. -/
def readInstrumentationKey (text : String) : Except ConnectionStringError String := do
  let settings ← read text
  match settings.get? instrumentationKey with
  | some key => if key.isEmpty then .error .missingInstrumentationKey else .ok key
  | none => .error .missingInstrumentationKey

end ConnectionString

end SpanTelemetry
