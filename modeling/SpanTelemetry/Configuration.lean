import SpanTelemetry.ConnectionString

namespace SpanTelemetry

open Text

/-!
# Configuration

* `GivenSettings` — the settings that a program gives to an exporter.
* `Surroundings` — what is found around the program.
* `Configuration.resolve` — given settings completed from the surroundings.
-/

/-- What a program finds around it: environment variables and the name of the host. -/
structure Surroundings where
  environment : Table String := ∅
  hostName : String

/-- Settings as they are given in a program; those that are not given come from the environment. A
    setting may be given without a value. -/
structure GivenSettings where
  connectionString : Option (Option String) := none
  statusCodesFail : Option (Option Bool) := none
  roleName : Option (Option String) := none
  roleInstance : Option (Option String) := none
  preaggregatedMetrics : Option (Option Bool) := none
  deriving DecidableEq, Repr

/-- The settings of an exporter. A flag without a value does not hold. -/
structure Configuration where
  connectionString : Option String
  /-- Whether HTTP status codes from 400 on mean failure. -/
  statusCodesFail : Option Bool
  roleName : Option String
  roleInstance : Option String
  /-- Whether duration metrics are sent. -/
  preaggregatedMetrics : Option Bool
  instrumentationKey : Option String
  deriving DecidableEq, Repr

/-- A text that is there and not empty. -/
def nonEmpty? (text : Option String) : Option String := text.filter fun t => !t.isEmpty

/-- The flag in an environment variable: any text but `true` in any case means that it does not
    hold. -/
def Surroundings.flag (around : Surroundings) (name : String) (fallback : Bool) : Bool :=
  match around.environment.get? name with
  | none => fallback
  | some text => lowercase (trim text.toList) == "true".toList

/-- Settings completed from the environment. An empty connection string names no instrumentation
    key; any other has to. -/
def Configuration.resolve (given : GivenSettings) (around : Surroundings) :
    Except ConnectionStringError Configuration := do
  let lookup := around.environment.get?
  let connectionString := given.connectionString.getD
    (some ((lookup "APPLICATIONINSIGHTS_CONNECTION_STRING").getD ""))
  let instrumentationKey ← (nonEmpty? connectionString).mapM ConnectionString.readInstrumentationKey
  pure {
    connectionString
    statusCodesFail := given.statusCodesFail.getD
      (some (around.flag "APPLICATIONINSIGHTS_CAPTURE_HTTP_SERVER_4XX_AS_ERROR" true))
    roleName := given.roleName.getD (lookup "APPLICATIONINSIGHTS_ROLE_NAME")
    roleInstance := given.roleInstance.getD (lookup "APPLICATIONINSIGHTS_ROLE_INSTANCE")
    preaggregatedMetrics := given.preaggregatedMetrics.getD
      (some (around.flag "APPLICATIONINSIGHTS_PREAGGREGATED_METRICS_ENABLED" false))
    instrumentationKey }

end SpanTelemetry
