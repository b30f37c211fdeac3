import SpanTelemetry.AttributeKey
import SpanTelemetry.Configuration
import SpanTelemetry.Item.Defaults
import SpanTelemetry.Value.Display
import SpanTelemetry.Value.Frozen

namespace SpanTelemetry

open Text

/-!
# Cloud roles

Items name the component that they come from: its role and the instance of the role.

* `Configuration.role?` — the role that is configured or that the resource names.
* `Configuration.instanceName` — the instance of the role.
* `Configuration.defaults` — what every item of a configured mapper carries. What a resource says cannot
  always be written.
-/

/-! ### Resources -/

/-- The text of a resource attribute, unless nothing is left of it once it is frozen. -/
def resourceText? (resource : Attributes) (key : String) : Written (Option String) :=
  (((resource.get? key).map Value.frozen).filter fun v => !v.isVoid).mapM Value.display

/-- The role that a resource names: its service, behind the namespace of the service if it has
    one. -/
def resourceRole? (resource : Attributes) : Written (Option String) := do
  match ← resourceText? resource AttributeKey.serviceName with
  | none => pure none
  | some service =>
      match ← resourceText? resource AttributeKey.serviceNamespace with
      | some space => pure (some (space ++ "." ++ service))
      | none => pure (some service)

/-! ### Roles -/

/-- What the name of a service begins with that nobody has named. -/
abbrev unknownService : String := "unknown_service"

namespace Configuration

/-- The role on the tags: the configured one or that of the resource, unless nobody has named it. -/
def role? (c : Configuration) (resource : Attributes) : Written (Option String) := do
  let role ← match nonEmpty? c.roleName with
    | some role => pure (some role)
    | none => resourceRole? resource
  pure ((nonEmpty? role).filter fun role => !Text.startsWith role unknownService)

/-- The instance of the role: the configured one, that of the resource, or the host. -/
def instanceName (c : Configuration) (resource : Attributes) (hostName : String) :
    Written String :=
  match nonEmpty? c.roleInstance with
  | some name => pure name
  | none => (resourceText? resource AttributeKey.serviceInstanceId).map (·.getD hostName)

/-- The version of this exporter as it is sent. -/
abbrev sdkVersion : String := "otelpy:1.0.0b1"

/-- What every item of a configured mapper carries: the instrumentation key, and the exporter and
    its role as tags. -/
def defaults (c : Configuration) (resource : Attributes) (hostName : String) :
    Written ItemDefaults := do
  let role ← c.role? resource
  let instanceName ← c.instanceName resource hostName
  pure {
    instrumentationKey := nonEmpty? c.instrumentationKey
    tags :=
      (.internalSdkVersion, sdkVersion) :: (.cloudRoleInstance, instanceName) ::
        (role.map fun role => (.cloudRole, role)).toList }

end Configuration

end SpanTelemetry
