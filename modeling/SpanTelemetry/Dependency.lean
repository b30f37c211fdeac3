import SpanTelemetry.Item.Data
import SpanTelemetry.Protocol.Database
import SpanTelemetry.Protocol.Http
import SpanTelemetry.Protocol.Messaging
import SpanTelemetry.Span

namespace SpanTelemetry

/-!
# Dependencies

The type, the target and the data of a call follow from the protocol that its attributes speak
of.  Protocols are tried in a fixed order, and each has a chain of attributes of its own.

* `CallProtocol` — the protocols, with the system that the attributes name.
* `callProtocol` — the protocol of a call.
* `DependencyData.describe` — a dependency with what the protocol says about it, if that can be written.
-/

/-- The protocol of a call, with the system that its attributes name. -/
inductive CallProtocol where
  | http
  | rpc (system : String)
  | database (system : String)
  | messaging (system : String)
  /-- Nothing is known but the connection, if that. -/
  | peer
  deriving DecidableEq, Repr

/-- The protocol of a call: the first in the order of the constructors that an attribute names. -/
def callProtocol (attributes : Attributes) : CallProtocol :=
  if (attributes.string? AttributeKey.httpMethod).isSome then .http
  else
    match attributes.string? AttributeKey.rpcSystem with
    | some system => .rpc system
    | none =>
        match attributes.string? AttributeKey.dbSystem with
        | some system => .database system
        | none =>
            match attributes.messagingSystem? with
            | some system => .messaging system
            | none => .peer

/-! ### Types -/

/-- The type of calls within the process. -/
abbrev inProcessType : String := "InProc"

/-- The type of HTTP calls. -/
abbrev httpType : String := "Http"

/-- The type of HTTP calls to a component that is tracked itself. -/
abbrev trackedHttpType : String := "Http (tracked component)"

/-- The type of the messages that go through a system. -/
def messagingType (kind : SpanKind) (system : String) : String :=
  if kind = .producer then "Queue Message | " ++ system else system

/-- A default port that no connection has, so that every port is shown. -/
def noDefaultPort : Int := 0x7FFFFFFF

/-! ### Descriptions -/

namespace DependencyData

/-- An HTTP call. The id of another component that answered is part of the target. -/
def describeHttp (d : DependencyData) (attributes : Attributes) (appId : Option String) :
    Text.Written DependencyData := do
  let target ← attributes.httpTarget
  let resultCode ← (attributes.int? AttributeKey.httpStatusCode).mapM Text.ofInt
  let d :=
    match attributes.targetAppId? with
    | some other =>
        if some other = appId then { d with type := some httpType, target := some target }
        else { d with type := some trackedHttpType, target := some (target ++ " | " ++ other) }
    | none => { d with type := some httpType, target := some target }
  pure { d with
    resultCode := resultCode.or d.resultCode
    data := attributes.string? AttributeKey.httpUrl }

/-- A remote procedure call. -/
def describeRpc (d : DependencyData) (attributes : Attributes) (system : String) :
    Text.Written DependencyData := do
  let target ← attributes.peerTarget? 0
  pure { d with type := some system, target := some (target.getD system) }

/-- A database call. -/
def describeDatabase (d : DependencyData) (attributes : Attributes) (system : String) :
    Text.Written DependencyData := do
  let target ← attributes.databaseTarget system
  pure { d with
    type := some (Attributes.databaseType system)
    data := attributes.databaseStatement?
    target := some target }

/-- A message that is sent or received. -/
def describeMessaging (d : DependencyData) (kind : SpanKind) (attributes : Attributes)
    (system : String) : Text.Written DependencyData := do
  let target ← attributes.messagingEndpoint?
  pure { d with type := some (messagingType kind system), target }

/-- A call of which at most the connection is known. Without a target it counts as a call within
    the process, because calls without a target would be taken for one and the same. -/
def describePeer (d : DependencyData) (attributes : Attributes) : Text.Written DependencyData := do
  match ← attributes.peerTarget? noDefaultPort with
  | some target => pure { d with target := some target }
  | none => pure { d with type := some inProcessType }

/-- A dependency with what its protocol says about it. -/
def describe (d : DependencyData) (kind : SpanKind) (attributes : Attributes)
    (appId : Option String) : Text.Written DependencyData :=
  match callProtocol attributes with
  | .http => d.describeHttp attributes appId
  | .rpc system => d.describeRpc attributes system
  | .database system => d.describeDatabase attributes system
  | .messaging system => d.describeMessaging kind attributes system
  | .peer => d.describePeer attributes

end DependencyData

end SpanTelemetry
