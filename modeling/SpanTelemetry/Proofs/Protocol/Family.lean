import SpanTelemetry.Dependency

namespace SpanTelemetry

/-!
# Families of protocols

Instrumentations may put the attributes of several protocols on one span. The first family that is
named describes the call, and what the others left on the span does not show.

* `ProtocolFamily`, `Attributes.family` — the families, and the one that attributes belong to.
* `ProtocolFamily.keys` — the attributes that the description of a family is made of.
* `ProtocolFamily.protocol` — the protocol of a family, with the system that attributes name for it.
* `Attributes.callProtocol_eq_protocol` — the protocol of a call is that of its family.
-/

/-- The families of protocols, in the order in which they are tried. -/
inductive ProtocolFamily where
  | http
  | rpc
  | database
  | messaging
  | peer
  deriving DecidableEq, Repr

namespace ProtocolFamily

/-! ### Families -/

/-- All families, in the order in which they are tried. -/
def all : List ProtocolFamily := [.http, .rpc, .database, .messaging, .peer]

/-- Whether attributes name a protocol of the family. There is always a peer. -/
def isNamedBy (attributes : Attributes) : ProtocolFamily → Bool
  | .http => (attributes.string? AttributeKey.httpMethod).isSome
  | .rpc => (attributes.string? AttributeKey.rpcSystem).isSome
  | .database => (attributes.string? AttributeKey.dbSystem).isSome
  | .messaging =>
      attributes.string? AttributeKey.azureNamespace = some "Microsoft.EventHub" ||
        attributes.string? AttributeKey.azureNamespace = some "Microsoft.ServiceBus" ||
        (attributes.string? AttributeKey.messagingSystem).isSome
  | .peer => true

/-- The keys of the network connection. -/
def connectionKeys : List String :=
  [AttributeKey.peerService, AttributeKey.netPeerName, AttributeKey.netPeerIp,
    AttributeKey.netPeerPort]

/-- The keys that belong to a family: its own, and those of the network connection. -/
def keys : ProtocolFamily → List String
  | .http =>
      [AttributeKey.httpScheme, AttributeKey.httpHost, AttributeKey.httpUrl,
        AttributeKey.requestContext, AttributeKey.httpStatusCode] ++ connectionKeys
  | .rpc => AttributeKey.rpcSystem :: connectionKeys
  | .database =>
      [AttributeKey.dbSystem, AttributeKey.dbStatement, AttributeKey.dbOperation,
        AttributeKey.dbName] ++ connectionKeys
  | .messaging =>
      [AttributeKey.azureNamespace, AttributeKey.messagingSystem,
        AttributeKey.messagingDestination, AttributeKey.peerAddress,
        AttributeKey.messageBusDestination] ++ connectionKeys
  | .peer => connectionKeys

/-- The protocol of a family, with the system that attributes name for it. -/
def protocol (attributes : Attributes) : ProtocolFamily → CallProtocol
  | .http => .http
  | .rpc => .rpc ((attributes.string? AttributeKey.rpcSystem).getD "")
  | .database => .database ((attributes.string? AttributeKey.dbSystem).getD "")
  | .messaging => .messaging (attributes.messagingSystem?.getD "")
  | .peer => .peer

end ProtocolFamily

namespace Attributes

/-- The family of attributes: the first that they name. -/
def family (attributes : Attributes) : ProtocolFamily :=
  (ProtocolFamily.all.find? (·.isNamedBy attributes)).getD .peer

/-! ### The family of a call -/

/-- A message goes through a system iff attributes name the messaging family. -/
theorem isSome_messagingSystem? (attributes : Attributes) :
    attributes.messagingSystem?.isSome = ProtocolFamily.messaging.isNamedBy attributes := by
  unfold messagingSystem? azureMessaging? ProtocolFamily.isNamedBy
  cases attributes.string? AttributeKey.azureNamespace with
  | none => simp
  | some azureNamespace =>
    by_cases hazure : isAzureMessaging azureNamespace = true
    · have hname := hazure
      simp only [isAzureMessaging, Bool.or_eq_true, decide_eq_true_eq] at hname
      simp [Option.filter, hazure, hname]
    · have hname := hazure
      simp only [isAzureMessaging, Bool.or_eq_true, decide_eq_true_eq, not_or] at hname
      simp [Option.filter, hazure, hname.1, hname.2]

/-- **The protocol of a call** is the one of its family. -/
theorem callProtocol_eq_protocol (attributes : Attributes) :
    callProtocol attributes = attributes.family.protocol attributes := by
  have hmessaging := attributes.isSome_messagingSystem?
  unfold callProtocol family
  simp only [ProtocolFamily.all, List.find?_cons, ← hmessaging]
  -- one family after the other: it is named, or the next one is asked
  cases hmethod : attributes.string? AttributeKey.httpMethod with
  | some method => simp [ProtocolFamily.isNamedBy, ProtocolFamily.protocol, hmethod]
  | none =>
    cases hrpc : attributes.string? AttributeKey.rpcSystem with
    | some system => simp [ProtocolFamily.isNamedBy, ProtocolFamily.protocol, hmethod, hrpc]
    | none =>
      cases hdb : attributes.string? AttributeKey.dbSystem with
      | some system => simp [ProtocolFamily.isNamedBy, ProtocolFamily.protocol, hmethod, hrpc, hdb]
      | none =>
        cases hsystem : attributes.messagingSystem? <;>
          simp [ProtocolFamily.isNamedBy, ProtocolFamily.protocol, hmethod, hrpc, hdb, hsystem]

end Attributes

end SpanTelemetry
