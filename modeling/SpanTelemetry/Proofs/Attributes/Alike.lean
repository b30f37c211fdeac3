import SpanTelemetry.Mapper.Request
import SpanTelemetry.Proofs.Protocol.Family

namespace SpanTelemetry

/-!
# Attributes that are read alike

The mapper reads an attribute with a meaning of its own only as a value of one type.

* `keyType?` — the type as which the attribute under a key is read.
* `Attributes.ReadAlike` — two tables of attributes of which every reading under some keys is the same.
* `Attributes.ReadAlike.describe_eq` — readings under the keys of its family describe a call.
* `Attributes.Alike` — two tables of attributes of which every such reading is the same, and which do
  the same to every item.
* `Attributes.Alike.describe_eq` and its like — whatever is derived from the readings is the same.
-/

/-! ### Types of keys -/

/-- The types as which attributes are read. -/
inductive KeyType where
  | text
  | integer
  /-- A text, or a sequence that begins with one. -/
  | context
  deriving DecidableEq, Repr

/-- The keys whose attributes are read as texts, those of the bridges apart. -/
def textKeys : List String :=
  [AttributeKey.httpMethod, AttributeKey.httpUrl, AttributeKey.httpScheme, AttributeKey.httpHost,
    AttributeKey.httpTarget, AttributeKey.httpClientIp, AttributeKey.httpUserAgent,
    AttributeKey.netPeerName, AttributeKey.netPeerIp, AttributeKey.peerService,
    AttributeKey.peerAddress, AttributeKey.rpcSystem, AttributeKey.dbSystem,
    AttributeKey.dbStatement, AttributeKey.dbOperation, AttributeKey.dbName,
    AttributeKey.messagingSystem, AttributeKey.messagingDestination,
    AttributeKey.messagingOperation, AttributeKey.azureNamespace,
    AttributeKey.messageBusDestination, AttributeKey.enduserId, AttributeKey.exceptionType,
    AttributeKey.exceptionMessage, AttributeKey.exceptionStacktrace]

/-- The keys whose attributes are read as integers. -/
def integerKeys : List String :=
  [AttributeKey.httpStatusCode, AttributeKey.netPeerPort, AttributeKey.rpcGrpcStatusCode,
    AttributeKey.enqueuedTime, AttributeKey.kafkaRecordQueueTime]

/-- The type as which the attribute under a key is read, if it has a meaning of its own. -/
def keyType? (key : String) : Option KeyType :=
  if Text.startsWith key AttributeKey.bridgeStart || textKeys.contains key then some .text
  else if integerKeys.contains key then some .integer
  else if key = AttributeKey.requestContext then some .context
  else none

/-! ### Readings -/

/-- Two tables of attributes of which every reading under the given keys is the same. -/
structure Attributes.ReadAlike (keys : List String) (a b : Attributes) : Prop where
  string : ∀ key ∈ keys, keyType? key = some .text → a.string? key = b.string? key
  int : ∀ key ∈ keys, keyType? key = some .integer → a.int? key = b.int? key
  context : AttributeKey.requestContext ∈ keys → a.requestContext? = b.requestContext?

namespace Attributes.ReadAlike

variable {a b : Attributes}

/-- The readings of a family include those of the network connection. -/
theorem connection {family : ProtocolFamily} (h : ReadAlike family.keys a b) :
    ReadAlike ProtocolFamily.connectionKeys a b := by
  have hkeys : ∀ key ∈ ProtocolFamily.connectionKeys, key ∈ family.keys := by
    cases family <;> decide
  exact ⟨fun key hkey => h.string key (hkeys key hkey), fun key hkey => h.int key (hkeys key hkey),
    fun hkey => h.context (hkeys _ hkey)⟩

/-! ### Connections -/

/-- The other side of a network connection is the same. -/
theorem networkTarget?_eq (h : ReadAlike ProtocolFamily.connectionKeys a b) (defaultPort : Int) :
    a.networkTarget? defaultPort = b.networkTarget? defaultPort := by
  simp (disch := decide) only [networkTarget?, peerHost?, h.string, h.int]

/-- So is the other side under its logical name. -/
theorem peerTarget?_eq (h : ReadAlike ProtocolFamily.connectionKeys a b) (defaultPort : Int) :
    a.peerTarget? defaultPort = b.peerTarget? defaultPort := by
  have hservice : a.peerService? = b.peerService? := h.string _ (by decide) (by decide)
  rw [peerTarget?, peerTarget?, hservice, h.networkTarget?_eq]

/-! ### HTTP -/

/-- The target of an HTTP call is the same. -/
theorem httpTarget_eq (h : ReadAlike ProtocolFamily.http.keys a b) :
    a.httpTarget = b.httpTarget := by
  have hservice : a.peerService? = b.peerService? := h.string _ (by decide) (by decide)
  have hport : a.schemePort = b.schemePort := by
    simp (disch := decide) only [schemePort, h.string]
  simp (disch := decide) only [httpTarget, namedTarget?, hostHeaderTarget?, hservice, hport,
    h.connection.networkTarget?_eq, h.string]

/-- The component that has answered an HTTP call is the same. -/
theorem targetAppId?_eq (h : ReadAlike ProtocolFamily.http.keys a b) :
    a.targetAppId? = b.targetAppId? := by
  rw [targetAppId?, targetAppId?, h.context (by decide)]

/-! ### Databases and messages -/

/-- The target of a query is the same. -/
theorem databaseTarget_eq (h : ReadAlike ProtocolFamily.database.keys a b) (system : String) :
    a.databaseTarget system = b.databaseTarget system := by
  simp (disch := decide) only [databaseTarget, h.connection.peerTarget?_eq, h.string]

/-- So is its statement. -/
theorem databaseStatement?_eq (h : ReadAlike ProtocolFamily.database.keys a b) :
    a.databaseStatement? = b.databaseStatement? := by
  simp (disch := decide) only [databaseStatement?, h.string]

/-- A message is one of the same Azure service, or of none. -/
theorem azureMessaging?_eq (h : ReadAlike ProtocolFamily.messaging.keys a b) :
    a.azureMessaging? = b.azureMessaging? := by
  simp (disch := decide) only [azureMessaging?, h.string]

/-- A message goes through the same place. -/
theorem messagingEndpoint?_eq (h : ReadAlike ProtocolFamily.messaging.keys a b) :
    a.messagingEndpoint? = b.messagingEndpoint? := by
  simp (disch := decide) only [messagingEndpoint?, h.azureMessaging?_eq,
    h.connection.peerTarget?_eq, h.string]

/-! ### Calls -/

/-- The system is one of the things that a family reads. -/
theorem protocol_eq {family : ProtocolFamily} (h : ReadAlike family.keys a b) :
    family.protocol a = family.protocol b := by
  cases family with
  | http => rfl
  | rpc => simp (disch := decide) only [ProtocolFamily.protocol, h.string]
  | database => simp (disch := decide) only [ProtocolFamily.protocol, h.string]
  | messaging =>
    simp (disch := decide) only [ProtocolFamily.protocol, messagingSystem?, h.azureMessaging?_eq,
      h.string]
  | peer => rfl

/-- **What describes a call**: the readings under the keys of its family.  The kind of the span matters
    only for messages, where it says whether the message is sent, and the id of this component only for
    HTTP. -/
theorem describe_eq (d : DependencyData) {kind kind' : SpanKind} {appId appId' : Option String}
    (hfamily : a.family = b.family) (h : ReadAlike a.family.keys a b)
    (hkind : a.family = .messaging → (kind = .producer ↔ kind' = .producer))
    (happId : a.family = .http → appId = appId') :
    d.describe kind a appId = d.describe kind' b appId' := by
  unfold DependencyData.describe
  rw [callProtocol_eq_protocol a, callProtocol_eq_protocol b, ← hfamily, h.protocol_eq]
  cases hcase : a.family with
  | http =>
    rw [hcase] at h
    simp (disch := decide) only [ProtocolFamily.protocol, DependencyData.describeHttp,
      h.httpTarget_eq, h.targetAppId?_eq, h.string, h.int, happId hcase]
  | rpc =>
    simp only [ProtocolFamily.protocol, DependencyData.describeRpc, h.connection.peerTarget?_eq]
  | database =>
    rw [hcase] at h
    simp only [ProtocolFamily.protocol, DependencyData.describeDatabase, h.databaseStatement?_eq,
      h.databaseTarget_eq]
  | messaging =>
    rw [hcase] at h
    simp only [ProtocolFamily.protocol, DependencyData.describeMessaging, messagingType, hkind hcase,
      h.messagingEndpoint?_eq]
  | peer =>
    simp only [ProtocolFamily.protocol, DependencyData.describePeer, h.connection.peerTarget?_eq]

end Attributes.ReadAlike

/-! ### Tables that are read alike -/

/-- Two tables of attributes of which every reading is the same, and which do the same to items with the same
    being noted. -/
structure Attributes.Alike (a b : Attributes) : Prop where
  string : ∀ key, keyType? key = some .text → a.string? key = b.string? key
  int : ∀ key, keyType? key = some .integer → a.int? key = b.int? key
  context : a.requestContext? = b.requestContext?
  item : ∀ i : Item, i.addAttributes a = i.addAttributes b
  review : reviewAttributes a = reviewAttributes b

namespace Attributes.Alike

variable {a b : Attributes} (h : a.Alike b)
include h

/-- Tables that are read alike are read alike under some keys. -/
theorem readAlike (keys : List String) : ReadAlike keys a b :=
  ⟨fun key _ => h.string key, fun key _ => h.int key, fun _ => h.context⟩

/-- A call has the same name. -/
theorem dependencyName_eq (name : String) : a.dependencyName name = b.dependencyName name := by
  simp (disch := decide) only [dependencyName, h.string]

/-- A request has the same URL. -/
theorem serverUrl?_eq : a.serverUrl? = b.serverUrl? := by
  simp (disch := decide) only [serverUrl?, h.string]

/-- It is answered with the same code. -/
theorem responseCode_eq : a.responseCode = b.responseCode := by
  simp (disch := decide) only [responseCode, statusCode?, h.int]

/-- It comes from the same address. -/
theorem clientIp?_eq : a.clientIp? = b.clientIp? := by
  simp (disch := decide) only [clientIp?, h.string]

/-- The waiting time of a message is the same, or the same failure. -/
theorem enqueuedMillis?_eq (start : Int) : enqueuedMillis? start a = enqueuedMillis? start b := by
  simp (disch := decide) only [enqueuedMillis?, h.int]

/-- A call is of the same family of protocols. -/
theorem family_eq : a.family = b.family := by
  have hnamed : ∀ family : ProtocolFamily, family.isNamedBy a = family.isNamedBy b := by
    intro family
    cases family <;> simp (disch := decide) only [ProtocolFamily.isNamedBy, h.string]
  simp only [family, hnamed]

/-- **Descriptions.**  A call is described alike, whatever its protocol. -/
theorem describe_eq (d : DependencyData) (kind : SpanKind) (appId : Option String) :
    d.describe kind a appId = d.describe kind b appId :=
  ReadAlike.describe_eq d h.family_eq (h.readAlike _) (fun _ => Iff.rfl) fun _ => rfl

end Attributes.Alike

end SpanTelemetry
