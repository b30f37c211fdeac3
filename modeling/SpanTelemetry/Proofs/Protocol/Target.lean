import SpanTelemetry.Proofs.Protocol.Family
import SpanTelemetry.Proofs.Protocol.Written

namespace SpanTelemetry

open Text

/-!
# Calls and their targets

Calls without a target would be taken for one and the same. So every protocol ends its chain of attributes
with a name of its own, and a call of which nothing is known counts as one within the process. One gap is
left: the messages of namespaces with conventions of their own, of which neither the broker nor the queue
is known. A call whose port or status code cannot be written is not described at all.

* `ProtocolFamily.endpointKeys` — the keys whose strings name the other side of a call.
* `CallProtocol.name?` — the name that the chain of a protocol ends with.
* `Attributes.IsUnplacedMessage` — the gap.
* `DependencyData.target_describe`, `DependencyData.type_describe` — target and type by protocol.
* `Attributes.messagingEndpoint?_eq_ok_none_iff` — the only chain that may end with nothing.
* `DependencyData.target_of_nothing_known` — what a chain ends with.
* `DependencyData.has_target_or_inProcess` — a call has a target or is one within the process, outside of
  the gap.
-/

/-! ### Names of the other side -/

namespace ProtocolFamily

/-- The keys whose strings name the other side of a connection. -/
def connectionNames : List String :=
  [AttributeKey.peerService, AttributeKey.netPeerName, AttributeKey.netPeerIp]

/-- The keys whose strings name the other side of a call of the family. -/
def endpointKeys : ProtocolFamily → List String
  | .http => [AttributeKey.httpHost, AttributeKey.httpUrl] ++ connectionNames
  | .rpc => connectionNames
  | .database => AttributeKey.dbName :: connectionNames
  | .messaging =>
      [AttributeKey.messagingDestination, AttributeKey.peerAddress,
        AttributeKey.messageBusDestination] ++ connectionNames
  | .peer => connectionNames

/-- The connection is asked by every family. -/
theorem connectionNames_subset (family : ProtocolFamily) : connectionNames ⊆ family.endpointKeys := by
  cases family <;> decide

end ProtocolFamily

/-- The name of a protocol itself: a fixed one for HTTP, and the system for the others. -/
def CallProtocol.name? : CallProtocol → Option String
  | .http => some "Http"
  | .rpc system => some system
  | .database system => some system
  | .messaging system => some system
  | .peer => none

namespace Attributes

variable {attributes : Attributes}

/-- The component that answered an HTTP call, if it is not the caller's own. -/
def otherComponent? (attributes : Attributes) (appId : Option String) : Option String :=
  attributes.targetAppId?.filter fun other => some other ≠ appId

/-- Messages of a namespace with conventions of its own, of which neither the broker nor the queue is
    known. -/
structure IsUnplacedMessage (attributes : Attributes) : Prop where
  family : attributes.family = .messaging
  azureNamespace : attributes.string? AttributeKey.azureNamespace = some "Microsoft.EventHub" ∨
    attributes.string? AttributeKey.azureNamespace = some "Microsoft.ServiceBus"
  broker : attributes.string? AttributeKey.peerAddress = none
  queue : attributes.string? AttributeKey.messageBusDestination = none

/-! ### Chains -/

/-- Attributes name the family that they belong to. -/
theorem isNamedBy_family (attributes : Attributes) :
    attributes.family.isNamedBy attributes = true := by
  unfold family
  cases hfound : ProtocolFamily.all.find? (·.isNamedBy attributes) with
  | some found => exact List.find?_some hfound
  | none => rfl

/-- A message goes through some system. -/
theorem isSome_messagingSystem?_of_family (h : attributes.family = .messaging) :
    attributes.messagingSystem?.isSome = true := by
  rw [isSome_messagingSystem?, ← h]
  exact attributes.isNamedBy_family

/-- Nothing is known of a connection without names. -/
theorem peerTarget?_eq_ok_none
    (h : ∀ key ∈ ProtocolFamily.connectionNames, attributes.string? key = none) (port : Int) :
    attributes.peerTarget? port = .ok none := by
  have hname : attributes.string? AttributeKey.netPeerName = none := h _ (by decide)
  have hip : attributes.string? AttributeKey.netPeerIp = none := h _ (by decide)
  exact peerTarget?_eq_ok_none_iff.2 ⟨h _ (by decide), Option.or_eq_none_iff.2 ⟨hname, hip⟩⟩

/-- Which namespaces have conventions of their own. -/
theorem isSome_azureMessaging?_iff :
    attributes.azureMessaging?.isSome = true ↔
      attributes.string? AttributeKey.azureNamespace = some "Microsoft.EventHub" ∨
        attributes.string? AttributeKey.azureNamespace = some "Microsoft.ServiceBus" := by
  unfold azureMessaging?
  cases attributes.string? AttributeKey.azureNamespace with
  | none => simp
  | some azureNamespace => simp [isAzureMessaging]

/-- The system of a message of the gap is its namespace. -/
theorem IsUnplacedMessage.messagingSystem (h : attributes.IsUnplacedMessage) :
    attributes.messagingSystem?.getD "" = "Microsoft.EventHub" ∨
      attributes.messagingSystem?.getD "" = "Microsoft.ServiceBus" := by
  unfold messagingSystem? azureMessaging?
  rcases h.azureNamespace with hnamespace | hnamespace
  · left
    simp [hnamespace, Option.filter, isAzureMessaging]
  · right
    simp [hnamespace, Option.filter, isAzureMessaging]

/-- **Messages without an endpoint** are those of the gap: all others fall back to their system. -/
theorem messagingEndpoint?_eq_ok_none_iff (h : attributes.family = .messaging) :
    attributes.messagingEndpoint? = .ok none ↔ attributes.IsUnplacedMessage := by
  have hsystem := isSome_messagingSystem?_of_family h
  unfold messagingEndpoint?
  split
  · rename_i hazure
    rw [Except.ok.injEq, joinPresent_eq_none_iff]
    constructor
    · rintro ⟨hbroker, hqueue⟩
      exact ⟨h, isSome_azureMessaging?_iff.1 hazure, hbroker, hqueue⟩
    · intro hunplaced
      exact ⟨hunplaced.broker, hunplaced.queue⟩
  · rename_i hplain
    -- without a namespace of its own, the message goes through the system that is named
    have hnone : attributes.azureMessaging? = none := by simpa using hplain
    rw [messagingSystem?, hnone, Option.none_or] at hsystem
    obtain ⟨system, hnamed⟩ := Option.isSome_iff_exists.1 hsystem
    refine iff_of_false ?_ ?_
    · rw [hnamed, mapM_some_eq_ok_iff]
      rintro ⟨_, -, ⟨⟩⟩
    · intro hunplaced
      exact hplain (isSome_azureMessaging?_iff.2 hunplaced.azureNamespace)

/-- Other messages of which nothing is known go to their system. -/
theorem messagingEndpoint?_of_nothing_known (h : attributes.family = .messaging)
    (hkeys : ∀ key ∈ ProtocolFamily.messaging.endpointKeys, attributes.string? key = none)
    (hplaced : ¬ attributes.IsUnplacedMessage) :
    attributes.messagingEndpoint? = .ok (some (attributes.messagingSystem?.getD "")) := by
  have hdestination : attributes.string? AttributeKey.messagingDestination = none :=
    hkeys _ (by decide)
  have hpeer : attributes.peerTarget? 0 = .ok none :=
    peerTarget?_eq_ok_none
      (fun key hkey => hkeys key (ProtocolFamily.messaging.connectionNames_subset hkey)) 0
  have hplain : attributes.azureMessaging? = none := by
    refine Option.not_isSome_iff_eq_none.1 fun hazure => hplaced ?_
    exact ⟨h, isSome_azureMessaging?_iff.1 hazure, hkeys _ (by decide), hkeys _ (by decide)⟩
  have hsystem := isSome_messagingSystem?_of_family h
  rw [messagingSystem?, hplain, Option.none_or] at hsystem ⊢
  obtain ⟨system, hnamed⟩ := Option.isSome_iff_exists.1 hsystem
  have hplainSome : ¬ attributes.azureMessaging?.isSome = true := by simp [hplain]
  rw [messagingEndpoint?, if_neg hplainSome, hnamed, hdestination, mapM_some_eq_ok_iff]
  exact ⟨system, bind_eq_ok_iff.2 ⟨none, hpeer, rfl⟩, rfl⟩

/-- A database call of which nothing is known goes to its system. -/
theorem databaseTarget_of_nothing_known
    (hkeys : ∀ key ∈ ProtocolFamily.database.endpointKeys, attributes.string? key = none)
    (system : String) : attributes.databaseTarget system = .ok system := by
  have hname : attributes.string? AttributeKey.dbName = none := hkeys _ (by decide)
  have hpeer : attributes.peerTarget? (databasePort system) = .ok none :=
    peerTarget?_eq_ok_none
      (fun key hkey => hkeys key (ProtocolFamily.database.connectionNames_subset hkey)) _
  rw [databaseTarget, hname]
  exact bind_eq_ok_iff.2 ⟨none, hpeer, rfl⟩

/-- An HTTP call of which nothing is known goes to the fallback. -/
theorem httpTarget_of_nothing_known
    (hkeys : ∀ key ∈ ProtocolFamily.http.endpointKeys, attributes.string? key = none) :
    attributes.httpTarget = .ok httpFallback := by
  have hhost : attributes.string? AttributeKey.httpHost = none := hkeys _ (by decide)
  have hurl : attributes.string? AttributeKey.httpUrl = none := hkeys _ (by decide)
  have hpeer : attributes.peerTarget? attributes.schemePort = .ok none :=
    peerTarget?_eq_ok_none
      (fun key hkey => hkeys key (ProtocolFamily.http.connectionNames_subset hkey)) _
  obtain ⟨hservice, hnetwork⟩ := peerTarget?_eq_ok_none_iff.1 hpeer
  have hnamed : attributes.namedTarget? = none := by
    simp [namedTarget?, hostHeaderTarget?, hservice, hhost, hurl]
  rw [httpTarget, hnamed, networkTarget?, hnetwork]
  rfl

end Attributes

/-! ### Targets and types by protocol -/

namespace DependencyData

section Described

variable {d described : DependencyData} {kind : SpanKind} {attributes : Attributes}
  {appId : Option String}

/-- An HTTP call: the type and the target tell whether another component answered. -/
theorem describeHttp_eq_ok_iff :
    d.describeHttp attributes appId = .ok described ↔
      ∃ target resultCode, attributes.httpTarget = .ok target ∧
        (attributes.int? AttributeKey.httpStatusCode).mapM ofInt = .ok resultCode ∧
        { d with
          type := some (if (attributes.otherComponent? appId).isSome then trackedHttpType else httpType)
          target := joinPresent " | " (some target) (attributes.otherComponent? appId)
          resultCode := resultCode.or d.resultCode
          data := attributes.string? AttributeKey.httpUrl } = described := by
  simp only [describeHttp, bind_eq_ok_iff]
  unfold Attributes.otherComponent?
  -- nobody known has answered, or the component itself, or another one
  cases attributes.targetAppId? with
  | none => simp [joinPresent, pure, Except.pure]
  | some other =>
    by_cases hown : some other = appId
    · simp [Option.filter, hown, joinPresent, pure, Except.pure]
    · simp [Option.filter, hown, joinPresent, pure, Except.pure]

variable (h : d.describe kind attributes appId = .ok described)

include h

/-- The target of a call. -/
theorem target_describe :
    match callProtocol attributes with
    | .http => ∃ target, attributes.httpTarget = .ok target ∧
        described.target = joinPresent " | " (some target) (attributes.otherComponent? appId)
    | .rpc system => ∃ peer, attributes.peerTarget? 0 = .ok peer ∧
        described.target = some (peer.getD system)
    | .database system => ∃ target, attributes.databaseTarget system = .ok target ∧
        described.target = some target
    | .messaging _ => attributes.messagingEndpoint? = .ok described.target
    | .peer => ∃ peer, attributes.peerTarget? noDefaultPort = .ok peer ∧
        described.target = peer.or d.target := by
  unfold describe at h
  cases hprotocol : callProtocol attributes with
  | http =>
    simp only [hprotocol, describeHttp_eq_ok_iff] at h
    obtain ⟨target, resultCode, htarget, -, rfl⟩ := h
    exact ⟨target, htarget, rfl⟩
  | rpc system =>
    simp only [hprotocol, describeRpc, bind_eq_ok_iff] at h
    obtain ⟨peer, hpeer, ⟨⟩⟩ := h
    exact ⟨peer, hpeer, rfl⟩
  | database system =>
    simp only [hprotocol, describeDatabase, bind_eq_ok_iff] at h
    obtain ⟨target, htarget, ⟨⟩⟩ := h
    exact ⟨target, htarget, rfl⟩
  | messaging system =>
    simp only [hprotocol, describeMessaging, bind_eq_ok_iff] at h
    obtain ⟨target, htarget, ⟨⟩⟩ := h
    exact htarget
  | peer =>
    simp only [hprotocol, describePeer, bind_eq_ok_iff] at h
    obtain ⟨peer, hpeer, hd⟩ := h
    cases peer <;> obtain ⟨⟩ := hd <;> exact ⟨_, hpeer, rfl⟩

/-- The type of a call. -/
theorem type_describe :
    described.type =
      match callProtocol attributes with
      | .http => some (if (attributes.otherComponent? appId).isSome then trackedHttpType else httpType)
      | .rpc system => some system
      | .database system => some (Attributes.databaseType system)
      | .messaging system => some (messagingType kind system)
      | .peer =>
          if attributes.peerTarget? noDefaultPort = .ok none then some inProcessType else d.type := by
  unfold describe at h
  cases hprotocol : callProtocol attributes with
  | http =>
    simp only [hprotocol, describeHttp_eq_ok_iff] at h
    obtain ⟨target, resultCode, htarget, -, rfl⟩ := h
    rfl
  | rpc system =>
    simp only [hprotocol, describeRpc, bind_eq_ok_iff] at h
    obtain ⟨peer, -, ⟨⟩⟩ := h
    rfl
  | database system =>
    simp only [hprotocol, describeDatabase, bind_eq_ok_iff] at h
    obtain ⟨target, -, ⟨⟩⟩ := h
    rfl
  | messaging system =>
    simp only [hprotocol, describeMessaging, bind_eq_ok_iff] at h
    obtain ⟨target, -, ⟨⟩⟩ := h
    rfl
  | peer =>
    simp only [hprotocol, describePeer, bind_eq_ok_iff] at h
    obtain ⟨peer, hpeer, hd⟩ := h
    cases peer <;> obtain ⟨⟩ := hd <;> simp [hpeer]

end Described

/-! ### Calls without a target -/

variable {described : DependencyData} {kind : SpanKind} {attributes : Attributes} {appId : Option String}

/-- **A call without a target** is one of which nothing is known at all, or a message of the gap. -/
theorem target_eq_none_iff (h : describe {} kind attributes appId = .ok described) :
    described.target = none ↔
      (attributes.family = .peer ∧ attributes.peerTarget? noDefaultPort = .ok none) ∨
        attributes.IsUnplacedMessage := by
  have hplaced : attributes.family ≠ .messaging → ¬ attributes.IsUnplacedMessage :=
    fun hne h => hne h.family
  have htarget := target_describe h
  rw [Attributes.callProtocol_eq_protocol] at htarget
  cases hfamily : attributes.family with
  | http =>
    rw [hfamily] at htarget
    obtain ⟨target, -, htarget⟩ := htarget
    simp [htarget, joinPresent_eq_none_iff, hplaced (by simp [hfamily])]
  | rpc =>
    rw [hfamily] at htarget
    obtain ⟨peer, -, htarget⟩ := htarget
    simp [htarget, hplaced (by simp [hfamily])]
  | database =>
    rw [hfamily] at htarget
    obtain ⟨target, -, htarget⟩ := htarget
    simp [htarget, hplaced (by simp [hfamily])]
  | messaging =>
    -- the only chain that may end with nothing
    rw [hfamily] at htarget
    have hendpoint : attributes.messagingEndpoint? = .ok described.target := htarget
    rw [← Attributes.messagingEndpoint?_eq_ok_none_iff hfamily, hendpoint]
    simp
  | peer =>
    rw [hfamily] at htarget
    obtain ⟨peer, hpeer, htarget⟩ := htarget
    simp [htarget, hpeer, hplaced (by simp [hfamily])]

/-- A message of the gap is not taken for a call within the process. -/
theorem type_of_isUnplacedMessage (h : describe {} kind attributes appId = .ok described)
    (hunplaced : attributes.IsUnplacedMessage) : described.type ≠ some inProcessType := by
  have htype : ∀ system, system = "Microsoft.EventHub" ∨ system = "Microsoft.ServiceBus" →
      messagingType kind system ≠ inProcessType := by
    rintro system (rfl | rfl)
    all_goals
      unfold messagingType
      split <;> decide
  rw [type_describe h, Attributes.callProtocol_eq_protocol, hunplaced.family]
  intro hinProcess
  exact htype _ hunplaced.messagingSystem (Option.some.inj hinProcess)

/-- **What a chain ends with**: where nothing names the other side of a call, its target is the name of
    the protocol, with the component that answered an HTTP call if that is another one. -/
theorem target_of_nothing_known (h : describe {} kind attributes appId = .ok described) {name : String}
    (hname : (callProtocol attributes).name? = some name)
    (hkeys : ∀ key ∈ attributes.family.endpointKeys, attributes.string? key = none)
    (hplaced : ¬ attributes.IsUnplacedMessage) :
    described.target =
      joinPresent " | " (some name)
        (if attributes.family = .http then attributes.otherComponent? appId else none) := by
  have htarget := target_describe h
  rw [Attributes.callProtocol_eq_protocol] at hname htarget
  have hnames : ∀ port, attributes.peerTarget? port = .ok none :=
    Attributes.peerTarget?_eq_ok_none fun key hkey =>
      hkeys key (attributes.family.connectionNames_subset hkey)
  cases hfamily : attributes.family with
  | http =>
    rw [hfamily] at hname hkeys htarget
    cases hname
    obtain ⟨target, hwritten, htarget⟩ := htarget
    obtain ⟨⟩ := (Attributes.httpTarget_of_nothing_known hkeys).symm.trans hwritten
    exact htarget
  | rpc =>
    rw [hfamily] at hname htarget
    cases hname
    obtain ⟨peer, hwritten, htarget⟩ := htarget
    obtain ⟨⟩ := (hnames 0).symm.trans hwritten
    exact htarget
  | database =>
    rw [hfamily] at hname hkeys htarget
    cases hname
    obtain ⟨target, hwritten, htarget⟩ := htarget
    obtain ⟨⟩ := (Attributes.databaseTarget_of_nothing_known hkeys _).symm.trans hwritten
    exact htarget
  | messaging =>
    rw [hfamily] at hname hkeys htarget
    cases hname
    have hwritten := Attributes.messagingEndpoint?_of_nothing_known hfamily hkeys hplaced
    exact Except.ok.inj (Eq.symm (hwritten.symm.trans htarget))
  | peer =>
    rw [hfamily] at hname
    cases hname

/-- **A call has a target or is one within the process**, unless it is a message of the gap. So every HTTP,
    RPC, database and messaging call outside of the gap has a target, and it is the name of the protocol
    where nothing better is known. Calls are described unless their port or their status code has too many
    digits to be written. -/
theorem has_target_or_inProcess (kind : SpanKind) (attributes : Attributes) (appId : Option String) :
    (∀ d, describe {} kind attributes appId = .ok d →
      (d.target.isSome = true ∨ d.type = some inProcessType ↔ ¬ attributes.IsUnplacedMessage) ∧
      (attributes.family ≠ .peer → ¬ attributes.IsUnplacedMessage → d.target.isSome = true) ∧
      ∀ name, (callProtocol attributes).name? = some name →
        (∀ key ∈ attributes.family.endpointKeys, attributes.string? key = none) →
        ¬ attributes.IsUnplacedMessage →
        d.target =
          joinPresent " | " (some name)
            (if attributes.family = .http then attributes.otherComponent? appId else none)) ∧
    (attributes.HasShortIntegers [AttributeKey.netPeerPort, AttributeKey.httpStatusCode] →
      ∃ d, describe {} kind attributes appId = .ok d) := by
  refine ⟨fun d hd => ?_, exists_describe {} kind appId⟩
  have hnone := target_eq_none_iff hd
  refine ⟨⟨?_, fun hplaced => ?_⟩, fun hfamily hplaced => ?_, fun name hname hkeys hplaced => ?_⟩
  · rintro (htarget | htype) hunplaced
    · rw [hnone.2 (Or.inr hunplaced)] at htarget
      cases htarget
    · exact type_of_isUnplacedMessage hd hunplaced htype
  · cases htarget : d.target with
    | some target => exact Or.inl rfl
    | none =>
      -- without a target outside of the gap, nothing is known of the call
      obtain ⟨hpeer, hunknown⟩ | hunplaced := hnone.1 htarget
      · right
        rw [type_describe hd, Attributes.callProtocol_eq_protocol, hpeer]
        exact if_pos hunknown
      · exact absurd hunplaced hplaced
  · rw [Option.isSome_iff_ne_none]
    intro htarget
    obtain ⟨hpeer, -⟩ | hunplaced := hnone.1 htarget
    · exact hfamily hpeer
    · exact hplaced hunplaced
  · exact target_of_nothing_known hd hname hkeys hplaced

end DependencyData

/-- An HTTP call of which only the component that answered is known. -/
def exampleAnsweredCall : Attributes :=
  .ofList [("http.method", .string "GET"),
    ("http.response.header.request_context", .string "appId=cid-v1:shop")]

/-- Its target is the name of the protocol with the component. -/
theorem has_target_or_inProcess_answered :
    (callProtocol exampleAnsweredCall).name? = some "Http" ∧
      (∀ key ∈ exampleAnsweredCall.family.endpointKeys, exampleAnsweredCall.string? key = none) ∧
      exampleAnsweredCall.family ≠ .peer ∧ ¬ exampleAnsweredCall.IsUnplacedMessage ∧
      exampleAnsweredCall.HasShortIntegers [AttributeKey.netPeerPort, AttributeKey.httpStatusCode] ∧
      ∃ d, DependencyData.describe {} .client exampleAnsweredCall none = .ok d ∧
        d.target = some "Http | cid-v1:shop" := by
  have hname : (callProtocol exampleAnsweredCall).name? = some "Http" := by decide +kernel
  have hkeys : ∀ key ∈ exampleAnsweredCall.family.endpointKeys,
      exampleAnsweredCall.string? key = none := by decide +kernel
  have hfamily : exampleAnsweredCall.family = .http := by decide +kernel
  have hplaced : ¬ exampleAnsweredCall.IsUnplacedMessage := fun h => by
    cases hfamily.symm.trans h.family
  have hpeer : exampleAnsweredCall.family ≠ .peer := by
    rw [hfamily]
    decide
  have hnone : ∀ key ∈ [AttributeKey.netPeerPort, AttributeKey.httpStatusCode],
      exampleAnsweredCall.int? key = none := by decide +kernel
  have hshort : exampleAnsweredCall.HasShortIntegers
      [AttributeKey.netPeerPort, AttributeKey.httpStatusCode] := by
    intro key hkey n hn
    rw [hnone key hkey] at hn
    cases hn
  obtain ⟨hdescribed, hexists⟩ :=
    DependencyData.has_target_or_inProcess .client exampleAnsweredCall none
  obtain ⟨d, hd⟩ := hexists hshort
  obtain ⟨-, -, htarget⟩ := hdescribed d hd
  refine ⟨hname, hkeys, hpeer, hplaced, hshort, d, hd, (htarget _ hname hkeys hplaced).trans ?_⟩
  decide +kernel

/-- Not every call has a target or is one within the process: a message to an event hub that is not named
    has none. -/
theorem unplaced_message_has_no_target :
    ¬ ∀ (kind : SpanKind) (attributes : Attributes) (appId : Option String) (d : DependencyData),
      DependencyData.describe {} kind attributes appId = .ok d →
        d.target.isSome = true ∨ d.type = some inProcessType := by
  intro halways
  have hgap := halways .client (.ofList [("az.namespace", .string "Microsoft.EventHub")]) none
    { type := some "Microsoft.EventHub" } (by decide +kernel)
  exact absurd hgap (by decide)

end SpanTelemetry
