import SpanTelemetry.Protocol.Peer

namespace SpanTelemetry.Attributes

/-!
# Messaging attributes

* `isAzureMessaging` — the namespaces whose spans follow conventions of their own.
* `messagingSystem?` — the system that a message goes through.
* `messagingEndpoint?` — the broker and the queue of a message.
-/

/-- The namespaces whose messaging spans follow conventions of their own. -/
def isAzureMessaging (azureNamespace : String) : Bool :=
  azureNamespace = "Microsoft.EventHub" || azureNamespace = "Microsoft.ServiceBus"

/-- The namespace of a messaging span that follows conventions of its own. -/
def azureMessaging? (attributes : Attributes) : Option String :=
  (attributes.string? AttributeKey.azureNamespace).filter isAzureMessaging

/-- The system that a message goes through. -/
def messagingSystem? (attributes : Attributes) : Option String :=
  attributes.azureMessaging?.or (attributes.string? AttributeKey.messagingSystem)

/-- The broker and the queue that a message goes through. Spans with conventions of their own may
    name neither; others fall back to the system. -/
def messagingEndpoint? (attributes : Attributes) : Text.Written (Option String) :=
  if attributes.azureMessaging?.isSome then
    .ok (Text.joinPresent "/" (attributes.string? AttributeKey.peerAddress)
      (attributes.string? AttributeKey.messageBusDestination))
  else
    (attributes.string? AttributeKey.messagingSystem).mapM fun system => do
      let broker ← attributes.peerTarget? 0
      pure ((Text.joinPresent "/" broker
        (attributes.string? AttributeKey.messagingDestination)).getD system)

end SpanTelemetry.Attributes
