import SpanTelemetry.AttributeKey
import SpanTelemetry.Value.Basic

namespace SpanTelemetry.Attributes

/-!
# Targets from peer attributes

Attributes of the network connection name the other side of a call. A port that has too many digits cannot
be written.

* `peerService?` — the logical name of the other side.
* `networkTarget?` — its host, with the port unless that is the default one.
* `peerTarget?` — the first of the two that is there.
-/

/-- The logical name of the other side; no port is ever appended to it. -/
def peerService? (attributes : Attributes) : Option String :=
  attributes.string? AttributeKey.peerService

/-- The host of the other side: its name or else its address. -/
def peerHost? (attributes : Attributes) : Option String :=
  (attributes.string? AttributeKey.netPeerName).or (attributes.string? AttributeKey.netPeerIp)

/-- A host with a port, unless that is missing or the default one. -/
def withPort (defaultPort : Int) (host : String) : Option Int → Text.Written String
  | none => .ok host
  | some port =>
      if port = defaultPort then .ok host else (Text.ofInt port).map (host ++ ":" ++ ·)

/-- The host of the other side, with the port unless that is missing or the default one. -/
def networkTarget? (attributes : Attributes) (defaultPort : Int) : Text.Written (Option String) :=
  attributes.peerHost?.mapM fun host =>
    withPort defaultPort host (attributes.int? AttributeKey.netPeerPort)

/-- The logical name of the other side or else its host and port. -/
def peerTarget? (attributes : Attributes) (defaultPort : Int) : Text.Written (Option String) :=
  match attributes.peerService? with
  | some service => .ok (some service)
  | none => attributes.networkTarget? defaultPort

end SpanTelemetry.Attributes
