import SpanTelemetry.Protocol.Peer
import SpanTelemetry.Url.Endpoint

namespace SpanTelemetry.Attributes

open Text

/-!
# HTTP attributes

* `httpTarget` — the target of an HTTP call, from the first of the attributes that name one.
* `targetAppId?` — the component that answered an HTTP call.
* `serverUrl?` — the URL that a request was sent to.
* `responseCode` — the code that a request was answered with.
* `dependencyName` — the name of a call: spans with a generic name get the method and the path.
-/

/-! ### Calls -/

/-- The target of HTTP calls that name none. -/
abbrev httpFallback : String := "Http"

/-- The port that the scheme of a call leaves out; zero if the scheme has none. -/
def schemePort (attributes : Attributes) : Nat :=
  ((attributes.string? AttributeKey.httpScheme).bind Url.defaultPort?).getD 0

/-- The host of the `Host` header without the port that its scheme leaves out. -/
def hostHeaderTarget? (attributes : Attributes) : Option String :=
  (attributes.string? AttributeKey.httpHost).map fun host =>
    if attributes.schemePort = 0 then host
    else String.ofList (Url.withoutPort attributes.schemePort host.toList)

/-- The target that a call names itself: the logical name of the other side, the `Host` header and the
    URL are asked in turn. -/
def namedTarget? (attributes : Attributes) : Option String :=
  attributes.peerService?
    |>.or attributes.hostHeaderTarget?
    |>.or ((attributes.string? AttributeKey.httpUrl).bind Url.target?)

/-- The target of an HTTP call: the one that it names itself, or else that of the network connection. -/
def httpTarget (attributes : Attributes) : Written String :=
  match attributes.namedTarget? with
  | some target => .ok target
  | none => (attributes.networkTarget? attributes.schemePort).map (·.getD httpFallback)

/-- The context that the other side answered with; of a sequence the first element counts. -/
def requestContext? (attributes : Attributes) : Option String :=
  (attributes.get? AttributeKey.requestContext).bind fun value =>
    match value.elements? with
    | some (first :: _) => first.string?
    | _ => value.string?

/-- The id of the component that answered: what follows the first equality sign of the context. -/
def targetAppId? (attributes : Attributes) : Option String :=
  (attributes.requestContext?.bind (cutFirst? '=')).map Prod.snd

/-- Span names that say no more than the method. -/
def genericHttpNames : List String :=
  ["HTTP OPTIONS", "HTTP GET", "HTTP HEAD", "HTTP POST", "HTTP PUT", "HTTP DELETE", "HTTP TRACE",
    "HTTP CONNECT", "HTTP PATCH"]

/-- The name of an HTTP call: its method and its path, where an empty path is the root. -/
def methodAndPath (method path : String) : String :=
  method ++ " " ++ if path.isEmpty then "/" else path

/-- The name of a call: a generic name of an HTTP span gives way to the method and the path. -/
def dependencyName (attributes : Attributes) (name : String) : String :=
  match attributes.string? AttributeKey.httpMethod with
  | none => name
  | some method =>
      if genericHttpNames.contains name then
        match (attributes.string? AttributeKey.httpUrl).bind Url.path? with
        | none => name
        | some path => methodAndPath method path
      else name

/-! ### Requests -/

/-- The URL that a request was sent to, or what its parts make up. -/
def serverUrl? (attributes : Attributes) : Option String :=
  (attributes.string? AttributeKey.httpUrl).or do
    let scheme ← attributes.string? AttributeKey.httpScheme
    let host ← attributes.string? AttributeKey.httpHost
    let target ← attributes.string? AttributeKey.httpTarget
    some (scheme ++ "://" ++ host ++ target)

/-- The status code of a span: that of HTTP or else that of gRPC. -/
def statusCode? (attributes : Attributes) : Option Int :=
  (attributes.int? AttributeKey.httpStatusCode).or (attributes.int? AttributeKey.rpcGrpcStatusCode)

/-- The code that a request was answered with, zero if there is none. -/
def responseCode (attributes : Attributes) : Written String :=
  ofInt (attributes.statusCode?.getD 0)

end SpanTelemetry.Attributes
