import SpanTelemetry.Text.Numeral
import SpanTelemetry.Url.Basic

namespace SpanTelemetry.Url

open Text

/-!
# The endpoint that a URL names

* `defaultPort?` — the port of a scheme that is left out.
* `withoutPort` — a host without the given port.
* `target?` — the host and port of an absolute URL, without user information.
* `path?` — the path of an absolute URL.
-/

/-- The port that a scheme stands for. -/
def defaultPort? (scheme : String) : Option Nat :=
  if scheme = "http" then some 80 else if scheme = "https" then some 443 else none

/-- The ending of a host that names a port. -/
def portEnding (port : Nat) : List Char := ':' :: decimal port

/-- A host without the ending that names the given port. -/
def withoutPort (port : Nat) (host : List Char) : List Char :=
  (dropEnd? (portEnding port) host).getD host

/-- The host of a network location with its port, unless that is the default port of the scheme. -/
def target (u : Url) : List Char :=
  let hostAndPort := afterLast '@' u.authority
  match defaultPort? (String.ofList u.scheme) with
  | some port => withoutPort port hostAndPort
  | none => hostAndPort

/-- The host and port that an absolute URL names; `none` if nothing follows its user
    information. -/
def target? (url : String) : Option String :=
  ((absolute? url.toList).filter fun u => !(afterLast '@' u.authority).isEmpty).map fun u =>
    String.ofList u.target

/-- The path of an absolute URL. -/
def path? (url : String) : Option String :=
  (absolute? url.toList).map fun u => String.ofList u.path

end SpanTelemetry.Url
