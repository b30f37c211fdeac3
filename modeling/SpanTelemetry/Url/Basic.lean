import SpanTelemetry.Text.Case
import SpanTelemetry.Url.Host

namespace SpanTelemetry

open Text

/-!
# Parts of a URL

* `Url` — the parts of a URL.
* `Url.isAuthority` — the network locations that are accepted.
* `Url.split?` — the parts of a text; `none` if its network location is refused.
-/

/-- A URL in its parts. A missing part is empty. -/
structure Url where
  /-- The scheme, in lower case. -/
  scheme : List Char
  /-- The network location: user information, host and port. -/
  authority : List Char
  path : List Char
  query : List Char
  fragment : List Char
  deriving DecidableEq, Repr

namespace Url

/-! ### Character classes -/

/-- Characters that are removed wherever they stand in a URL. -/
def isRemoved (c : Char) : Bool := c = '\t' || c = '\r' || c = '\n'

/-- Control characters and the space, which are removed in front of a URL. -/
def isLeadingControl (c : Char) : Bool := decide (c.toNat ≤ 32)

/-- The characters of a scheme. -/
def isSchemeChar (c : Char) : Bool := c.isAlphanum || c = '+' || c = '-' || c = '.'

/-- The characters that end a network location. -/
def endsAuthority (c : Char) : Bool := c = '/' || c = '?' || c = '#'

/-- Characters whose compatibility form holds one of the delimiters of a URL. -/
def hidesDelimiter (c : Char) : Bool :=
  [0x2100, 0x2101, 0x2105, 0x2106, 0xFF0F, 0x2047, 0x2048, 0x2049, 0xFE16, 0xFE56, 0xFF1F, 0xFE5F,
    0xFF03, 0xFE6B, 0xFF20, 0x2A74, 0xFE13, 0xFE55, 0xFF1A].contains c.toNat

/-! ### Splitting -/

/-- The text that is split: without leading control characters, tabs and line ends. -/
def cleaned (text : List Char) : List Char :=
  (text.dropWhile isLeadingControl).filter fun c => !isRemoved c

/-- Cut off the scheme, a letter followed by scheme characters up to the first colon. -/
def splitScheme (text : List Char) : List Char × List Char :=
  match cutFirst ':' text with
  | some (before, after) =>
      match before with
      | first :: _ =>
          if first.isAlpha && before.all isSchemeChar then (asciiLowercase before, after)
          else ([], text)
      | [] => ([], text)
  | none => ([], text)

/-- Cut off the network location, which stands between two slashes and the first of `/?#`. -/
def splitAuthority : List Char → List Char × List Char
  | '/' :: '/' :: rest =>
      (rest.takeWhile fun c => !endsAuthority c, rest.dropWhile fun c => !endsAuthority c)
  | text => ([], text)

/-- Whether brackets stand around the host only, with an address in them and at most a port
    after them. A user name may hold brackets if the host literal is right without them. -/
def hasValidBrackets (authority : List Char) : Bool :=
  let hostAndPort := afterLast '@' authority
  match cutFirst '[' hostAndPort with
  | some (before, bracketed) =>
      match cutFirst ']' bracketed with
      | some (host, port) =>
          before.isEmpty && (port.isEmpty || port.head? == some ':') && isHostLiteral host
      | none => before.isEmpty && isHostLiteral bracketed
  | none =>
      match cutFirst ':' hostAndPort with
      | some (host, _) => isHostLiteral host
      | none => isHostLiteral hostAndPort

/-- Whether a network location is accepted: brackets come in both kinds and are valid, and no
    character hides a delimiter. -/
def isAuthority (authority : List Char) : Bool :=
  let opened := authority.contains '['
  let closed := authority.contains ']'
  (opened == closed) && (!opened || hasValidBrackets authority) && !authority.any hidesDelimiter

/-- Cut off what follows the first `mark`; a text without it has nothing to cut off. -/
def splitTail (mark : Char) (text : List Char) : List Char × List Char :=
  (cutFirst mark text).getD (text, [])

/-- The parts of a URL; `none` if its network location is refused. -/
def split? (text : List Char) : Option Url :=
  let (scheme, rest) := splitScheme (cleaned text)
  let (authority, rest) := splitAuthority rest
  if isAuthority authority then
    let (rest, fragment) := splitTail '#' rest
    let (path, query) := splitTail '?' rest
    some ⟨scheme, authority, path, query, fragment⟩
  else none

/-- The parts of an absolute URL, which has a scheme and a network location. -/
def absolute? (text : List Char) : Option Url :=
  (split? text).filter fun u => !u.scheme.isEmpty && !u.authority.isEmpty

end Url

end SpanTelemetry
