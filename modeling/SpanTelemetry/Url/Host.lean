import SpanTelemetry.Text.Cut
import SpanTelemetry.Text.Digit

namespace SpanTelemetry.Url

open Text

/-!
# Host literals

The host of a URL may be an address in square brackets.

* `isIpv4`, `isIpv6` — addresses in their text forms; an IPv6 address may end in an IPv4 one and
  may carry a zone.
* `isFutureAddress` — the form reserved for later versions of addresses.
* `isHostLiteral` — what may stand in brackets.
-/

/-! ### IPv4 -/

/-- One of the four numbers of an IPv4 address: at most 255, without leading zeros. -/
def isOctet (text : List Char) : Bool :=
  text.all Char.isDigit && decide (text.length ≤ 3) && (text == ['0'] || text.head? != some '0') &&
    match readDecimal? text with
    | some n => decide (n ≤ 255)
    | none => false

/-- Four octets between dots. -/
def isIpv4 (text : List Char) : Bool :=
  let octets := pieces '.' text
  octets.length == 4 && octets.all isOctet

/-! ### IPv6 -/

/-- One of the groups of an IPv6 address: one to four hexadecimal digits. -/
def isGroup (text : List Char) : Bool :=
  !text.isEmpty && decide (text.length ≤ 4) && text.all fun c => (hexDigit? c).isSome

/-- The groups of an address where an IPv4 address at the end counts as two groups; `none` if
    what looks like an IPv4 address is none. -/
def expandIpv4 (groups : List (List Char)) : Option (List (List Char)) :=
  match groups.getLast? with
  | some last =>
      if last.contains '.' then
        if isIpv4 last then some (groups.dropLast ++ [['0'], ['0']]) else none
      else some groups
  | none => some groups

/-- How many groups stand on one side of the gap `::`; a side without groups is the text before
    the first or after the last colon. -/
def groupsBesideGap? (side : List (List Char)) : Option Nat :=
  if side == [[]] then some 0 else if side.all isGroup then some side.length else none

/-- Eight groups, or fewer with one gap `::` that stands for at least one group. -/
def areIpv6Groups (groups : List (List Char)) : Bool :=
  let inner := groups.tail.dropLast
  match inner.count [] with
  | 0 => groups.length == 8 && groups.all isGroup
  | 1 =>
      let gap := inner.idxOf [] + 1
      match groupsBesideGap? (groups.take gap), groupsBesideGap? (groups.drop (gap + 1)) with
      | some front, some back => decide (front + back ≤ 7)
      | _, _ => false
  | _ => false

/-- An IPv6 address, with a zone after a percent sign or without. -/
def isIpv6 (text : List Char) : Bool :=
  let (address, zoneValid) :=
    match cutFirst '%' text with
    | none => (text, true)
    | some (address, zone) => (address, !zone.isEmpty && !zone.contains '%')
  let groups := pieces ':' address
  zoneValid && decide (3 ≤ groups.length) &&
    match expandIpv4 groups with
    | some expanded => decide (expanded.length ≤ 9) && areIpv6Groups expanded
    | none => false

/-! ### Literals -/

/-- A `v`, a version in hexadecimal digits, a point and at least one more character. -/
def isFutureAddress : List Char → Bool
  | 'v' :: rest =>
      let version := rest.takeWhile fun c => (hexDigit? c).isSome
      match rest.dropWhile fun c => (hexDigit? c).isSome with
      | '.' :: _ :: _ => !version.isEmpty
      | _ => false
  | _ => false

/-- What may stand in the brackets of a host. -/
def isHostLiteral (text : List Char) : Bool :=
  if text.head? == some 'v' then isFutureAddress text else isIpv6 text

end SpanTelemetry.Url
