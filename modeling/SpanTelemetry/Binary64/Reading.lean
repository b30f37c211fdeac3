import SpanTelemetry.Binary64.Basic
import SpanTelemetry.Text.Blank
import SpanTelemetry.Text.Case
import SpanTelemetry.Text.Cut
import SpanTelemetry.Text.Digit

namespace SpanTelemetry.Binary64

open Text

/-!
# Reading doubles

The texts that are read as doubles are decimal numbers with an optional fraction and
exponent, and the names of infinity and of not-a-number in any case, each with an optional
sign and between blanks.  Digits of any script count, and single underscores may stand between
digits.

* `ofDecimal` — the double nearest to a decimal number.
* `read?` — the double that a text writes.
-/

/-- The double nearest to `coefficient * 10 ^ exponent`. A non-zero number of `10 ^ 309` or more
    is infinite, and one below `10 ^ -324` is zero, so that no power beyond these is computed. -/
def ofDecimal (negative : Bool) (coefficient : Nat) (exponent : Int) : Binary64 :=
  if coefficient = 0 then ofRank negative 0
  else if 309 ≤ exponent then .infinite negative
  else if 0 ≤ exponent then ofRatio negative (coefficient * tenTo exponent.toNat) 1
  else if Nat.log2 coefficient + 325 ≤ (-exponent).toNat then ofRank negative 0
  else ofRatio negative coefficient (tenTo (-exponent).toNat)

/-! ### The grammar -/

/-- Write blanks and digits beyond ASCII as a space and the ASCII digit; `none` if there is
    another character beyond ASCII. -/
def plainChar? (c : Char) : Option Char :=
  if c.toNat < 127 then some c
  else if isBlank c then some ' '
  else (decimalDigit? c).map fun d => Char.ofNat ('0'.toNat + d)

/-- The blanks that may surround a number: the space and the ASCII tabs and line ends. -/
def isMargin (c : Char) : Bool := c = ' ' || (9 ≤ c.toNat && c.toNat ≤ 13)

/-- Remove the underscores of a number; each has to stand alone between two digits. -/
def dropUnderscores? : List Char → Option (List Char)
  | a :: '_' :: b :: rest =>
      if a.isDigit && b.isDigit then (dropUnderscores? (b :: rest)).map (a :: ·) else none
  | c :: rest => if c = '_' then none else (dropUnderscores? rest).map (c :: ·)
  | [] => some []

/-- Take a sign off the start of a text; the first part tells whether it is a minus. -/
def takeSign : List Char → Bool × List Char
  | '-' :: rest => (true, rest)
  | '+' :: rest => (false, rest)
  | text => (false, text)

/-- The exponent that follows the digits of a number: nothing, or an `e` with an optionally
    signed integer. -/
def readExponent? : List Char → Option Int
  | [] => some 0
  | c :: rest =>
      if c = 'e' || c = 'E' then
        let (minus, digits) := takeSign rest
        (readDecimal? digits).map fun n => if minus then -(n : Int) else (n : Int)
      else none

/-- The double that an unsigned decimal number writes. -/
def readUnsigned? (negative : Bool) (text : List Char) : Option Binary64 :=
  let whole := text.takeWhile Char.isDigit
  let afterWhole := text.dropWhile Char.isDigit
  let (fraction, tail) :=
    match afterWhole with
    | '.' :: rest => (rest.takeWhile Char.isDigit, rest.dropWhile Char.isDigit)
    | _ => ([], afterWhole)
  (readDecimal? (whole ++ fraction)).bind fun coefficient =>
    (readExponent? tail).map fun exponent =>
      ofDecimal negative coefficient (exponent - fraction.length)

/-- The double that a text without blanks and underscores writes. -/
def readPlain? (text : List Char) : Option Binary64 :=
  let (negative, rest) := takeSign text
  let name := asciiLowercase rest
  if name = "inf".toList || name = "infinity".toList then some (.infinite negative)
  else if name = "nan".toList then some .nan
  else readUnsigned? negative rest

/-- The double that a text writes. -/
def read? (text : String) : Option Binary64 :=
  (text.toList.mapM plainChar?).bind fun plain =>
    (dropUnderscores? (dropEndWhile isMargin (plain.dropWhile isMargin))).bind readPlain?

end SpanTelemetry.Binary64
