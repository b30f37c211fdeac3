namespace SpanTelemetry.Text

/-!
# Numbers as text

* `decimal`, `signedDecimal` — plain decimal text.
* `maxDigits` — the most decimal digits that an integer is read or written with.
* `padded` — digits filled up with zeros on the left to a least width.
* `signedHex` — hexadecimal text of a least width; a minus sign counts in the width and
  stands before the zeros.
-/

/-- The decimal digits of a number. -/
def decimal (n : Nat) : List Char := Nat.toDigits 10 n

/-- The decimal text of an integer. -/
def signedDecimal (n : Int) : List Char :=
  if n < 0 then '-' :: decimal n.natAbs else decimal n.natAbs

/-- The most decimal digits that an integer is read or written with. -/
def maxDigits : Nat := 4300

/-- Fill a text up with zeros on the left to at least the given width. -/
def padded (width : Nat) (digits : List Char) : List Char :=
  List.replicate (width - digits.length) '0' ++ digits

/-- The hexadecimal text of an integer, in lower case and of at least the given width. -/
def signedHex (width : Nat) (n : Int) : List Char :=
  if n < 0 then '-' :: padded (width - 1) (Nat.toDigits 16 n.natAbs)
  else padded width (Nat.toDigits 16 n.natAbs)

end SpanTelemetry.Text
