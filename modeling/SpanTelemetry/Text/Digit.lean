namespace SpanTelemetry.Text

/-!
# Digits

* `decimalDigit?` — the value of a decimal digit of any script.
* `hexDigit?` — the value of an ASCII hexadecimal digit.
* `readDigits?` — the number that a text of digits writes.
-/

/-- The zeros of the scripts that write decimal numbers; each is followed by its digits one to
    nine. -/
def decimalZeros : List Nat := [
    0x0030, 0x0660, 0x06F0, 0x07C0, 0x0966, 0x09E6, 0x0A66, 0x0AE6, 0x0B66, 0x0BE6, 0x0C66,
    0x0CE6, 0x0D66, 0x0DE6, 0x0E50, 0x0ED0, 0x0F20, 0x1040, 0x1090, 0x17E0, 0x1810, 0x1946,
    0x19D0, 0x1A80, 0x1A90, 0x1B50, 0x1BB0, 0x1C40, 0x1C50, 0xA620, 0xA8D0, 0xA900, 0xA9D0,
    0xA9F0, 0xAA50, 0xABF0, 0xFF10, 0x104A0, 0x10D30, 0x11066, 0x110F0, 0x11136, 0x111D0,
    0x112F0, 0x11450, 0x114D0, 0x11650, 0x116C0, 0x11730, 0x118E0, 0x11950, 0x11C50, 0x11D50,
    0x11DA0, 0x16A60, 0x16AC0, 0x16B50, 0x1D7CE, 0x1D7D8, 0x1D7E2, 0x1D7EC, 0x1D7F6, 0x1E140,
    0x1E2F0, 0x1E950, 0x1FBF0]

/-- The value of a decimal digit. -/
def decimalDigit? (c : Char) : Option Nat :=
  (decimalZeros.find? fun z => z ≤ c.toNat && c.toNat < z + 10).map (c.toNat - ·)

/-- The value of an ASCII hexadecimal digit, in either case. -/
def hexDigit? (c : Char) : Option Nat :=
  if '0' ≤ c ∧ c ≤ '9' then some (c.toNat - '0'.toNat)
  else if 'a' ≤ c ∧ c ≤ 'f' then some (c.toNat - 'a'.toNat + 10)
  else if 'A' ≤ c ∧ c ≤ 'F' then some (c.toNat - 'A'.toNat + 10)
  else none

/-- The number that digits of a base write, given the number that the digits before them
    write; `none` if a character is no digit. -/
def readDigitsAfter (digit? : Char → Option Nat) (base : Nat) (high : Nat) :
    List Char → Option Nat
  | [] => some high
  | c :: rest => (digit? c).bind fun d => readDigitsAfter digit? base (high * base + d) rest

/-- The number that a non-empty text of digits writes in a base. -/
def readDigits? (digit? : Char → Option Nat) (base : Nat) (text : List Char) : Option Nat :=
  if text.isEmpty then none else readDigitsAfter digit? base 0 text

/-- The number that a non-empty text of decimal digits writes. -/
def readDecimal? : List Char → Option Nat := readDigits? decimalDigit? 10

/-- The number that a non-empty text of hexadecimal digits writes. -/
def readHex? : List Char → Option Nat := readDigits? hexDigit? 16

/-- The integer that hexadecimal digits write, with a minus sign in front of a negative one. -/
def readSignedHex? : List Char → Option Int
  | '-' :: digits => (readHex? digits).map fun n => -(n : Int)
  | digits => (readHex? digits).map fun n => (n : Int)

end SpanTelemetry.Text
