import SpanTelemetry.Binary64.Shortest
import SpanTelemetry.Text.Basic

namespace SpanTelemetry

open Text

/-!
# JSON

* `Json` — JSON values; whole numbers and doubles are told apart.
* `Json.encodeString` — a string between quotes, in ASCII.
* `Json.compact` — the text of a value, without spaces.
-/

/-- A JSON value. The fields of an object keep their order. -/
inductive Json where
  | null
  | bool (b : Bool)
  | int (n : Int)
  | double (x : Binary64)
  | string (s : String)
  | array (elements : List Json)
  | object (fields : List (String × Json))
  deriving Inhabited

namespace Json

/-! ### Strings -/

/-- An escape of four hexadecimal digits. -/
def unicodeEscape (code : Nat) : List Char := '\\' :: 'u' :: padded 4 (Nat.toDigits 16 code)

/-- How one character stands in a string: characters beyond ASCII are escaped, those beyond the
    first plane as two surrogates. -/
def escapeChar (c : Char) : List Char :=
  if c = '"' then ['\\', '"']
  else if c = '\\' then ['\\', '\\']
  else if c = '\n' then ['\\', 'n']
  else if c = '\r' then ['\\', 'r']
  else if c = '\t' then ['\\', 't']
  else if c.toNat = 8 then ['\\', 'b']
  else if c.toNat = 12 then ['\\', 'f']
  else if 32 ≤ c.toNat ∧ c.toNat < 127 then [c]
  else if c.toNat < 0x10000 then unicodeEscape c.toNat
  else
    let above := c.toNat - 0x10000
    unicodeEscape (0xD800 + above / 1024) ++ unicodeEscape (0xDC00 + above % 1024)

/-- A string between quotes. -/
def encodeString (s : String) : List Char := '"' :: s.toList.flatMap escapeChar ++ ['"']

/-! ### Values -/

/-- A double as a number; one that is not finite has no number and is written as its name. -/
def encodeDouble : Binary64 → List Char
  | .nan => encodeString "NaN"
  | .infinite negative => encodeString (if negative then "-Infinity" else "Infinity")
  | x => x.text.toList

mutual

/-- The characters of a value. -/
def encode : Json → List Char
  | .null => "null".toList
  | .bool b => if b then "true".toList else "false".toList
  | .int n => signedDecimal n
  | .double x => encodeDouble x
  | .string s => encodeString s
  | .array elements => '[' :: encodeElements elements ++ [']']
  | .object fields => '\x7b' :: encodeFields fields ++ ['\x7d']

/-- The characters of the elements of an array, with commas between them. -/
def encodeElements : List Json → List Char
  | [] => []
  | [v] => encode v
  | v :: w :: rest => encode v ++ ',' :: encodeElements (w :: rest)

/-- The characters of the fields of an object, with commas between them. -/
def encodeFields : List (String × Json) → List Char
  | [] => []
  | [(k, v)] => encodeString k ++ ':' :: encode v
  | (k, v) :: f :: rest => encodeString k ++ ':' :: encode v ++ ',' :: encodeFields (f :: rest)

end

/-- The text of a value, without spaces. -/
def compact (v : Json) : String := String.ofList v.encode

end Json

end SpanTelemetry
