import SpanTelemetry.Value.Basic

namespace SpanTelemetry

open Text

/-!
# Values in messages

The form in which a value of unknown shape stands in a message or names a service. It cannot always be
written.

* `quoted` — a string between quotes.
* `Value.literal` — the form of a value inside another one.
* `Value.display` — the form of a value on its own: strings stand without quotes.
* `Value.isVoid` — the values that count as missing.
-/

/-- The escape of a character by its code point, in two, four or eight hexadecimal digits. -/
def codeEscape (code : Nat) : List Char :=
  let digits := Nat.toDigits 16 code
  if code < 0x100 then '\\' :: 'x' :: padded 2 digits
  else if code < 0x10000 then '\\' :: 'u' :: padded 4 digits
  else '\\' :: 'U' :: padded 8 digits

/-- How one character stands between the given quotes: quotes and backslashes are escaped, and
    so is everything that is not printable. -/
def quotedChar (quote c : Char) : List Char :=
  if c = quote || c = '\\' then ['\\', c]
  else if c = '\t' then ['\\', 't']
  else if c = '\n' then ['\\', 'n']
  else if c = '\r' then ['\\', 'r']
  else if isPrintable c then [c]
  else codeEscape c.toNat

/-- A string between single quotes, or between double quotes if it holds single ones only. -/
def quoted (s : String) : String :=
  let text := s.toList
  let quote := if text.contains '\'' && !text.contains '"' then '"' else '\''
  String.ofList (quote :: text.flatMap (quotedChar quote) ++ [quote])

/-- Bytes between quotes; those that are no printable ASCII are escaped. -/
def quotedBytes (content : List UInt8) : String :=
  let text := content.map fun b => Char.ofNat b.toNat
  let quote := if text.contains '\'' && !text.contains '"' then '"' else '\''
  let byte (c : Char) : List Char :=
    if c.toNat < 128 then quotedChar quote c else codeEscape c.toNat
  String.ofList ('b' :: quote :: text.flatMap byte ++ [quote])

/-- The form of a scalar in a message, apart from the quotes of a string. -/
def Scalar.display : Scalar → Written String
  | .string s => .ok s
  | .bool true => .ok "True"
  | .bool false => .ok "False"
  | s => s.text

/-- The parts of a list of forms with a comma and a space between them. -/
def commaSeparated (parts : List String) : String := ", ".intercalate parts

namespace Value

mutual

/-- The form of a value inside another one. -/
def literal : Value → Written String
  | .scalar (.string s) => .ok (quoted s)
  | .scalar s => s.display
  | .null => .ok "None"
  | .list elements => do
      let parts ← literals elements
      pure ("[" ++ commaSeparated parts ++ "]")
  | .tuple elements => do
      match ← literals elements with
      | [single] => pure ("(" ++ single ++ ",)")
      | parts => pure ("(" ++ commaSeparated parts ++ ")")
  | .bytes content => .ok (quotedBytes content)
  | .object fields => do
      let parts ← fieldLiterals fields
      pure ("\x7b" ++ commaSeparated parts ++ "\x7d")

/-- The forms of the elements of a sequence. -/
def literals : List Value → Written (List String)
  | [] => .ok []
  | v :: rest => do
      let first ← literal v
      let others ← literals rest
      pure (first :: others)

/-- The forms of the fields of an object. -/
def fieldLiterals : List (String × Value) → Written (List String)
  | [] => .ok []
  | (k, v) :: rest => do
      let value ← literal v
      let others ← fieldLiterals rest
      pure ((quoted k ++ ": " ++ value) :: others)

end

/-- The form of a value on its own. -/
def display : Value → Written String
  | .scalar s => s.display
  | v => v.literal

/-- The values that count as missing: empty ones, false, zeros and the absent value. -/
def isVoid : Value → Bool
  | .scalar (.string s) => s.isEmpty
  | .scalar (.int n) => n == 0
  | .scalar (.bool b) => !b
  | .scalar (.double x) => x.isZero
  | .null => true
  | .list elements => elements.isEmpty
  | .tuple elements => elements.isEmpty
  | .bytes content => content.isEmpty
  | .object fields => fields.isEmpty

end Value

end SpanTelemetry
