import SpanTelemetry.Binary64.Shortest
import SpanTelemetry.Table
import SpanTelemetry.Text.Basic

namespace SpanTelemetry

/-!
# Attribute values

Instrumentations put values of any shape on a span; only some of them are valid attributes.

* `Scalar` — the values that are valid attributes on their own.
* `Value` — all values.
* `Value.text?` — the text of a valid attribute: a scalar or a sequence of scalars. It cannot always
  be written.
* `Attributes.string?`, `Attributes.int?` — typed look-up: an attribute of another type counts
  as missing.
-/

/-- A value that is a valid attribute on its own. -/
inductive Scalar where
  | string (s : String)
  | int (n : Int)
  | bool (b : Bool)
  | double (x : Binary64)
  deriving DecidableEq, Repr

/-- An attribute value. Only scalars and sequences of scalars are valid attributes. -/
inductive Value where
  | scalar (s : Scalar)
  | null
  | list (elements : List Value)
  | tuple (elements : List Value)
  | bytes (content : List UInt8)
  | object (fields : List (String × Value))

namespace Scalar

/-- The text of a scalar. -/
def text : Scalar → Text.Written String
  | .string s => .ok s
  | .int n => Text.ofInt n
  | .bool true => .ok "true"
  | .bool false => .ok "false"
  | .double x => .ok x.text

end Scalar

namespace Value

/-- A string as a value. -/
def string (s : String) : Value := .scalar (.string s)

/-- An integer as a value. -/
def int (n : Int) : Value := .scalar (.int n)

/-- The scalar that a value is. -/
def scalar? : Value → Option Scalar
  | .scalar s => some s
  | _ => none

/-- The string that a value is. -/
def string? : Value → Option String
  | .scalar (.string s) => some s
  | _ => none

/-- The integer that a value is; a truth value is no integer. -/
def int? : Value → Option Int
  | .scalar (.int n) => some n
  | _ => none

/-- The elements of a sequence. -/
def elements? : Value → Option (List Value)
  | .list elements => some elements
  | .tuple elements => some elements
  | _ => none

/-- The name of the type of a value, as it is reported. -/
def typeName : Value → String
  | .scalar (.string _) => "str"
  | .scalar (.int _) => "int"
  | .scalar (.bool _) => "bool"
  | .scalar (.double _) => "float"
  | .null => "NoneType"
  | .list _ => "list"
  | .tuple _ => "tuple"
  | .bytes _ => "bytes"
  | .object _ => "dict"

/-- The text of a valid attribute: that of a scalar, or those of the scalars of a sequence with
    a comma and a space between them. `none` if the type of the value is not valid. -/
def text? (v : Value) : Option (Text.Written String) :=
  match v.scalar? with
  | some s => some s.text
  | none =>
      match v.elements? with
      | none => none
      | some elements =>
          (elements.mapM scalar?).map fun ss => (ss.mapM Scalar.text).map (", ".intercalate ·)

end Value

/-- The attributes of a span, an event or a resource. -/
abbrev Attributes := Table Value

namespace Attributes

/-- The attribute under a key if it is a string. -/
def string? (attributes : Attributes) (key : String) : Option String :=
  (attributes.get? key).bind Value.string?

/-- The attribute under a key if it is an integer. -/
def int? (attributes : Attributes) (key : String) : Option Int :=
  (attributes.get? key).bind Value.int?

end Attributes

end SpanTelemetry
