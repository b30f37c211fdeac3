import SpanTelemetry.Value.Basic

namespace SpanTelemetry

/-!
# Frozen values

A resource describes a component for as long as it runs, so it keeps its values in a form that
nobody can change.

* `Value.frozen` — a value as a resource keeps it.
-/

namespace Value

mutual

/-- A value as a resource keeps it: sequences are tuples, and no field has an empty name. -/
def frozen : Value → Value
  | .scalar s => .scalar s
  | .null => .null
  | .list elements => .tuple (frozenElements elements)
  | .tuple elements => .tuple (frozenElements elements)
  | .bytes content => .bytes content
  | .object fields => .object (frozenFields fields)

/-- The elements of a sequence as a resource keeps them. -/
def frozenElements : List Value → List Value
  | [] => []
  | v :: rest => frozen v :: frozenElements rest

/-- The fields of an object as a resource keeps them, without those that have an empty name. -/
def frozenFields : List (String × Value) → List (String × Value)
  | [] => []
  | (k, v) :: rest =>
      if k.isEmpty then frozenFields rest else (k, frozen v) :: frozenFields rest

end

end Value

end SpanTelemetry
