import SpanTelemetry.Value.Basic

namespace SpanTelemetry

/-!
# Quantities

What programs note as numbers, such as a sampling percentage or a measured value, is handed on
as it was given.

* `Quantity` — a number as it was given, if it was.
* `Quantity.isNumber` — whether a quantity is a given number.
-/

/-- A number as it was given: whole numbers and doubles stay apart, and a flag or a text that
    stands for a number stays one. `none` if it is not known. -/
abbrev Quantity := Option Scalar

namespace Quantity

/-- A whole number as a quantity. -/
def int (n : Int) : Quantity := some (.int n)

/-- A double as a quantity. -/
def double (x : Binary64) : Quantity := some (.double x)

/-- Whether a quantity is the given number, as a whole number or as a double. -/
def isNumber (q : Quantity) (n : Nat) : Bool :=
  match q with
  | some (.int k) => k == (n : Int)
  | some (.double x) => decide (x = Binary64.ofNat n)
  | _ => false

end Quantity

end SpanTelemetry
