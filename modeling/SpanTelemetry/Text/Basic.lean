import SpanTelemetry.Text.Blank
import SpanTelemetry.Text.Case
import SpanTelemetry.Text.Cut
import SpanTelemetry.Text.Digit
import SpanTelemetry.Text.Lines
import SpanTelemetry.Text.Numeral
import SpanTelemetry.Text.Printable

namespace SpanTelemetry.Text

/-!
# Text operations on strings

The operations on lists of characters, lifted to `String`.

* `Written` — a text that cannot always be written, because integers with too many digits are not.
* `ofInt` — the decimal text of an integer, if it can be written.
-/

/-- Whether a string begins with another one. -/
def startsWith (s start : String) : Bool := beginsWith start.toList s.toList

/-- The parts of a string before and after the first `mark`. -/
def cutFirst? (mark : Char) (s : String) : Option (String × String) :=
  (cutFirst mark s.toList).map fun (before, after) => (String.ofList before, String.ofList after)

/-! ### Integers -/

/-- Why a text cannot be written. -/
inductive TextError where
  /-- An integer in it has more than `maxDigits` decimal digits. -/
  | tooManyDigits
  deriving DecidableEq, Repr

/-- What can be written, or the reason why it cannot. -/
abbrev Written (α : Type) := Except TextError α

instance instDecidableEqWritten {α : Type} [DecidableEq α] : DecidableEq (Written α)
  | .ok a, .ok b => decidable_of_iff (a = b) (Except.ok.injEq a b ▸ Iff.rfl)
  | .error e, .error f => decidable_of_iff (e = f) (Except.error.injEq e f ▸ Iff.rfl)
  | .ok _, .error _ => isFalse nofun
  | .error _, .ok _ => isFalse nofun

/-- The decimal text of an integer of any size. -/
def integer (n : Int) : String := String.ofList (signedDecimal n)

/-- The decimal text of an integer, unless it has too many digits; a minus sign is none. -/
def ofInt (n : Int) : Written String :=
  if (decimal n.natAbs).length ≤ maxDigits then .ok (integer n) else .error .tooManyDigits

/-! ### Optional texts -/

/-- Two optional texts joined with a separator; if one is missing, the other alone. -/
def joinPresent (separator : String) : Option String → Option String → Option String
  | none, second => second
  | some first, none => some first
  | some first, some second => some (first ++ separator ++ second)

theorem startsWith_eq_true_iff {s start : String} :
    startsWith s start = true ↔ start.toList <+: s.toList :=
  beginsWith_eq_true_iff

theorem joinPresent_eq_none_iff {separator : String} {first second : Option String} :
    joinPresent separator first second = none ↔ first = none ∧ second = none := by
  cases first <;> cases second <;> simp [joinPresent]

end SpanTelemetry.Text
