import SpanTelemetry.Item.Basic
import SpanTelemetry.Log
import SpanTelemetry.Time.Timestamp

namespace SpanTelemetry

/-!
# Mappings with warnings

Mapping a span may warn about it and may fail; the warnings given before a failure remain.

* `MappingError` — why a span or an event cannot be mapped.
* `Mapping` — the warnings and the result of a mapping.
* `Mapping.written` — what can be written, as a mapping.
* `Mapping.value?` — the value of a mapping that succeeds.
-/

/-- Why a span or an event cannot be mapped. -/
inductive MappingError where
  /-- No telemetry belongs to the kind of the span. -/
  | unsupportedKind (kind : String)
  /-- A time cannot be written. -/
  | time (cause : TimeError)
  /-- A text cannot be written. -/
  | text (cause : Text.TextError)
  /-- A number is beyond the finite doubles. -/
  | numberTooLarge
  /-- A line number of a stack trace has too many digits. -/
  | lineNumberTooLong
  /-- The initializer added something that the item refuses. -/
  | item (cause : ItemError)
  deriving DecidableEq, Repr

/-- The text of an error that says what is wrong with a span. -/
def MappingError.message? : MappingError → Option String
  | unsupportedKind kind => some ("Unsupported span kind: " ++ kind)
  | _ => none

/-- A double that stands for a number, unless the number is too large for one. -/
def doubleOrError : Option Binary64 → Except MappingError Binary64
  | some x => .ok x
  | none => .error .numberTooLarge

theorem doubleOrError_eq_ok_iff {x? : Option Binary64} {x : Binary64} :
    doubleOrError x? = .ok x ↔ x? = some x := by
  cases x? <;> simp [doubleOrError]

theorem doubleOrError_eq_error_iff {x? : Option Binary64} {e : MappingError} :
    doubleOrError x? = .error e ↔ x? = none ∧ e = .numberTooLarge := by
  cases x? <;> simp [doubleOrError, eq_comm]

/-- The warnings and the result of a mapping. -/
structure Mapping (α : Type) where
  warnings : List LogEntry
  result : Except MappingError α
  deriving Repr

namespace Mapping

variable {α β : Type}

/-- A mapping that succeeds without a warning. -/
def done (a : α) : Mapping α := ⟨[], .ok a⟩

/-- A mapping that fails without a warning. -/
def fail (e : MappingError) : Mapping α := ⟨[], .error e⟩

/-- A mapping that only warns. -/
def warn (entries : List LogEntry) : Mapping Unit := ⟨entries, .ok ()⟩

/-- One mapping after another; the second does not run if the first fails. -/
def andThen (m : Mapping α) (f : α → Mapping β) : Mapping β :=
  match m.result with
  | .error e => ⟨m.warnings, .error e⟩
  | .ok a => ⟨m.warnings ++ (f a).warnings, (f a).result⟩

instance : Monad Mapping where
  pure := done
  bind := andThen

/-- A mapping without warnings. -/
def ofExcept (r : Except MappingError α) : Mapping α := ⟨[], r⟩

/-- The text of a time, as a mapping. -/
def timestamp (nanos : Int) : Mapping String := ofExcept ((timestampText nanos).mapError .time)

/-- What can be written, as a mapping. -/
def written (w : Text.Written α) : Mapping α := ofExcept (w.mapError .text)

/-- The value of a mapping that succeeds. -/
def value? (m : Mapping α) : Option α := m.result.toOption

/-! ### Lemmas -/

@[simp] theorem pure_eq (a : α) : (pure a : Mapping α) = ⟨[], .ok a⟩ := rfl

@[simp] theorem bind_ok (w : List LogEntry) (a : α) (f : α → Mapping β) :
    ((⟨w, .ok a⟩ : Mapping α) >>= f) = ⟨w ++ (f a).warnings, (f a).result⟩ := rfl

@[simp] theorem bind_error (w : List LogEntry) (e : MappingError) (f : α → Mapping β) :
    ((⟨w, .error e⟩ : Mapping α) >>= f) = ⟨w, .error e⟩ := rfl

theorem id_map_eq (m : Mapping α) : id <$> m = m := by
  obtain ⟨w, r⟩ := m
  cases r <;> simp [Functor.map, andThen, done]

theorem bind_assoc_eq {γ : Type} (m : Mapping α) (f : α → Mapping β) (g : β → Mapping γ) :
    m >>= f >>= g = m >>= fun a => f a >>= g := by
  obtain ⟨w, r⟩ := m
  cases r with
  | error e => rfl
  | ok a =>
    simp only [bind_ok]
    generalize f a = fa
    obtain ⟨v, s⟩ := fa
    cases s <;> simp [bind, andThen]

instance : LawfulMonad Mapping :=
  LawfulMonad.mk' Mapping id_map_eq (fun a f => by simp only [pure_eq, bind_ok, List.nil_append])
    bind_assoc_eq

/-! ### The value of a mapping -/

@[simp] theorem value?_ok (w : List LogEntry) (a : α) :
    (⟨w, .ok a⟩ : Mapping α).value? = some a := rfl

@[simp] theorem value?_error (w : List LogEntry) (e : MappingError) :
    (⟨w, .error e⟩ : Mapping α).value? = none := rfl

@[simp] theorem value?_warn (w : List LogEntry) : (warn w).value? = some () := rfl

@[simp] theorem value?_ofExcept (r : Except MappingError α) :
    (ofExcept r).value? = r.toOption := rfl

@[simp] theorem value?_bind (m : Mapping α) (f : α → Mapping β) :
    (m >>= f).value? = m.value?.bind fun a => (f a).value? := by
  obtain ⟨w, r⟩ := m
  cases r <;> rfl

/-- A mapping has the value that it succeeds with. -/
theorem value?_eq_some_iff {m : Mapping α} {a : α} : m.value? = some a ↔ m.result = .ok a := by
  obtain ⟨w, r⟩ := m
  cases r <;> simp [value?, Except.toOption]

/-- It has none iff it fails. -/
theorem value?_eq_none_iff {m : Mapping α} : m.value? = none ↔ ∃ e, m.result = .error e := by
  obtain ⟨w, r⟩ := m
  cases r <;> simp [value?, Except.toOption]

end Mapping

end SpanTelemetry
