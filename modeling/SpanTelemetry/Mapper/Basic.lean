import SpanTelemetry.Dependency
import SpanTelemetry.Mapping
import SpanTelemetry.Span

namespace SpanTelemetry

/-!
# Mappers

A mapper turns finished spans into telemetry items.

* `Mapper` — its settings.
* `NewItem`, `Mapper.newItem` — an item as the initializer leaves it.
* `NewItem.describe` — a new item with the fields of its payload.
* `Span.isSuccessful` — whether a span ended well.
* `ItemKind`, `Span.itemKind` — the kind of item that belongs to a span.
-/

/-- A new item as an initializer leaves it. -/
structure NewItem where
  item : Item
  /-- The payload that the item was made with, if the initializer has put another one in its place. -/
  displaced : Option ItemData := none

/-- The settings of a mapper. -/
structure Mapper where
  /-- Whether HTTP status codes from 400 on mean failure. -/
  statusCodesFail : Bool := true
  /-- Sets defaults on every new item before anything is mapped to it. -/
  initializer : Item → Except ItemError NewItem := fun i => .ok { item := i }
  /-- Whether an event of a span with the given scope is left out. -/
  suppressor : SpanEvent → Option String → Bool := fun _ _ => false
  /-- The id of this component, if it is known. -/
  appId : Option String := none

/-- A new item with the given payload, as the initializer leaves it. -/
def Mapper.newItem (m : Mapper) (data : ItemData) : Mapping NewItem :=
  Mapping.ofExcept ((m.initializer { data }).mapError .item)

namespace NewItem

/-- The payload that a new item was made with. -/
def made (n : NewItem) : ItemData := n.displaced.getD n.item.data

/-- A new item once the payload that it was made with is described. An item that carries another one by now
    does not show it. -/
def describe (n : NewItem) (f : ItemData → Text.Written ItemData) : Text.Written Item := do
  let data ← f n.made
  pure (if n.displaced.isSome then n.item else { n.item with data })

end NewItem

/-- Apply a change to the payload if it is an exception. -/
def Item.mapException (i : Item) (f : ExceptionData → ExceptionData) : Item :=
  match i.data with
  | .exception d => { i with data := .exception (f d) }
  | _ => i

/-! ### Changed payloads -/

namespace Item

variable (i : Item) (tag : TagKey)

@[simp] theorem tag?_mapException (f : ExceptionData → ExceptionData) :
    (i.mapException f).tag? tag = i.tag? tag := by
  unfold mapException
  split <;> rfl

@[simp] theorem sampleRate_mapException (f : ExceptionData → ExceptionData) :
    (i.mapException f).sampleRate = i.sampleRate := by
  unfold mapException
  split <;> rfl

@[simp] theorem instrumentationKey_mapException (f : ExceptionData → ExceptionData) :
    (i.mapException f).instrumentationKey = i.instrumentationKey := by
  unfold mapException
  split <;> rfl

theorem data_mapException {d : ExceptionData} (h : i.data = .exception d)
    (f : ExceptionData → ExceptionData) : (i.mapException f).data = .exception (f d) := by
  unfold mapException
  simp only [h]

end Item

/-! ### Success -/

/-- Whether a span ended well: a status that was set decides; otherwise an HTTP status code from
    400 on is a failure, where such codes count. -/
def Span.isSuccessful (s : Span) (statusCodesFail : Bool) : Bool :=
  match s.status with
  | .error => false
  | .ok => true
  | .unset =>
      match statusCodesFail, s.attributes.int? AttributeKey.httpStatusCode with
      | true, some code => decide (code < 400)
      | _, _ => true

/-! ### Kinds of items -/

/-- The kind of item that belongs to a span. -/
inductive ItemKind where
  | request
  | dependency (inProcess : Bool)
  deriving DecidableEq, Repr

/-- The scopes of the instrumentation of scheduled jobs begin so. -/
abbrev schedulingScope : String := "io.opentelemetry.spring-scheduling-"

/-- A job that was started by a scheduler and not by another span. -/
def Span.isScheduledJob (s : Span) : Bool :=
  match s.scope with
  | some scope => Text.startsWith scope schedulingScope && s.validParent?.isNone
  | none => false

/-- Whether a span received messages by asking for them. -/
def Span.isReceive (s : Span) : Bool :=
  s.attributes.string? AttributeKey.messagingOperation == some "receive"

/-- The kind of item that belongs to a span. -/
def Span.itemKind (s : Span) : Except MappingError ItemKind :=
  match s.kind with
  | .internal => .ok (if s.isScheduledJob then .request else .dependency true)
  | .client => .ok (.dependency false)
  | .producer => .ok (.dependency false)
  | .consumer => .ok (if s.isReceive then .dependency false else .request)
  | .server => .ok .request
  | .unsupported (.ok name) => .error (.unsupportedKind name)
  | .unsupported (.error e) => .error (.text e)

end SpanTelemetry
