import SpanTelemetry.Item.Data
import SpanTelemetry.Item.TagKey

namespace SpanTelemetry

/-!
# Telemetry items

* `Item` — a payload with the fields that all kinds share.
* `Item.addTag`, `Item.addProperty`, `Item.addMeasurement` — the ways to add to an item.
* `Item.addTagNamed` — a tag by its key, refused if the ingestion endpoint does not know the key.
* `Attempt` — the item after an operation that may be refused, and whether it was.
* `Item.tag?`, `Item.properties` — the views of an item: each operation is described by what it does
  to them and to the fields.
-/

/-- A payload with the fields that all kinds of telemetry share. -/
structure Item where
  data : ItemData
  time : Option String := none
  instrumentationKey : Option String := none
  sampleRate : Quantity := none
  tags : Table String := ∅
  deriving DecidableEq, Repr

/-- Why something cannot be added to an item. -/
inductive ItemError where
  /-- The ingestion endpoint does not accept a tag under the key. -/
  | unknownTag (key : String)
  /-- Items of this kind carry no measurements. -/
  | noMeasurements
  deriving DecidableEq, Repr

/-- What an operation on an item comes to that may be refused: how the item is left, and why the operation
    was refused if it was. -/
structure Attempt where
  item : Item
  refusal : Option ItemError := none
  deriving DecidableEq, Repr

/-- The item of an attempt, or the reason for its refusal. -/
def Attempt.result (a : Attempt) : Except ItemError Item :=
  match a.refusal with
  | some e => .error e
  | none => .ok a.item

namespace Item

/-- The properties of an item. -/
def properties (i : Item) : Table String := i.data.properties

/-- The measurements of an item; none if its kind carries no measurements. -/
def measurements (i : Item) : Table Quantity := i.data.measurements?.getD ∅

/-- Set a context tag. -/
def addTag (i : Item) (tag : TagKey) (value : String) : Item :=
  { i with tags := i.tags.insert tag.name value }

/-- Set the context tag that is sent under a key. -/
def addTagNamed (i : Item) (key value : String) : Attempt :=
  match TagKey.ofName? key with
  | some tag => { item := i.addTag tag value }
  | none => { item := i, refusal := some (.unknownTag key) }

/-- Set a property. -/
def addProperty (i : Item) (key value : String) : Item :=
  { i with data := i.data.withProperties (i.properties.insert key value) }

/-- Set a measurement. -/
def addMeasurement (i : Item) (key : String) (value : Quantity) : Attempt :=
  match i.data.measurements? with
  | some measurements =>
      { item := { i with data := i.data.withMeasurements (measurements.insert key value) } }
  | none => { item := i, refusal := some .noMeasurements }

/-- Set a context tag if there is a value for it. -/
def addTag? (i : Item) (tag : TagKey) (value : Option String) : Item :=
  match value with
  | some v => i.addTag tag v
  | none => i

/-- The value of a context tag. -/
def tag? (i : Item) (tag : TagKey) : Option String := i.tags.get? tag.name

/-- Set the time. -/
def setTime (i : Item) (time : String) : Item := { i with time := some time }

/-- Set the instrumentation key. -/
def setInstrumentationKey (i : Item) (key : String) : Item :=
  { i with instrumentationKey := some key }

/-- Set the sample rate, unless everything is sampled. -/
def setSampleRate (i : Item) (percentage : Quantity) : Item :=
  if percentage.isNumber 100 then i else { i with sampleRate := percentage }

/-! ### Tags -/

section Views

variable (i : Item) (tag other : TagKey) (key value : String)

@[simp] theorem tag?_addTag :
    (i.addTag tag value).tag? other = if other = tag then some value else i.tag? other := by
  by_cases h : other = tag
  · simp [Item.tag?, addTag, h]
  · have hname : other.name ≠ tag.name := fun hn => h (TagKey.name_injective hn)
    simp [Item.tag?, addTag, h, hname]

@[simp] theorem tag?_addTag? (value : Option String) :
    (i.addTag? tag value).tag? other =
      if other = tag then value.or (i.tag? other) else i.tag? other := by
  cases value with
  | none => simp [addTag?]
  | some v => simp [addTag?]

@[simp] theorem tag?_addProperty : (i.addProperty key value).tag? tag = i.tag? tag := rfl

@[simp] theorem tag?_setTime : (i.setTime value).tag? tag = i.tag? tag := rfl

@[simp] theorem tag?_setInstrumentationKey :
    (i.setInstrumentationKey value).tag? tag = i.tag? tag := rfl

@[simp] theorem tag?_setSampleRate (percentage : Quantity) :
    (i.setSampleRate percentage).tag? tag = i.tag? tag := by
  unfold setSampleRate
  split <;> rfl

/-! ### Payloads -/

@[simp] theorem data_addTag : (i.addTag tag value).data = i.data := rfl

@[simp] theorem data_addTag? (value : Option String) : (i.addTag? tag value).data = i.data := by
  cases value <;> rfl

@[simp] theorem data_addProperty :
    (i.addProperty key value).data = i.data.withProperties (i.properties.insert key value) := rfl

@[simp] theorem data_setTime : (i.setTime value).data = i.data := rfl

@[simp] theorem data_setInstrumentationKey : (i.setInstrumentationKey value).data = i.data := rfl

@[simp] theorem data_setSampleRate (percentage : Quantity) :
    (i.setSampleRate percentage).data = i.data := by
  unfold setSampleRate
  split <;> rfl

@[simp] theorem properties_addProperty :
    (i.addProperty key value).properties = i.properties.insert key value := by
  simp [properties]

/-! ### Sample rates -/

@[simp] theorem sampleRate_addTag : (i.addTag tag value).sampleRate = i.sampleRate := rfl

@[simp] theorem sampleRate_addTag? (value : Option String) :
    (i.addTag? tag value).sampleRate = i.sampleRate := by
  cases value <;> rfl

@[simp] theorem sampleRate_addProperty :
    (i.addProperty key value).sampleRate = i.sampleRate := rfl

@[simp] theorem sampleRate_setTime : (i.setTime value).sampleRate = i.sampleRate := rfl

@[simp] theorem sampleRate_setInstrumentationKey :
    (i.setInstrumentationKey value).sampleRate = i.sampleRate := rfl

@[simp] theorem sampleRate_setSampleRate (percentage : Quantity) :
    (i.setSampleRate percentage).sampleRate =
      if percentage.isNumber 100 then i.sampleRate else percentage := by
  unfold setSampleRate
  split <;> rfl

/-! ### Instrumentation keys -/

@[simp] theorem instrumentationKey_addTag :
    (i.addTag tag value).instrumentationKey = i.instrumentationKey := rfl

@[simp] theorem instrumentationKey_addTag? (value : Option String) :
    (i.addTag? tag value).instrumentationKey = i.instrumentationKey := by
  cases value <;> rfl

@[simp] theorem instrumentationKey_addProperty :
    (i.addProperty key value).instrumentationKey = i.instrumentationKey := rfl

@[simp] theorem instrumentationKey_setTime :
    (i.setTime value).instrumentationKey = i.instrumentationKey := rfl

@[simp] theorem instrumentationKey_setSampleRate (percentage : Quantity) :
    (i.setSampleRate percentage).instrumentationKey = i.instrumentationKey := by
  unfold setSampleRate
  split <;> rfl

end Views

end Item

end SpanTelemetry
