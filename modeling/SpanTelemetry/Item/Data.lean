import SpanTelemetry.Quantity
import SpanTelemetry.Table

namespace SpanTelemetry

/-!
# Payloads of telemetry items

* `RequestData`, `DependencyData`, `MessageData`, `ExceptionData`, `MetricData` — the five kinds
  of payload.
* `ItemData` — a payload of one of the kinds.
-/

/-- A request that this component served. -/
structure RequestData where
  id : Option String := none
  name : Option String := none
  duration : Option String := none
  success : Bool := true
  responseCode : Option String := none
  url : Option String := none
  source : Option String := none
  properties : Table String := ∅
  measurements : Table Quantity := ∅
  deriving DecidableEq, Repr

/-- A call that this component made. -/
structure DependencyData where
  id : Option String := none
  name : Option String := none
  duration : Option String := none
  success : Bool := true
  type : Option String := none
  target : Option String := none
  data : Option String := none
  resultCode : Option String := none
  properties : Table String := ∅
  measurements : Table Quantity := ∅
  deriving DecidableEq, Repr

/-- A line of text. -/
structure MessageData where
  message : Option String := none
  properties : Table String := ∅
  deriving DecidableEq, Repr

/-- One call on a stack. Level 0 is the call that failed. -/
structure StackFrame where
  level : Int
  method : String
  fileName : Option String := none
  line : Option Int := none
  deriving DecidableEq, Repr

/-- One exception of a chain. -/
structure ExceptionDetails where
  typeName : Option String := none
  message : String := ""
  hasFullStack : Bool := true
  stack : Option String := none
  parsedStack : List StackFrame := []
  deriving DecidableEq, Repr

/-- The exceptions that ended an operation. -/
structure ExceptionData where
  exceptions : List ExceptionDetails := []
  properties : Table String := ∅
  deriving DecidableEq, Repr

/-- A measured or aggregated value. -/
structure MetricPoint where
  name : String
  value : Quantity
  count : Quantity := none
  min : Quantity := none
  max : Quantity := none
  dataPointType : String := "Aggregation"
  deriving DecidableEq, Repr

/-- Metric values with common dimensions. -/
structure MetricData where
  metrics : List MetricPoint := []
  properties : Table String := ∅
  deriving DecidableEq, Repr

/-- A payload of one of the five kinds. -/
inductive ItemData where
  | request (data : RequestData)
  | dependency (data : DependencyData)
  | message (data : MessageData)
  | exception (data : ExceptionData)
  | metric (data : MetricData)
  deriving DecidableEq, Repr

namespace ItemData

/-- The properties of a payload. -/
def properties : ItemData → Table String
  | request d => d.properties
  | dependency d => d.properties
  | message d => d.properties
  | exception d => d.properties
  | metric d => d.properties

/-- The payload with other properties. -/
def withProperties (properties : Table String) : ItemData → ItemData
  | request d => request { d with properties }
  | dependency d => dependency { d with properties }
  | message d => message { d with properties }
  | exception d => exception { d with properties }
  | metric d => metric { d with properties }

/-- The measurements of a payload; only requests and dependencies carry any. -/
def measurements? : ItemData → Option (Table Quantity)
  | request d => some d.measurements
  | dependency d => some d.measurements
  | _ => none

/-- The payload with other measurements, if its kind carries any. -/
def withMeasurements (measurements : Table Quantity) : ItemData → ItemData
  | request d => request { d with measurements }
  | dependency d => dependency { d with measurements }
  | d => d

/-- The id of the operation that a payload describes; only requests and dependencies have one. -/
def id? : ItemData → Option String
  | request d => d.id
  | dependency d => d.id
  | _ => none

/-- Whether a payload describes a span: requests and dependencies do. -/
def isOfSpan : ItemData → Bool
  | request _ => true
  | dependency _ => true
  | _ => false

/-- Whether a payload describes an event: messages and exceptions do. -/
def isOfEvent : ItemData → Bool
  | message _ => true
  | exception _ => true
  | _ => false

@[simp] theorem properties_withProperties (p : Table String) (d : ItemData) :
    (d.withProperties p).properties = p := by
  cases d <;> rfl

@[simp] theorem withProperties_self (d : ItemData) : d.withProperties d.properties = d := by
  cases d <;> rfl

@[simp] theorem withProperties_withProperties (p q : Table String) (d : ItemData) :
    (d.withProperties p).withProperties q = d.withProperties q := by
  cases d <;> rfl

@[simp] theorem measurements?_withProperties (p : Table String) (d : ItemData) :
    (d.withProperties p).measurements? = d.measurements? := by
  cases d <;> rfl

@[simp] theorem isOfSpan_withProperties (p : Table String) (d : ItemData) :
    (d.withProperties p).isOfSpan = d.isOfSpan := by
  cases d <;> rfl

@[simp] theorem isOfSpan_withMeasurements (m : Table Quantity) (d : ItemData) :
    (d.withMeasurements m).isOfSpan = d.isOfSpan := by
  cases d <;> rfl

@[simp] theorem id?_withMeasurements (m : Table Quantity) (d : ItemData) :
    (d.withMeasurements m).id? = d.id? := by
  cases d <;> rfl

@[simp] theorem id?_withProperties (p : Table String) (d : ItemData) :
    (d.withProperties p).id? = d.id? := by
  cases d <;> rfl

@[simp] theorem isOfEvent_withProperties (p : Table String) (d : ItemData) :
    (d.withProperties p).isOfEvent = d.isOfEvent := by
  cases d <;> rfl

@[simp] theorem withMeasurements_self (d : ItemData) :
    d.withMeasurements (d.measurements?.getD ∅) = d := by
  cases d <;> rfl

@[simp] theorem properties_withMeasurements (m : Table Quantity) (d : ItemData) :
    (d.withMeasurements m).properties = d.properties := by
  cases d <;> rfl

/-- Properties and measurements are set independently. -/
theorem withProperties_withMeasurements (m : Table Quantity) (p : Table String) (d : ItemData) :
    (d.withMeasurements m).withProperties p = (d.withProperties p).withMeasurements m := by
  cases d <;> rfl

end ItemData

end SpanTelemetry
