import SpanTelemetry.Item.Envelope

namespace SpanTelemetry

/-!
# Reading envelopes

Items are read from envelopes, field by field.  A field that is missing has no value; properties,
measurements and parsed stacks that are missing are empty.

* `Json.required?`, `Json.optional?`, `Json.withDefault?` — the ways to read a field.
* `Json.ReadsBack` — what is written is read back.
* `Item.ofEnvelope?` — the item in an envelope.
* `RequestData.ofBody?_body` and its siblings, up to `Item.ofEnvelope?_envelope` — every record is read
  back from the fields it is written to.
-/

namespace Json

/-! ### Reading values -/

/-- The field of an object under a key. -/
def get? (key : String) : Json → Option Json
  | .object fields => fields.lookup key
  | _ => none

/-- The text that a string holds. -/
def readString? : Json → Option String
  | .string s => some s
  | _ => none

/-- The truth value that a word stands for. -/
def readBool? : Json → Option Bool
  | .bool b => some b
  | _ => none

/-- The integer that a whole number stands for. -/
def readInt? : Json → Option Int
  | .int n => some n
  | _ => none

/-- A scalar of any of the four kinds. -/
def readScalar? : Json → Option Scalar
  | .string s => some (.string s)
  | .int n => some (.int n)
  | .bool b => some (.bool b)
  | .double x => some (.double x)
  | _ => none

/-- A measured quantity; null stands for none. -/
def readQuantity? : Json → Option Quantity
  | .null => some none
  | v => (readScalar? v).map some

section

variable {α : Type} (read : Json → Option α)

/-- A list, whose elements are all read in the same way. -/
def readList? : Json → Option (List α)
  | .array elements => elements.mapM read
  | _ => none

/-- A table, whose values are all read in the same way. -/
def readTable? : Json → Option (Table α)
  | .object fields => (fields.mapM fun f => (read f.2).map fun a => (f.1, a)).map Table.ofList
  | _ => none

/-! ### Reading fields -/

/-- A field that has to be there. -/
def required? (field : Option Json) : Option α := field.bind read

/-- A field that has no value if it is missing. -/
def optional? : Option Json → Option (Option α)
  | none => some none
  | some v => (read v).map some

/-- A field that has a default if it is missing. -/
def withDefault? (missing : α) : Option Json → Option α
  | none => some missing
  | some v => read v

end

/-! ### What is written is read back -/

/-- What is written is read back. -/
def ReadsBack {α : Type} (write : α → Json) (read : Json → Option α) : Prop :=
  ∀ a, read (write a) = some a

/-- A string is written as it is. -/
theorem readsBack_string : ReadsBack .string readString? := fun _ => rfl

/-- So is a truth value. -/
theorem readsBack_bool : ReadsBack .bool readBool? := fun _ => rfl

/-- So is an integer. -/
theorem readsBack_int : ReadsBack .int readInt? := fun _ => rfl

/-- The kind of a scalar shows in what is written. -/
theorem readsBack_scalar : ReadsBack Scalar.toJson readScalar? := by
  intro s
  cases s <;> rfl

/-- Null is not written for any scalar, so a quantity that is none is told from all others. -/
theorem readsBack_quantity : ReadsBack Quantity.toJson readQuantity? := by
  intro q
  cases q with
  | none => rfl
  | some s => cases s <;> rfl

namespace ReadsBack

variable {α : Type} {write : α → Json} {read : Json → Option α} (h : ReadsBack write read)

include h

/-- The elements of a list are read back one by one. -/
theorem list (as : List α) : readList? read (.array (as.map write)) = some as := by
  rw [readList?, List.mapM_map]
  -- each element is written and read at once
  have hread : read ∘ write = fun a => pure a := funext h
  rw [hread, List.mapM_pure]
  simp

/-- The values of a table are read back one by one, under their keys. -/
theorem table (t : Table α) : readTable? read (t.toJson write) = some t := by
  -- entries are read in the order of their keys, in which they make up the same table
  have hentry : (fun f : String × Json => (read f.2).map fun a => (f.1, a)) ∘
      (fun e : String × α => (e.1, write e.2)) = fun e => pure e := by
    funext e
    simp [h e.2]
  rw [Table.toJson, readTable?, List.mapM_map, hentry, List.mapM_pure]
  simp [Table.ofList_entries]

/-- A field that is always written. -/
theorem required (a : α) : required? read (some (write a)) = some a := h a

/-- A field that is left out if it has no value. -/
theorem optional (a : Option α) : optional? read (a.map write) = some a := by
  cases a with
  | none => rfl
  | some a => simp [optional?, h a]

/-- A table without entries is not written, and read as one. -/
theorem tableOrEmpty (t : Table α) :
    withDefault? (readTable? read) ∅ (t.toJson? write) = some t := by
  rw [Table.toJson?]
  split
  · rename_i hempty
    have hnone : t = ∅ := by
      obtain ⟨entries, hincreasing⟩ := t
      obtain rfl : entries = [] := List.isEmpty_iff.1 hempty
      rfl
    rw [hnone]
    rfl
  · exact h.table t

/-- So is a list without elements. -/
theorem listOrEmpty (as : List α) :
    withDefault? (readList? read) []
      (if as.isEmpty then none else some (.array (as.map write))) = some as := by
  split
  · rename_i hempty
    rw [List.isEmpty_iff.1 hempty]
    rfl
  · exact h.list as

end ReadsBack

/-! ### Fields by their keys -/

section

variable {key name : String}

/-- The first field of an object hides others under its key. -/
@[simp] theorem get?_object_cons {v : Json} {fields : List (String × Json)} :
    (object ((name, v) :: fields)).get? key =
      if key = name then some v else (object fields).get? key := by
  by_cases hkey : key = name
  · simp [get?, hkey]
  · have hbeq : (key == name) = false := beq_eq_false_iff_ne.2 hkey
    simp [get?, List.lookup_cons, hkey, hbeq]

@[simp] theorem get?_presentFields_nil : (presentFields []).get? key = none := rfl

/-- A field is found under its key, unless it is left out. -/
@[simp] theorem get?_presentFields_cons {value : Option Json}
    {fields : List (String × Option Json)} :
    (presentFields ((name, value) :: fields)).get? key =
      if key = name then value.or ((presentFields fields).get? key)
      else (presentFields fields).get? key := by
  cases value with
  | none => simp [presentFields]
  | some v =>
    -- the field is written, so it hides what follows under its key
    rw [presentFields, List.filterMap_cons_some (by rfl), get?_object_cons, ← presentFields]
    simp

end

end Json

open Json

/-! ### Requests and dependencies -/

/-- A request, from its fields. -/
def RequestData.ofBody? (v : Json) : Option RequestData := do
  return {
    id := ← optional? readString? (v.get? "id")
    name := ← optional? readString? (v.get? "name")
    duration := ← optional? readString? (v.get? "duration")
    success := ← required? readBool? (v.get? "success")
    responseCode := ← optional? readString? (v.get? "responseCode")
    url := ← optional? readString? (v.get? "url")
    source := ← optional? readString? (v.get? "source")
    properties := ← withDefault? (readTable? readString?) ∅ (v.get? "properties")
    measurements := ← withDefault? (readTable? readQuantity?) ∅ (v.get? "measurements") }

/-- Every request is read back from its fields. -/
theorem RequestData.ofBody?_body (d : RequestData) : RequestData.ofBody? d.body = some d := by
  simp [RequestData.ofBody?, RequestData.body, readsBack_string.optional, readsBack_bool.required,
    readsBack_string.tableOrEmpty, readsBack_quantity.tableOrEmpty]

/-- A dependency, from its fields. -/
def DependencyData.ofBody? (v : Json) : Option DependencyData := do
  return {
    id := ← optional? readString? (v.get? "id")
    name := ← optional? readString? (v.get? "name")
    duration := ← optional? readString? (v.get? "duration")
    success := ← required? readBool? (v.get? "success")
    type := ← optional? readString? (v.get? "type")
    target := ← optional? readString? (v.get? "target")
    data := ← optional? readString? (v.get? "data")
    resultCode := ← optional? readString? (v.get? "resultCode")
    properties := ← withDefault? (readTable? readString?) ∅ (v.get? "properties")
    measurements := ← withDefault? (readTable? readQuantity?) ∅ (v.get? "measurements") }

/-- Every dependency is read back from its fields. -/
theorem DependencyData.ofBody?_body (d : DependencyData) :
    DependencyData.ofBody? d.body = some d := by
  simp [DependencyData.ofBody?, DependencyData.body, readsBack_string.optional,
    readsBack_bool.required, readsBack_string.tableOrEmpty, readsBack_quantity.tableOrEmpty]

/-! ### Messages, exceptions and metrics -/

/-- A message, from its fields. -/
def MessageData.ofBody? (v : Json) : Option MessageData := do
  return {
    message := ← optional? readString? (v.get? "message")
    properties := ← withDefault? (readTable? readString?) ∅ (v.get? "properties") }

/-- Every message is read back from its fields. -/
theorem MessageData.ofBody?_body (d : MessageData) : MessageData.ofBody? d.body = some d := by
  simp [MessageData.ofBody?, MessageData.body, readsBack_string.optional,
    readsBack_string.tableOrEmpty]

/-- A frame of a parsed stack, from its fields. -/
def StackFrame.ofBody? (v : Json) : Option StackFrame := do
  return {
    level := ← required? readInt? (v.get? "level")
    method := ← required? readString? (v.get? "method")
    fileName := ← optional? readString? (v.get? "fileName")
    line := ← optional? readInt? (v.get? "line") }

/-- Every frame is read back. -/
theorem StackFrame.readsBack : ReadsBack StackFrame.body StackFrame.ofBody? := by
  intro f
  simp [StackFrame.ofBody?, StackFrame.body, readsBack_int.required, readsBack_string.required,
    readsBack_string.optional, readsBack_int.optional]

/-- The details of an exception, from its fields. -/
def ExceptionDetails.ofBody? (v : Json) : Option ExceptionDetails := do
  return {
    typeName := ← optional? readString? (v.get? "typeName")
    message := ← required? readString? (v.get? "message")
    hasFullStack := ← required? readBool? (v.get? "hasFullStack")
    stack := ← optional? readString? (v.get? "stack")
    parsedStack := ← withDefault? (readList? StackFrame.ofBody?) [] (v.get? "parsedStack") }

/-- The details of every exception are read back. -/
theorem ExceptionDetails.readsBack :
    ReadsBack ExceptionDetails.body ExceptionDetails.ofBody? := by
  intro d
  -- `listOrEmpty` speaks of the list that is asked for being empty, so `simp` may not rewrite that
  have hstack := StackFrame.readsBack.listOrEmpty d.parsedStack
  simp [ExceptionDetails.ofBody?, ExceptionDetails.body, readsBack_string.required,
    readsBack_bool.required, readsBack_string.optional, -List.isEmpty_iff, hstack]

/-- An exception, from its fields. -/
def ExceptionData.ofBody? (v : Json) : Option ExceptionData := do
  return {
    exceptions := ← required? (readList? ExceptionDetails.ofBody?) (v.get? "exceptions")
    properties := ← withDefault? (readTable? readString?) ∅ (v.get? "properties") }

/-- Every exception is read back from its fields. -/
theorem ExceptionData.ofBody?_body (d : ExceptionData) : ExceptionData.ofBody? d.body = some d := by
  have hexceptions := ExceptionDetails.readsBack.list d.exceptions
  simp [ExceptionData.ofBody?, ExceptionData.body, required?, hexceptions,
    readsBack_string.tableOrEmpty]

/-- A point of a metric, from its fields. -/
def MetricPoint.ofBody? (v : Json) : Option MetricPoint := do
  return {
    name := ← required? readString? (v.get? "name")
    value := ← optional? readScalar? (v.get? "value")
    count := ← optional? readScalar? (v.get? "count")
    min := ← optional? readScalar? (v.get? "min")
    max := ← optional? readScalar? (v.get? "max")
    dataPointType := ← required? readString? (v.get? "dataPointType") }

/-- Every point is read back. -/
theorem MetricPoint.readsBack : ReadsBack MetricPoint.body MetricPoint.ofBody? := by
  intro p
  simp [MetricPoint.ofBody?, MetricPoint.body, readsBack_string.required,
    readsBack_scalar.optional]

/-- A metric, from its fields. -/
def MetricData.ofBody? (v : Json) : Option MetricData := do
  return {
    metrics := ← required? (readList? MetricPoint.ofBody?) (v.get? "metrics")
    properties := ← withDefault? (readTable? readString?) ∅ (v.get? "properties") }

/-- Every metric is read back from its fields. -/
theorem MetricData.ofBody?_body (d : MetricData) : MetricData.ofBody? d.body = some d := by
  have hmetrics := MetricPoint.readsBack.list d.metrics
  simp [MetricData.ofBody?, MetricData.body, required?, hmetrics, readsBack_string.tableOrEmpty]

/-! ### Items -/

/-- A payload, by the name of its kind. -/
def ItemData.ofBody? (baseType : String) (v : Json) : Option ItemData :=
  if baseType = "RequestData" then (RequestData.ofBody? v).map .request
  else if baseType = "RemoteDependencyData" then (DependencyData.ofBody? v).map .dependency
  else if baseType = "MessageData" then (MessageData.ofBody? v).map .message
  else if baseType = "ExceptionData" then (ExceptionData.ofBody? v).map .exception
  else if baseType = "MetricData" then (MetricData.ofBody? v).map .metric
  else none

/-- Every payload is read back by the name of its kind. -/
theorem ItemData.ofBody?_body (d : ItemData) : ItemData.ofBody? d.baseType d.body = some d := by
  cases d with
  | request d => simp [ItemData.ofBody?, baseType, body, d.ofBody?_body]
  | dependency d => simp [ItemData.ofBody?, baseType, body, d.ofBody?_body]
  | message d => simp [ItemData.ofBody?, baseType, body, d.ofBody?_body]
  | exception d => simp [ItemData.ofBody?, baseType, body, d.ofBody?_body]
  | metric d => simp [ItemData.ofBody?, baseType, body, d.ofBody?_body]

/-- The item in an envelope. -/
def Item.ofEnvelope? (v : Json) : Option Item := do
  let data ← v.get? "data"
  let baseType ← required? readString? (data.get? "baseType")
  return {
    data := ← required? (ItemData.ofBody? baseType) (data.get? "baseData")
    time := ← optional? readString? (v.get? "time")
    instrumentationKey := ← optional? readString? (v.get? "iKey")
    sampleRate := ← optional? readScalar? (v.get? "sampleRate")
    tags := ← required? (readTable? readString?) (v.get? "tags") }

/-- **Every item is read back from its envelope.** -/
theorem Item.ofEnvelope?_envelope (i : Item) : Item.ofEnvelope? i.envelope = some i := by
  -- the kind of the payload stands beside it, so that it is known how to read it
  have hdata := ItemData.ofBody?_body i.data
  simp [Item.ofEnvelope?, Item.envelope, required?, readString?, hdata, readsBack_string.optional,
    readsBack_scalar.optional, readsBack_string.table]

end SpanTelemetry
