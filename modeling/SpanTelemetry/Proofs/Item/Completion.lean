import SpanTelemetry.Item.Attributes
import SpanTelemetry.Item.Defaults
import SpanTelemetry.Item.Operation
import SpanTelemetry.Mapper.Basic

namespace SpanTelemetry

/-!
# Items completed by defaults

Defaults are on an item before anything else is written to it.  What they leave behind is the item that is
written without them, completed by them: each way to add to an item keeps it so.

* `ItemDefaults.Completes` — an item is another one, completed by defaults.
* `ItemDefaults.completes_new` — new items are.
* `ItemDefaults.Completes.addTag` and its like — items stay so, whatever is added to both of them.
* `ItemDefaults.Completes.addTag_right` — a default may be written a second time.
* `ItemDefaults.Completes.withData` — the payload may be replaced by another one with its properties.
-/

namespace ItemDefaults

/-- The tags of the defaults by their keys. -/
def tagTable (d : ItemDefaults) : Table String :=
  (∅ : Table String).insertList (d.tags.map fun e => (e.1.name, e.2))

/-- Without defaults an item stays as it is. -/
theorem apply_none (i : Item) : ({} : ItemDefaults).apply i = i := by
  have hdata : i.data.withProperties (i.properties.insertList []) = i.data := i.data.withProperties_self
  unfold apply
  rw [Option.none_or, Option.none_or]
  exact congrArg (fun data => { i with data }) hdata

/-- The item `j` is the item `i`, completed by defaults: what `i` has goes before them.  There are no
    defaults for the time, nor for the payload, its properties apart. -/
structure Completes (d : ItemDefaults) (i j : Item) : Prop where
  tags : ∀ key, j.tags.get? key = (i.tags.get? key).or (d.tagTable.get? key)
  properties : ∀ key, j.properties.get? key = (i.properties.get? key).or (d.properties.get? key)
  instrumentationKey : j.instrumentationKey = i.instrumentationKey.or d.instrumentationKey
  sampleRate : j.sampleRate = i.sampleRate.or d.sampleRate
  time : j.time = i.time
  data : j.data = i.data.withProperties j.properties

/-- A new item without properties is completed by the defaults that are set on it. -/
theorem completes_new (d : ItemDefaults) {data : ItemData} (h : data.properties = ∅) :
    d.Completes { data } (d.apply { data }) where
  tags := fun _ => rfl
  properties := by
    intro key
    have hdefaults : (∅ : Table String).insertList d.properties.entries = d.properties :=
      d.properties.ofList_entries
    simp [apply, Item.properties, h, hdefaults]
  instrumentationKey := by simp [apply]
  sampleRate := by simp [apply]
  time := rfl
  data := by simp [apply, Item.properties]

namespace Completes

variable {d : ItemDefaults} {i j : Item}

/-! ### Tags -/

/-- A tag of the completed item. -/
theorem tag? (h : d.Completes i j) (tag : TagKey) : j.tag? tag = (i.tag? tag).or (d.tag? tag) :=
  h.tags tag.name

/-- A tag that is set on both items. -/
theorem addTag (h : d.Completes i j) (tag : TagKey) (value : String) :
    d.Completes (i.addTag tag value) (j.addTag tag value) :=
  { h with
    tags := by
      intro key
      simp only [Item.addTag, Table.get?_insert, h.tags]
      split <;> rfl }

/-- So it is with a tag that may be missing. -/
theorem addTag? (h : d.Completes i j) (tag : TagKey) (value : Option String) :
    d.Completes (i.addTag? tag value) (j.addTag? tag value) := by
  cases value with
  | none => exact h
  | some value => exact h.addTag tag value

/-- Where the item has no such tag, its default may be written a second time. -/
theorem addTag_right (h : d.Completes i j) {tag : TagKey} (hnone : i.tag? tag = none) {value : String}
    (hdefault : d.tag? tag = some value) : d.Completes i (j.addTag tag value) :=
  { h with
    tags := by
      intro key
      simp only [Item.addTag, Table.get?_insert]
      split
      · rename_i hkey
        subst hkey
        show some value = (i.tag? tag).or (d.tag? tag)
        rw [hnone, hdefault]
        rfl
      · exact h.tags key }

/-! ### Fields -/

/-- A time that is set on both items. -/
theorem setTime (h : d.Completes i j) (time : String) :
    d.Completes (i.setTime time) (j.setTime time) :=
  { h with time := rfl }

/-- An instrumentation key that is set on both items. -/
theorem setInstrumentationKey (h : d.Completes i j) (key : String) :
    d.Completes (i.setInstrumentationKey key) (j.setInstrumentationKey key) :=
  { h with instrumentationKey := rfl }

/-- A sample rate that is a number goes before the default, if it is written at all. -/
theorem setSampleRate (h : d.Completes i j) {percentage : Quantity} (hnumber : percentage.isSome) :
    d.Completes (i.setSampleRate percentage) (j.setSampleRate percentage) := by
  obtain ⟨number, rfl⟩ := Option.isSome_iff_exists.1 hnumber
  unfold Item.setSampleRate
  split
  · exact h
  · exact { h with sampleRate := rfl }

/-! ### Properties -/

/-- A property that is added to both items. -/
theorem addProperty (h : d.Completes i j) (key value : String) :
    d.Completes (i.addProperty key value) (j.addProperty key value) :=
  { h with
    properties := by
      intro other
      simp only [Item.properties_addProperty, Table.get?_insert, h.properties]
      split <;> rfl
    data := by
      simp only [Item.data_addProperty, Item.properties_addProperty,
        ItemData.withProperties_withProperties]
      rw [h.data, ItemData.withProperties_withProperties] }

/-- An attribute does the same to both items, whatever becomes of it. -/
theorem addAttribute (h : d.Completes i j) (key : String) (value : Value) :
    d.Completes (i.addAttribute key value) (j.addAttribute key value) := by
  unfold Item.addAttribute
  cases disposition key value with
  | dropped => exact h
  | tag tag s => exact h.addTag tag s
  | instrumentationKey s => exact h.setInstrumentationKey s
  | property text =>
    cases text with
    | ok text => exact h.addProperty key text
    | error e => exact h
  | invalid _ => exact h

/-- So do all attributes of a span, by induction on them. -/
theorem addAttributes (h : d.Completes i j) (attributes : Attributes) :
    d.Completes (i.addAttributes attributes) (j.addAttributes attributes) := by
  unfold Item.addAttributes
  induction attributes.entries generalizing i j with
  | nil => exact h
  | cons e rest ih => exact ih (h.addAttribute e.1 e.2)

/-- Links are written to a property, so they are one more of those. -/
theorem addLinks (h : d.Completes i j) (links : List SpanContext) :
    d.Completes (i.addLinks links) (j.addLinks links) := by
  unfold Item.addLinks
  split
  · exact h
  · exact h.addProperty _ _

/-! ### Payloads -/

/-- The payload may be replaced by another one with the same properties. -/
theorem withData (h : d.Completes i j) {x : ItemData} (hx : x.properties = i.properties) :
    d.Completes { i with data := x } { j with data := x.withProperties j.properties } :=
  { h with
    properties := by
      intro key
      simpa only [Item.properties, ItemData.properties_withProperties, hx] using h.properties key
    data := by simp only [Item.properties, ItemData.properties_withProperties] }

/-- A change of an exception in which the properties have no part. -/
theorem mapException (h : d.Completes i j) {f : ExceptionData → ExceptionData}
    (hf : ∀ e properties, f { e with properties } = { f e with properties }) :
    d.Completes (i.mapException f) (j.mapException f) := by
  have hdata := h.data
  cases hi : i.data with
  | exception e =>
    have hkept := congrArg ExceptionData.properties (hf e e.properties)
    have hj : j.data = .exception { e with properties := j.properties } := by rw [hdata, hi]; rfl
    have hleft : i.mapException f = { i with data := .exception (f e) } := by
      simp only [Item.mapException, hi]
    have hright : j.mapException f =
        { j with data := .exception { f e with properties := j.properties } } := by
      simp only [Item.mapException, hj]
      rw [hf]
    rw [hleft, hright]
    refine h.withData (x := .exception (f e)) ?_
    rw [Item.properties, hi]
    exact hkept
  | _ =>
    rw [hi] at hdata
    simpa only [Item.mapException, hi, hdata, ItemData.withProperties] using h

/-- Defaults have no part in measurements. -/
theorem withMeasurements (h : d.Completes i j) (measurements : Table Quantity) :
    d.Completes { i with data := i.data.withMeasurements measurements }
      { j with data := j.data.withMeasurements measurements } := by
  rw [h.data, ← ItemData.withProperties_withMeasurements]
  exact h.withData (ItemData.properties_withMeasurements _ _)

/-- The measurements of a completed item are those that it had. -/
theorem measurements? (h : d.Completes i j) : j.data.measurements? = i.data.measurements? := by
  rw [h.data, ItemData.measurements?_withProperties]

end Completes

end ItemDefaults

end SpanTelemetry
