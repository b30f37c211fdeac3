import SpanTelemetry.Item.Basic

namespace SpanTelemetry

/-!
# Defaults

* `ItemDefaults` — what an item carries unless something more specific is known.
* `ItemDefaults.apply` — an item with the defaults.
* `ItemDefaults.tag?` — the tags of a new item with the defaults.
-/

/-- What an item carries unless something more specific is known. -/
structure ItemDefaults where
  instrumentationKey : Option String := none
  sampleRate : Quantity := none
  tags : List (TagKey × String) := []
  properties : Table String := ∅

/-- An item with the defaults, which replace what it carries. -/
def ItemDefaults.apply (d : ItemDefaults) (i : Item) : Item where
  data := i.data.withProperties (i.properties.insertList d.properties.entries)
  time := i.time
  instrumentationKey := d.instrumentationKey.or i.instrumentationKey
  sampleRate := d.sampleRate.or i.sampleRate
  tags := i.tags.insertList (d.tags.map fun e => (e.1.name, e.2))

namespace ItemDefaults

/-- The tags of a new item with the defaults. -/
def tag? (d : ItemDefaults) (tag : TagKey) : Option String :=
  ((∅ : Table String).insertList (d.tags.map fun e => (e.1.name, e.2))).get? tag.name

@[simp] theorem tag?_apply_new (d : ItemDefaults) (data : ItemData) (tag : TagKey) :
    (d.apply { data }).tag? tag = d.tag? tag := rfl

@[simp] theorem sampleRate_apply_new (d : ItemDefaults) (data : ItemData) :
    (d.apply { data }).sampleRate = d.sampleRate := by
  simp [apply]

end ItemDefaults

end SpanTelemetry
