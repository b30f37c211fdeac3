import SpanTelemetry.Json

namespace SpanTelemetry.Json

/-!
# Values within values

* `Within` — a value stands within a value.
* `Everywhere` — what holds of all values within a value.
-/

/-- A value stands within a value: it is this value, or stands within one of its elements or fields. -/
inductive Within (w : Json) : Json → Prop where
  | self : Within w w
  | element {v : Json} {elements : List Json} (hmem : v ∈ elements) (hwithin : Within w v) :
      Within w (.array elements)
  | field {name : String} {v : Json} {fields : List (String × Json)} (hmem : (name, v) ∈ fields)
      (hwithin : Within w v) : Within w (.object fields)

/-- What holds of all values within a value. -/
def Everywhere (P : Json → Prop) (v : Json) : Prop := ∀ w, Within w v → P w

theorem everywhere_array_iff {P : Json → Prop} {elements : List Json} :
    Everywhere P (.array elements) ↔ P (.array elements) ∧ ∀ v ∈ elements, Everywhere P v := by
  constructor
  · intro hall
    exact ⟨hall _ .self, fun v hv w hw => hall w (.element hv hw)⟩
  · rintro ⟨hself, hall⟩ w (_ | ⟨hv, hw⟩)
    · exact hself
    · exact hall _ hv w hw

theorem everywhere_object_iff {P : Json → Prop} {fields : List (String × Json)} :
    Everywhere P (.object fields) ↔ P (.object fields) ∧ ∀ f ∈ fields, Everywhere P f.2 := by
  constructor
  · intro hall
    exact ⟨hall _ .self, fun f hf w hw => hall w (.field hf hw)⟩
  · rintro ⟨hself, hall⟩ w (_ | _ | ⟨hf, hw⟩)
    · exact hself
    · exact hall _ hf w hw

end SpanTelemetry.Json
