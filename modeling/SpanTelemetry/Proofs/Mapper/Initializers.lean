import SpanTelemetry.Item.Defaults
import SpanTelemetry.Mapper.Basic

namespace SpanTelemetry

/-!
# What initializers leave of new items

An initializer may set anything on a new item, and may put another payload in the place of the one that the
item was made with.

* `ItemData.IsNew` — the payloads that new items are made with.
* `Mapper.Leaves` — what is true of all new items as an initializer leaves them.
* `Mapper.KeepsPayloads`, `Mapper.KeepsTypes`, `Mapper.KeepsKinds` — initializers that leave payloads alone,
  those that leave them in their place, and those that leave their kind.
* `Mapper.SetsNoParent` — initializers that set no parent on an item.
* `Mapper.SetsDefaults` — initializers that do nothing but set defaults.
* `Mapper.SetsDefaults.keepsPayloads`, `Mapper.KeepsPayloads.keepsTypes`, `Mapper.KeepsPayloads.keepsKinds` —
  how they are related.
-/

/-- The payloads that new items are made with. -/
inductive ItemData.IsNew : ItemData → Prop where
  | request : IsNew (.request {})
  | dependency : IsNew (.dependency {})
  | message (name : String) : IsNew (.message { message := some name })
  | exception : IsNew (.exception {})

namespace NewItem

/-- The item has the payload that it was made with, and nothing of it is changed but the properties. -/
def KeepsPayload (n : NewItem) (data : ItemData) : Prop :=
  n.displaced = none ∧ ∃ properties, n.item.data = data.withProperties properties

/-- A request has the payload that it was made with, whatever is set on it, and so has a dependency. -/
def KeepsType (n : NewItem) : ItemData → Prop
  | .request _ => n.displaced = none ∧ ∃ d, n.item.data = .request d
  | .dependency _ => n.displaced = none ∧ ∃ d, n.item.data = .dependency d
  | _ => True

/-- The item is of a span iff it was made for one. -/
def KeepsKind (n : NewItem) (data : ItemData) : Prop := n.item.data.isOfSpan = data.isOfSpan

end NewItem

namespace Mapper

variable {m : Mapper}

/-- All new items are left so by the initializer. -/
def Leaves (m : Mapper) (P : NewItem → ItemData → Prop) : Prop :=
  ∀ data new, data.IsNew → m.initializer { data } = .ok new → P new data

/-- The initializer changes nothing of a payload but its properties. -/
def KeepsPayloads (m : Mapper) : Prop := m.Leaves NewItem.KeepsPayload

/-- The initializer puts nothing in the place of the payload of a request or a dependency. -/
def KeepsTypes (m : Mapper) : Prop := m.Leaves NewItem.KeepsType

/-- The initializer leaves requests and dependencies what they are, and makes none of other items. -/
def KeepsKinds (m : Mapper) : Prop := m.Leaves NewItem.KeepsKind

/-- The initializer sets no parent on an item. -/
def SetsNoParent (m : Mapper) : Prop :=
  m.Leaves fun new _ => new.item.tag? .operationParentId = none

/-- The initializer does nothing but set defaults. -/
def SetsDefaults (m : Mapper) (d : ItemDefaults) : Prop :=
  m.Leaves fun new data => new = { item := d.apply { data } }

theorem Leaves.mono {P Q : NewItem → ItemData → Prop} (h : m.Leaves P)
    (himp : ∀ new data, P new data → Q new data) : m.Leaves Q :=
  fun data new hdata hnew => himp new data (h data new hdata hnew)

/-- Defaults leave payloads alone. -/
theorem SetsDefaults.keepsPayloads {d : ItemDefaults} (h : m.SetsDefaults d) : m.KeepsPayloads :=
  h.mono fun _ _ hnew => hnew ▸ ⟨rfl, _, rfl⟩

/-- Payloads that are left alone are left in their place. -/
theorem KeepsPayloads.keepsTypes (h : m.KeepsPayloads) : m.KeepsTypes :=
  h.mono fun new data ⟨hplace, properties, hdata⟩ => by
    cases data with
    | request d => exact ⟨hplace, _, hdata⟩
    | dependency d => exact ⟨hplace, _, hdata⟩
    | _ => trivial

/-- Payloads that are left alone keep their kind. -/
theorem KeepsPayloads.keepsKinds (h : m.KeepsPayloads) : m.KeepsKinds :=
  h.mono fun new data ⟨_, properties, hdata⟩ => by
    rw [NewItem.KeepsKind, hdata, ItemData.isOfSpan_withProperties]

/-- Without an initializer all payloads are left alone. -/
theorem keepsPayloads_default : ({} : Mapper).KeepsPayloads := by
  rintro data new - ⟨⟩
  exact ⟨rfl, data.properties, data.withProperties_self.symm⟩

end Mapper

end SpanTelemetry
