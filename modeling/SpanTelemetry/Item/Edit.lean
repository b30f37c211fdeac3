import SpanTelemetry.Item.Basic

namespace SpanTelemetry

/-!
# Edits

* `ItemEdit` — something to be added to an item, which may refuse it.
* `Item.edit` — what an edit comes to.
* `Item.editAll` — the item after a row of edits, each made to what the one before it has left.
-/

/-- Something to be added to an item. -/
inductive ItemEdit where
  /-- A context tag under the key that it is sent under. -/
  | tag (key value : String)
  | property (key value : String)
  | measurement (key : String) (value : Quantity)
  deriving DecidableEq, Repr

namespace Item

/-- What an edit comes to. -/
def edit (i : Item) : ItemEdit → Attempt
  | .tag key value => i.addTagNamed key value
  | .property key value => { item := i.addProperty key value }
  | .measurement key value => i.addMeasurement key value

/-- The item after a row of edits. A refused one is followed by the next, and the item is as the refused
    one has left it. -/
def editAll (i : Item) (edits : List ItemEdit) : Item := edits.foldl (fun i e => (i.edit e).item) i

end Item

end SpanTelemetry
