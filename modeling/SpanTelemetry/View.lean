import SpanTelemetry.AttributeKey
import SpanTelemetry.Value.Basic

namespace SpanTelemetry

/-!
# Views

Metrics carry few attributes, so that there are few different ones.  A view is the list of the
keys that a metric may carry.

* `View.client`, `View.server` — the views of the two sides of a call.
* `View.apply` — the attributes that a view lets through.
-/

/-- The keys of the attributes that a metric may carry. -/
abbrev View := List String

namespace View

/-- The view of the side that makes a call. -/
def client : View :=
  [AttributeKey.rpcSystem, AttributeKey.netPeerName, AttributeKey.netPeerPort]

/-- The view of the side that serves a call. -/
def server : View := [AttributeKey.rpcSystem]

/-- Of the attributes from the start and from the end of a call those that the view lets through;
    one from the end replaces one from the start. -/
def apply (view : View) (start finish : Attributes) : Attributes :=
  let allowed := fun (attributes : Attributes) => attributes.filter fun key _ => view.contains key
  (allowed start).insertList (allowed finish).entries

end View

end SpanTelemetry
