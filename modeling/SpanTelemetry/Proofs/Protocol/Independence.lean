import SpanTelemetry.Proofs.Attributes.Alike
import SpanTelemetry.Proofs.Table

namespace SpanTelemetry

/-!
# Protocols do not interfere

A span may carry the attributes of several protocols. Only those of the first family that is named
describe the call; what the others left on the span does not show.

* `Attributes.AgreeOn` — two tables of attributes with the same values under some keys.
* `Attributes.agreeOn_insertList` — attributes under other keys may be added or replaced.
* `families_do_not_interfere` — attributes of one family that agree on its keys describe a call alike.
-/

namespace Attributes

/-- Two tables of attributes that have the same values under the given keys, or none there. -/
def AgreeOn (keys : List String) (a b : Attributes) : Prop := ∀ key ∈ keys, a.get? key = b.get? key

/-- What has the same value is read alike. -/
theorem AgreeOn.readAlike {keys : List String} {a b : Attributes} (h : AgreeOn keys a b) :
    ReadAlike keys a b where
  string key hkey _ := by rw [string?, string?, h key hkey]
  int key hkey _ := by rw [int?, int?, h key hkey]
  context hkey := by rw [requestContext?, requestContext?, h _ hkey]

/-- Attributes under other keys may be added or replaced. -/
theorem agreeOn_insertList {keys : List String} (attributes : Attributes)
    {others : List (String × Value)} (h : ∀ e ∈ others, e.1 ∉ keys) :
    AgreeOn keys attributes (attributes.insertList others) := by
  intro key hkey
  refine (Table.get?_insertList_of_ne attributes fun e he hsame => ?_).symm
  exact h e he (hsame ▸ hkey)

end Attributes

open Attributes

/-- **Families do not interfere.**  Attributes of one family that agree on its keys describe a call
    alike, whatever else they hold and whatever the dependency said before.  The kind of the span
    matters only for messages, where it says whether the message is sent, and the id of this component
    only for HTTP. -/
theorem families_do_not_interfere (d : DependencyData) (a b : Attributes) (kind kind' : SpanKind)
    (appId appId' : Option String) (hfamily : a.family = b.family) (hagree : AgreeOn a.family.keys a b)
    (hkind : a.family = .messaging → (kind = .producer ↔ kind' = .producer))
    (happId : a.family = .http → appId = appId') :
    d.describe kind a appId = d.describe kind' b appId' :=
  ReadAlike.describe_eq d hfamily hagree.readAlike hkind happId

/-- A call to a cache, with attributes of a queue beside it. -/
def exampleCacheCall : Attributes :=
  .ofList [("db.system", .string "redis"), ("db.name", .string "carts"),
    ("net.peer.name", .string "cache"), ("net.peer.port", .int 6379),
    ("messaging.system", .string "kafka"), ("messaging.destination", .string "orders")]

/-- The same call with attributes of another queue and of a web server. -/
def exampleMixedCall : Attributes :=
  exampleCacheCall.insertList
    [("messaging.system", .string "rabbitmq"), ("az.namespace", .string "Microsoft.EventHub"),
      ("peer.address", .string "hub"), ("http.host", .string "shop"), ("http.status_code", .int 500)]

/-- Neither these attributes nor the kind of the span nor the id of this component changes what the call
    is. -/
theorem families_do_not_interfere_cache :
    exampleCacheCall.family = .database ∧
      exampleMixedCall.family = .database ∧
      AgreeOn exampleCacheCall.family.keys exampleCacheCall exampleMixedCall ∧
      ({ resultCode := some "7" } : DependencyData).describe .client exampleCacheCall none =
        ({ resultCode := some "7" } : DependencyData).describe .producer exampleMixedCall
          (some "shop") ∧
      ({ resultCode := some "7" } : DependencyData).describe .client exampleCacheCall none =
        .ok { type := some "redis", target := some "cache | carts", resultCode := some "7" } := by
  have hfamily : exampleCacheCall.family = .database := by decide +kernel
  have hmixed : exampleMixedCall.family = .database := by decide +kernel
  have hagree : AgreeOn exampleCacheCall.family.keys exampleCacheCall exampleMixedCall := by
    rw [hfamily]
    exact agreeOn_insertList exampleCacheCall (by decide)
  refine ⟨hfamily, hmixed, hagree, ?_, by decide +kernel⟩
  refine families_do_not_interfere _ _ _ _ _ _ _ (hfamily.trans hmixed.symm) hagree ?_ ?_
  · rw [hfamily]
    nofun
  · rw [hfamily]
    nofun

end SpanTelemetry
