import SpanTelemetry.Sink

namespace SpanTelemetry.Sink

/-!
# Handing items to a sink

Handing a list of items to a sink is described completely by which of the calls fail.

* `handAll_append` — a list may be handed in two parts, the second only if the first is taken.
* `offered_handAll` — the calls are an initial part of the list.
* `handAll_of_taken` — if no call fails, the sink takes everything.
* `handAll_of_failure` — otherwise the first call that fails is the last one.
-/

variable {k : Sink} {items : List Item}

/-- Whether the sink fails at the call of a number, counted from its next call on. -/
def Fails (k : Sink) (n : Nat) : Prop := k.failsAt (k.calls + n) = true

instance (k : Sink) (n : Nat) : Decidable (k.Fails n) :=
  inferInstanceAs (Decidable (_ = true))

/-- The sink after it has taken some items. -/
def afterTaking (k : Sink) (items : List Item) : Sink :=
  { k with offered := k.offered ++ items, taken := k.taken ++ items }

@[simp] theorem afterTaking_nil (k : Sink) : k.afterTaking [] = k := by
  simp [afterTaking]

/-- Items are taken one after the other. -/
theorem afterTaking_append (k : Sink) (xs ys : List Item) :
    (k.afterTaking xs).afterTaking ys = k.afterTaking (xs ++ ys) := by
  simp [afterTaking]

/-- After some items are taken the calls are counted from a later one on. -/
theorem fails_afterTaking (k : Sink) (xs : List Item) (n : Nat) :
    (k.afterTaking xs).Fails n ↔ k.Fails (xs.length + n) := by
  simp [Fails, afterTaking, calls, Nat.add_assoc]

/-- A sink that takes everything goes on to do so. -/
theorem takes_afterTaking (k : Sink) (htaken : ∀ n, ¬ k.Fails n) (xs : List Item) (n : Nat) :
    ¬ (k.afterTaking xs).Fails n := by
  rw [fails_afterTaking]
  exact htaken _

/-- A sink takes some items iff it takes the first, and the others after it. -/
theorem takes_cons_iff (k : Sink) (i : Item) (rest : List Item) :
    (∀ n < (i :: rest).length, ¬ k.Fails n) ↔
      ¬ k.Fails 0 ∧ ∀ n < rest.length, ¬ (k.afterTaking [i]).Fails n := by
  simp only [fails_afterTaking, List.length_cons, List.length_nil, Nat.zero_add]
  constructor
  · intro h
    exact ⟨h 0 (Nat.succ_pos _), fun n hn => h (1 + n) (by omega)⟩
  · rintro ⟨hfirst, hrest⟩ n hn
    cases n with
    | zero => exact hfirst
    | succ n =>
      rw [Nat.add_comm]
      exact hrest n (by omega)

theorem not_fails_reliable (n : Nat) : ¬ reliable.Fails n := by
  simp [Fails, reliable]

/-! ### One item -/

/-- A sink that does not fail takes the item. -/
theorem hand_of_not_fails (i : Item) (h : ¬ k.Fails 0) : k.hand i = (none, k.afterTaking [i]) := by
  have hcall : k.failsAt k.calls = false := by simpa [Fails] using h
  simp [hand, hcall, afterTaking]

/-- One that fails does not, but it has been offered the item. -/
theorem hand_of_fails (i : Item) (h : k.Fails 0) :
    k.hand i = (some ⟨k.calls⟩, { k with offered := k.offered ++ [i] }) := by
  have hcall : k.failsAt k.calls = true := by simpa [Fails] using h
  simp [hand, hcall]

/-- A call counts whether it fails or not. -/
theorem offered_hand (k : Sink) (i : Item) : (k.hand i).2.offered = k.offered ++ [i] := by
  unfold hand
  split <;> rfl

/-! ### Lists of items -/

/-- A list may be handed in two parts, the second only if the first is taken. -/
theorem handAll_append (k : Sink) (xs ys : List Item) :
    k.handAll (xs ++ ys) =
      match k.handAll xs with
      | (some failure, k) => (some failure, k)
      | (none, k) => k.handAll ys := by
  induction xs generalizing k with
  | nil => rfl
  | cons i rest ih =>
    simp only [List.cons_append, handAll]
    cases h : k.hand i with
    | mk failure next =>
      cases failure with
      | some failure => rfl
      | none => exact ih next

/-- What a sink is called with is an initial part of the items that are handed to it. -/
theorem offered_handAll (k : Sink) (items : List Item) :
    ∃ calls, (k.handAll items).2.offered = k.offered ++ calls ∧ calls <+: items := by
  induction items generalizing k with
  | nil => exact ⟨[], by simp [handAll], List.prefix_refl []⟩
  | cons i rest ih =>
    simp only [handAll]
    cases h : k.hand i with
    | mk failure next =>
      -- the first item counts as offered in either case
      have hoffered : next.offered = k.offered ++ [i] := by rw [← offered_hand, h]
      cases failure with
      | some failure => exact ⟨[i], hoffered, ⟨rest, rfl⟩⟩
      | none =>
        obtain ⟨calls, hcalls, hbegins⟩ := ih next
        refine ⟨i :: calls, ?_, List.cons_prefix_cons.2 ⟨rfl, hbegins⟩⟩
        rw [hcalls, hoffered, List.append_assoc]
        rfl

/-- **Everything is taken** if no call fails. -/
theorem handAll_of_taken (h : ∀ n < items.length, ¬ k.Fails n) :
    k.handAll items = (none, k.afterTaking items) := by
  induction items generalizing k with
  | nil => simp [handAll]
  | cons i rest ih =>
    obtain ⟨hfirst, hrest⟩ := (k.takes_cons_iff i rest).1 h
    rw [handAll, hand_of_not_fails i hfirst]
    simp only
    rw [ih hrest, afterTaking_append]
    rfl

/-- **The first call that fails is the last one**: the items before it are taken. -/
theorem handAll_of_failure {n : Nat} (hn : n < items.length) (hfails : k.Fails n)
    (hfirst : ∀ j < n, ¬ k.Fails j) :
    k.handAll items = (some ⟨k.calls + n⟩,
      { k with offered := k.offered ++ items.take (n + 1), taken := k.taken ++ items.take n }) := by
  have hsplit : items = items.take n ++ items[n] :: items.drop (n + 1) := by
    rw [List.getElem_cons_drop, List.take_append_drop]
  have hlength : (items.take n).length = n := by simp; omega
  have htaken : k.handAll (items.take n) = (none, k.afterTaking (items.take n)) :=
    handAll_of_taken fun j hj => hfirst j (by omega)
  have hfails' : (k.afterTaking (items.take n)).Fails 0 := by
    rw [fails_afterTaking, hlength]
    exact hfails
  calc k.handAll items
      = k.handAll (items.take n ++ items[n] :: items.drop (n + 1)) := congrArg k.handAll hsplit
    _ = (k.afterTaking (items.take n)).handAll (items[n] :: items.drop (n + 1)) := by
        rw [handAll_append, htaken]
    _ = _ := by
        simp only [handAll]
        rw [hand_of_fails _ hfails']
        simp only [afterTaking, calls, List.length_append, hlength, List.append_assoc,
          List.take_append_getElem]

end SpanTelemetry.Sink
