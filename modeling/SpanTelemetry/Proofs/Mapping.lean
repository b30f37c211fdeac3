import SpanTelemetry.Mapping

namespace SpanTelemetry.Mapping

/-!
# Mappings one after another

* `toOption_eq_some_iff`, `value?_written`, `value?_timestamp` — the values of mappings that only may fail.
* `value?_forM_iff` — a row of mappings succeeds iff each of them does.
* `forM_of_value?` — if so, it gives the warnings of all of them in their order.
* `forM_filter_of_idle` — those that do nothing may be left out.
-/

/-! ### Mappings that only may fail -/

section Results

variable {ε α : Type}

theorem toOption_eq_some_iff {r : Except ε α} {a : α} : r.toOption = some a ↔ r = .ok a := by
  cases r <;> simp [Except.toOption]

/-- Renaming an error does not change which value there is. -/
@[simp] theorem value?_ofExcept_mapError (r : Except ε α) (f : ε → MappingError) :
    (ofExcept (r.mapError f)).value? = r.toOption := by
  cases r <;> rfl

@[simp] theorem value?_written (w : Text.Written α) : (written w).value? = w.toOption :=
  value?_ofExcept_mapError _ _

@[simp] theorem value?_timestamp (nanos : Int) :
    (timestamp nanos).value? = (timestampText nanos).toOption :=
  value?_ofExcept_mapError _ _

theorem written_of_ok {w : Text.Written α} {a : α} (h : w = .ok a) : written w = ⟨[], .ok a⟩ := by
  rw [h]
  rfl

theorem written_of_error {w : Text.Written α} {e : Text.TextError} (h : w = .error e) :
    written w = ⟨[], .error (.text e)⟩ := by
  rw [h]
  rfl

theorem timestamp_of_ok {nanos : Int} {text : String} (h : timestampText nanos = .ok text) :
    timestamp nanos = ⟨[], .ok text⟩ := by
  rw [timestamp, h]
  rfl

theorem timestamp_of_error {nanos : Int} {e : TimeError} (h : timestampText nanos = .error e) :
    timestamp nanos = ⟨[], .error (.time e)⟩ := by
  rw [timestamp, h]
  rfl

/-- Whether a mapping comes to something that is there can be computed. -/
theorem exists_value?_iff {x : Mapping (Option α)} :
    (∃ a, x.value? = some (some a)) ↔ x.value?.join.isSome = true := by
  simp [Option.isSome_iff_exists, Option.join_eq_some_iff]

end Results

/-! ### Rows of mappings -/

section Rows

variable {α : Type} {as : List α} {f : α → Mapping Unit}

/-- A row of mappings succeeds iff each of them does. -/
theorem value?_forM_iff :
    (as.forM f).value? = some () ↔ ∀ a ∈ as, (f a).value? = some () := by
  induction as with
  | nil => exact iff_of_true rfl (by simp)
  | cons a rest ih =>
    have hcons : (a :: rest).forM f = f a >>= fun _ => rest.forM f := rfl
    rw [hcons, value?_bind, Option.bind_eq_some_iff, List.forall_mem_cons, ← ih]
    constructor
    · rintro ⟨⟨⟩, hfirst, hrest⟩
      exact ⟨hfirst, hrest⟩
    · rintro ⟨hfirst, hrest⟩
      exact ⟨(), hfirst, hrest⟩

/-- A row of mappings that all succeed gives their warnings in their order. -/
theorem forM_of_value? (h : ∀ a ∈ as, (f a).value? = some ()) :
    as.forM f = ⟨as.flatMap fun a => (f a).warnings, .ok ()⟩ := by
  induction as with
  | nil => rfl
  | cons a rest ih =>
    have hcons : (a :: rest).forM f = f a >>= fun _ => rest.forM f := rfl
    obtain ⟨hfirst, hrest⟩ := List.forall_mem_cons.1 h
    rw [hcons, ih hrest, List.flatMap_cons]
    generalize f a = first at hfirst ⊢
    obtain ⟨warnings, result⟩ := first
    obtain rfl := value?_eq_some_iff.1 hfirst
    rfl

/-- Mappings that do nothing may be left out of a row. -/
theorem forM_filter_of_idle {keep : α → Bool} (h : ∀ a ∈ as, keep a = false → f a = pure ()) :
    (as.filter keep).forM f = as.forM f := by
  induction as with
  | nil => rfl
  | cons a rest ih =>
    have hcons : (a :: rest).forM f = f a >>= fun _ => rest.forM f := rfl
    have hrest := ih fun b hb => h b (List.mem_cons_of_mem a hb)
    cases hkeep : keep a with
    | true =>
      rw [List.filter_cons_of_pos hkeep, hcons, ← hrest]
      rfl
    | false =>
      rw [List.filter_cons_of_neg (by simp [hkeep]), hrest, hcons, h a List.mem_cons_self hkeep, pure_bind]

end Rows

end SpanTelemetry.Mapping
