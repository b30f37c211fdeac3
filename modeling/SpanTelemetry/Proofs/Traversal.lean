import Mathlib.Data.List.Forall2

namespace SpanTelemetry

/-!
# Values worked out one by one

Values are worked out in their order, and one that fails ends it.

* `bind_eq_ok_iff`, `map_eq_ok_iff`, `mapM_some_eq_ok_iff` — a value that may be refused, and what follows
  it.
* `mapM_cons_eq_some_iff`, `mapM_eq_some_iff`, `mapM_eq_none_iff` — values that may be missing.
* `mapM_eq_ok_iff`, `mapM_eq_error_iff` — values that may be refused; the first refusal counts.
-/

/-! ### Values that may be missing -/

section Missing

variable {α β : Type} {f : α → Option β} {a : α} {as : List α} {bs : List β}

/-- The values of a list are there as a whole iff the first is there and so are the others. -/
theorem mapM_cons_eq_some_iff :
    (a :: as).mapM f = some bs ↔
      ∃ b more, f a = some b ∧ as.mapM f = some more ∧ b :: more = bs := by
  simp only [List.mapM_cons, Option.bind_eq_bind, Option.bind_eq_some_iff, Option.pure_def,
    Option.some.injEq]
  constructor
  · rintro ⟨b, hb, more, hmore, rfl⟩
    exact ⟨b, more, hb, hmore, rfl⟩
  · rintro ⟨b, more, hb, hmore, rfl⟩
    exact ⟨b, hb, more, hmore, rfl⟩

/-- They are there as a whole iff each of them is there. -/
theorem mapM_eq_some_iff : as.mapM f = some bs ↔ as.map f = bs.map some := by
  induction as generalizing bs with
  | nil => simp
  | cons a as ih =>
    simp only [mapM_cons_eq_some_iff, ih]
    constructor
    · rintro ⟨b, more, hb, hmore, rfl⟩
      rw [List.map_cons, List.map_cons, hb, hmore]
    · intro h
      obtain ⟨b, more, rfl, hb, hmore⟩ := List.map_eq_cons_iff.1 h.symm
      exact ⟨b, more, hb.symm, hmore.symm, rfl⟩

/-- Otherwise one of them is missing. -/
theorem mapM_eq_none_iff : as.mapM f = none ↔ ∃ a ∈ as, f a = none := by
  induction as with
  | nil => simp
  | cons a as ih =>
    rw [List.mapM_cons]
    cases hfirst : f a with
    | none => simp [hfirst]
    | some b => cases hrest : as.mapM f <;> simp [hfirst, ← ih, hrest]

end Missing

/-! ### Values that may be refused -/

section Steps

variable {α β ε : Type} {x : Except ε α}

/-- Two steps succeed iff the first does and then the second. -/
theorem bind_eq_ok_iff {f : α → Except ε β} {b : β} :
    (x >>= f) = .ok b ↔ ∃ a, x = .ok a ∧ f a = .ok b := by
  cases x <;> simp [bind, Except.bind]

/-- A value that is changed was there before. -/
theorem map_eq_ok_iff {f : α → β} {b : β} : x.map f = .ok b ↔ ∃ a, x = .ok a ∧ f a = b := by
  cases x <;> simp [Except.map]

/-- A change does not make a value fail. -/
theorem map_eq_error_iff {f : α → β} {e : ε} : x.map f = .error e ↔ x = .error e := by
  cases x <;> simp [Except.map]

/-- A value that is there is worked out as it would be on its own. -/
theorem mapM_some_eq_ok_iff {f : α → Except ε β} {a : α} {b? : Option β} :
    (some a).mapM f = .ok b? ↔ ∃ b, f a = .ok b ∧ some b = b? := by
  rw [Option.mapM_some]
  exact map_eq_ok_iff

end Steps

section Refused

variable {α β ε : Type} {f : α → Except ε β}

/-- A list is worked out iff each of its members is. -/
theorem mapM_eq_ok_iff {xs : List α} {ys : List β} : xs.mapM f = .ok ys ↔ xs.map f = ys.map .ok := by
  induction xs generalizing ys with
  | nil => cases ys <;> simp [pure, Except.pure]
  | cons x rest ih =>
    rw [List.mapM_cons]
    -- read backwards the induction hypothesis tells what the rest of the list is worked out to
    cases hx : f x with
    | error e => cases ys <;> simp [bind, Except.bind, hx]
    | ok y =>
      cases hrest : rest.mapM f with
      | error e => cases ys <;> simp [bind, Except.bind, ← ih, hrest, hx]
      | ok more => cases ys <;> simp [bind, Except.bind, pure, Except.pure, ← ih, hrest, hx]

/-- A list is refused for the first of its members that is. -/
theorem mapM_eq_error_iff {xs : List α} {e : ε} :
    xs.mapM f = .error e ↔ ∃ before x after, xs = before ++ x :: after ∧
      (∀ y ∈ before, ∃ b, f y = .ok b) ∧ f x = .error e := by
  constructor
  · induction xs with
    | nil => simp [pure, Except.pure]
    | cons x rest ih =>
      intro h
      rw [List.mapM_cons] at h
      cases hx : f x with
      | error e' =>
        rw [hx] at h
        obtain rfl : e' = e := Except.error.inj h
        exact ⟨[], x, rest, rfl, by simp, hx⟩
      | ok y =>
        rw [hx] at h
        cases hrest : rest.mapM f with
        | ok more =>
          rw [hrest] at h
          cases h
        | error e' =>
          rw [hrest] at h
          obtain rfl : e' = e := Except.error.inj h
          obtain ⟨before, z, after, rfl, hbefore, hz⟩ := ih hrest
          refine ⟨x :: before, z, after, rfl, ?_, hz⟩
          intro w hw
          rcases List.mem_cons.1 hw with rfl | hw
          · exact ⟨y, hx⟩
          · exact hbefore w hw
  · rintro ⟨before, x, after, rfl, hbefore, hx⟩
    induction before with
    | nil => rw [List.nil_append, List.mapM_cons, hx]; rfl
    | cons y before ih =>
      obtain ⟨b, hb⟩ := hbefore y List.mem_cons_self
      have hrest := ih fun z hz => hbefore z (List.mem_cons_of_mem _ hz)
      rw [List.cons_append, List.mapM_cons, hb, hrest]
      rfl

end Refused

end SpanTelemetry
