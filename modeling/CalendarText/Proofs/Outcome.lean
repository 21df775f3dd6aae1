/-
When a computation that may fail has a result.

* `Outcome.map_eq_ok_iff`: a changed result comes from a result;
* `Outcome.mapError_eq_ok_iff`: a changed error leaves a result as it is;
* `Outcome.bind_eq_ok_iff`: a chain has a result when each of its two steps has one;
* `Outcome.bind_eq_error_iff`: a chain fails where the first of its two steps fails that does.
-/
import Mathlib.Tactic.Lemma

namespace CalendarText.Outcome

variable {E A B : Type}

/-- A changed result comes from a result. -/
lemma map_eq_ok_iff {x : Except E A} {f : A → B} {b : B} :
    x.map f = .ok b ↔ ∃ a, x = .ok a ∧ f a = b := by
  cases x <;> simp [Except.map]

lemma mapError_ok {F : Type} {f : E → F} {a : A} : (Except.ok a).mapError f = .ok a :=
  rfl

lemma mapError_error {F : Type} {f : E → F} {e : E} :
    (Except.error e : Except E A).mapError f = .error (f e) :=
  rfl

/-- A changed error leaves a result as it is. -/
lemma mapError_eq_ok_iff {F : Type} {x : Except E A} {f : E → F} {a : A} :
    x.mapError f = .ok a ↔ x = .ok a := by
  cases x with
  | error e => exact ⟨nofun, nofun⟩
  | ok b => rw [mapError_ok, Except.ok.injEq, Except.ok.injEq]

/-- A chain has a result when each of its two steps has one. -/
lemma bind_eq_ok_iff {x : Except E A} {f : A → Except E B} {b : B} :
    (x >>= f) = .ok b ↔ ∃ a, x = .ok a ∧ f a = .ok b := by
  cases x <;> simp [bind, Except.bind]

/-- A changed result fails where the result itself does. -/
lemma map_eq_error_iff {x : Except E A} {f : A → B} {e : E} :
    x.map f = .error e ↔ x = .error e := by
  cases x <;> simp [Except.map]

/-- A changed error comes from an error. -/
lemma mapError_eq_error_iff {F : Type} {x : Except E A} {f : E → F} {e : F} :
    x.mapError f = .error e ↔ ∃ c, x = .error c ∧ f c = e := by
  cases x with
  | error c =>
      rw [mapError_error, Except.error.injEq]
      constructor
      · intro same
        exact ⟨c, rfl, same⟩
      · rintro ⟨_, ⟨⟩, same⟩
        exact same
  | ok a => exact ⟨nofun, nofun⟩

/-- A chain fails where the first of its two steps fails that does. -/
lemma bind_eq_error_iff {x : Except E A} {f : A → Except E B} {e : E} :
    (x >>= f) = .error e ↔ x = .error e ∨ ∃ a, x = .ok a ∧ f a = .error e := by
  cases x <;> simp [bind, Except.bind]

end CalendarText.Outcome
