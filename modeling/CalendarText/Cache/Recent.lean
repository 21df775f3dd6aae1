/-
A bounded store of results that keeps the ones used most recently.

* `Recent.fetch`: a result from the store, or a fresh one that is then kept;
* `Recent.fetch_cases`: all that a fetch can do;
* `Recent.length_touch_le`: the store never outgrows its capacity;
* `Recent.forall_touch`: what holds of all entries and of a new one holds after the new one is put
  in front.
-/
namespace CalendarText

/-- A store with its entries, the one used last in front. -/
structure Recent (κ α : Type) where
  capacity : Nat
  entries : List (κ × α) := []
  deriving Repr

namespace Recent

variable {κ α ε : Type} [DecidableEq κ]

/-- The result that is stored for a key. -/
def find? (c : Recent κ α) (k : κ) : Option α :=
  c.entries.lookup k

/-- The store with a result in front.  What exceeds the capacity falls off at the end. -/
def touch (c : Recent κ α) (k : κ) (a : α) : Recent κ α :=
  { c with entries := ((k, a) :: c.entries.filter fun e => e.1 ≠ k).take c.capacity }

/-- The result for a key, stored or freshly made, and the store afterwards.  A failure to make
one is not stored. -/
def fetch (c : Recent κ α) (k : κ) (make : Except ε α) : Except ε α × Recent κ α :=
  match c.find? k with
  | some a => (.ok a, c.touch k a)
  | none =>
    match make with
    | .ok a => (.ok a, c.touch k a)
    | .error e => (.error e, c)

theorem mem_of_lookup {entries : List (κ × α)} {k : κ} {a : α}
    (h : entries.lookup k = some a) : (k, a) ∈ entries := by
  induction entries with
  | nil => cases h
  | cons e entries ih =>
    rw [List.lookup_cons] at h
    split at h
    · rename_i eq
      cases h
      rw [beq_iff_eq.mp eq]
      exact List.mem_cons_self
    · exact List.mem_cons_of_mem _ (ih h)

/-- A fetch finds a result, or makes one, and puts it in front; or it fails to make one and leaves
the store as it is. -/
theorem fetch_cases (c : Recent κ α) (k : κ) (make : Except ε α) :
    (∃ a, c.fetch k make = (.ok a, c.touch k a) ∧ ((k, a) ∈ c.entries ∨ make = .ok a)) ∨
      ∃ e, c.fetch k make = (.error e, c) ∧ make = .error e := by
  unfold fetch
  cases found : c.find? k with
  | some a => exact .inl ⟨a, rfl, .inl (mem_of_lookup found)⟩
  | none =>
    cases make with
    | ok a => exact .inl ⟨a, rfl, .inr rfl⟩
    | error e => exact .inr ⟨e, rfl, rfl⟩

/-- The store never outgrows its capacity. -/
theorem length_touch_le (c : Recent κ α) (k : κ) (a : α) :
    (c.touch k a).entries.length ≤ c.capacity :=
  List.length_take_le _ _

/-- What holds of all entries and of a new one holds of all entries with the new one in front. -/
theorem forall_touch {P : κ × α → Prop} {c : Recent κ α} (h : ∀ e ∈ c.entries, P e) {k : κ} {a : α}
    (new : P (k, a)) : ∀ e ∈ (c.touch k a).entries, P e := by
  intro e he
  rcases List.mem_cons.mp (List.mem_of_mem_take he) with rfl | he
  · exact new
  · exact h e (List.mem_filter.mp he).1

end Recent

end CalendarText
