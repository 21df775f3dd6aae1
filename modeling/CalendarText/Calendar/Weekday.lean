/-
The days of the week.

`Weekday.index` counts from Monday, and `Weekday.ofDays` reads any day count modulo seven;
`ofDays_index` and `index_ofDays` make the two inverse to each other.
-/
namespace CalendarText

/-- A day of the week. -/
inductive Weekday where
  | monday
  | tuesday
  | wednesday
  | thursday
  | friday
  | saturday
  | sunday
  deriving DecidableEq, Repr

namespace Weekday

/-- The days in order, from Monday. -/
def all : List Weekday :=
  [monday, tuesday, wednesday, thursday, friday, saturday, sunday]

/-- Days since Monday, from 0 to 6. -/
def index : Weekday → Int
  | monday => 0
  | tuesday => 1
  | wednesday => 2
  | thursday => 3
  | friday => 4
  | saturday => 5
  | sunday => 6

/-- The weekday that is `days` days after a Monday. -/
def ofDays (days : Int) : Weekday :=
  match days % 7 with
  | 0 => monday
  | 1 => tuesday
  | 2 => wednesday
  | 3 => thursday
  | 4 => friday
  | 5 => saturday
  | _ => sunday

/-- The weekday whose index is `n`, for `n` from 0 to 6. -/
def ofIndex? (n : Int) : Option Weekday :=
  if 0 ≤ n ∧ n ≤ 6 then some (ofDays n) else none

/-- The number of the day, Monday being 1. -/
def numberFromMonday (w : Weekday) : Int :=
  w.index + 1

/-- Days since Sunday, from 0 to 6. -/
def indexFromSunday (w : Weekday) : Int :=
  (w.index + 1) % 7

/-- The number of the day, Sunday being 1. -/
def numberFromSunday (w : Weekday) : Int :=
  w.indexFromSunday + 1

theorem index_bounds (w : Weekday) : 0 ≤ w.index ∧ w.index ≤ 6 := by
  cases w <;> decide

@[simp]
theorem ofDays_index (w : Weekday) : ofDays w.index = w := by
  cases w <;> rfl

@[simp]
theorem index_ofDays (n : Int) : (ofDays n).index = n % 7 := by
  have days : n % 7 = 0 ∨ n % 7 = 1 ∨ n % 7 = 2 ∨ n % 7 = 3 ∨ n % 7 = 4 ∨ n % 7 = 5 ∨
      n % 7 = 6 := by omega
  rw [ofDays]
  rcases days with h | h | h | h | h | h | h <;> rw [h] <;> rfl

end Weekday

end CalendarText
