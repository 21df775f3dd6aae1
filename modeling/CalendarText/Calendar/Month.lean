/-
The months of the year: numbers, lengths, and the days that pass before each.

* `Month.ofNumber?_number`: a month is found by its number;
* `Month.daysBefore_succ`: the days before a month grow by the length of the month before it.
-/
namespace CalendarText

/-- A month of the year. -/
inductive Month where
  | january
  | february
  | march
  | april
  | may
  | june
  | july
  | august
  | september
  | october
  | november
  | december
  deriving DecidableEq, Repr

namespace Month

/-- The months in order. -/
def all : List Month :=
  [january, february, march, april, may, june, july, august, september, october, november,
    december]

/-- The number of the month, January being 1. -/
def number : Month → Int
  | january => 1
  | february => 2
  | march => 3
  | april => 4
  | may => 5
  | june => 6
  | july => 7
  | august => 8
  | september => 9
  | october => 10
  | november => 11
  | december => 12

/-- The month with this number, for numbers from 1 to 12. -/
def ofNumber? (n : Int) : Option Month :=
  all.find? fun m => m.number == n

/-- The days of the month, in a common year or in a leap year. -/
def length (leap : Bool) : Month → Int
  | february => if leap then 29 else 28
  | april | june | september | november => 30
  | _ => 31

/-- The days of the year that pass before the first of the month. -/
def daysBefore (leap : Bool) (m : Month) : Int :=
  common m + (if leap ∧ 2 < m.number then 1 else 0)
where
  /-- The same in a common year. -/
  common : Month → Int
    | january => 0
    | february => 31
    | march => 59
    | april => 90
    | may => 120
    | june => 151
    | july => 181
    | august => 212
    | september => 243
    | october => 273
    | november => 304
    | december => 334

/-- The month in which a day of the year falls: the last one with fewer days before it. -/
def ofOrdinal (leap : Bool) (ordinal : Int) : Month :=
  (all.reverse.find? fun m => m.daysBefore leap < ordinal).getD january

theorem number_bounds (m : Month) : 1 ≤ m.number ∧ m.number ≤ 12 := by
  cases m <;> decide

@[simp]
theorem ofNumber?_number (m : Month) : ofNumber? m.number = some m := by
  cases m <;> rfl

theorem number_of_ofNumber? {n : Int} {m : Month} (h : ofNumber? n = some m) : m.number = n := by
  simpa using List.find?_some h

theorem length_bounds (leap : Bool) (m : Month) : 28 ≤ m.length leap ∧ m.length leap ≤ 31 := by
  cases leap <;> cases m <;> decide

/-- What passes before a month is what passed before the month in front of it, and that
month itself. -/
theorem daysBefore_succ (leap : Bool) {m next : Month} (h : next.number = m.number + 1) :
    next.daysBefore leap = m.daysBefore leap + m.length leap := by
  cases leap <;> cases m <;> cases next <;> first | rfl | (exact absurd h (by decide))

end Month

end CalendarText
