/-
Arithmetic of the proleptic Gregorian calendar, over every integer as a year.

Day numbers count from the first of January of year 1, which is day 1 and a Monday.  All
divisors are positive, so quotients round down and remainders are never negative, also before
year 1.

* `Year.daysBefore_succ`: consecutive years differ by the days of the first;
* `Year.weekdayOn`: the weekday of a day of the year.
-/
import CalendarText.Calendar.Weekday
import CalendarText.Calendar.Month
import CalendarText.Word

namespace CalendarText.Year

/-- Every fourth year is a leap year, except for three centuries out of four. -/
def isLeap (year : Int) : Bool :=
  year % 4 = 0 ∧ (year % 100 ≠ 0 ∨ year % 400 = 0)

/-- The days of a year. -/
def days (year : Int) : Int :=
  if isLeap year then 366 else 365

/-- The last two digits of a year, without its sign. -/
def lastTwo (year : Int) : Int :=
  year.natAbs % 100

/-- The number of the last day before a year. -/
def daysBefore (year : Int) : Int :=
  (year - 1) * 365 + (year - 1) / 4 - (year - 1) / 100 + (year - 1) / 400

/-- The weekday of the day with this ordinal in a year. -/
def weekdayOn (year ordinal : Int) : Weekday :=
  Weekday.ofDays (daysBefore year + ordinal - 1)

/-- The ISO weeks of a year: 53 when it has 53 Thursdays, which is when its first of January
is a Thursday, or a Wednesday in a leap year. -/
def weeks (year : Int) : Int :=
  let first := weekdayOn year 1
  if first = .thursday ∨ (first = .wednesday ∧ isLeap year) then 53 else 52

/-- The days of the months as a table whose entries 1 to 12 are the months of a common year.
Entry 0 is unused. -/
def monthTable : List Int :=
  [0, 31, 28, 31, 30, 31, 30, 31, 31, 30, 31, 30, 31]

/-- An entry of the month table, `entry` being a month number or, if negative, a position
counted from the end.  The leap day is added for month number 2 only.  Outside of the table
there is no answer. -/
def monthLength? (year entry : Int) : Option Int :=
  let position := if entry < 0 then entry + monthTable.length else entry
  if position < 0 then none
  else monthTable[position.toNat]?.map (· + (if entry = 2 ∧ isLeap year then 1 else 0))

/-- Why an entry has no answer. -/
inductive EntryError where
  /-- it is outside of the table -/
  | outside
  /-- it is too wide to be a position in any table -/
  | tooWide
  deriving DecidableEq, Repr

/-- The sentence that reports the error. -/
def EntryError.message : EntryError → String
  | outside => "list index out of range"
  | tooWide => "cannot fit 'int' into an index-sized integer"

/-- An entry of the month table, or why there is none. -/
def monthLength (year entry : Int) : Except EntryError Int :=
  match monthLength? year entry with
  | some days => .ok days
  | none => .error (if fitsWord entry then .outside else .tooWide)

theorem isLeap_iff (year : Int) :
    isLeap year = true ↔ year % 4 = 0 ∧ (year % 100 ≠ 0 ∨ year % 400 = 0) := by
  simp [isLeap]

/-- The days before the next year are those before this one and those of this one. -/
theorem daysBefore_succ (year : Int) : daysBefore (year + 1) = daysBefore year + days year := by
  have leap := isLeap_iff year
  simp only [daysBefore, days]
  by_cases h : isLeap year = true
  · rw [if_pos h]
    have := leap.mp h
    omega
  · rw [if_neg h]
    have := mt leap.mpr h
    omega

/-- Month numbers find the lengths of the months. -/
theorem monthLength?_number (year : Int) (m : Month) :
    monthLength? year m.number = some (m.length (isLeap year)) := by
  cases leap : isLeap year <;> cases m <;>
    simp [monthLength?, monthTable, Month.number, Month.length, leap]

end CalendarText.Year
