/-
Dates of the proleptic Gregorian calendar, from year -9999 to year 9999.

A `Date` carries the proof that it is one, so every date in hand is valid.  There are three ways
to name a day, each with a constructor that checks its quantities from left to right and reports
the first one out of range:

* `Date.ofCalendar`: year, month and day of the month;
* `Date.ofOrdinal`: year and day of the year;
* `Date.ofIsoWeek`: ISO year, ISO week and weekday.

The derived quantities (`ordinal`, `weekday`, `isoYearWeek`, `sundayWeek`, `mondayWeek`) lead
back; `Date.number` places the date on the one line of days.
-/
import CalendarText.Calendar.Range
import CalendarText.Calendar.Year

namespace CalendarText

/-- The first and last year of the calendar. -/
def Year.first : Int := -9999

@[inherit_doc Year.first]
def Year.last : Int := 9999

/-- A date. -/
structure Date where
  year : Int
  month : Month
  day : Int
  year_mem : Year.first ≤ year ∧ year ≤ Year.last
  day_mem : 1 ≤ day ∧ day ≤ month.length (Year.isLeap year)
  deriving DecidableEq, Repr

namespace Date

/-! ### Constructors -/

/-- The date with this year, month number and day of the month. -/
def ofCalendar (year month day : Int) : Except RangeError Date :=
  if hy : Year.first ≤ year ∧ year ≤ Year.last then
    match Month.ofNumber? month with
    | none => .error { name := "month", minimum := 1, maximum := 12, value := month }
    | some m =>
      if hd : 1 ≤ day ∧ day ≤ m.length (Year.isLeap year) then .ok ⟨year, m, day, hy, hd⟩
      else
        .error { name := "day", minimum := 1, maximum := m.length (Year.isLeap year),
                 value := day, conditional := true }
  else
    .error { name := "year", minimum := Year.first, maximum := Year.last, value := year }

/-- The date with this year and day of the year. -/
def ofOrdinal (year ordinal : Int) : Except RangeError Date :=
  if ¬(Year.first ≤ year ∧ year ≤ Year.last) then
    .error { name := "year", minimum := Year.first, maximum := Year.last, value := year }
  else if ¬(1 ≤ ordinal ∧ ordinal ≤ Year.days year) then
    .error { name := "ordinal", minimum := 1, maximum := Year.days year, value := ordinal,
             conditional := true }
  else
    let month := Month.ofOrdinal (Year.isLeap year) ordinal
    ofCalendar year month.number (ordinal - month.daysBefore (Year.isLeap year))

/-- The date with this ISO year, ISO week and weekday.  The first week is the one that holds the
fourth of January, so a week may begin in the year before, or end in the year after. -/
def ofIsoWeek (year week : Int) (weekday : Weekday) : Except RangeError Date :=
  if ¬(Year.first ≤ year ∧ year ≤ Year.last) then
    .error { name := "year", minimum := Year.first, maximum := Year.last, value := year }
  else if ¬(1 ≤ week ∧ week ≤ Year.weeks year) then
    .error { name := "week", minimum := 1, maximum := Year.weeks year, value := week,
             conditional := true }
  else
    let ordinal := week * 7 + weekday.numberFromMonday
      - ((Year.weekdayOn year 4).numberFromMonday + 3)
    if ordinal < 1 then ofOrdinal (year - 1) (ordinal + Year.days (year - 1))
    else if Year.days year < ordinal then ofOrdinal (year + 1) (ordinal - Year.days year)
    else ofOrdinal year ordinal

/-! ### Derived quantities -/

/-- The day of the year, from 1. -/
def ordinal (d : Date) : Int :=
  d.month.daysBefore (Year.isLeap d.year) + d.day

/-- The day number: days since the day before the first of January of year 1. -/
def number (d : Date) : Int :=
  Year.daysBefore d.year + d.ordinal

/-- The day of the week. -/
def weekday (d : Date) : Weekday :=
  Year.weekdayOn d.year d.ordinal

/-- ISO year and ISO week.  The first days of a year may belong to the last week of the year
before, and its last days to the first week of the year after. -/
def isoYearWeek (d : Date) : Int × Int :=
  let week := (d.ordinal - d.weekday.numberFromMonday + 10) / 7
  if week < 1 then (d.year - 1, Year.weeks (d.year - 1))
  else if Year.weeks d.year < week then (d.year + 1, 1)
  else (d.year, week)

def isoYear (d : Date) : Int :=
  d.isoYearWeek.1

def isoWeek (d : Date) : Int :=
  d.isoYearWeek.2

/-- The week of the year when week 1 begins with the first Sunday, and 0 stands before it. -/
def sundayWeek (d : Date) : Int :=
  (d.ordinal + 6 - d.weekday.indexFromSunday) / 7

/-- The week of the year when week 1 begins with the first Monday, and 0 stands before it. -/
def mondayWeek (d : Date) : Int :=
  (d.ordinal + 6 - d.weekday.index) / 7

/-! ### Order -/

/-- Dates are ordered by year, then month, then day. -/
def compare (a b : Date) : Ordering :=
  (Ord.compare a.year b.year).then
    ((Ord.compare a.month.number b.month.number).then (Ord.compare a.day b.day))

/-! ### First facts -/

/-- A date is built again from its own parts. -/
theorem ofCalendar_self (d : Date) : ofCalendar d.year d.month.number d.day = .ok d := by
  rw [ofCalendar, dif_pos d.year_mem, Month.ofNumber?_number]
  exact dif_pos d.day_mem

/-- The parts of a date that was built are those that were given. -/
theorem eq_of_ofCalendar {year month day : Int} {d : Date}
    (h : ofCalendar year month day = .ok d) :
    d.year = year ∧ d.month.number = month ∧ d.day = day := by
  rw [ofCalendar] at h
  split at h
  · split at h
    · cases h
    · rename_i m hm
      split at h
      · cases h
        exact ⟨rfl, Month.number_of_ofNumber? hm, rfl⟩
      · cases h
  · cases h

/-- The weekday follows from the day number alone. -/
theorem weekday_eq_ofDays (d : Date) : d.weekday = Weekday.ofDays (d.number - 1) := by
  simp [weekday, Year.weekdayOn, number]

end Date

end CalendarText
