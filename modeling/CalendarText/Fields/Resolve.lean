/-
Values resolved from fields.

A date is named by the first complete set of fields, and then every other field that is filled
in must agree with it.

* `Fields.date`, `Fields.time`, `Fields.offset`: the parts of a value, or why there is none;
* `Date.quantities`: what a date would put into each of its fields;
* `ValueKind.resolve`: a value of a kind.
-/
import CalendarText.Calendar.Value
import CalendarText.Failure.Basic
import CalendarText.Fields.Basic

namespace CalendarText

/-- What the date fields say of a date, in the order in which they are compared. -/
def Date.quantities (d : Date) : List (Field × Int) :=
  [(.year, d.year),
    (.yearLastTwo, Year.lastTwo d.year),
    (.isoYear, d.isoYear),
    (.isoYearLastTwo, Year.lastTwo d.isoYear),
    (.month, d.month.number),
    (.day, d.day),
    (.ordinal, d.ordinal),
    (.weekday, d.weekday.index),
    (.isoWeekNumber, d.isoWeek),
    (.sundayWeekNumber, d.sundayWeek),
    (.mondayWeekNumber, d.mondayWeek)]

/-- A date by its year, the number of a week, and the weekday counted from the first day of the
week.  Week 1 begins with the first such day of the year. -/
def Date.ofWeek (year week index : Int) (indexOf : Weekday → Int) : Except RangeError Date := do
  let newYear ← Date.ofCalendar year 1 1
  let first := indexOf newYear.weekday
  Date.ofOrdinal year (week * 7 + index - (if first = 0 then 7 else first) + 1)

namespace Fields

/-- The weekday, if it is known. -/
def weekday? (p : Fields) : Option Weekday :=
  (p.get .weekday).map Weekday.ofDays

/-- The date by year and day of the year. -/
def byOrdinal (p : Fields) : Option (Except RangeError Date) := do
  let year ← p.get .year
  let ordinal ← p.get .ordinal
  return Date.ofOrdinal year ordinal

/-- The date by year, month and day. -/
def byCalendar (p : Fields) : Option (Except RangeError Date) := do
  let year ← p.get .year
  let month ← p.get .month
  let day ← p.get .day
  return Date.ofCalendar year month day

/-- The date by ISO year, ISO week and weekday. -/
def byIsoWeek (p : Fields) : Option (Except RangeError Date) := do
  let year ← p.get .isoYear
  let week ← p.get .isoWeekNumber
  let weekday ← p.weekday?
  return Date.ofIsoWeek year week weekday

/-- The date by year, week from Sunday, and weekday. -/
def bySundayWeek (p : Fields) : Option (Except RangeError Date) := do
  let year ← p.get .year
  let weekday ← p.weekday?
  let week ← p.get .sundayWeekNumber
  return Date.ofWeek year week weekday.indexFromSunday Weekday.indexFromSunday

/-- The date by year, week from Monday, and weekday. -/
def byMondayWeek (p : Fields) : Option (Except RangeError Date) := do
  let year ← p.get .year
  let weekday ← p.weekday?
  let week ← p.get .mondayWeekNumber
  return Date.ofWeek year week weekday.index Weekday.index

/-- The date that the first complete set of fields names. -/
def namedDate (p : Fields) : Except Cause Date :=
  match p.byOrdinal <|> p.byCalendar <|> p.byIsoWeek <|> p.bySundayWeek <|> p.byMondayWeek with
  | some result => result.mapError .range
  | none => .error .insufficient

/-- The first field that is filled in and holds another number. -/
def contradiction (p : Fields) (quantities : List (Field × Int)) : Option Field :=
  (quantities.find? fun (f, n) => (p.get f).any (· ≠ n)).map Prod.fst

/-- The date that the fields determine. -/
def date (p : Fields) : Except Cause Date := do
  let d ← p.namedDate
  match p.contradiction d.quantities with
  | some f => throw (.inconsistent f.name)
  | none => return d

/-- The hour of the day, by the clock of 24 hours or else by that of 12. -/
def hour? (p : Fields) : Option Int :=
  match p.get .hour24, p.get .hour12, p.get .hour12IsPm with
  | some hour, _, _ => some hour
  | none, some hour, some pm => some (hour % 12 + 12 * pm)
  | _, _, _ => none

/-- The time that the hour and what follows it name.  An hour of the clock of 12 is a full time
by itself. -/
def namedTime (p : Fields) (hour : Int) : Except Cause Time :=
  match p.get .minute with
  | some minute =>
    (Time.ofClock hour minute ((p.get .second).getD 0) ((p.get .subsecond).getD 0)).mapError .range
  | none =>
    if p.get .hour24 = none ∧ p.get .second = none ∧ p.get .subsecond = none then
      (Time.ofClock hour 0 0 0).mapError .range
    else .error .insufficient

/-- What is known by the clock of 12 hours and contradicts a time by that of 24. -/
def clockContradiction (p : Fields) (t : Time) : Option Field :=
  if p.get .hour24 = none then none
  else p.contradiction [(.hour12, t.hour12), (.hour12IsPm, if t.isPm then 1 else 0)]

/-- The time that the fields determine. -/
def time (p : Fields) : Except Cause Time := do
  match p.hour? with
  | none => throw .insufficient
  | some hour =>
    let t ← p.namedTime hour
    match p.clockContradiction t with
    | some f => throw (.inconsistent f.name)
    | none => return t

/-- The offset that the fields determine.  Minutes and seconds take the sign of the offset. -/
def offset (p : Fields) : Except Cause UtcOffset :=
  match p.get .offsetHour with
  | none => .error .insufficient
  | some hours =>
    let sign : Int := if p.get .offsetIsNegative = some 1 ∨ hours < 0 then -1 else 1
    (UtcOffset.ofParts hours (sign * ((p.get .offsetMinute).getD 0).natAbs)
      (sign * ((p.get .offsetSecond).getD 0).natAbs)).mapError .range

end Fields

/-- The failure of a resolution. -/
def Failure.resolving (c : Cause) : Failure :=
  .within .resolving (.bare c)

/-- The value of a kind, with the cause where there is none: the date first, then the time, then
the offset. -/
def ValueKind.determine (kind : ValueKind) (p : Fields) : Except Cause Value :=
  match kind with
  | .date => p.date.map Value.date
  | .time => p.time.map Value.time
  | .offset => p.offset.map Value.offset
  | .dateTime => do
    let d ← p.date
    let t ← p.time
    return .dateTime ⟨d, t⟩
  | .offsetDateTime => do
    let d ← p.date
    let t ← p.time
    let o ← p.offset
    return .offsetDateTime ⟨d, t, o⟩

/-- The value of a kind that the fields determine. -/
def ValueKind.resolve (kind : ValueKind) (p : Fields) : Except Failure Value :=
  (kind.determine p).mapError Failure.resolving

end CalendarText
