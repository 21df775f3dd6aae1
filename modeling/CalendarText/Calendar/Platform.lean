/-
Exchange with the date and time records of the platform.

Platform records count microseconds and begin with year 1.  Giving a value to the platform drops
what is finer than a microsecond and refuses earlier years; taking one back checks its parts
again.  An offset travels as a `Duration`, of which the whole seconds are kept.

The platform makes records by its own rules (`Platform.Day.ofParts` and the like) and refuses what
does not fit in half a word, or is no date, time, span or zone (`Platform.Refusal`).
-/
import CalendarText.Calendar.DateTime
import CalendarText.Calendar.Duration
import CalendarText.Text.Numeral
import CalendarText.Word

namespace CalendarText

namespace Platform

/-- The platform's record of a date. -/
structure Day where
  year : Int
  month : Int
  day : Int
  deriving DecidableEq, Repr

/-- The platform's record of a clock time. -/
structure Clock where
  hour : Int
  minute : Int
  second : Int
  microsecond : Int
  deriving DecidableEq, Repr

/-- The platform's record of a date-time.  Without an offset it is a naive one. -/
structure Stamp where
  day : Day
  clock : Clock
  offset : Option Duration
  deriving DecidableEq, Repr

/-- A time zone of the platform, by the offset that it always has, if there is one. -/
structure Zone where
  fixed : Option Duration
  deriving DecidableEq, Repr

/-- Why the platform makes no record. -/
inductive Refusal where
  /-- a number does not fit in a word -/
  | wideNumber
  /-- a number is above half a word -/
  | largeNumber
  /-- a number is below half a word -/
  | smallNumber
  | year (n : Int)
  | month
  | day
  | hour
  | minute
  | second
  | microsecond
  /-- the days of a span do not fit in half a word -/
  | wideSpan
  /-- a span has too many days -/
  | span (days : Int)
  /-- an offset comes to a day or more -/
  | zone (offset : Duration)
  deriving DecidableEq, Repr

/-- A span as the platform shows it: days, and then seconds and microseconds of the last day that
has begun.  What is zero is left out. -/
def showSpan (d : Duration) : String :=
  let parts := [("days", d.microseconds / 86400000000),
    ("seconds", d.microseconds % 86400000000 / 1000000), ("microseconds", d.microseconds % 1000000)]
  let shown := parts.filterMap fun (name, n) => if n = 0 then none else some s!"{name}={n}"
  let inner := if shown = [] then "0" else ", ".intercalate shown
  s!"datetime.timedelta({inner})"

/-- The sentence that reports a refusal. -/
def Refusal.message : Refusal → String
  | wideNumber => "Python int too large to convert to C long"
  | largeNumber => "signed integer is greater than maximum"
  | smallNumber => "signed integer is less than minimum"
  | year n => s!"year {n} is out of range"
  | month => "month must be in 1..12"
  | day => "day is out of range for month"
  | hour => "hour must be in 0..23"
  | minute => "minute must be in 0..59"
  | second => "second must be in 0..59"
  | microsecond => "microsecond must be in 0..999999"
  | wideSpan => "Python int too large to convert to C int"
  | span days => s!"days={days}; must have magnitude <= 999999999"
  | zone offset =>
    "offset must be a timedelta strictly between -timedelta(hours=24) and timedelta(hours=24), " ++
      s!"not {showSpan offset}."

/-- Whether the refusal is about the width of a number. -/
def Refusal.isOverflow : Refusal → Bool
  | wideNumber | largeNumber | smallNumber | wideSpan | span _ => true
  | _ => false

/-- Numbers that fit in half a word.  The first that does not is reported. -/
def checkNumbers : List Int → Except Refusal Unit
  | [] => .ok ()
  | n :: numbers =>
    if fitsHalfWord n then checkNumbers numbers
    else if ¬fitsWord n then .error .wideNumber
    else .error (if n < 0 then .smallNumber else .largeNumber)

/-- A date, by the platform's rules. -/
def Day.check (d : Day) : Except Refusal Unit :=
  if ¬(1 ≤ d.year ∧ d.year ≤ 9999) then .error (.year d.year)
  else
    match Month.ofNumber? d.month with
    | none => .error .month
    | some m =>
      if 1 ≤ d.day ∧ d.day ≤ m.length (Year.isLeap d.year) then .ok () else .error .day

/-- A clock time, by the platform's rules. -/
def Clock.check (c : Clock) : Except Refusal Unit :=
  if ¬(0 ≤ c.hour ∧ c.hour ≤ 23) then .error .hour
  else if ¬(0 ≤ c.minute ∧ c.minute ≤ 59) then .error .minute
  else if ¬(0 ≤ c.second ∧ c.second ≤ 59) then .error .second
  else if ¬(0 ≤ c.microsecond ∧ c.microsecond ≤ 999999) then .error .microsecond
  else .ok ()

/-- The record of a date. -/
def Day.ofParts (year month day : Int) : Except Refusal Day := do
  checkNumbers [year, month, day]
  Day.check ⟨year, month, day⟩
  return ⟨year, month, day⟩

/-- The record of a clock time. -/
def Clock.ofParts (hour minute second microsecond : Int) : Except Refusal Clock := do
  checkNumbers [hour, minute, second, microsecond]
  Clock.check ⟨hour, minute, second, microsecond⟩
  return ⟨hour, minute, second, microsecond⟩

/-- The record of a span of time. -/
def spanOfParts (seconds microseconds : Int) : Except Refusal Duration :=
  let d : Duration := ⟨seconds * 1000000 + microseconds⟩
  let days := d.microseconds / 86400000000
  if ¬fitsHalfWord days then .error .wideSpan
  else if ¬(-999999999 ≤ days ∧ days ≤ 999999999) then .error (.span days)
  else .ok d

/-- The record of a zone with a fixed offset, which must stay below a day. -/
def Zone.ofOffset (d : Duration) : Except Refusal Zone :=
  if -86400000000 < d.microseconds ∧ d.microseconds < 86400000000 then .ok ⟨some d⟩
  else .error (.zone d)

/-- The record of a date-time.  All numbers are measured before any is looked at. -/
def Stamp.ofParts (day : Day) (clock : Clock) (zone : Option Zone) : Except Refusal Stamp := do
  checkNumbers [day.year, day.month, day.day, clock.hour, clock.minute, clock.second,
    clock.microsecond]
  day.check
  clock.check
  return ⟨day, clock, zone.bind Zone.fixed⟩

/-- A platform date with four digits for the year and two for month and day. -/
def Day.text (d : Day) : Octets :=
  Numeral.pad d.year.toNat 4 .zero ++ [45] ++ Numeral.pad d.month.toNat 2 .zero ++ [45] ++
    Numeral.pad d.day.toNat 2 .zero

end Platform

/-- Why a value could not be exchanged with the platform. -/
inductive ConversionError where
  /-- the platform cannot hold the value -/
  | outOfRange
  /-- an offset is needed and the record has none -/
  | indeterminateOffset
  /-- the time zone has no fixed offset -/
  | noFixedOffset
  /-- a part of the record is out of range here -/
  | component (e : RangeError)
  deriving DecidableEq, Repr

/-! ### To the platform -/

/-- The platform's record of a date, for years from 1. -/
def Date.toPlatform (d : Date) : Except ConversionError Platform.Day :=
  if 1 ≤ d.year then .ok ⟨d.year, d.month.number, d.day⟩ else .error .outOfRange

/-- The platform's record of a time. -/
def Time.toPlatform (t : Time) : Platform.Clock :=
  ⟨t.hour, t.minute, t.second, t.nanosecond / 1000⟩

/-- An offset as a span of time. -/
def UtcOffset.toDuration (o : UtcOffset) : Duration :=
  .ofSeconds o.wholeSeconds

def DateTime.toPlatform (t : DateTime) : Except ConversionError Platform.Stamp :=
  t.date.toPlatform.map fun day => ⟨day, t.time.toPlatform, none⟩

def OffsetDateTime.toPlatform (t : OffsetDateTime) : Except ConversionError Platform.Stamp :=
  t.date.toPlatform.map fun day => ⟨day, t.time.toPlatform, some t.offset.toDuration⟩

/-! ### From the platform -/

def Date.ofPlatform (d : Platform.Day) : Except RangeError Date :=
  ofCalendar d.year d.month d.day

def Time.ofPlatform (c : Platform.Clock) : Except RangeError Time :=
  ofClock c.hour c.minute c.second (c.microsecond * 1000)

/-- The offset that a span of time comes to. -/
def UtcOffset.ofDuration (d : Duration) : Except RangeError UtcOffset :=
  ofWholeSeconds d.wholeSeconds

/-- The offset of a time zone. -/
def UtcOffset.ofZone (z : Platform.Zone) : Except ConversionError UtcOffset :=
  match z.fixed with
  | none => .error .noFixedOffset
  | some d => (ofDuration d).mapError .component

/-- A date-time from its record; an offset that stands there is left aside. -/
def DateTime.ofPlatform (s : Platform.Stamp) : Except RangeError DateTime := do
  let date ← Date.ofPlatform s.day
  let time ← Time.ofPlatform s.clock
  return ⟨date, time⟩

/-- A date-time at an offset from its record, which must have one. -/
def OffsetDateTime.ofPlatform (s : Platform.Stamp) :
    Except ConversionError OffsetDateTime := do
  match s.offset with
  | none => throw .indeterminateOffset
  | some d =>
    let date ← (Date.ofPlatform s.day).mapError .component
    let time ← (Time.ofPlatform s.clock).mapError .component
    let offset ← (UtcOffset.ofDuration d).mapError .component
    return ⟨date, time, offset⟩

end CalendarText
