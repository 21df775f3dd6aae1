/-
Date-times, with and without an offset from UTC.
-/
import CalendarText.Calendar.Date
import CalendarText.Calendar.Time
import CalendarText.Calendar.UtcOffset

namespace CalendarText

/-- A date and a time on it, with no offset attached. -/
structure DateTime where
  date : Date
  time : Time
  deriving DecidableEq, Repr

/-- A date and a time at a known offset from UTC. -/
structure OffsetDateTime where
  date : Date
  time : Time
  offset : UtcOffset
  deriving DecidableEq, Repr

namespace DateTime

/-- The same date and time, taken at an offset. -/
def assumeOffset (t : DateTime) (offset : UtcOffset) : OffsetDateTime :=
  ⟨t.date, t.time, offset⟩

/-- The same date and time, taken as UTC. -/
def assumeUtc (t : DateTime) : OffsetDateTime :=
  t.assumeOffset .utc

/-- Date-times are ordered by date, then time. -/
def compare (a b : DateTime) : Ordering :=
  (a.date.compare b.date).then (a.time.compare b.time)

end DateTime

end CalendarText
