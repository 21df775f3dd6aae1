/-
Clock times with nanoseconds.
-/
import CalendarText.Calendar.Range

namespace CalendarText

/-- A clock time. -/
structure Time where
  hour : Int
  minute : Int
  second : Int
  nanosecond : Int
  hour_mem : 0 ≤ hour ∧ hour ≤ 23
  minute_mem : 0 ≤ minute ∧ minute ≤ 59
  second_mem : 0 ≤ second ∧ second ≤ 59
  nanosecond_mem : 0 ≤ nanosecond ∧ nanosecond ≤ 999999999
  deriving DecidableEq, Repr

namespace Time

/-- The time with these quantities.  The first one out of range is reported. -/
def ofClock (hour minute second nanosecond : Int) : Except RangeError Time :=
  if hh : 0 ≤ hour ∧ hour ≤ 23 then
    if hm : 0 ≤ minute ∧ minute ≤ 59 then
      if hs : 0 ≤ second ∧ second ≤ 59 then
        if hn : 0 ≤ nanosecond ∧ nanosecond ≤ 999999999 then
          .ok ⟨hour, minute, second, nanosecond, hh, hm, hs, hn⟩
        else
          .error { name := "nanosecond", minimum := 0, maximum := 999999999, value := nanosecond }
      else .error { name := "second", minimum := 0, maximum := 59, value := second }
    else .error { name := "minute", minimum := 0, maximum := 59, value := minute }
  else .error { name := "hour", minimum := 0, maximum := 23, value := hour }

/-- The first instant of a day. -/
def midnight : Time :=
  ⟨0, 0, 0, 0, by decide, by decide, by decide, by decide⟩

/-- The hour on a twelve-hour clock, from 1 to 12. -/
def hour12 (t : Time) : Int :=
  (t.hour - 1) % 12 + 1

/-- Noon or later. -/
def isPm (t : Time) : Bool :=
  12 ≤ t.hour

/-- Nanoseconds since midnight. -/
def sinceMidnight (t : Time) : Int :=
  ((t.hour * 60 + t.minute) * 60 + t.second) * 1000000000 + t.nanosecond

/-- Times are ordered by hour, minute, second and nanosecond. -/
def compare (a b : Time) : Ordering :=
  (Ord.compare a.hour b.hour).then
    ((Ord.compare a.minute b.minute).then
      ((Ord.compare a.second b.second).then (Ord.compare a.nanosecond b.nanosecond)))

/-- A time is built again from its own quantities. -/
theorem ofClock_self (t : Time) : ofClock t.hour t.minute t.second t.nanosecond = .ok t := by
  rw [ofClock, dif_pos t.hour_mem, dif_pos t.minute_mem, dif_pos t.second_mem,
    dif_pos t.nanosecond_mem]

end Time

end CalendarText
