/-
Date-times at an offset written in the internet format `2021-01-02T03:04:05.6+07:08`.

The format has four digits for the year and no seconds in the offset, so not every value can be
written.  A fraction of zero is left out, and the offset of UTC is written `Z`.
-/
import CalendarText.Calendar.Value
import CalendarText.Failure.Cause
import CalendarText.Writing.Component

namespace CalendarText.Rfc3339

open Numeral (pad)

/-- A number in two digits. -/
def two (n : Int) : Octets :=
  pad n.natAbs 2 .zero

/-- The fraction of a second, without zeros at its end. -/
def fraction (nanosecond : Int) : Octets :=
  if nanosecond = 0 then [] else 46 :: dropTrailingZeros (pad nanosecond.toNat 9 .zero)

/-- The offset in hours and minutes. -/
def zone (offset : UtcOffset) : Octets :=
  if offset.isUtc then [90]
  else signText offset.isNegative true ++ two offset.hours ++ [58] ++ two offset.minutes

/-- The text of a date, a time and an offset, if the format can express them. -/
def write (date : Date) (time : Time) (offset : UtcOffset) : Except Cause Octets :=
  if ¬(0 ≤ date.year ∧ date.year ≤ 9999) then .error (.unformattable "year")
  else if offset.seconds ≠ 0 then .error (.unformattable "offset_second")
  else
    .ok (pad date.year.toNat 4 .zero ++ [45] ++ two date.month.number ++ [45] ++ two date.day ++
      [84] ++ two time.hour ++ [58] ++ two time.minute ++ [58] ++ two time.second ++
      fraction time.nanosecond ++ zone offset)

end CalendarText.Rfc3339
