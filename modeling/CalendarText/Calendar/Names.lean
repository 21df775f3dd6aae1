/-
The English names of months, weekdays and halves of a day.
-/
import CalendarText.Calendar.Month
import CalendarText.Calendar.Weekday
import CalendarText.Text.Octets

namespace CalendarText

open Octets (ofAscii)

/-- The name of a month in full. -/
def Month.name : Month → Octets
  | january => ofAscii "January"
  | february => ofAscii "February"
  | march => ofAscii "March"
  | april => ofAscii "April"
  | may => ofAscii "May"
  | june => ofAscii "June"
  | july => ofAscii "July"
  | august => ofAscii "August"
  | september => ofAscii "September"
  | october => ofAscii "October"
  | november => ofAscii "November"
  | december => ofAscii "December"

/-- The first three letters of the name of a month. -/
def Month.shortName (m : Month) : Octets :=
  m.name.take 3

/-- The name of a weekday in full. -/
def Weekday.name : Weekday → Octets
  | monday => ofAscii "Monday"
  | tuesday => ofAscii "Tuesday"
  | wednesday => ofAscii "Wednesday"
  | thursday => ofAscii "Thursday"
  | friday => ofAscii "Friday"
  | saturday => ofAscii "Saturday"
  | sunday => ofAscii "Sunday"

/-- The first three letters of the name of a weekday. -/
def Weekday.shortName (w : Weekday) : Octets :=
  w.name.take 3

/-- The name of a half of the day, in capital or in small letters. -/
def periodName (uppercase pm : Bool) : Octets :=
  ofAscii (match uppercase, pm with
    | true, false => "AM"
    | true, true => "PM"
    | false, false => "am"
    | false, true => "pm")

end CalendarText
