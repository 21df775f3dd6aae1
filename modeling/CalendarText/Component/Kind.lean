/-
The fourteen kinds of component, their names, and the part of a value that each one reads.
-/
import CalendarText.Text.Octets
import CalendarText.Calendar.Value

namespace CalendarText

/-- A kind of component. -/
inductive Kind where
  | day
  | month
  | ordinal
  | weekday
  | weekNumber
  | year
  | hour
  | minute
  | period
  | second
  | subsecond
  | offsetHour
  | offsetMinute
  | offsetSecond
  deriving DecidableEq, Repr

namespace Kind

/-- All kinds. -/
def all : List Kind :=
  [day, month, ordinal, weekday, weekNumber, year, hour, minute, period, second, subsecond,
    offsetHour, offsetMinute, offsetSecond]

/-- The name of the kind in a description. -/
def name : Kind → String
  | day => "day"
  | month => "month"
  | ordinal => "ordinal"
  | weekday => "weekday"
  | weekNumber => "week_number"
  | year => "year"
  | hour => "hour"
  | minute => "minute"
  | period => "period"
  | second => "second"
  | subsecond => "subsecond"
  | offsetHour => "offset_hour"
  | offsetMinute => "offset_minute"
  | offsetSecond => "offset_second"

/-- The name of the kind in a sentence. -/
def displayName (k : Kind) : String :=
  String.ofList (k.name.toList.map fun c => if c = '_' then ' ' else c)

/-- The name of the options that the kind takes. -/
def optionsName : Kind → String
  | day => "Day"
  | month => "Month"
  | ordinal => "Ordinal"
  | weekday => "Weekday"
  | weekNumber => "WeekNumber"
  | year => "Year"
  | hour => "Hour"
  | minute => "Minute"
  | period => "Period"
  | second => "Second"
  | subsecond => "Subsecond"
  | offsetHour => "OffsetHour"
  | offsetMinute => "OffsetMinute"
  | offsetSecond => "OffsetSecond"

/-- The kind with this name. -/
def ofName? (name : String) : Option Kind :=
  all.find? fun k => k.name == name

/-- The kind with this name, the name being given in octets. -/
def ofOctets? (name : Octets) : Option Kind :=
  all.find? fun k => Octets.ofAscii k.name == name

/-- The kind whose options have this name. -/
def ofOptionsName? (name : String) : Option Kind :=
  all.find? fun k => k.optionsName == name

/-- The part of a value that a component of this kind reads. -/
def requires : Kind → Capability
  | day | month | ordinal | weekday | weekNumber | year => .date
  | hour | minute | period | second | subsecond => .time
  | offsetHour | offsetMinute | offsetSecond => .offset

/-- A name in octets finds its kind. -/
theorem ofOctets?_name (k : Kind) : ofOctets? (Octets.ofAscii k.name) = some k := by
  cases k <;> rfl

/-- A name in octets finds no other kind. -/
theorem name_of_ofOctets? {name : Octets} {k : Kind} (h : ofOctets? name = some k) :
    Octets.ofAscii k.name = name := by
  rw [ofOctets?] at h
  simpa using List.find?_some h

end Kind

end CalendarText
