/-
How components are written.

A component is written from the part of a value that its kind requires, and from nothing else
(`isSome_write?`).
-/
import CalendarText.Calendar.Names
import CalendarText.Calendar.Value
import CalendarText.Component.Width

namespace CalendarText

open Numeral (pad)

/-- Octets without the zeros at their end. -/
def dropTrailingZeros (digits : Octets) : Octets :=
  (digits.reverse.dropWhile (· == 48)).reverse

/-- The sign in front of a number: `-` for negative ones, and `+` for others if one is wanted. -/
def signText (negative mandatory : Bool) : Octets :=
  if negative then [45] else if mandatory then [43] else []

namespace Component

/-- A month, as a number or by name. -/
def writeMonth (o : MonthOptions) (m : Month) : Octets :=
  match o.form with
  | .numerical => pad m.number.toNat shortWidth o.padding
  | .long => m.name
  | .short => m.shortName

/-- A weekday, by name or as a digit. -/
def writeWeekday (o : WeekdayOptions) (w : Weekday) : Octets :=
  let first := if o.oneIndexed then 1 else 0
  match o.form with
  | .long => w.name
  | .short => w.shortName
  | .sunday => Numeral.decimal (w.indexFromSunday + first).toNat
  | .monday => Numeral.decimal (w.index + first).toNat

/-- The week of a date. -/
def weekOf (rule : WeekRule) (d : Date) : Int :=
  match rule with
  | .iso => d.isoWeek
  | .sunday => d.sundayWeek
  | .monday => d.mondayWeek

/-- A year.  The sign stands in front of the padding, and only before full years. -/
def writeYear (o : YearOptions) (year : Int) : Octets :=
  match o.form with
  | .lastTwo => pad (Year.lastTwo year).toNat shortWidth o.padding
  | .full => signText (year < 0) o.signMandatory ++ pad year.natAbs yearWidth o.padding

/-- A fraction of a second.  At least one digit is written. -/
def writeSubsecond (digits : SubsecondDigits) (nanosecond : Int) : Octets :=
  let all := pad nanosecond.toNat 9 .zero
  match digits with
  | .exactly n => all.take (n.val + 1)
  | .oneOrMore => if dropTrailingZeros all = [] then [48] else dropTrailingZeros all

/-- The hours of an offset, with the sign of the whole offset. -/
def writeOffsetHour (o : OffsetHourOptions) (offset : UtcOffset) : Octets :=
  signText offset.isNegative o.signMandatory ++ pad offset.hours.natAbs shortWidth o.padding

/-- The component written from the parts of a value, if the one that it needs is there. -/
def write? (parts : Parts) : Component → Option Octets
  | day p => parts.date.map fun d => pad d.day.toNat shortWidth p
  | month o => parts.date.map fun d => writeMonth o d.month
  | ordinal p => parts.date.map fun d => pad d.ordinal.toNat ordinalWidth p
  | weekday o => parts.date.map fun d => writeWeekday o d.weekday
  | weekNumber o => parts.date.map fun d => pad (weekOf o.rule d).toNat shortWidth o.padding
  | year o => parts.date.map fun d => writeYear o (if o.isoWeekBased then d.isoYear else d.year)
  | hour o =>
    parts.time.map fun t =>
      pad (if o.twelveHour then t.hour12 else t.hour).toNat shortWidth o.padding
  | minute p => parts.time.map fun t => pad t.minute.toNat shortWidth p
  | period o => parts.time.map fun t => periodName o.uppercase t.isPm
  | second p => parts.time.map fun t => pad t.second.toNat shortWidth p
  | subsecond d => parts.time.map fun t => writeSubsecond d t.nanosecond
  | offsetHour o => parts.offset.map fun f => writeOffsetHour o f
  | offsetMinute p => parts.offset.map fun f => pad f.minutes.natAbs shortWidth p
  | offsetSecond p => parts.offset.map fun f => pad f.seconds.natAbs shortWidth p

/-- A component is written exactly when the part that it requires is there. -/
theorem isSome_write? (parts : Parts) (c : Component) :
    (c.write? parts).isSome = parts.capabilities.has c.kind.requires := by
  cases c <;> simp [write?, kind, Kind.requires, Parts.capabilities, Capabilities.has]

end Component

end CalendarText
