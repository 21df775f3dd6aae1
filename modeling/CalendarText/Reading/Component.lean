/-
How components are read.

A component at the front of a text gives numbers to one or two fields.  Reading looks at the text
alone; whether the fields can hold the numbers is a second question (`Component.parse`).

* `Component.read?`: the fields that a component gives, and what follows it;
* `Component.parse`: the same, or the failure to match, when a field cannot hold its number.
-/
import CalendarText.Calendar.Names
import CalendarText.Component.Width
import CalendarText.Failure.Cause
import CalendarText.Fields.Field
import CalendarText.Item.Basic
import CalendarText.Reading.Token

namespace CalendarText

open Numeral (field? run?)

/-- Numbers for fields, and what is left of the text. -/
abbrev Reading := List (Field × Int) × Octets

namespace Component

/-- A padded number for one field. -/
def readNumber (f : Field) (width : Nat) (padding : Padding) (data : Octets) : Option Reading :=
  (field? width data padding).map fun (n, rest) => ([(f, n)], rest)

/-- A number with a sign in front of it, which may be required. -/
def readSigned (width : Nat) (padding : Padding) (mandatory : Bool) (data : Octets) :
    Option (Option Sign × Nat × Octets) :=
  let (sign, rest) := readSign data
  if sign = none ∧ mandatory then none
  else (field? width rest padding).map fun (n, rest) => (sign, n, rest)

/-- A year, in full or by its last two digits. -/
def readYear (o : YearOptions) (data : Octets) : Option Reading :=
  match o.form with
  | .lastTwo =>
    readNumber (if o.isoWeekBased then .isoYearLastTwo else .yearLastTwo) shortWidth o.padding data
  | .full =>
    (readSigned yearWidth o.padding o.signMandatory data).map fun (sign, n, rest) =>
      ([(if o.isoWeekBased then .isoYear else .year, Sign.apply sign n)], rest)

/-- A month, as a number or by name. -/
def readMonth (o : MonthOptions) (data : Octets) : Option Reading :=
  let named (names : List Octets) :=
    (firstMatch data names o.caseSensitive).map fun (i, rest) =>
      ([(Field.month, (i : Int) + 1)], rest)
  match o.form with
  | .numerical =>
    match field? shortWidth data o.padding with
    | some (n, rest) => if 1 ≤ n ∧ n ≤ 12 then some ([(.month, n)], rest) else none
    | none => none
  | .long => named (Month.all.map Month.name)
  | .short => named (Month.all.map Month.shortName)

/-- A weekday, by name or as a digit. -/
def readWeekday (o : WeekdayOptions) (data : Octets) : Option Reading :=
  let named (names : List Octets) :=
    (firstMatch data names o.caseSensitive).map fun (i, rest) =>
      ([(Field.weekday, (i : Int))], rest)
  let counted (weekday : Int → Int) :=
    match field? 1 data .none with
    | some (digit, rest) =>
      let n : Int := if o.oneIndexed then digit - 1 else digit
      if 0 ≤ n ∧ n ≤ 6 then some ([(Field.weekday, weekday n)], rest) else none
    | none => none
  match o.form with
  | .long => named (Weekday.all.map Weekday.name)
  | .short => named (Weekday.all.map Weekday.shortName)
  | .sunday => counted fun n => (n - 1) % 7
  | .monday => counted fun n => n

/-- The field of a week number. -/
def weekField : WeekRule → Field
  | .iso => .isoWeekNumber
  | .sunday => .sundayWeekNumber
  | .monday => .mondayWeekNumber

/-- A half of the day. -/
def readPeriod (o : PeriodOptions) (data : Octets) : Option Reading :=
  (firstMatch data [periodName o.uppercase false, periodName o.uppercase true]
      o.caseSensitive).map fun (i, rest) => ([(.hour12IsPm, i)], rest)

/-- A fraction of a second.  Digits that are not there count as zeros. -/
def readSubsecond (digits : SubsecondDigits) (data : Octets) : Option Reading :=
  let run :=
    match digits.count? with
    | some count => run? count count data
    | none => run? 1 9 data
  run.map fun (run, rest) =>
    ([(.subsecond, Numeral.value run * Numeral.scale (9 - run.length))], rest)

/-- The hours of an offset.  Their sign is kept apart as well, for offsets of less than an
hour. -/
def readOffsetHour (o : OffsetHourOptions) (data : Octets) : Option Reading :=
  (readSigned shortWidth o.padding o.signMandatory data).map fun (sign, n, rest) =>
    ([(.offsetHour, Sign.apply sign n), (.offsetIsNegative, if sign = some .minus then 1 else 0)],
      rest)

/-- The fields that a component at the front of a text gives, and what follows it. -/
def read? (data : Octets) : Component → Option Reading
  | day p => readNumber .day shortWidth p data
  | month o => readMonth o data
  | ordinal p => readNumber .ordinal ordinalWidth p data
  | weekday o => readWeekday o data
  | weekNumber o => readNumber (weekField o.rule) shortWidth o.padding data
  | year o => readYear o data
  | hour o => readNumber (if o.twelveHour then .hour12 else .hour24) shortWidth o.padding data
  | minute p => readNumber .minute shortWidth p data
  | period o => readPeriod o data
  | second p => readNumber .second shortWidth p data
  | subsecond d => readSubsecond d data
  | offsetHour o => readOffsetHour o data
  | offsetMinute p => readNumber .offsetMinute shortWidth p data
  | offsetSecond p => readNumber .offsetSecond shortWidth p data

/-- The component read from the front of a text, with numbers that its fields can hold. -/
def parse (data : Octets) (c : Component) : Except Cause Reading :=
  match c.read? data with
  | some (numbers, rest) =>
    if numbers.all fun (f, n) => f.admits n then .ok (numbers, rest)
    else .error (.component c.kind.displayName)
  | none => .error (.component c.kind.displayName)

/-- What is read can be held. -/
theorem admits_of_parse {data rest : Octets} {c : Component} {numbers : List (Field × Int)}
    (h : c.parse data = .ok (numbers, rest)) {f : Field} {n : Int} (mem : (f, n) ∈ numbers) :
    f.admits n = true := by
  rw [parse] at h
  split at h
  · split at h
    · rename_i ok
      cases h
      exact List.all_eq_true.mp ok (f, n) mem
    · cases h
  · cases h

end Component

/-- A leaf at the front of a text: literal text gives nothing. -/
def Leaf.parse (data : Octets) : Leaf → Except Cause Reading
  | literal text =>
    match Octets.behind? text data with
    | some rest => .ok ([], rest)
    | none => .error .literal
  | component c => c.parse data

end CalendarText
