/-
The fields that parsing fills in, their names, and the numbers that they hold.

Every field holds an integer within bounds of its own: months are numbered from 1, weekdays from
0 for Monday, and a truth value is 0 or 1.  The bounds are those of what can be written, not of the
calendar, so there may be a month of 99 days before the fields are resolved.

* `Field.check`: what an offered value puts into a field;
* `Field.Conversion`: what words and strange objects stand for, which is left open here; a
  conversion is `Bounded` when it lets nothing pass that its field cannot have;
* `Field.allows_of_check`: then neither does the check.
-/
import CalendarText.Problem

namespace CalendarText

/-- A field. -/
inductive Field where
  | year
  | yearLastTwo
  | isoYear
  | isoYearLastTwo
  | month
  | sundayWeekNumber
  | mondayWeekNumber
  | isoWeekNumber
  | weekday
  | ordinal
  | day
  | hour24
  | hour12
  | hour12IsPm
  | minute
  | second
  | subsecond
  | offsetHour
  | offsetMinute
  | offsetSecond
  | offsetIsNegative
  deriving DecidableEq, Repr

/-- What the number in a field stands for. -/
inductive Field.Meaning where
  /-- itself -/
  | number
  /-- one of the members of a finite set -/
  | member
  /-- a truth value -/
  | flag
  deriving DecidableEq, Repr

namespace Field

/-- All fields. -/
def all : List Field :=
  [year, yearLastTwo, isoYear, isoYearLastTwo, month, sundayWeekNumber, mondayWeekNumber,
    isoWeekNumber, weekday, ordinal, day, hour24, hour12, hour12IsPm, minute, second, subsecond,
    offsetHour, offsetMinute, offsetSecond, offsetIsNegative]

/-- The name of the field. -/
def name : Field → String
  | year => "year"
  | yearLastTwo => "year_last_two"
  | isoYear => "iso_year"
  | isoYearLastTwo => "iso_year_last_two"
  | month => "month"
  | sundayWeekNumber => "sunday_week_number"
  | mondayWeekNumber => "monday_week_number"
  | isoWeekNumber => "iso_week_number"
  | weekday => "weekday"
  | ordinal => "ordinal"
  | day => "day"
  | hour24 => "hour_24"
  | hour12 => "hour_12"
  | hour12IsPm => "hour_12_is_pm"
  | minute => "minute"
  | second => "second"
  | subsecond => "subsecond"
  | offsetHour => "offset_hour"
  | offsetMinute => "offset_minute"
  | offsetSecond => "offset_second"
  | offsetIsNegative => "offset_is_negative"

/-- The field with this name. -/
def ofName? (name : String) : Option Field :=
  all.find? fun f => f.name == name

/-- What the number in the field stands for. -/
def meaning : Field → Meaning
  | month | weekday => .member
  | hour12IsPm | offsetIsNegative => .flag
  | _ => .number

/-- The least number that the field can hold. -/
def least : Field → Int
  | year | isoYear => -999999
  | month | isoWeekNumber | ordinal | day | hour12 => 1
  | offsetHour | offsetMinute | offsetSecond => -99
  | _ => 0

/-- The greatest number that the field can hold. -/
def greatest : Field → Int
  | year | isoYear => 999999
  | month | hour12 => 12
  | weekday => 6
  | ordinal => 999
  | hour12IsPm | offsetIsNegative => 1
  | subsecond => 999999999
  | _ => 99

/-- Whether the field can hold a number. -/
def admits (f : Field) (n : Int) : Bool :=
  f.least ≤ n && n ≤ f.greatest

/-- Whether the field can be left empty.  The sign of an offset is always known. -/
def optional (f : Field) : Bool :=
  f ≠ offsetIsNegative

/-- Whether the field can hold a number, or can be empty. -/
def allows (f : Field) : Option Int → Bool
  | none => f.optional
  | some n => f.admits n

/-- An offered number, or what is wrong with it. -/
def checkNumber (f : Field) (n : Int) : Except Problem.Nature Int :=
  if f.admits n then .ok n
  else
    match f.meaning with
    | .number => .error (if n < f.least then .tooSmall else .tooLarge)
    | .member => .error (if fitsWord n then .notMember else .tooWide)
    | .flag => .error (if fitsWord n then .unclearFlag else .notFlag)

/-- What words, and objects of sorts that fields know nothing about, put into a field.  What to make
of them is up to whoever takes them in. -/
abbrev Conversion :=
  Field → Offered → Except Problem.Nature (Option Int)

/-- Whatever the conversion lets pass, its field can have. -/
def Conversion.Bounded (convert : Conversion) : Prop :=
  ∀ (f : Field) (value : Offered) (content : Option Int),
    convert f value = .ok content → f.allows content = true

/-- The number that a word stands for in the field. -/
def numberOf (f : Field) (s : String) : Except Problem.Nature Int :=
  match f.meaning with
  | .number => Offered.numeral s
  | .member => (Offered.numeral s).mapError fun _ => .notMember
  | .flag => (Offered.toFlag (.word s)).map fun b => if b then 1 else 0

/-- The conversion that takes the words for numbers and truth values, and no other objects. -/
def Conversion.standard : Conversion := fun f value =>
  match value with
  | .word s => (f.numberOf s).bind fun n => (f.checkNumber n).map some
  | _ =>
    match f.meaning with
    | .number => .error .notNumber
    | .member => .error .notMember
    | .flag => .error .notFlag

/-- What an offered value puts into the field: a number, or nothing.  A truth value may stand for
its number, a number for its truth value, and a floating-point number for its integer; everything
else is converted first. -/
def check (f : Field) (value : Offered) (convert : Conversion := .standard) :
    Except Problem.Nature (Option Int) :=
  match value with
  | .null =>
    if f.optional then .ok none
    else .error (if f.meaning = .flag then .notFlag else .notMember)
  | .integer n => (f.checkNumber n).map some
  | .flag b => (f.checkNumber (if b then 1 else 0)).map some
  | .float x =>
    match Offered.integerOf x, f.meaning with
    | .ok n, _ => (f.checkNumber n).map some
    | .error nature, .number => .error nature
    | .error _, .member => .error .notMember
    | .error _, .flag => .error .notFlag
  | .word _ | .other _ => convert f value

theorem mem_all (f : Field) : f ∈ all := by
  cases f <;> decide

/-- A field is found by its name. -/
theorem ofName?_name (f : Field) : ofName? f.name = some f := by
  cases f <;> rfl

theorem admits_of_checkNumber {f : Field} {m n : Int} (h : f.checkNumber m = .ok n) :
    f.admits n = true := by
  rw [checkNumber] at h
  split at h
  · rename_i ok
    cases h
    exact ok
  · split at h <;> cases h

/-- A number that passes its check is one that the field can have. -/
theorem allows_of_checkNumber {f : Field} {m : Int} {content : Option Int}
    (h : (f.checkNumber m).map some = .ok content) : f.allows content = true := by
  cases passed : f.checkNumber m with
  | error e =>
    rw [passed] at h
    cases h
  | ok n =>
    rw [passed] at h
    cases h
    exact admits_of_checkNumber passed

/-- Words are checked like the numbers that they stand for. -/
theorem Conversion.bounded_standard : Conversion.standard.Bounded := by
  intro f value content h
  simp only [standard] at h
  split at h
  · rename_i s
    cases read : f.numberOf s with
    | error nature =>
      rw [read] at h
      cases h
    | ok n =>
      rw [read] at h
      exact allows_of_checkNumber h
  · split at h <;> cases h

/-- The field can have what passes the check, if it can have what the conversion lets pass. -/
theorem allows_of_check {f : Field} {value : Offered} {content : Option Int}
    {convert : Conversion} (bounded : convert.Bounded) (h : f.check value convert = .ok content) :
    f.allows content = true := by
  cases value with
  | null =>
    simp only [check] at h
    split at h
    · rename_i ok
      cases h
      exact ok
    · cases h
  | flag b => exact allows_of_checkNumber h
  | integer m => exact allows_of_checkNumber h
  | float x =>
    simp only [check] at h
    split at h
    · exact allows_of_checkNumber h
    · cases h
    · cases h
    · cases h
  | word s => exact bounded f (.word s) content h
  | other mark => exact bounded f (.other mark) content h

end Field

end CalendarText
