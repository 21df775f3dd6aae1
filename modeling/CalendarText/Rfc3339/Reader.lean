/-
Date-times at an offset read from the internet format `2021-01-02T03:04:05.6+07:08`.

The year takes no sign.  The letters `T` and `Z` may be small, and a fraction has one to nine
digits.
-/
import CalendarText.Reading.Item

namespace CalendarText.Rfc3339

open FieldReader

/-- Year, month and day. -/
def dateItems : List Item :=
  [.component (.ofKind .year), .literal [45], .component (.ofKind .month), .literal [45],
    .component (.ofKind .day)]

/-- Hour, minute and second. -/
def timeItems : List Item :=
  [.component (.ofKind .hour), .literal [58], .component (.ofKind .minute), .literal [58],
    .component (.ofKind .second)]

/-- Hours and minutes of the offset, behind a sign. -/
def offsetItems : List Item :=
  [.component (.offsetHour { signMandatory := true }), .literal [58],
    .component (.ofKind .offsetMinute)]

/-- The fields that the letter `Z` fills in. -/
def zuluFields : List (Field × Int) :=
  [(.offsetHour, 0), (.offsetMinute, 0), (.offsetIsNegative, 0)]

/-- The date, at the front of a text that begins with no sign. -/
def parseDate (data : Octets) : FieldReader Octets :=
  if (readSign data).1 = none then parseItems dateItems data
  else fail (.component Kind.year.displayName)

/-- The letter between date and time. -/
def parseSeparator : Octets → FieldReader Octets
  | b :: rest => if b = 84 ∨ b = 116 then pure rest else fail .literal
  | [] => fail .literal

/-- A fraction of a second, if there is a point. -/
def parseFraction : Octets → FieldReader Octets
  | b :: rest =>
    if b = 46 then fillIn ((Component.ofKind .subsecond).parse rest) else pure (b :: rest)
  | [] => pure []

/-- The letter for UTC, or an offset. -/
def parseZone : Octets → FieldReader Octets
  | b :: rest =>
    if b = 90 ∨ b = 122 then fillIn (.ok (zuluFields, rest))
    else parseItems offsetItems (b :: rest)
  | [] => parseItems offsetItems []

/-- A date, a time and an offset read from the front of a text. -/
def parse (data : Octets) : FieldReader Octets := do
  let data ← parseDate data
  let data ← parseSeparator data
  let data ← parseItems timeItems data
  let data ← parseFraction data
  parseZone data

end CalendarText.Rfc3339
