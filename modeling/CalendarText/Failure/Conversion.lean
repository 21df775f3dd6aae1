/-
The causes of failed conversions.
-/
import CalendarText.Calendar.Platform
import CalendarText.Failure.Cause

namespace CalendarText

/-- What went wrong in an exchange with the platform. -/
def ConversionError.cause : ConversionError → Cause
  | outOfRange => .conversion
  | indeterminateOffset => .indeterminateOffset
  | noFixedOffset => .foreign "tzinfo does not define a fixed UTC offset"
  | component e => .range e

/-- The weekday whose index is `n`. -/
def Weekday.ofIndex (n : Int) : Except Cause Weekday :=
  match ofIndex? n with
  | some w => .ok w
  | none => .error (.foreign s!"{n} is not a valid Weekday")

end CalendarText
