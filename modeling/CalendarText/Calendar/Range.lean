/-
The one error of the calendar's constructors: a quantity outside its range.
-/
namespace CalendarText

/-- A named quantity was outside its range.  The range is `conditional` when it depends on the
other quantities, as the number of days does on the month and the year. -/
structure RangeError where
  name : String
  minimum : Int
  maximum : Int
  value : Int
  conditional : Bool := false
  deriving DecidableEq, Repr

/-- The sentence that reports a range error. -/
def RangeError.message (e : RangeError) : String :=
  s!"{e.name} must be in the range {e.minimum}..={e.maximum}" ++
    (if e.conditional then ", given values of other parameters" else "")

end CalendarText
