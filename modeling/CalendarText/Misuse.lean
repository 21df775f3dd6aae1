/-
Requests that make no sense, whatever the text: a value of one sort where one of another sort is
needed.
-/
namespace CalendarText

/-- What a caller handed in wrongly.  A sort is named as it is named in reports. -/
inductive Misuse where
  /-- no format item can be made of a value of this sort -/
  | noItem (sort : String)
  /-- a value of this sort is no description -/
  | noDescription (sort : String)
  /-- nothing can be parsed with a value of this sort -/
  | notReadable (sort : String)
  /-- a value of this sort has no elements -/
  | notIterable (sort : String)
  /-- a value of this sort cannot be looked up -/
  | noKey (sort : String)
  /-- text has letters, which are text again -/
  | endless
  /-- the abstract well-known format writes and reads nothing -/
  | notImplemented
  /-- there is no value to format -/
  | noValue
  deriving DecidableEq, Repr

/-- The sentence that reports the misuse. -/
def Misuse.message : Misuse → String
  | noItem sort => s!"cannot build a format item from {sort}"
  | noDescription sort => s!"unsupported format description: {sort}"
  | notReadable sort => s!"cannot parse with {sort}"
  | notIterable sort => s!"'{sort}' object is not iterable"
  | noKey sort => s!"unhashable type: '{sort}'"
  | endless => "maximum recursion depth exceeded"
  | notImplemented => ""
  | noValue => "'NoneType' object has no attribute '_format_parts'"

end CalendarText
