/-
What can be wrong with a description, and where.
-/
namespace CalendarText

/-- What is wrong at a place of a description. -/
inductive DescriptionError.Flaw where
  /-- something that is not told further -/
  | general
  /-- a bracket is opened and never closed -/
  | unclosed
  /-- the brackets name no component -/
  | unknownComponent (name : String)
  /-- the component takes no such modifier -/
  | unknownModifier (token : String)
  /-- the brackets hold no name -/
  | missingName
  deriving DecidableEq, Repr

/-- A flaw and its place, counted in octets from 0. -/
structure DescriptionError where
  flaw : DescriptionError.Flaw
  index : Int
  deriving DecidableEq, Repr

/-- The sentence that reports the error. -/
def DescriptionError.message (e : DescriptionError) : String :=
  match e.flaw with
  | .general => toString e.index
  | .unclosed => s!"unclosed opening bracket at byte index {e.index}"
  | .unknownComponent name => s!"invalid component name `{name}` at byte index {e.index}"
  | .unknownModifier token => s!"invalid modifier `{token}` at byte index {e.index}"
  | .missingName => s!"missing component name at byte index {e.index}"

end CalendarText
