/-
All the ways in which an operation of the library can end without a result.
-/
import CalendarText.Failure.Basic
import CalendarText.Misuse
import CalendarText.Problem

namespace CalendarText

/-- Why an operation has no result. -/
inductive Fault where
  /-- the operation failed on what it was given -/
  | failure (f : Failure)
  /-- the request makes no sense -/
  | misuse (m : Misuse)
  /-- fields were given values that they cannot have -/
  | problems (found : List Problem)
  /-- a failure cannot be wrapped as requested -/
  | misfit (m : Misfit)
  deriving DecidableEq, Repr

namespace Fault

/-- A fault by its bare cause. -/
def ofCause (c : Cause) : Fault :=
  failure (.bare c)

/-- The fault of a failure that is wrapped in a layer. -/
def wrapped (l : Layer) (f : Failure) : Fault :=
  match f.wrap l with
  | .ok f => failure f
  | .error m => misfit m

end Fault

end CalendarText
