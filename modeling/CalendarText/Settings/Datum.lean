/-
Values in settings files, and the integers that they stand for.
-/
import CalendarText.Binary64
import CalendarText.Text.Integer

namespace CalendarText

/-- A value in a settings file. -/
inductive Datum where
  | null
  | flag (b : Bool)
  | integer (n : Int)
  | float (x : Binary64)
  | text (s : String)
  /-- a date, a time of day, or both, as it is written -/
  | moment (s : String)
  | list (members : List Datum)
  | table (entries : List (String × Datum))
  deriving Repr

/-- The entries of a table in a settings file. -/
abbrev Datum.Table := List (String × Datum)

/-- Why a value stands for no integer. -/
inductive Datum.NoInteger where
  /-- it is infinite -/
  | infinite
  /-- it is no number, nor the text of one -/
  | other
  deriving DecidableEq, Repr

namespace Datum

/-- The integer that a value stands for.  Fractions are dropped. -/
def toInteger : Datum → Except NoInteger Int
  | flag b => .ok (if b then 1 else 0)
  | integer n => .ok n
  | float x =>
    match x.whole with
    | .ok n => .ok n
    | .error .infinite => .error .infinite
    | .error .nan => .error .other
  | text s =>
    match Integer.ofText? s with
    | some n => .ok n
    | none => .error .other
  | null | moment _ | list _ | table _ => .error .other

/-- The entries of the value, if it is a table. -/
def entries? : Datum → Option Table
  | table entries => some entries
  | _ => none

/-- The value of a key. -/
def get? (entries : Table) (key : String) : Option Datum :=
  entries.lookup key

end Datum

end CalendarText
