/-
Integers in text, as people write them in settings: with blanks around, a sign, decimal digits of
any script, and single underscores between digits.
-/
import CalendarText.Text.Blank
import CalendarText.Text.DecimalDigit
import CalendarText.Text.Numeral

namespace CalendarText.Integer

/-- The digits of a run in which single underscores may stand between digits.  `behindDigit` says
whether a digit stands in front. -/
def digits? : (behindDigit : Bool) → List Char → Option (List Nat)
  | behindDigit, [] => if behindDigit then some [] else none
  | behindDigit, c :: rest =>
    if c = '_' then if behindDigit then digits? false rest else none
    else
      match DecimalDigit.value? c with
      | some d => (digits? true rest).map (d :: ·)
      | none => none

/-- The number of a digit run, which must not be too long for a conversion. -/
def magnitude? (run : List Char) : Option Nat :=
  match digits? false run with
  | some digits =>
    if digits.length ≤ Numeral.longest then some (digits.foldl (fun n d => 10 * n + d) 0) else none
  | none => none

/-- The integer that a text denotes. -/
def ofText? (text : String) : Option Int :=
  match Blank.trim Blank.aroundNumber text.toList with
  | '-' :: run => (magnitude? run).map fun n => -n
  | '+' :: run => (magnitude? run).map fun n => n
  | run => (magnitude? run).map fun n => n

example : ofText? " +1_0\n" = some 10 := by decide

example : ofText? "- 5" = none ∧ ofText? "1__0" = none ∧ ofText? "_1" = none := by decide

example : ofText? "\u0663" = some 3 := by decide

end CalendarText.Integer
