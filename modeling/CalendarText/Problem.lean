/-
Problems with the fields of a record that is built from named values.  All problems of one
building are reported together, in the order of the field names.
-/
import CalendarText.Binary64
import CalendarText.Text.Integer
import CalendarText.Word

namespace CalendarText

/-- What is wrong with a field. -/
inductive Problem.Nature where
  /-- the number is below the bound of the field -/
  | tooSmall
  /-- the number is above the bound of the field -/
  | tooLarge
  /-- the value is none of those that the field can have -/
  | notMember
  /-- the number takes more bits than are looked at -/
  | tooWide
  /-- the number lies between two integers -/
  | betweenIntegers
  /-- the number is infinite, or is no number at all -/
  | notFinite
  /-- the text is no numeral -/
  | notNumeral
  /-- the value is of a kind that cannot stand for a number -/
  | notNumber
  /-- the value is no truth value, nor of a kind that may stand for one -/
  | notFlag
  /-- the value is of a kind that may stand for a truth value, but stands for none -/
  | unclearFlag
  /-- no such field can be given -/
  | unknownField
  /-- no such field can be assigned -/
  | unknownTarget
  deriving DecidableEq, Repr

/-- The word by which a problem is reported. -/
def Problem.Nature.word : Problem.Nature → String
  | tooSmall => "greater_than_equal"
  | tooLarge => "less_than_equal"
  | notMember => "enum"
  | tooWide => "int_parsing_size"
  | betweenIntegers => "int_from_float"
  | notFinite => "finite_number"
  | notNumeral => "int_parsing"
  | notNumber => "int_type"
  | notFlag => "bool_type"
  | unclearFlag => "bool_parsing"
  | unknownField => "extra_forbidden"
  | unknownTarget => "no_such_attribute"

/-- A problem with one field. -/
structure Problem where
  field : String
  nature : Problem.Nature
  deriving DecidableEq, Repr

namespace Problem

/-- Whether `p` is reported no later than `q`: by field, then by the word of the problem. -/
def le (p q : Problem) : Bool :=
  p.field < q.field || (p.field = q.field && !(q.nature.word < p.nature.word))

/-- A problem put into its place among sorted ones. -/
def insert (p : Problem) : List Problem → List Problem
  | [] => [p]
  | q :: rest => if p.le q then p :: q :: rest else q :: insert p rest

/-- The problems in the order in which they are reported. -/
def sort (problems : List Problem) : List Problem :=
  problems.foldr insert []

end Problem

/-- A value that is offered for a field, before it is known to fit. -/
inductive Offered where
  | null
  | flag (b : Bool)
  | integer (n : Int)
  | float (x : Binary64)
  | word (s : String)
  /-- anything else, told apart by a mark -/
  | other (mark : Nat := 0)
  deriving DecidableEq, Repr

/-- The words that stand for a truth value, in small letters. -/
def Offered.flagWords (b : Bool) : List String :=
  if b then ["1", "on", "t", "true", "y", "yes"] else ["0", "f", "false", "n", "no", "off"]

/-- The integer that a floating-point number stands for, or why it stands for none. -/
def Offered.integerOf (x : Binary64) : Except Problem.Nature Int :=
  match x.whole with
  | .error _ => .error .notFinite
  | .ok n =>
    if !x.isWhole then .error .betweenIntegers
    else if fitsWordSigned n then .ok n
    else .error .tooWide

/-- An integer as a truth value, which 0 and 1 stand for.  A number beyond a word of 64 bits is
taken for no truth value at all. -/
def Offered.flagOf (n : Int) : Except Problem.Nature Bool :=
  if n = 0 then .ok false
  else if n = 1 then .ok true
  else .error (if fitsWord n then .unclearFlag else .notFlag)

/-- An offered value as a truth value.  Some integers stand for one, also as floating-point
numbers, and so do some words. -/
def Offered.toFlag : Offered → Except Problem.Nature Bool
  | flag b => .ok b
  | integer n => flagOf n
  | float x =>
    match integerOf x with
    | .ok n => flagOf n
    | .error _ => .error .notFlag
  | word s =>
    if s.toLower ∈ flagWords true then .ok true
    else if s.toLower ∈ flagWords false then .ok false
    else .error .unclearFlag
  | null | other _ => .error .notFlag

/-- A text as an integer, which has to be written in plain characters.  Blanks may stand around it,
and single underscores between its digits. -/
def Offered.numeral (s : String) : Except Problem.Nature Int :=
  match Integer.ofText? s with
  | some n => if s.toList.all fun c => c.val < 128 then .ok n else .error .notNumeral
  | none => .error .notNumeral

example : Offered.toFlag (.float (.finite 1 0)) = .ok true := rfl

example : Offered.toFlag (.float (.finite 3 (-1))) = .error .notFlag := rfl

end CalendarText
