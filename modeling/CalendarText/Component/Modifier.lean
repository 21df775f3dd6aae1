/-
Modifiers: the single choices that shape a component.

A modifier is seen from two sides.  In a description it is a token such as `padding:zero`
(`Modifier.token`); in a record of options it is a field with a value (`Modifier.field`,
`Modifier.setting`).  `Kind.vocabulary` lists the modifiers that a kind takes, choices for the
same field together, fields in the order in which descriptions are written.

* `Kind.modifier?_token` and `Kind.token_of_modifier?`: tokens are read back.
-/
import CalendarText.Component.Kind
import CalendarText.Text.Numeral

namespace CalendarText

export Numeral (Padding)

/-- How a month is shown. -/
inductive MonthForm where
  | numerical
  | long
  | short
  deriving DecidableEq, Repr

/-- How a weekday is shown: by name, or by a digit counted from Sunday or from Monday. -/
inductive WeekdayForm where
  | short
  | long
  | sunday
  | monday
  deriving DecidableEq, Repr

/-- What a week number counts: ISO weeks, or weeks from the first Sunday or Monday. -/
inductive WeekRule where
  | iso
  | sunday
  | monday
  deriving DecidableEq, Repr

/-- How a year is shown: in full, or by its last two digits. -/
inductive YearForm where
  | full
  | lastTwo
  deriving DecidableEq, Repr

/-- How many digits of a fraction are shown: a fixed count, or as many as needed. -/
inductive SubsecondDigits where
  | exactly (count : Fin 9)
  | oneOrMore
  deriving DecidableEq, Repr

namespace SubsecondDigits

/-- The fixed count of digits, from 1 to 9, if there is one. -/
def count? : SubsecondDigits → Option Nat
  | exactly n => some (n.val + 1)
  | oneOrMore => none

/-- The choice in a description. -/
def symbol : SubsecondDigits → String
  | exactly n => String.singleton (Nat.digitChar (n.val + 1))
  | oneOrMore => "1+"

/-- The choice in a record. -/
def word : SubsecondDigits → String
  | exactly n =>
    match n.val with
    | 0 => "one"
    | 1 => "two"
    | 2 => "three"
    | 3 => "four"
    | 4 => "five"
    | 5 => "six"
    | 6 => "seven"
    | 7 => "eight"
    | _ => "nine"
  | oneOrMore => "one_or_more"

/-- All choices. -/
def all : List SubsecondDigits :=
  (List.finRange 9).map exactly ++ [oneOrMore]

end SubsecondDigits

/-- One choice about how a component is written or read. -/
inductive Modifier where
  | padding (choice : Padding)
  | monthForm (choice : MonthForm)
  | weekdayForm (choice : WeekdayForm)
  | weekRule (choice : WeekRule)
  | yearForm (choice : YearForm)
  | digits (choice : SubsecondDigits)
  | twelveHour (choice : Bool)
  | uppercase (choice : Bool)
  | caseSensitive (choice : Bool)
  | oneIndexed (choice : Bool)
  | isoWeekBased (choice : Bool)
  | signMandatory (choice : Bool)
  deriving DecidableEq, Repr

/-- The value of an option in a record. -/
inductive Setting where
  | word (s : String)
  | flag (b : Bool)
  deriving DecidableEq, Repr

namespace Modifier

/-- The key of the modifier in a description. -/
def key : Modifier → String
  | padding _ => "padding"
  | monthForm _ | weekdayForm _ | weekRule _ | yearForm _ | twelveHour _ => "repr"
  | digits _ => "digits"
  | uppercase _ => "case"
  | caseSensitive _ => "case_sensitive"
  | oneIndexed _ => "one_indexed"
  | isoWeekBased _ => "base"
  | signMandatory _ => "sign"

/-- The choice in a description. -/
def choice : Modifier → String
  | padding .space => "space"
  | padding .zero => "zero"
  | padding .none => "none"
  | monthForm .numerical => "numerical"
  | monthForm .long => "long"
  | monthForm .short => "short"
  | weekdayForm .short => "short"
  | weekdayForm .long => "long"
  | weekdayForm .sunday => "sunday"
  | weekdayForm .monday => "monday"
  | weekRule .iso => "iso"
  | weekRule .sunday => "sunday"
  | weekRule .monday => "monday"
  | yearForm .full => "full"
  | yearForm .lastTwo => "last_two"
  | digits d => d.symbol
  | twelveHour b => if b then "12" else "24"
  | uppercase b => if b then "upper" else "lower"
  | caseSensitive b | oneIndexed b => if b then "true" else "false"
  | isoWeekBased b => if b then "iso_week" else "calendar"
  | signMandatory b => if b then "mandatory" else "automatic"

/-- The modifier as it stands in a description. -/
def token (m : Modifier) : Octets :=
  Octets.ofAscii m.key ++ 58 :: Octets.ofAscii m.choice

/-- The field of the modifier in a record. -/
def field : Modifier → String
  | twelveHour _ => "is_12_hour_clock"
  | uppercase _ => "is_uppercase"
  | isoWeekBased _ => "iso_week_based"
  | signMandatory _ => "sign_is_mandatory"
  | m => m.key

/-- The choice in a record.  Most words are those of descriptions. -/
def setting : Modifier → Setting
  | twelveHour b | uppercase b | caseSensitive b | oneIndexed b | isoWeekBased b
  | signMandatory b => .flag b
  | digits d => .word d.word
  | m => .word m.choice

end Modifier

namespace Kind

/-- The choices of padding. -/
def paddings : List Modifier :=
  [.padding .space, .padding .zero, .padding .none]

/-- The two choices of an option that is on or off. -/
def flags (option : Bool → Modifier) : List Modifier :=
  [option true, option false]

/-- The modifiers that components of a kind take. -/
def vocabulary : Kind → List Modifier
  | day | ordinal | minute | second | offsetMinute | offsetSecond => paddings
  | hour => paddings ++ flags .twelveHour
  | month =>
    paddings ++ [.monthForm .numerical, .monthForm .long, .monthForm .short] ++
      flags .caseSensitive
  | offsetHour => paddings ++ flags .signMandatory
  | period => flags .uppercase ++ flags .caseSensitive
  | subsecond => SubsecondDigits.all.map .digits
  | weekday =>
    [.weekdayForm .short, .weekdayForm .long, .weekdayForm .sunday, .weekdayForm .monday] ++
      flags .oneIndexed ++ flags .caseSensitive
  | weekNumber => paddings ++ [.weekRule .iso, .weekRule .sunday, .weekRule .monday]
  | year =>
    paddings ++ [.yearForm .full, .yearForm .lastTwo] ++ flags .isoWeekBased ++
      flags .signMandatory

/-- The modifier of a kind that a token stands for. -/
def modifier? (k : Kind) (token : Octets) : Option Modifier :=
  k.vocabulary.find? fun m => m.token == token

/-- The token of a modifier is read as that modifier. -/
theorem modifier?_token {k : Kind} {m : Modifier} (h : m ∈ k.vocabulary) :
    k.modifier? m.token = some m := by
  have all : ∀ n ∈ k.vocabulary, k.modifier? n.token = some n := by
    cases k <;> decide
  exact all m h

/-- Nothing else is read as a modifier. -/
theorem token_of_modifier? {k : Kind} {token : Octets} {m : Modifier}
    (h : k.modifier? token = some m) : m ∈ k.vocabulary ∧ m.token = token :=
  ⟨List.mem_of_find?_eq_some h, by simpa using List.find?_some h⟩

end Kind

end CalendarText
