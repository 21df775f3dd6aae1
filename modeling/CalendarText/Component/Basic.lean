/-
Components: a kind together with its options.

* `Component.ofKind`: the component with all options at their defaults;
* `Component.modifiers`: the options as modifiers, in the order of descriptions, and
  `Component.set`, which changes one of them;
* `Component.ofModifiers_modifiers`: a component is what its own modifiers make of its kind.
-/
import CalendarText.Component.Modifier

namespace CalendarText

/-- Options of a month. -/
structure MonthOptions where
  padding : Padding := .zero
  form : MonthForm := .numerical
  caseSensitive : Bool := true
  deriving DecidableEq, Repr

/-- Options of a weekday. -/
structure WeekdayOptions where
  form : WeekdayForm := .long
  oneIndexed : Bool := true
  caseSensitive : Bool := true
  deriving DecidableEq, Repr

/-- Options of a week number. -/
structure WeekNumberOptions where
  padding : Padding := .zero
  rule : WeekRule := .iso
  deriving DecidableEq, Repr

/-- Options of a year. -/
structure YearOptions where
  padding : Padding := .zero
  form : YearForm := .full
  isoWeekBased : Bool := false
  signMandatory : Bool := false
  deriving DecidableEq, Repr

/-- Options of an hour. -/
structure HourOptions where
  padding : Padding := .zero
  twelveHour : Bool := false
  deriving DecidableEq, Repr

/-- Options of a period, the half of a day. -/
structure PeriodOptions where
  uppercase : Bool := true
  caseSensitive : Bool := true
  deriving DecidableEq, Repr

/-- Options of the hours of an offset. -/
structure OffsetHourOptions where
  padding : Padding := .zero
  signMandatory : Bool := false
  deriving DecidableEq, Repr

/-- A quantity of a value, and how it is written and read.  Letter case matters to reading only. -/
inductive Component where
  | day (padding : Padding)
  | month (options : MonthOptions)
  | ordinal (padding : Padding)
  | weekday (options : WeekdayOptions)
  | weekNumber (options : WeekNumberOptions)
  | year (options : YearOptions)
  | hour (options : HourOptions)
  | minute (padding : Padding)
  | period (options : PeriodOptions)
  | second (padding : Padding)
  | subsecond (digits : SubsecondDigits)
  | offsetHour (options : OffsetHourOptions)
  | offsetMinute (padding : Padding)
  | offsetSecond (padding : Padding)
  deriving DecidableEq, Repr

namespace Component

/-- The kind of the component. -/
def kind : Component → Kind
  | day _ => .day
  | month _ => .month
  | ordinal _ => .ordinal
  | weekday _ => .weekday
  | weekNumber _ => .weekNumber
  | year _ => .year
  | hour _ => .hour
  | minute _ => .minute
  | period _ => .period
  | second _ => .second
  | subsecond _ => .subsecond
  | offsetHour _ => .offsetHour
  | offsetMinute _ => .offsetMinute
  | offsetSecond _ => .offsetSecond

/-- The component of a kind with every option at its default. -/
def ofKind : Kind → Component
  | .day => day .zero
  | .month => month {}
  | .ordinal => ordinal .zero
  | .weekday => weekday {}
  | .weekNumber => weekNumber {}
  | .year => year {}
  | .hour => hour {}
  | .minute => minute .zero
  | .period => period {}
  | .second => second .zero
  | .subsecond => subsecond .oneOrMore
  | .offsetHour => offsetHour {}
  | .offsetMinute => offsetMinute .zero
  | .offsetSecond => offsetSecond .zero

/-- All options, as modifiers in the order of descriptions. -/
def modifiers : Component → List Modifier
  | day p | ordinal p | minute p | second p | offsetMinute p | offsetSecond p => [.padding p]
  | month o => [.padding o.padding, .monthForm o.form, .caseSensitive o.caseSensitive]
  | weekday o =>
    [.weekdayForm o.form, .oneIndexed o.oneIndexed, .caseSensitive o.caseSensitive]
  | weekNumber o => [.padding o.padding, .weekRule o.rule]
  | year o =>
    [.padding o.padding, .yearForm o.form, .isoWeekBased o.isoWeekBased,
      .signMandatory o.signMandatory]
  | hour o => [.padding o.padding, .twelveHour o.twelveHour]
  | period o => [.uppercase o.uppercase, .caseSensitive o.caseSensitive]
  | subsecond d => [.digits d]
  | offsetHour o => [.padding o.padding, .signMandatory o.signMandatory]

/-- The component with one option changed.  A modifier that its kind does not take changes
nothing. -/
def set : Component → Modifier → Component
  | day _, .padding p => day p
  | month o, .padding p => month { o with padding := p }
  | month o, .monthForm f => month { o with form := f }
  | month o, .caseSensitive b => month { o with caseSensitive := b }
  | ordinal _, .padding p => ordinal p
  | weekday o, .weekdayForm f => weekday { o with form := f }
  | weekday o, .oneIndexed b => weekday { o with oneIndexed := b }
  | weekday o, .caseSensitive b => weekday { o with caseSensitive := b }
  | weekNumber o, .padding p => weekNumber { o with padding := p }
  | weekNumber o, .weekRule r => weekNumber { o with rule := r }
  | year o, .padding p => year { o with padding := p }
  | year o, .yearForm f => year { o with form := f }
  | year o, .isoWeekBased b => year { o with isoWeekBased := b }
  | year o, .signMandatory b => year { o with signMandatory := b }
  | hour o, .padding p => hour { o with padding := p }
  | hour o, .twelveHour b => hour { o with twelveHour := b }
  | minute _, .padding p => minute p
  | period o, .uppercase b => period { o with uppercase := b }
  | period o, .caseSensitive b => period { o with caseSensitive := b }
  | second _, .padding p => second p
  | subsecond _, .digits d => subsecond d
  | offsetHour o, .padding p => offsetHour { o with padding := p }
  | offsetHour o, .signMandatory b => offsetHour { o with signMandatory := b }
  | offsetMinute _, .padding p => offsetMinute p
  | offsetSecond _, .padding p => offsetSecond p
  | c, _ => c

/-- The component of a kind with the given modifiers, a later one overriding an earlier one. -/
def ofModifiers (k : Kind) (ms : List Modifier) : Component :=
  ms.foldl set (ofKind k)

@[simp]
theorem kind_ofKind (k : Kind) : (ofKind k).kind = k := by
  cases k <;> rfl

@[simp]
theorem kind_set (c : Component) (m : Modifier) : (c.set m).kind = c.kind := by
  cases c <;> cases m <;> rfl

/-- A component takes its kind from the kind alone. -/
theorem kind_ofModifiers (k : Kind) (ms : List Modifier) : (ofModifiers k ms).kind = k := by
  suffices h : ∀ c : Component, (ms.foldl set c).kind = c.kind by
    simpa [ofModifiers] using h (ofKind k)
  induction ms with
  | nil => exact fun _ => rfl
  | cons m ms ih => exact fun c => by simpa using ih (c.set m)

/-- A component is what its own modifiers make of its kind. -/
theorem ofModifiers_modifiers (c : Component) : ofModifiers c.kind c.modifiers = c := by
  cases c <;> rfl

/-- The modifiers of a component are among those that its kind takes. -/
theorem modifiers_subset_vocabulary {c : Component} {m : Modifier} (h : m ∈ c.modifiers) :
    m ∈ c.kind.vocabulary := by
  revert m
  have padding (p : Padding) : p = .space ∨ p = .zero ∨ p = .none := by cases p <;> decide
  have month (f : MonthForm) : f = .numerical ∨ f = .long ∨ f = .short := by cases f <;> decide
  have weekday (f : WeekdayForm) : f = .short ∨ f = .long ∨ f = .sunday ∨ f = .monday := by
    cases f <;> decide
  have week (r : WeekRule) : r = .iso ∨ r = .sunday ∨ r = .monday := by cases r <;> decide
  have year (f : YearForm) : f = .full ∨ f = .lastTwo := by cases f <;> decide
  have digits (d : SubsecondDigits) : d ∈ SubsecondDigits.all := by
    cases d <;> simp [SubsecondDigits.all]
  have flag (b : Bool) : b = true ∨ b = false := by cases b <;> decide
  cases c <;>
    simp [modifiers, kind, Kind.vocabulary, Kind.paddings, Kind.flags, padding, month, weekday,
      week, year, digits, flag]

end Component

end CalendarText
