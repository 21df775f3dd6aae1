/-
The widths of the padded numbers in components.
-/
import CalendarText.Component.Basic

namespace CalendarText.Component

/-- The width of padded days, months, hours, minutes, seconds, weeks and parts of offsets. -/
def shortWidth : Nat := 2

/-- The width of padded days of the year. -/
def ordinalWidth : Nat := 3

/-- The width of padded years. -/
def yearWidth : Nat := 4

end CalendarText.Component
