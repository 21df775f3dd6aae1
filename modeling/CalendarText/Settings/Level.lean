/-
Levels of logging.

Settings name one of five levels, with blanks around it and in letters of either case.  Where a
level is put to use, it must be one of the names that the log knows, letter by letter.
-/
import CalendarText.Text.Blank

namespace CalendarText.Level

/-- The names that settings can choose. -/
def choices : List String :=
  ["CRITICAL", "ERROR", "WARNING", "INFO", "DEBUG"]

/-- The capital of a letter, as far as it matters here: of the letters outside ASCII only the
dotless i has a capital that stands in the name of a level. -/
def capital (c : Char) : Char :=
  if c = 'ı' then 'I' else c.toUpper

/-- The level that a text names. -/
def choose? (text : String) : Option String :=
  let name := String.ofList ((Blank.trim Blank.aroundWord text.toList).map capital)
  if name ∈ choices then some name else none

/-- The number of a level by the name that the log knows. -/
def number? (name : String) : Option Nat :=
  [("CRITICAL", 50), ("FATAL", 50), ("ERROR", 40), ("WARN", 30), ("WARNING", 30), ("INFO", 20),
    ("DEBUG", 10), ("NOTSET", 0)].lookup name

end CalendarText.Level
