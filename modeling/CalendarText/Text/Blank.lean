/-
The three sets of blanks that the library trims or splits at.

* `Blank.ofDescription`: octets that part the words inside the brackets of a description;
* `Blank.aroundNumber`: characters that may stand around a number in a setting;
* `Blank.aroundWord`: characters that may stand around a word in a setting.  These are the
  former and the four information separators.
-/
import CalendarText.Text.Octets

namespace CalendarText.Blank

/-- Space, tab, line feed, vertical tab, form feed, carriage return. -/
def ofDescription (b : UInt8) : Bool :=
  b = 32 ∨ (9 ≤ b ∧ b ≤ 13)

/-- White space of the Unicode standard. -/
def aroundNumber (c : Char) : Bool :=
  let n := c.toNat
  n = 0x20 ∨ (0x09 ≤ n ∧ n ≤ 0x0D) ∨ n = 0x85 ∨ n = 0xA0 ∨ n = 0x1680 ∨
    (0x2000 ≤ n ∧ n ≤ 0x200A) ∨ n = 0x2028 ∨ n = 0x2029 ∨ n = 0x202F ∨ n = 0x205F ∨ n = 0x3000

/-- White space, and the separators of files, groups, records and units. -/
def aroundWord (c : Char) : Bool :=
  aroundNumber c ∨ (0x1C ≤ c.toNat ∧ c.toNat ≤ 0x1F)

/-- Text without the characters of a class at its two ends. -/
def trim (blank : Char → Bool) (text : List Char) : List Char :=
  ((text.dropWhile blank).reverse.dropWhile blank).reverse

example :
    [' ', '\t', '\n', '\r', '\x0b', '\x0c', '\u00a0', '\u2003', '\u3000'].all aroundNumber := by
  decide

example : ['\x1c', '\x1d', '\x1e', '\x1f'].all (fun c => aroundWord c && !aroundNumber c) := by
  decide

end CalendarText.Blank
