/-
Text in quotation marks, as messages show it.

Single quotes stand around the text, or double ones when it holds a single quote and no double
one.  Inside, the quote and the backslash are escaped, and so is every character that is not
printable.
-/
import CalendarText.Text.Printable

namespace CalendarText.Quoted

/-- A number in `width` hexadecimal digits, in small letters. -/
def hex (width n : Nat) : List Char :=
  (Nat.toDigits 16 n).leftpad width '0'

/-- One character inside of quotes of the given kind. -/
def escape (quote c : Char) : List Char :=
  if c = quote ∨ c = '\\' then ['\\', c]
  else if c = '\n' then ['\\', 'n']
  else if c = '\r' then ['\\', 'r']
  else if c = '\t' then ['\\', 't']
  else if Printable.isPrintable c then [c]
  else if c.toNat ≤ 0xFF then '\\' :: 'x' :: hex 2 c.toNat
  else if c.toNat ≤ 0xFFFF then '\\' :: 'u' :: hex 4 c.toNat
  else '\\' :: 'U' :: hex 8 c.toNat

/-- Text in quotes. -/
def encode (s : String) : String :=
  let text := s.toList
  let quote := if '\'' ∈ text ∧ '"' ∉ text then '"' else '\''
  String.ofList (quote :: text.flatMap (escape quote) ++ [quote])

end CalendarText.Quoted
