/-
Integers that fit in machine words.  Where the library hands a number to the platform, a number
that is too wide is refused before it is looked at.
-/
namespace CalendarText

/-- Whether a number fits in a word of 64 bits. -/
def fitsWord (n : Int) : Bool :=
  -9223372036854775808 ≤ n ∧ n ≤ 9223372036854775807

/-- Whether a number and its negative both fit in a word of 64 bits.  The least number of a word
has no negative there. -/
def fitsWordSigned (n : Int) : Bool :=
  fitsWord n && fitsWord (-n)

/-- Whether a number fits in half a word. -/
def fitsHalfWord (n : Int) : Bool :=
  -2147483648 ≤ n ∧ n ≤ 2147483647

end CalendarText
