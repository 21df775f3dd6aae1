/-
Spans of time in microseconds, and how many whole seconds they come to.

A span is measured in seconds as a binary64 number, and the fraction of that number is dropped.
The measure has 53 significant bits, so below two to the 33 seconds it is finer than a microsecond
and the whole seconds are exact (`wholeSeconds_ofSeconds`); from there on a span within a
microsecond of the next second may be measured as that second.
-/
namespace CalendarText

/-- A span of time, negative spans included. -/
structure Duration where
  microseconds : Int
  deriving DecidableEq, Repr

namespace Duration

/-- The span of this many seconds. -/
def ofSeconds (n : Int) : Duration :=
  ⟨n * 1000000⟩

/-- The integer nearest to `a / b`, and of two that are equally near the even one. -/
def nearestQuotient (a b : Nat) : Nat :=
  let q := a / b
  let r := a % b
  if b < 2 * r ∨ (b = 2 * r ∧ q % 2 = 1) then q + 1 else q

/-- Microseconds, as seconds with 53 significant bits, without the fraction.  Spans of a
calendar stay far below two to the 52 seconds, so the last bit is always a fraction. -/
def measuredSeconds (micros : Nat) : Nat :=
  let bits := 52 - Nat.log2 (micros / 1000000)
  nearestQuotient (micros <<< bits) 1000000 >>> bits

/-- The number of seconds, two to the 33, below which they are measured exactly. -/
def exactBelow : Nat := 8589934592

/-- Whole seconds, dropped toward zero. -/
def wholeSeconds (d : Duration) : Int :=
  let n := d.microseconds.natAbs
  let whole := if n < exactBelow * 1000000 then n / 1000000 else measuredSeconds n
  d.microseconds.sign * whole

/-- A span of whole seconds within the exact range is read back. -/
theorem wholeSeconds_ofSeconds {n : Int} (h : n.natAbs < exactBelow) :
    (ofSeconds n).wholeSeconds = n := by
  have size : (n * 1000000).natAbs = n.natAbs * 1000000 := by
    rw [Int.natAbs_mul]
    rfl
  simp only [wholeSeconds, ofSeconds, size]
  rw [if_pos (by omega), Nat.mul_div_cancel _ (by decide), Int.sign_mul,
    show Int.sign 1000000 = 1 from rfl, Int.mul_one]
  exact Int.sign_mul_natAbs n

end Duration

end CalendarText
