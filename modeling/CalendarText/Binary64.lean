/-
Binary floating-point numbers, as settings, strangers among items and values offered for fields
hold them.  A number is kept as its exact value, a whole multiple of a power of two.
-/
namespace CalendarText

/-- A binary floating-point number. -/
inductive Binary64 where
  /-- the number `significand * 2 ^ exponent` -/
  | finite (significand exponent : Int)
  | infinite (negative : Bool)
  /-- no number -/
  | nan
  deriving DecidableEq, Repr

/-- Why a floating-point number has no whole part. -/
inductive Binary64.NoWhole where
  | infinite
  | nan
  deriving DecidableEq, Repr

namespace Binary64

/-- Two to the `k`. -/
def power (k : Nat) : Int :=
  Int.ofNat (1 <<< k)

/-- An integer as a floating-point number of unbounded precision. -/
def ofInt (n : Int) : Binary64 :=
  finite n 0

/-- The whole part, dropped toward zero. -/
def whole : Binary64 → Except NoWhole Int
  | finite s e => .ok (if 0 ≤ e then s * power e.toNat else s.tdiv (power (-e).toNat))
  | infinite _ => .error .infinite
  | nan => .error .nan

/-- Whether two numbers are equal in value.  What is no number equals nothing. -/
def same : Binary64 → Binary64 → Bool
  | finite s e, finite t f => s * power (e - min e f).toNat = t * power (f - min e f).toNat
  | infinite a, infinite b => a = b
  | _, _ => false

/-- Whether the number is equal to its whole part. -/
def isWhole (x : Binary64) : Bool :=
  match x.whole with
  | .ok n => x.same (ofInt n)
  | .error _ => false

example : (finite (-3) (-1)).isWhole = false ∧ (finite (-6) (-1)).isWhole = true := by decide

end Binary64

end CalendarText
