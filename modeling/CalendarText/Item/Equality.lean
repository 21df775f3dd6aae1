/-
Equality of items across their forms: a component equals its item, and a compound equals a series
with the same members.
-/
import CalendarText.Item.Basic

namespace CalendarText

/-- The value as a number, if it is one.  Truth values count as 1 and 0. -/
def Stray.number? : Stray → Option Binary64
  | flag b => some (.ofInt (if b then 1 else 0))
  | integer n => some (.ofInt n)
  | float x => some x
  | text _ | octets _ | wellKnown _ | null => none

/-- Whether the value is told from every other one, however alike they are.  There is one format
of each layout, but whoever has an abstract format has one of his own. -/
def Stray.isSingular (v : Stray) : Bool :=
  v = wellKnown .abstract

/-- Whether two values are equal: numbers by their value, others as they are. -/
def Stray.same (a b : Stray) : Bool :=
  match a.number?, b.number? with
  | some x, some y => x.same y
  | none, none => a = b && !a.isSingular
  | _, _ => false

namespace Item

mutual

/-- Whether two items are equal. -/
def same : Item → Item → Bool
  | literal a, literal b => a = b
  | component a, component b | component a, bare b | bare a, component b | bare a, bare b => a = b
  | compound as, compound bs | compound as, series _ bs | series _ as, compound bs =>
    sameAll as bs
  | series s as, series t bs => s = t && sameAll as bs
  | stray a, stray b => a.same b
  | _, _ => false

/-- Whether two lists of items are equal, member by member. -/
def sameAll : List Item → List Item → Bool
  | [], [] => true
  | a :: as, b :: bs => same a b && sameAll as bs
  | _, _ => false

end

end Item

end CalendarText
