/-
The five kinds of value that are exchanged as text, as one type.

* `Value.parts`: what a value carries of a date, a time and an offset;
* `ValueKind.capabilities`: the same for all values of a kind;
* `Value.compare?`: two values are ordered when they are of one kind and that kind has an order.
-/
import CalendarText.Calendar.DateTime

namespace CalendarText

/-- A date, a time and an offset, each of which may be absent. -/
structure Parts where
  date : Option Date := none
  time : Option Time := none
  offset : Option UtcOffset := none
  deriving DecidableEq, Repr

/-- A part that a component can need. -/
inductive Capability where
  | date
  | offset
  | time
  deriving DecidableEq, Repr

/-- The name of the part. -/
def Capability.name : Capability → String
  | date => "date"
  | offset => "offset"
  | time => "time"

/-- A set of parts. -/
structure Capabilities where
  date : Bool := false
  offset : Bool := false
  time : Bool := false
  deriving DecidableEq, Repr

namespace Capabilities

/-- The set of one part. -/
def single : Capability → Capabilities
  | .date => { date := true }
  | .offset => { offset := true }
  | .time => { time := true }

def union (a b : Capabilities) : Capabilities :=
  ⟨a.date || b.date, a.offset || b.offset, a.time || b.time⟩

/-- Whether the set has a part. -/
def has (a : Capabilities) : Capability → Bool
  | .date => a.date
  | .offset => a.offset
  | .time => a.time

/-- Whether all parts of `a` are in `b`. -/
def subset (a b : Capabilities) : Bool :=
  (!a.date || b.date) && (!a.offset || b.offset) && (!a.time || b.time)

/-- The parts of the set, in the order of their names. -/
def toList (a : Capabilities) : List Capability :=
  [.date, .offset, .time].filter a.has

@[simp]
theorem has_union (a b : Capabilities) (c : Capability) :
    (a.union b).has c = (a.has c || b.has c) := by
  cases c <;> rfl

theorem subset_iff (a b : Capabilities) :
    a.subset b = true ↔ ∀ c, a.has c = true → b.has c = true := by
  constructor
  · intro h c
    cases c <;> grind [subset, has]
  · intro h
    have date := h .date
    have offset := h .offset
    have time := h .time
    grind [subset, has]

end Capabilities

/-- The kinds of value. -/
inductive ValueKind where
  | date
  | time
  | offset
  | dateTime
  | offsetDateTime
  deriving DecidableEq, Repr

/-- The parts that every value of a kind carries. -/
def ValueKind.capabilities : ValueKind → Capabilities
  | .date => { date := true }
  | .time => { time := true }
  | .offset => { offset := true }
  | .dateTime => { date := true, time := true }
  | .offsetDateTime => { date := true, offset := true, time := true }

/-- A value of any of the five kinds. -/
inductive Value where
  | date (d : Date)
  | time (t : Time)
  | offset (o : UtcOffset)
  | dateTime (t : DateTime)
  | offsetDateTime (t : OffsetDateTime)
  deriving DecidableEq, Repr

namespace Value

def kind : Value → ValueKind
  | date _ => .date
  | time _ => .time
  | offset _ => .offset
  | dateTime _ => .dateTime
  | offsetDateTime _ => .offsetDateTime

/-- What the value carries. -/
def parts : Value → Parts
  | date d => { date := some d }
  | time t => { time := some t }
  | offset o => { offset := some o }
  | dateTime t => { date := some t.date, time := some t.time }
  | offsetDateTime t => { date := some t.date, time := some t.time, offset := some t.offset }

/-- The order of two values.  Offsets have none, nor have date-times at an offset, nor values of
different kinds. -/
def compare? : Value → Value → Option Ordering
  | date a, date b => some (a.compare b)
  | time a, time b => some (a.compare b)
  | dateTime a, dateTime b => some (a.compare b)
  | _, _ => none

end Value

/-- The parts that are present, as a set. -/
def Parts.capabilities (p : Parts) : Capabilities :=
  ⟨p.date.isSome, p.offset.isSome, p.time.isSome⟩

/-- A value carries exactly the parts of its kind. -/
theorem Value.capabilities_parts (v : Value) : v.parts.capabilities = v.kind.capabilities := by
  cases v <;> rfl

end CalendarText
