/-
How items are read into fields.

Reading runs on a state that stays as it is when the reading fails: what a failed step has filled
in by then would remain.  So compounds and whole descriptions are read as transactions, which
take back everything when one of their members fails.

* `transaction_error`: a failed transaction leaves the state as it was;
* `Item.parse`, `parseItems`: items read from the front of a text.
-/
import CalendarText.Fault
import CalendarText.Fields.Basic
import CalendarText.Reading.Component

namespace CalendarText

/-- Reading into fields, which ends with a result or a fault, and with a state in either case. -/
abbrev FieldReader := ExceptT Fault (StateM Fields)

namespace FieldReader

/-- The result and the state after running on a state. -/
def runOn {α : Type} (action : FieldReader α) (p : Fields) : Except Fault α × Fields :=
  (action.run.run p : Except Fault α × Fields)

/-- An action that fails at once. -/
def fail {α : Type} (c : Cause) : FieldReader α :=
  throw (.ofCause c)

/-- An action that takes back its changes when it fails. -/
def transaction {α : Type} (action : FieldReader α) : FieldReader α := fun p =>
  match action.runOn p with
  | (.ok a, q) => (.ok a, q)
  | (.error fault, _) => (.error fault, p)

/-- The numbers that were read, filled in; and what is left of the text. -/
def fillIn (reading : Except Cause Reading) : FieldReader Octets :=
  match reading with
  | .ok (numbers, rest) => do
    modify fun p => p.assign numbers
    return rest
  | .error c => fail c

/-- A failed transaction leaves the state as it was. -/
theorem transaction_error {α : Type} {action : FieldReader α} {p q : Fields} {fault : Fault}
    (h : action.transaction.runOn p = (.error fault, q)) : q = p := by
  change (match action.runOn p with
    | (.ok a, q) => (Except.ok a, q)
    | (.error fault, _) => (Except.error fault, p)) = (Except.error fault, q) at h
  split at h
  · cases h
  · cases h
    rfl

end FieldReader

open FieldReader

namespace Item

mutual

/-- The item read from the front of a text, and what is left of the text. -/
def parse : Item → Octets → FieldReader Octets
  | literal text, data => fillIn ((Leaf.literal text).parse data)
  | component c, data | bare c, data => fillIn (c.parse data)
  | compound items, data => transaction (parseAll items data)
  | series sort _, _ => throw (.misuse (.notReadable (series sort []).sortName))
  | stray v, _ => throw (.misuse (.notReadable v.sortName))

/-- Items read one after the other. -/
def parseAll : List Item → Octets → FieldReader Octets
  | [], data => pure data
  | i :: items, data => do
    let rest ← parse i data
    parseAll items rest

end

end Item

/-- Items read one after the other, all of them or none. -/
def parseItems (items : List Item) (data : Octets) : FieldReader Octets :=
  transaction (Item.parseAll items data)

end CalendarText
