/-
The operations on fields, as one type, and runs of them.
-/
import CalendarText.Reading.Format

namespace CalendarText

open FieldReader

/-- An operation on fields. -/
inductive Operation where
  /-- one field changed by name -/
  | set (name : String) (value : Offered)
  /-- fields changed by name, all at once -/
  | change (values : List (String × Offered))
  /-- fields begun anew with the given ones -/
  | renew (values : List (String × Offered))
  /-- literal text read from the front of an input -/
  | readLiteral (input text : Octets)
  /-- a component read from the front of an input -/
  | readComponent (input : Octets) (c : Component)
  /-- an item read from the front of an input -/
  | readItem (input : Octets) (item : Item)
  /-- the elements of a value read from the front of an input -/
  | readItems (input : Octets) (items : Item)
  /-- the layout of a description read from the front of an input -/
  | readFormat (input : Octets) (description : Item)
  /-- a value of a kind resolved -/
  | resolve (kind : ValueKind)
  deriving Repr

/-- What an operation results in. -/
inductive Outcome where
  | done
  /-- what is left of an input -/
  | rest (data : Octets)
  | value (v : Value)
  deriving DecidableEq, Repr

namespace FieldReader

/-- The state that a check lets pass, in place of the state at hand. -/
def replaceBy (next : Fields → Except (List Problem) Fields) : FieldReader Outcome := do
  match next (← get) with
  | .ok p =>
    set p
    return .done
  | .error problems => throw (.problems problems)

end FieldReader

/-- What an operation does.  A conversion settles what named values stand for. -/
def Operation.run (o : Operation) (convert : Field.Conversion := .standard) :
    FieldReader Outcome :=
  match o with
  | set name value => replaceBy fun p => p.assigned name value convert
  | change values => replaceBy fun p => p.changed values convert
  | renew values => replaceBy fun _ => Fields.renewed values convert
  | readLiteral input text => Outcome.rest <$> fillIn ((Leaf.literal text).parse input)
  | readComponent input c => Outcome.rest <$> fillIn (c.parse input)
  | readItem input item => Outcome.rest <$> item.parse input
  | readItems input items =>
    match items.elements with
    | .ok members => Outcome.rest <$> parseItems members input
    | .error m => throw (.misuse m)
  | readFormat input description => Outcome.rest <$> parseFormat description input
  | resolve kind => do
    match kind.resolve (← get) with
    | .ok v => return .value v
    | .error f => throw (.failure f)

/-- The states after each operation of a run. -/
def Operation.states (p : Fields) (operations : List Operation)
    (convert : Field.Conversion := .standard) : List Fields :=
  match operations with
  | [] => []
  | o :: operations =>
    ((o.run convert).runOn p).2 :: states ((o.run convert).runOn p).2 operations convert

end CalendarText
