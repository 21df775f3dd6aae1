/-
Values formatted by descriptions.

What the layout needs is compared with what the value carries before anything is written, so a
refused value leaves no partial text behind.

* `format`: the text of a value;
* `formatInto`: the same, appended to an output that may fail.
-/
import CalendarText.Item.Layout
import CalendarText.Rfc3339.Writer
import CalendarText.Writing.Item

namespace CalendarText

/-- A layout filled with the parts of a value. -/
def Layout.write (layout : Layout) (parts : Parts) : Except Fault Octets :=
  match layout with
  | items members =>
    match Item.writeAll? parts members with
    | some text => .ok text
    | none => .error (.wrapped .formatting (.bare .insufficientType))
  | wellKnown .rfc3339 =>
    match parts with
    | ⟨some date, some time, some offset⟩ =>
      (Rfc3339.write date time offset).mapError fun c => .wrapped .formatting (.bare c)
    | _ => .error (.wrapped .formatting (.bare .insufficientType))
  | wellKnown .abstract => .error (.misuse .notImplemented)

/-- The text of a value in the layout of a description.  Where there is no value, nothing is
carried. -/
def format (value : Option Value) (description : Item) : Except Fault Octets := do
  let layout ← description.layout
  let carried := (value.map fun v => v.kind.capabilities).getD {}
  if layout.capabilities.subset carried then
    match value with
    | none => throw (.misuse .noValue)
    | some v => layout.write v.parts
  else throw (.wrapped .formatting (.bare .insufficientType))

/-- Where text goes: to what is kept so far, or to a device that fails. -/
inductive Output where
  | memory (content : Octets)
  | failing (text : String)
  deriving DecidableEq, Repr

/-- The text of a value appended to an output in one piece: the number of octets written, and the
output afterwards. -/
def formatInto (output : Output) (value : Option Value) (description : Item) :
    Except Fault Nat × Output :=
  match format value description with
  | .error fault => (.error fault, output)
  | .ok text =>
    match output with
    | .memory content => (.ok text.length, .memory (content ++ text))
    | .failing reason => (.error (.wrapped .formatting (.bare (.device reason))), output)

end CalendarText
