/-
Texts parsed by descriptions.

* `Layout.parse`, `parseFormat`: the layout of a description read into fields;
* `parseValue`: a value of a kind from a text that matches a description from end to end.
-/
import CalendarText.Fields.Resolve
import CalendarText.Item.Layout
import CalendarText.Rfc3339.Reader

namespace CalendarText

open FieldReader

/-- A layout read from the front of a text, all of it or nothing. -/
def Layout.parse (layout : Layout) (data : Octets) : FieldReader Octets :=
  match layout with
  | items members => parseItems members data
  | wellKnown .rfc3339 => transaction (Rfc3339.parse data)
  | wellKnown .abstract => throw (.misuse .notImplemented)

/-- The layout of a description read from the front of a text. -/
def parseFormat (description : Item) (data : Octets) : FieldReader Octets :=
  match description.layout with
  | .ok layout => layout.parse data
  | .error fault => throw fault

/-- The value of a kind that a text denotes.  Failures are failures of parsing; the text must
match to its end before its fields are resolved. -/
def parseValue (kind : ValueKind) (text : Octets) (description : Item) : Except Fault Value :=
  match (parseFormat description text).runOn .empty with
  | (.error (.failure f), _) => .error (.wrapped .parsing f)
  | (.error fault, _) => .error fault
  | (.ok rest, fields) =>
    if rest = [] then (kind.resolve fields).mapError fun f => .wrapped .parsing f
    else .error (.wrapped .parsing (.bare .trailing))

end CalendarText
