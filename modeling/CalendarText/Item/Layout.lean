/-
What a value says about layout when it is used as a description.

Text is compiled, an item or component stands for itself, a series for its members, and a
well-known format brings its own layout.  Inside a series text is literal text.
-/
import CalendarText.Description.Compile
import CalendarText.Fault
import CalendarText.Item.Basic

namespace CalendarText

/-- The layout of a text: items in a row, or a well-known format. -/
inductive Layout where
  | items (members : List Item)
  | wellKnown (format : WellKnown)
  deriving Repr

/-- The parts of a value that a layout needs. -/
def Layout.capabilities : Layout → Capabilities
  | items members => Item.capabilitiesOf members
  | wellKnown .rfc3339 => { date := true, offset := true, time := true }
  | wellKnown .abstract => {}

/-- The layout that a description text is compiled to. -/
def Layout.compile (description : Octets) : Except Fault Layout :=
  match Description.compile description with
  | .ok leaves => .ok (.items (leaves.map Leaf.item))
  | .error e => .error (.ofCause (.description e))

/-- The layout that a value describes. -/
def Item.layout : Item → Except Fault Layout
  | .stray (.wellKnown w) => .ok (.wellKnown w)
  | .stray (.text t) | .stray (.octets t) => Layout.compile t
  | .stray v => .error (.misuse (.noDescription v.sortName))
  | .series _ items => ((Item.ofValues items).map Layout.items).mapError .misuse
  | .bare c => .ok (.items [.component c])
  | item => .ok (.items [item])

end CalendarText
