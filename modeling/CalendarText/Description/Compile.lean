/-
Descriptions compiled to leaves.

Each segment becomes one leaf: a run becomes literal text, a doubled bracket the literal text of
a single one, a body its component.  The first flaw from the left is reported.
-/
import CalendarText.Description.Component
import CalendarText.Description.Segment
import CalendarText.Item.Basic

namespace CalendarText.Description

/-- The leaf of a segment that begins at a place. -/
def leaf (place : Nat) : Segment → Except DescriptionError Leaf
  | .run text => .ok (.literal text)
  | .doubled => .ok (.literal [openBracket])
  | .body text => (component (place + 1) text).map .component
  | .unclosed _ => .error ⟨.unclosed, place⟩

/-- The leaves of segments, the first of which begins at a place. -/
def compileFrom : (place : Nat) → List Segment → Except DescriptionError (List Leaf)
  | _, [] => .ok []
  | place, s :: rest => do
    let l ← leaf place s
    let leaves ← compileFrom (place + s.text.length) rest
    return l :: leaves

/-- The leaves of a description. -/
def compile (description : Octets) : Except DescriptionError (List Leaf) :=
  compileFrom 0 (segments description)

end CalendarText.Description
