/-
Items described by text, the way back from compiled descriptions.

Every option is spelled out, and opening brackets in literal text are doubled.
-/
import CalendarText.Description.Compile

namespace CalendarText

namespace Description

/-- Literal text with its opening brackets doubled. -/
def escape (text : Octets) : Octets :=
  text.flatMap fun b => if b = openBracket then [openBracket, openBracket] else [b]

/-- A component in brackets: its kind, then all its options. -/
def bracketed (c : Component) : Octets :=
  openBracket :: Octets.ofAscii c.kind.name ++
    c.modifiers.flatMap (fun m => 32 :: m.token) ++ [closeBracket]

end Description

/-- The leaf as it stands in a description. -/
def Leaf.describe : Leaf → Octets
  | literal text => Description.escape text
  | component c => Description.bracketed c

namespace Item

mutual

/-- The leaves of an item that is gone through from left to right.  A series counts as a
compound; a component must be wrapped as an item. -/
def flatten : Item → Except Misuse (List Leaf)
  | literal t => .ok [.literal t]
  | component c => .ok [.component c]
  | compound items | series _ items => flattenAll items
  | stray (.text t) => if t = [] then .ok [] else .error .endless
  | stray (.octets t) =>
    if t = [] then .ok [] else .error (.notIterable (Stray.integer 0).sortName)
  | item => .error (.notIterable item.sortName)

/-- The leaves of several items. -/
def flattenAll : List Item → Except Misuse (List Leaf)
  | [] => .ok []
  | i :: items => do
    let leaves ← flatten i
    let rest ← flattenAll items
    return leaves ++ rest

end

/-- The text that describes an item. -/
def describe (item : Item) : Except Misuse Octets :=
  item.flatten.map fun leaves => leaves.flatMap Leaf.describe

/-- A tree is gone through by its leaves. -/
theorem flatten_eq_leaves {i : Item} (tree : i.isTree = true) : i.flatten = .ok i.leaves := by
  induction i, tree using tree_ind with
  | literal t => rfl
  | component c => rfl
  | nil => rfl
  | cons i items _ _ first others =>
    rw [flatten, leaves] at others
    rw [flatten, flattenAll, leaves, leavesOf, first, others]
    rfl

end Item

end CalendarText
