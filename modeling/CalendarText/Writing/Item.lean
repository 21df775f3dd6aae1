/-
How items are written: literal text as it is, components by their rules, compounds member by
member.  What is no item writes nothing.

* `Item.write?_eq_leaves`: a tree writes what its leaves write, from left to right.
-/
import CalendarText.Item.Basic
import CalendarText.Writing.Component

namespace CalendarText

/-- The leaf written from the parts of a value, if what it needs is there. -/
def Leaf.write? (parts : Parts) : Leaf → Option Octets
  | literal text => some text
  | component c => c.write? parts

/-- Leaves written one after the other. -/
def Leaf.writeAll? (parts : Parts) : List Leaf → Option Octets
  | [] => some []
  | l :: leaves => do
    let text ← l.write? parts
    let rest ← writeAll? parts leaves
    return text ++ rest

namespace Item

mutual

/-- The item written from the parts of a value, if what its components need is there. -/
def write? (parts : Parts) : Item → Option Octets
  | literal text => some text
  | component c => c.write? parts
  | compound items => writeAll? parts items
  | bare _ | series _ _ | stray _ => some []

/-- Items written one after the other. -/
def writeAll? (parts : Parts) : List Item → Option Octets
  | [] => some []
  | i :: items => do
    let text ← write? parts i
    let rest ← writeAll? parts items
    return text ++ rest

end

end Item

/-- Leaves that follow each other are written after each other. -/
theorem Leaf.writeAll?_append (parts : Parts) (a b : List Leaf) :
    writeAll? parts (a ++ b) = (do
      let x ← writeAll? parts a
      let y ← writeAll? parts b
      return x ++ y) := by
  induction a with
  | nil => cases h : writeAll? parts b <;> simp [writeAll?, h]
  | cons l a ih =>
    cases hl : l.write? parts with
    | none => simp [writeAll?, hl]
    | some t =>
      cases ha : writeAll? parts a with
      | none => simp [writeAll?, hl, ih, ha]
      | some u => cases hb : writeAll? parts b <;> simp [writeAll?, hl, ih, ha, hb]

/-- A tree writes what its leaves write. -/
theorem Item.write?_eq_leaves {i : Item} (tree : i.isTree = true) (parts : Parts) :
    i.write? parts = Leaf.writeAll? parts i.leaves := by
  induction i, tree using tree_ind with
  | literal t => simp [write?, leaves, Leaf.writeAll?, Leaf.write?]
  | component c =>
    cases h : c.write? parts <;> simp [write?, leaves, Leaf.writeAll?, Leaf.write?, h]
  | nil => rfl
  | cons i items _ _ first others =>
    rw [write?, leaves] at others
    rw [write?, writeAll?, leaves, leavesOf, Leaf.writeAll?_append, first, others]

end CalendarText
