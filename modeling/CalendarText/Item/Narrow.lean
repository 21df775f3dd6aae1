/-
Items taken for the form that they have: a component, or a compound.
-/
import CalendarText.Failure.Cause
import CalendarText.Item.Basic

namespace CalendarText.Item

/-- The component of an item, if it is one. -/
def asComponent : Item → Except Cause Component
  | component c => .ok c
  | _ => .error .differentVariant

/-- The members of an item, if it is a compound. -/
def asCompound : Item → Except Cause (List Item)
  | compound items => .ok items
  | _ => .error .differentVariant

end CalendarText.Item
