/-
Formatting as a flat run over leaves.

* `Leaf.writeAll?_cons_eq_some_iff`: leaves are written when the first one and the others are;
* `exists_writeAll?`: trees that need no more than a value carries are written;
* `format_eq_ok`, `format_eq_insufficient`: what is written is the text of the value, if it carries
  what is needed.
-/
import CalendarText.Writing.Format
import Mathlib.Tactic.Lemma

namespace CalendarText

lemma Leaf.writeAll?_cons_eq_some_iff {parts : Parts} {l : Leaf} {leaves : List Leaf}
    {text : Octets} :
    writeAll? parts (l :: leaves) = some text ↔ ∃ first rest, l.write? parts = some first ∧
      writeAll? parts leaves = some rest ∧ first ++ rest = text := by
  rw [writeAll?]
  cases l.write? parts with
  | none => simp
  | some first => cases writeAll? parts leaves <;> simp

/-- A leaf is written when the parts have what it needs. -/
lemma Leaf.exists_write? {parts : Parts} {l : Leaf}
    (carried : ∀ part, l.capabilities.has part = true → parts.capabilities.has part = true) :
    ∃ text, l.write? parts = some text := by
  cases l with
  | literal t => exact ⟨t, rfl⟩
  | component c =>
      have need : (Capabilities.single c.kind.requires).has c.kind.requires = true := by
        cases c.kind.requires <;> rfl
      refine Option.isSome_iff_exists.mp ?_
      rw [write?, Component.isSome_write?]
      exact carried _ need

/-- Leaves are written when the parts have what each of them needs. -/
lemma Leaf.exists_writeAll? {parts : Parts} {leaves : List Leaf}
    (carried : ∀ l ∈ leaves, ∀ part, l.capabilities.has part = true →
      parts.capabilities.has part = true) :
    ∃ text, writeAll? parts leaves = some text := by
  induction leaves with
  | nil => exact ⟨[], rfl⟩
  | cons l leaves ih =>
      obtain ⟨first, hfirst⟩ := exists_write? (carried l (by simp))
      obtain ⟨rest, hrest⟩ := ih fun k hk => carried k (by simp [hk])
      exact ⟨first ++ rest, writeAll?_cons_eq_some_iff.mpr ⟨first, rest, hfirst, hrest, rfl⟩⟩

/-- Trees in a row write what their leaves write. -/
lemma Item.writeAll?_eq_leaves {items : List Item} (trees : areTrees items = true)
    (parts : Parts) : writeAll? parts items = Leaf.writeAll? parts (leavesOf items) := by
  have same := write?_eq_leaves (isTree_compound trees) parts
  rwa [write?, leaves] at same

/-- Trees in a row need what their leaves need. -/
lemma Item.has_capabilitiesOf {items : List Item} (trees : areTrees items = true)
    (part : Capability) :
    (capabilitiesOf items).has part = (leavesOf items).any fun l => l.capabilities.has part := by
  have whole := has_capabilities (isTree_compound trees) part
  rwa [capabilities, leaves] at whole

variable {v : Value} {description : Item} {members : List Item}

/-- Trees that need no more than a value carries are written. -/
lemma exists_writeAll? (trees : Item.areTrees members = true)
    (carried : (Item.capabilitiesOf members).subset v.kind.capabilities = true) :
    ∃ text, Leaf.writeAll? v.parts (Item.leavesOf members) = some text := by
  apply Leaf.exists_writeAll?
  intro l hl part need
  rw [Value.capabilities_parts]
  refine (Capabilities.subset_iff _ _).mp carried part ?_
  rw [Item.has_capabilitiesOf trees, List.any_eq_true]
  exact ⟨l, hl, need⟩

/-- What the leaves of a layout write for a value is the text of the value. -/
lemma format_eq_ok {text : Octets} (layout : description.layout = .ok (.items members))
    (trees : Item.areTrees members = true)
    (carried : (Item.capabilitiesOf members).subset v.kind.capabilities = true)
    (written : Leaf.writeAll? v.parts (Item.leavesOf members) = some text) :
    format (some v) description = .ok text := by
  rw [← Item.writeAll?_eq_leaves trees] at written
  rw [format, layout]
  show (if (Item.capabilitiesOf members).subset v.kind.capabilities = true
    then Layout.write (.items members) v.parts else _) = _
  rw [if_pos carried, Layout.write, written]

/-- A value that does not carry what a layout needs is refused. -/
lemma format_eq_insufficient (layout : description.layout = .ok (.items members))
    (lacking : ¬(Item.capabilitiesOf members).subset v.kind.capabilities = true) :
    format (some v) description = .error (.wrapped .formatting (.bare .insufficientType)) := by
  rw [format, layout]
  show (if (Item.capabilitiesOf members).subset v.kind.capabilities = true
    then Layout.write (.items members) v.parts else _) = _
  rw [if_neg lacking]
  rfl

end CalendarText
