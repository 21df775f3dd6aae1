/-
Format items: the trees that descriptions are compiled to, and that callers build by hand.

A tree has literal text and components at its leaves and compounds at its nodes.  Callers may
also hand in a component that is not wrapped as an item (`Item.bare`), a series of values, or a
value of some other sort (`Item.stray`); what becomes of these depends on the operation.

* `Item.isTree`: the item is made of literals, components and compounds alone, with
  `Item.tree_ind`, the induction over such items;
* `Item.leaves`: the leaves from left to right;
* `Item.ofValue`: a value as an item;
* `Item.capabilities`: the parts of a value that the components of a tree need, with
  `has_capabilities`: these are the parts that its leaves need.
-/
import CalendarText.Binary64
import CalendarText.Component.Basic
import CalendarText.Misuse
import CalendarText.Text.Utf8

namespace CalendarText

/-- A leaf of a tree of items: text that stands for itself, or a component. -/
inductive Leaf where
  | literal (text : Octets)
  | component (c : Component)
  deriving DecidableEq, Repr

/-- A format with a fixed layout and rules of its own.  The abstract one has no layout. -/
inductive WellKnown where
  | rfc3339
  | abstract
  deriving DecidableEq, Repr

/-- A value that is no item. -/
inductive Stray where
  | text (data : Octets)
  | octets (data : Octets)
  | wellKnown (format : WellKnown)
  | null
  | flag (b : Bool)
  | integer (n : Int)
  | float (x : Binary64)
  deriving DecidableEq, Repr

/-- Whether a series can be changed after it is made. -/
inductive SeriesSort where
  | list
  | tuple
  deriving DecidableEq, Repr

/-- A format item, or a value in the place of one. -/
inductive Item where
  | literal (text : Octets)
  | component (c : Component)
  | compound (items : List Item)
  /-- a component that is not wrapped as an item -/
  | bare (c : Component)
  | series (sort : SeriesSort) (items : List Item)
  | stray (value : Stray)
  deriving Repr

/-- The leaf as an item. -/
def Leaf.item : Leaf → Item
  | literal t => .literal t
  | component c => .component c

/-- The parts of a value that the leaf needs. -/
def Leaf.capabilities : Leaf → Capabilities
  | literal _ => {}
  | component c => .single c.kind.requires

/-! ### Sorts -/

/-- The name of the sort of the value. -/
def Stray.sortName : Stray → String
  | text _ => "str"
  | octets _ => "bytes"
  | wellKnown .rfc3339 => "Rfc3339"
  | wellKnown .abstract => "WellKnownFormat"
  | null => "NoneType"
  | flag _ => "bool"
  | integer _ => "int"
  | float _ => "float"

namespace Item

/-- The name of the sort of the item. -/
def sortName : Item → String
  | literal _ => "LiteralItem"
  | component _ => "ComponentItem"
  | compound _ => "CompoundItem"
  | bare _ => "Component"
  | series .list _ => "list"
  | series .tuple _ => "tuple"
  | stray v => v.sortName

/-- A property holds of every item once compounds and series inherit it from their members. -/
@[elab_as_elim]
theorem ind {motive : Item → Prop} (literal : ∀ t, motive (.literal t))
    (component : ∀ c, motive (.component c))
    (compound : ∀ items : List Item, (∀ i ∈ items, motive i) → motive (.compound items))
    (bare : ∀ c, motive (.bare c))
    (series : ∀ sort, ∀ items : List Item, (∀ i ∈ items, motive i) → motive (.series sort items))
    (stray : ∀ v, motive (.stray v)) (item : Item) : motive item :=
  Item.rec (motive_1 := motive) (motive_2 := fun items => ∀ i ∈ items, motive i)
    literal component compound bare series stray
    (fun i hi => absurd hi (by simp))
    (fun _ _ head tail i hi => by
      rcases List.mem_cons.mp hi with rfl | hi
      · exact head
      · exact tail i hi)
    item

mutual

/-- Whether the item is made of literals, components and compounds alone. -/
def isTree : Item → Bool
  | literal _ | component _ => true
  | compound items => areTrees items
  | bare _ | series _ _ | stray _ => false

/-- Whether all items are. -/
def areTrees : List Item → Bool
  | [] => true
  | i :: items => isTree i && areTrees items

end

/-- Trees put together are a tree. -/
theorem isTree_compound {items : List Item} (trees : areTrees items = true) :
    (compound items).isTree = true := by
  rwa [isTree]

/-- A property holds of every tree once a compound inherits it from its first member and from the
compound of the others. -/
@[elab_as_elim]
theorem tree_ind {motive : (i : Item) → i.isTree = true → Prop}
    (literal : ∀ t, motive (.literal t) rfl) (component : ∀ c, motive (.component c) rfl)
    (nil : motive (.compound []) rfl)
    (cons : ∀ i items, (first : i.isTree = true) → (others : areTrees items = true) →
      motive i first → motive (.compound items) (isTree_compound others) →
      ∀ whole, motive (.compound (i :: items)) whole)
    (i : Item) (tree : i.isTree = true) : motive i tree := by
  induction i using ind with
  | literal t => exact literal t
  | component c => exact component c
  | compound items ih =>
    induction items with
    | nil => exact nil
    | cons i items step =>
      have trees := tree
      rw [isTree, areTrees, Bool.and_eq_true] at trees
      exact cons i items trees.1 trees.2 (ih i (by simp) trees.1)
        (step (fun j hj => ih j (by simp [hj])) (isTree_compound trees.2)) tree
  | bare c => simp [isTree] at tree
  | series sort items => simp [isTree] at tree
  | stray v => simp [isTree] at tree

mutual

/-- The leaves from left to right.  A component that is not wrapped counts as a leaf as well;
what is no item has none. -/
def leaves : Item → List Leaf
  | literal t => [.literal t]
  | component c | bare c => [.component c]
  | compound items => leavesOf items
  | series _ _ | stray _ => []

/-- The leaves of several items. -/
def leavesOf : List Item → List Leaf
  | [] => []
  | i :: items => leaves i ++ leavesOf items

end

/-! ### Values as items -/

mutual

/-- The item that a value stands for: text stands for itself, a series for a compound. -/
def ofValue : Item → Except Misuse Item
  | stray (.text t) | stray (.octets t) => .ok (literal t)
  | bare c => .ok (component c)
  | series _ items => (ofValues items).map compound
  | stray v => .error (.noItem v.sortName)
  | item => .ok item

/-- The items that several values stand for; the first that stands for none is reported. -/
def ofValues : List Item → Except Misuse (List Item)
  | [] => .ok []
  | i :: items => do
    let i ← ofValue i
    let items ← ofValues items
    return i :: items

end

/-- The elements of a value, when it is gone through one by one.  The elements of text are its
characters, those of octets are integers. -/
def elements : Item → Except Misuse (List Item)
  | series _ items => .ok items
  | stray (.octets t) => .ok (t.map fun b => stray (.integer b.toNat))
  | stray (.text t) =>
    .ok ((Utf8.decodeFrom none t).map fun c => stray (.text (String.utf8EncodeChar c)))
  | item => .error (.notIterable item.sortName)

/-! ### Capabilities -/

mutual

/-- The parts of a value that the components of the item need.  Only components that are
wrapped count. -/
def capabilities : Item → Capabilities
  | component c => .single c.kind.requires
  | compound items => capabilitiesOf items
  | literal _ | bare _ | series _ _ | stray _ => {}

/-- The parts that several items need. -/
def capabilitiesOf : List Item → Capabilities
  | [] => {}
  | i :: items => (capabilities i).union (capabilitiesOf items)

end

/-- A tree needs what its leaves need. -/
theorem has_capabilities {i : Item} (tree : i.isTree = true) (part : Capability) :
    i.capabilities.has part = i.leaves.any fun l => l.capabilities.has part := by
  have nothing : ({} : Capabilities).has part = false := by cases part <;> rfl
  induction i, tree using tree_ind with
  | literal t => simp [capabilities, leaves, Leaf.capabilities, nothing]
  | component c => simp [capabilities, leaves, Leaf.capabilities]
  | nil => simp [capabilities, capabilitiesOf, leaves, leavesOf, nothing]
  | cons i items _ _ first others =>
    rw [capabilities, leaves] at others
    rw [capabilities, capabilitiesOf, leaves, leavesOf, Capabilities.has_union, List.any_append,
      first, others]

end Item

end CalendarText
