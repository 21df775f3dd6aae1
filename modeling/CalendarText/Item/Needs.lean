/-
The parts of a value that a row of items needs, remembered row by row.

A row that was met before is not gone through again.  Rows are looked up by equality, and a
component that is not wrapped equals its item, although it needs nothing: of equal rows, the one
that is met first answers for all, as long as it is remembered.

* `Item.needs`: the parts that a row needs;
* `Item.isKey`: what can be looked up.  A series that can change cannot.
-/
import CalendarText.Item.Equality

namespace CalendarText.Item

/-- Rows that were met, with the parts that they need.  The one met last is in front. -/
abbrev Memory := List (List Item × Capabilities)

namespace Memory

/-- The most rows that are remembered. -/
def capacity : Nat := 256

/-- What is remembered of a row, with the row under which it is. -/
def find? (memory : Memory) (items : List Item) : Option (List Item × Capabilities) :=
  List.find? (fun e => sameAll e.1 items) memory

/-- What is remembered when a row is met, in front of all else. -/
def keep (memory : Memory) (row : List Item × Capabilities) : Memory :=
  (row :: memory.eraseP fun e => sameAll e.1 row.1).take capacity

end Memory

mutual

/-- The parts that an item needs, and what is remembered afterwards. -/
def gather (memory : Memory) : Item → Capabilities × Memory
  | component c => (.single c.kind.requires, memory)
  | compound items =>
    match memory.find? items with
    | some known => (known.2, memory.keep known)
    | none =>
      let (needed, memory) := gatherAll memory items
      (needed, memory.keep (items, needed))
  | literal _ | bare _ | series _ _ | stray _ => ({}, memory)

/-- The parts that several items need, and what is remembered afterwards. -/
def gatherAll (memory : Memory) : List Item → Capabilities × Memory
  | [] => ({}, memory)
  | i :: items =>
    let (first, memory) := gather memory i
    let (others, memory) := gatherAll memory items
    (first.union others, memory)

end

mutual

/-- Whether an item can be looked up. -/
def isKey : Item → Bool
  | compound items | series .tuple items => areKeys items
  | series .list _ => false
  | literal _ | component _ | bare _ | stray _ => true

/-- Whether all items can. -/
def areKeys : List Item → Bool
  | [] => true
  | i :: items => isKey i && areKeys items

end

/-- The parts that a row of items needs. -/
def needs (items : List Item) : Except Misuse Capabilities :=
  if areKeys items then .ok (gatherAll [] items).1
  else .error (.noKey (series .list []).sortName)

end CalendarText.Item
