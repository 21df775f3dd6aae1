/-
Equality of items is equality of what they describe.

Each sort of item compares itself with the values that it knows, and leaves it to other values to
compare themselves with it.  A compound knows series, but a series does not know compounds; and the
members of both are compared in their turn, in whatever forms they come.  All the same, what is
equal to a tree is what describes the same, whichever of the two is asked first.

* `Outline`, `Item.outline`: what an item describes, whatever form it has;
* `Item.verdict?`, `Item.Dispatches`: what a value itself says, and whose word counts;
* `Item.same_comm`: equality does not depend on the order of the two values;
* `Item.dispatches_iff`: equality is the one comparison that asks both values in turn;
* `Item.same_iff_outline_eq`: a tree is equal to what has the same outline;
* `Item.same_refines_outline`: all of this, for trees and the values that callers may hand in.
-/
import CalendarText.Item.Equality
import Mathlib.Tactic.Lemma

namespace CalendarText

/-- What an item describes, whatever form it has. -/
inductive Outline where
  | literal (text : Octets)
  | component (c : Component)
  | sequence (members : List Outline)
  /-- a value that describes nothing -/
  | other (value : Stray)

/-! ### Values that are no items -/

lemma Binary64.same_comm (x y : Binary64) : x.same y = y.same x := by
  cases x <;> cases y <;> simp only [same, Int.min_comm, eq_comm]

lemma Stray.same_comm (a b : Stray) : a.same b = b.same a := by
  rw [same, same]
  cases a.number? <;> cases b.number?
  case none.none =>
      by_cases h : a = b
      · rw [h]
      · simp [h, Ne.symm h]
  case some.some x y => exact x.same_comm y
  all_goals rfl

namespace Item

mutual

/-- The outline of an item: it does not show whether a component is wrapped, nor whether members
are in a compound or in a series. -/
def outline : Item → Outline
  | literal t => .literal t
  | component c | bare c => .component c
  | compound items | series _ items => .sequence (outlines items)
  | stray v => .other v

/-- The outlines of several items. -/
def outlines : List Item → List Outline
  | [] => []
  | i :: items => outline i :: outlines items

end

/-- What an item says about a value when it is asked, where members are compared by `equal`.  It
says nothing about values of a sort that it does not know. -/
def verdict? (equal : Item → Item → Bool) : Item → Item → Option Bool
  | literal a, literal b => some (a = b)
  | component a, component b | component a, bare b | bare a, bare b => some (a = b)
  | compound as, compound bs | compound as, series _ bs => some (as.isEqv bs equal)
  | series s as, series t bs => if s = t then some (as.isEqv bs equal) else none
  | stray a, stray b => some (a.same b)
  | _, _ => none

/-- A comparison asks the first value, and the second one if the first says nothing.  Values that
do not know each other differ. -/
def Dispatches (equal : Item → Item → Bool) : Prop :=
  ∀ x y, equal x y = ((verdict? equal x y).or (verdict? equal y x)).getD false

/-- The items in a compound or in a series. -/
def inner : Item → List Item
  | compound items | series _ items => items
  | literal _ | component _ | bare _ | stray _ => []

variable {x y : Item} {as bs : List Item}

/-! ### Equality asks both values in turn -/

lemma sameAll_eq_isEqv (as bs : List Item) : sameAll as bs = as.isEqv bs same := by
  induction as generalizing bs with
  | nil => cases bs <;> rfl
  | cons a as ih =>
      cases bs with
      | nil => rfl
      | cons b bs => rw [sameAll, List.isEqv, ih]

lemma sameAll_comm (each : ∀ a ∈ as, ∀ b, a.same b = b.same a) (bs : List Item) :
    sameAll as bs = sameAll bs as := by
  induction as generalizing bs with
  | nil => cases bs <;> rfl
  | cons a as ih =>
      cases bs with
      | nil => rfl
      | cons b bs =>
          rw [sameAll, sameAll, each a (by simp), ih fun c hc => each c (by simp [hc])]

/-- Equality does not depend on the order of the two values. -/
lemma same_comm (x y : Item) : x.same y = y.same x := by
  -- the kinds of the two decide, and members are compared in the same order from both sides
  induction x using ind generalizing y with
  | literal a =>
      cases y with
      | literal b => simp only [same, eq_comm]
      | _ => rfl
  | component a | bare a =>
      cases y with
      | component b | bare b => simp only [same, eq_comm]
      | _ => rfl
  | compound as each =>
      cases y with
      | compound bs | series t bs => exact sameAll_comm each bs
      | _ => rfl
  | series s as each =>
      cases y with
      | compound bs => exact sameAll_comm each bs
      | series t bs =>
          rw [same, same, sameAll_comm each bs]
          simp only [eq_comm]
      | _ => rfl
  | stray v =>
      cases y with
      | stray w => exact v.same_comm w
      | _ => rfl

/-- Equality asks both values in turn. -/
lemma dispatches_same : Dispatches same := by
  intro x y
  cases x with
  -- a plain value asks the second one, which then compares with it the other way round
  | bare a =>
      cases y with
      | component b =>
          rw [same_comm]
          rfl
      | _ => rfl
  | compound as =>
      cases y with
      | compound bs | series t bs => exact sameAll_eq_isEqv as bs
      | _ => rfl
  | series s as =>
      cases y with
      | compound bs =>
          rw [same_comm]
          exact sameAll_eq_isEqv bs as
      | series t bs =>
          rw [same, sameAll_eq_isEqv, verdict?, verdict?]
          by_cases sort : s = t
          · simp [sort]
          · simp [sort, Ne.symm sort]
      | _ => rfl
  | _ => cases y <;> rfl

lemma isEqv_congr {f g : Item → Item → Bool} (agree : ∀ a ∈ as, ∀ b ∈ bs, f a b = g a b) :
    as.isEqv bs f = as.isEqv bs g := by
  induction as generalizing bs with
  | nil => cases bs <;> rfl
  | cons a as ih =>
      cases bs with
      | nil => rfl
      | cons b bs =>
          rw [List.isEqv, List.isEqv, agree a (by simp) b (by simp),
            ih fun c hc d hd => agree c (by simp [hc]) d (by simp [hd])]

/-- An item says the same by two comparisons that agree on members. -/
lemma verdict?_congr {f g : Item → Item → Bool}
    (agree : ∀ a ∈ x.inner, ∀ b ∈ y.inner, f a b = g a b) :
    verdict? f x y = verdict? g x y := by
  cases x with
  | compound as | series s as =>
      cases y with
      | compound bs | series t bs =>
          have rows : as.isEqv bs f = as.isEqv bs g := isEqv_congr agree
          simp only [verdict?, rows]
      | _ => rfl
  | _ => cases y <;> rfl

/-- A property holds of all items once each of them inherits it from the items in it. -/
@[elab_as_elim]
lemma inner_ind {motive : Item → Prop}
    (step : ∀ x : Item, (∀ a ∈ x.inner, motive a) → motive x) (x : Item) : motive x := by
  induction x using ind with
  | compound items each => exact step _ each
  | series s items each => exact step _ each
  | literal t => exact step _ fun a mem => absurd mem List.not_mem_nil
  | component c => exact step _ fun a mem => absurd mem List.not_mem_nil
  | bare c => exact step _ fun a mem => absurd mem List.not_mem_nil
  | stray v => exact step _ fun a mem => absurd mem List.not_mem_nil

/-- Equality is the only comparison that asks both values in turn. -/
lemma dispatches_iff {equal : Item → Item → Bool} : Dispatches equal ↔ equal = same := by
  constructor
  · intro asks
    -- the second value may be asked about the first, so both orders are carried along
    have agree (x : Item) : ∀ y, equal x y = same x y ∧ equal y x = same y x := by
      induction x using inner_ind with
      | _ x each =>
          intro y
          have first : verdict? equal x y = verdict? same x y :=
            verdict?_congr fun a ha b _ => (each a ha b).1
          have second : verdict? equal y x = verdict? same y x :=
            verdict?_congr fun b _ a ha => (each a ha b).2
          rw [asks x y, asks y x, dispatches_same x y, dispatches_same y x, first, second]
          exact ⟨rfl, rfl⟩
    funext x y
    exact (agree x y).1
  · rintro rfl
    exact dispatches_same

/-! ### Equality and outlines -/

/-- A tree is equal to what has the same outline. -/
lemma same_iff_outline_eq (tree : x.isTree = true) (y : Item) :
    x.same y = true ↔ x.outline = y.outline := by
  induction x, tree using tree_ind generalizing y with
  | literal t => cases y <;> simp [same, outline]
  | component c => cases y <;> simp [same, outline]
  | nil =>
      cases y with
      | compound bs | series s bs => cases bs <;> simp [same, sameAll, outline, outlines]
      | _ => simp [same, outline]
  -- both sides are taken apart at the first member, and the others form a compound again
  | cons a as _ _ first others =>
      cases y with
      | compound bs | series s bs =>
          cases bs with
          | nil => simp [same, sameAll, outline, outlines]
          | cons b bs =>
              have behind := others (compound bs)
              simp only [same, outline, Outline.sequence.injEq] at behind
              simp only [same, sameAll, outline, outlines, Bool.and_eq_true, first b, behind,
                Outline.sequence.injEq, List.cons.injEq]
      | _ => simp [same, outline]

/-- Items that are trees are equal to themselves, and in any order. -/
lemma equivalence_same :
    Equivalence fun x y : {i : Item // i.isTree = true} => x.1.same y.1 = true where
  refl x := (same_iff_outline_eq x.2 x.1).mpr rfl
  symm {x y} h := by rwa [same_comm]
  trans {x y z} h k := by
    rw [same_iff_outline_eq x.2] at h ⊢
    rw [same_iff_outline_eq y.2] at k
    exact h.trans k

/-- **Items are equal when they describe the same.**  Equality is what comes of asking the first
of two values and then the second one, down to their members.  What is equal to a tree, from either
side, is what has the same outline: components need not be wrapped, and series may stand for
compounds, at any depth.  So trees are equal in the manner of an equivalence, and literal text is
equal to nothing but literal text. -/
theorem same_refines_outline :
    (∀ equal, Dispatches equal ↔ equal = same) ∧
      (∀ x y : Item, x.isTree = true → x.same y = y.same x ∧
        (x.same y = true ↔ x.outline = y.outline)) ∧
      (Equivalence fun x y : {i : Item // i.isTree = true} => x.1.same y.1 = true) ∧
      ∀ t y, (∀ u, y ≠ literal u) →
        (literal t).same y = false ∧ y.same (literal t) = false := by
  refine ⟨fun equal => dispatches_iff, ?_, equivalence_same, ?_⟩
  · intro x y tree
    exact ⟨same_comm x y, same_iff_outline_eq tree y⟩
  · intro t y other
    have differs : (literal t).same y = false := by
      cases y with
      | literal u => exact absurd rfl (other u)
      | _ => rfl
    exact ⟨differs, by rwa [same_comm]⟩

/-- A compound of a day and of a nested text, and the same written as a list in which the day is not
wrapped and the text is in a tuple. -/
theorem same_refines_outline_mixed :
    let x : Item := .compound [.component (.day .zero), .compound [.literal [45]]]
    let y : Item := .series .list [.bare (.day .zero), .series .tuple [.literal [45]]]
    x.isTree = true ∧ x.same y = true ∧ y.same x = true ∧ x.outline = y.outline ∧
      (Item.literal [45]).same (.stray (.octets [45])) = false := by
  intro x y
  obtain ⟨-, outlines, -, literals⟩ := same_refines_outline
  have tree : x.isTree = true := rfl
  have same : x.same y = true := rfl
  obtain ⟨order, described⟩ := outlines x y tree
  exact ⟨tree, same, order ▸ same, described.mp same, (literals [45] _ (by simp)).1⟩

end Item

end CalendarText
