/-
What equal rows of items need.

Equal rows have the same components at the same places, and differ at most in whether those are
wrapped.  But a component needs nothing unless it is wrapped, because nothing is written for it
otherwise.  So equal rows need the same where what components require without being wrapped is
required by wrapped ones as well; and then a row may be remembered under any equal one.

* `Item.StandsIn`, `Item.Required`: what stands in a row at any depth, and the parts that components
  in it require, wrapped or not;
* `Item.has_capabilitiesOf_iff_required`: a row needs what its wrapped components require;
* `Item.leavesOf_eq_of_same`: equal rows have the same leaves;
* `Item.CoveredThroughout`: the rows of which nothing is required without being wrapped alone;
* `Item.needs_of_equal_rows`: when equal rows need the same, and that what is remembered of them
  does not show;
* `Item.needs_of_bare_row`: a row that is answered for by an equal one, and should not be.
-/
import CalendarText.Proofs.Item.Needs
import CalendarText.Proofs.Reading.Leaves
import Mathlib.Tactic.Tauto

namespace CalendarText

/-- Sets of parts are told apart by the parts that they have. -/
lemma Capabilities.eq_iff_has {a b : Capabilities} :
    a = b ↔ ∀ part, a.has part = true ↔ b.has part = true := by
  constructor
  · rintro rfl part
    rfl
  · intro alike
    have date : a.date = b.date := Bool.eq_iff_iff.mpr (alike .date)
    have offset : a.offset = b.offset := Bool.eq_iff_iff.mpr (alike .offset)
    have time : a.time = b.time := Bool.eq_iff_iff.mpr (alike .time)
    cases a
    cases b
    rw [Capabilities.mk.injEq]
    exact ⟨date, offset, time⟩

namespace Item

/-! ### What stands in a row -/

/-- An item stands in a row: it is a member, or stands in a compound that is one. -/
inductive StandsIn (x : Item) : List Item → Prop
  | member {row : List Item} : x ∈ row → StandsIn x row
  | within {row items : List Item} : compound items ∈ row → StandsIn x items → StandsIn x row

/-- Components of one form, in a row at any depth, require a part. -/
def Required (f : Component → Item) (row : List Item) (part : Capability) : Prop :=
  ∃ c, StandsIn (f c) row ∧ c.kind.requires = part

variable {x i : Item} {items row other : List Item} {part : Capability}
  {f : Component → Item}

/-- A property of rows passes to a row from the row behind its first member and, where that is a
compound, from the row in it. -/
@[elab_as_elim]
lemma row_ind {motive : List Item → Prop} (nil : motive [])
    (compound : ∀ items row, motive items → motive row → motive (compound items :: row))
    (plain : ∀ i row, (∀ items, i ≠ .compound items) → motive row → motive (i :: row))
    (row : List Item) : motive row := by
  -- rows are lists of items that hold rows, so there is an induction within another one
  have along (row : List Item) (each : ∀ i ∈ row, ∀ items, i = .compound items → motive items) :
      motive row := by
    induction row with
    | nil => exact nil
    | cons i row ih =>
        have behind : motive row := ih fun j mem => each j (by simp [mem])
        cases i with
        | compound items => exact compound items row (each _ (by simp) items rfl) behind
        | _ => exact plain _ row nofun behind
  have within (i : Item) : ∀ items, i = .compound items → motive items := by
    induction i using ind with
    | compound items each =>
        rintro _ ⟨⟩
        exact along items each
    | _ => exact nofun
  exact along row fun i _ => within i

lemma not_standsIn_nil : ¬StandsIn x [] := by
  rintro (mem | ⟨mem, -⟩) <;> cases mem

lemma standsIn_cons_compound :
    StandsIn x (compound items :: row) ↔
      x = compound items ∨ StandsIn x items ∨ StandsIn x row := by
  constructor
  · rintro (mem | ⟨mem, inside⟩) <;> obtain same | mem := List.mem_cons.mp mem
    · exact .inl same
    · exact .inr (.inr (.member mem))
    · cases same
      exact .inr (.inl inside)
    · exact .inr (.inr (.within mem inside))
  · rintro (rfl | inside | mem | ⟨mem, inside⟩)
    · exact .member List.mem_cons_self
    · exact .within List.mem_cons_self inside
    · exact .member (List.mem_cons_of_mem _ mem)
    · exact .within (List.mem_cons_of_mem _ mem) inside

lemma standsIn_cons_plain (plain : ∀ items, i ≠ compound items) :
    StandsIn x (i :: row) ↔ x = i ∨ StandsIn x row := by
  constructor
  · rintro (mem | ⟨mem, inside⟩) <;> obtain same | mem := List.mem_cons.mp mem
    · exact .inl same
    · exact .inr (.member mem)
    · exact absurd same.symm (plain _)
    · exact .inr (.within mem inside)
  · rintro (rfl | mem | ⟨mem, inside⟩)
    · exact .member List.mem_cons_self
    · exact .member (List.mem_cons_of_mem _ mem)
    · exact .within (List.mem_cons_of_mem _ mem) inside

/-- What stands in a row of trees is a tree. -/
lemma isTree_of_standsIn (h : StandsIn x row) (trees : areTrees row = true) : x.isTree = true := by
  induction h with
  | member mem => exact isTree_of_mem trees mem
  | within mem _ ih =>
      have tree := isTree_of_mem trees mem
      rw [isTree] at tree
      exact ih tree

/-! ### What components require -/

lemma not_required_nil : ¬Required f [] part :=
  fun ⟨_, stands, _⟩ => not_standsIn_nil stands

lemma required_cons_compound (leaf : ∀ c items, f c ≠ compound items) :
    Required f (compound items :: row) part ↔
      Required f items part ∨ Required f row part := by
  simp only [Required, standsIn_cons_compound, leaf, false_or, or_and_right, exists_or]

lemma required_cons_plain (plain : ∀ items, i ≠ compound items) :
    Required f (i :: row) part ↔
      (∃ c, f c = i ∧ c.kind.requires = part) ∨ Required f row part := by
  simp only [Required, standsIn_cons_plain plain, or_and_right, exists_or]

lemma has_single {c : Component} :
    (Capabilities.single c.kind.requires).has part = true ↔ c.kind.requires = part := by
  cases c.kind.requires <;> cases part <;> decide

/-- A row needs the parts that wrapped components in it require. -/
lemma has_capabilitiesOf_iff_required (row : List Item) (part : Capability) :
    (capabilitiesOf row).has part = true ↔ Required component row part := by
  have nothing : ({} : Capabilities).has part = false := by cases part <;> rfl
  induction row using row_ind with
  | nil => simp [capabilitiesOf, nothing, not_required_nil]
  | compound items row inside behind =>
      simp only [capabilitiesOf, capabilities, Capabilities.has_union, Bool.or_eq_true, inside,
        behind]
      rw [required_cons_compound (f := component) (by rintro c items ⟨⟩)]
  | plain i row plain behind =>
      simp only [capabilitiesOf, Capabilities.has_union, Bool.or_eq_true, behind]
      rw [required_cons_plain plain]
      cases i with
      | component c => simp [capabilities, has_single]
      | compound items => exact absurd rfl (plain items)
      | _ => simp [capabilities, nothing]

/-- Leaves require the parts that components require, wrapped or not. -/
lemma any_leavesOf_iff_required (row : List Item) (part : Capability) :
    ((leavesOf row).any fun l => l.capabilities.has part) = true ↔
      Required component row part ∨ Required bare row part := by
  have nothing : ({} : Capabilities).has part = false := by cases part <;> rfl
  induction row using row_ind with
  | nil => simp [leavesOf, not_required_nil]
  -- a component stands in the compound or behind it, wrapped in either case or not
  | compound items row inside behind =>
      simp only [leavesOf, leaves, List.any_append, Bool.or_eq_true, inside, behind]
      rw [required_cons_compound (f := component) (by rintro c items ⟨⟩),
        required_cons_compound (f := bare) (by rintro c items ⟨⟩), or_or_or_comm]
  | plain i row plain behind =>
      simp only [leavesOf, List.any_append, Bool.or_eq_true, behind]
      rw [required_cons_plain plain, required_cons_plain plain, or_or_or_comm]
      cases i with
      | component c | bare c => simp [leaves, Leaf.capabilities, has_single]
      | literal t => simp [leaves, Leaf.capabilities, nothing]
      | compound items => exact absurd rfl (plain items)
      | series sort items => simp [leaves]
      | stray v => simp [leaves]

/-! ### Equal rows -/

/-- Equal rows have the same leaves, whether or not their components are wrapped. -/
lemma leavesOf_eq_of_same (first : areReadable row = true) (second : areReadable other = true)
    (same : sameAll row other = true) : leavesOf row = leavesOf other := by
  induction row using row_ind generalizing other with
  | nil =>
      cases other with
      | nil => rfl
      | cons j other => cases same
  | compound items row inside behind =>
      cases other with
      | nil => cases same
      | cons j other =>
          rw [areReadable, Bool.and_eq_true] at first second
          obtain ⟨head, tail⟩ := Bool.and_eq_true_iff.mp same
          rw [leavesOf, leavesOf, behind first.2 second.2 tail]
          cases j with
          | compound others => rw [leaves, leaves, inside first.1 second.1 head]
          | series sort others => cases second.1
          | _ => cases head
  -- a component equals its item, and both have the same leaf
  | plain i row plain behind =>
      cases other with
      | nil => cases same
      | cons j other =>
          rw [areReadable, Bool.and_eq_true] at first second
          obtain ⟨head, tail⟩ := Bool.and_eq_true_iff.mp same
          rw [leavesOf, leavesOf, behind first.2 second.2 tail]
          cases i with
          | literal t =>
              cases j with
              | literal u => rw [of_decide_eq_true head]
              | _ => cases head
          | component c | bare c =>
              cases j with
              | component e | bare e =>
                  obtain rfl := of_decide_eq_true head
                  rfl
              | _ => cases head
          | compound items => exact absurd rfl (plain items)
          | series sort items => cases first.1
          | stray v => cases first.1

/-- In equal rows components require the same, wrapped or not. -/
lemma required_iff_of_same (first : areReadable row = true) (second : areReadable other = true)
    (same : sameAll row other = true) (part : Capability) :
    Required component row part ∨ Required bare row part ↔
      Required component other part ∨ Required bare other part := by
  rw [← any_leavesOf_iff_required, leavesOf_eq_of_same first second same,
    any_leavesOf_iff_required]

/-- Rows need the same when wrapped components in them require the same. -/
lemma capabilitiesOf_eq_iff :
    capabilitiesOf row = capabilitiesOf other ↔
      ∀ part, Required component row part ↔ Required component other part := by
  simp only [Capabilities.eq_iff_has, has_capabilitiesOf_iff_required]

/-- What components require that are not wrapped is required by wrapped ones of the row as well. -/
def Covered (row : List Item) : Prop :=
  ∀ part, Required bare row part → Required component row part

/-- A row of literals, components and compounds that is covered, and so is every compound in it. -/
structure CoveredThroughout (row : List Item) : Prop where
  readable : areReadable row = true
  covered : Covered row
  inner : ∀ items, StandsIn (compound items) row → Covered items

/-- Equal rows that are covered need the same. -/
lemma capabilitiesOf_eq_of_same (first : areReadable row = true)
    (second : areReadable other = true) (same : sameAll row other = true)
    (covered : Covered row) (coveredToo : Covered other) :
    capabilitiesOf row = capabilitiesOf other := by
  refine capabilitiesOf_eq_iff.mpr fun part => ?_
  calc Required component row part
      ↔ Required component row part ∨ Required bare row part :=
        (or_iff_left_of_imp (covered part)).symm
    _ ↔ Required component other part ∨ Required bare other part :=
        required_iff_of_same first second same part
    _ ↔ Required component other part := or_iff_left_of_imp (coveredToo part)

/-- Rows that are covered throughout may be remembered under one another. -/
lemma coherent_coveredThroughout : Coherent CoveredThroughout where
  within h mem := by
    have readable := isReadable_of_mem h.readable mem
    rw [isReadable] at readable
    exact ⟨readable, h.inner _ (.member mem),
      fun items inside => h.inner items (.within mem inside)⟩
  needs_eq h k same := capabilitiesOf_eq_of_same h.readable k.readable same h.covered k.covered

/-- In rows of trees all components are wrapped. -/
lemma coveredThroughout_of_areTrees (trees : areTrees row = true) : CoveredThroughout row := by
  have covered {row : List Item} (trees : areTrees row = true) : Covered row := by
    rintro part ⟨c, stands, -⟩
    cases isTree_of_standsIn stands trees
  refine ⟨areReadable_of_areTrees trees, covered trees, fun items inside => covered ?_⟩
  have tree := isTree_of_standsIn inside trees
  rwa [isTree] at tree

/-- **Equal rows need the same, except for what is not wrapped.**  In equal rows components require
the same, wrapped or not, and each row needs what its wrapped components require.  So they need the
same unless one has only components that are not wrapped where the other has a wrapped one to
require a part; and they do if both are covered.  Where that holds of every compound as well, in
particular where all components are wrapped, what is remembered of such rows does not show: each is
given what it needs, whichever of the equal rows was met first. -/
theorem needs_of_equal_rows :
    (∀ x y : List Item, areReadable x = true → areReadable y = true → sameAll x y = true →
      (∀ part, Required component x part ∨ Required bare x part ↔
        Required component y part ∨ Required bare y part) ∧
      (capabilitiesOf x = capabilitiesOf y ↔ ∀ part,
        ¬(Required component x part ∧ Required bare y part ∧ ¬Required component y part) ∧
        ¬(Required component y part ∧ Required bare x part ∧ ¬Required component x part)) ∧
      (Covered x → Covered y → capabilitiesOf x = capabilitiesOf y)) ∧
    (∀ row part, (capabilitiesOf row).has part = true ↔ Required component row part) ∧
    (∀ rows : List (List Item), (∀ row ∈ rows, CoveredThroughout row) →
      ∀ x y, CoveredThroughout x → CoveredThroughout y → sameAll x y = true →
        (gather (Memory.after rows) (compound x)).1 = capabilitiesOf x ∧
        (gather (Memory.after rows) (compound y)).1 = capabilitiesOf x) ∧
    ∀ row, areTrees row = true → CoveredThroughout row := by
  refine ⟨?_, has_capabilitiesOf_iff_required, ?_, fun row => coveredThroughout_of_areTrees⟩
  · intro x y first second same
    have required := required_iff_of_same first second same
    refine ⟨required, ?_, capabilitiesOf_eq_of_same first second same⟩
    refine capabilitiesOf_eq_iff.trans (forall_congr' fun part => ?_)
    -- equal rows read the same parts, but they may differ in which of them are wrapped
    have either := required part
    tauto
  · intro rows met x y hx hy same
    have equal := capabilitiesOf_eq_of_same hx.readable hy.readable same hx.covered hy.covered
    refine ⟨needs_after_among coherent_coveredThroughout met hx, ?_⟩
    rw [needs_after_among coherent_coveredThroughout met hy, equal]

/-- A day that is not wrapped, in front of a compound with one that is, and the same row of trees.
Both need the date, also when the other row was met before. -/
theorem needs_of_equal_rows_mixed :
    let day : Component := .day .zero
    let x : List Item := [bare day, compound [literal [45], component day]]
    let y : List Item := [component day, compound [literal [45], component day]]
    CoveredThroughout x ∧ CoveredThroughout y ∧ sameAll x y = true ∧
      capabilitiesOf x = capabilitiesOf y ∧
      (gather (Memory.after [y]) (compound x)).1 = capabilitiesOf x ∧
      (capabilitiesOf x).has .date = true := by
  intro day x y
  obtain ⟨equal, needs, memory, trees⟩ := needs_of_equal_rows
  have inside : areTrees [literal [45], component day] = true := rfl
  have hy : CoveredThroughout y := trees y rfl
  have wrapped : StandsIn (component day) x := by
    simp [x, standsIn_cons_compound, standsIn_cons_plain]
  -- the bare day needs nothing itself, and the wrapped one in the compound covers it
  have hx : CoveredThroughout x := by
    refine ⟨rfl, ?_, ?_⟩
    · rintro part ⟨c, stands, rfl⟩
      obtain rfl : c = day := by
        simpa [x, standsIn_cons_compound, standsIn_cons_plain, not_standsIn_nil] using stands
      exact ⟨day, wrapped, rfl⟩
    · intro items stands
      obtain rfl : items = [literal [45], component day] := by
        simpa [x, standsIn_cons_compound, standsIn_cons_plain, not_standsIn_nil] using stands
      exact (trees _ inside).covered
  have same : sameAll x y = true := rfl
  refine ⟨hx, hy, same, ?_, ?_, (needs x .date).mpr ⟨day, wrapped, rfl⟩⟩
  · exact (equal x y hx.readable hy.readable same).2.2 hx.covered hy.covered
  · refine (memory [y] ?_ x y hx hy same).1
    rintro row mem
    obtain rfl := List.mem_singleton.mp mem
    exact hy

/-- A compound of a day that is not wrapped equals that of the day as an item, and needs nothing.
Of the two, the one that is met first answers for the other one as well. -/
theorem needs_of_bare_row :
    let unwrapped : List Item := [compound [bare (.day .zero)]]
    let wrapped : List Item := [compound [component (.day .zero)]]
    areReadable unwrapped = true ∧ areReadable wrapped = true ∧
      sameAll unwrapped wrapped = true ∧ capabilitiesOf unwrapped ≠ capabilitiesOf wrapped ∧
      needs (unwrapped ++ wrapped) = .ok {} ∧ needs (wrapped ++ unwrapped) = .ok { date := true } :=
  ⟨rfl, rfl, rfl, by decide, rfl, rfl⟩

end Item

end CalendarText
