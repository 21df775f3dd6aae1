/-
Failures wrapped in layers, again and again.

Whatever the order in which layers are put around a cause, each of them keeps one of three things:
what it is given, that within another layer, or what it keeps of the content of a layer that it
absorbs.  So the layers of a failure fit into each other, there are at most two of them, and the
cause is beneath them.

* `Failure.Built`: the failures that can be built from a cause;
* `Failure.chain`: a failure and all that lies beneath its layers;
* `Layer.Keeps`, `Failure.wrap_eq_ok_iff`: what a layer keeps of a failure;
* `Failure.Fits`, `Failure.Regular`, `Failure.built_iff_regular`: a failure can be built exactly
  when each of its layers stores what is directly beneath it;
* `Failure.Regular.exists_keeps_any`: the most general layer keeps something of each of these.
-/
import CalendarText.Failure.Basic
import Mathlib.Data.List.Basic

namespace CalendarText

/-- A cause that stands for itself.  The general cause is none, since all others are of its sort,
and neither is an error that does not arise here. -/
def Cause.IsLeaf (c : Cause) : Prop :=
  c.sort ≠ .general ∧ c.sort ≠ .foreign

instance (c : Cause) : Decidable c.IsLeaf :=
  inferInstanceAs (Decidable (_ ∧ _))

namespace Failure

/-- The failures that can be built: a cause by itself, and what a layer makes of a failure. -/
inductive Built : Failure → Prop
  | leaf {c : Cause} : c.IsLeaf → Built (bare c)
  | wrap {l : Layer} {f g : Failure} : Built f → f.wrap l = .ok g → Built g

/-- The failure and all that lies beneath its layers, from the outside. -/
def chain : Failure → List Failure
  | bare c => [bare c]
  | within l inner => within l inner :: inner.chain

/-- The chain of a failure ends with its cause. -/
lemma getLast?_chain (f : Failure) : f.chain.getLast? = some (bare f.cause) := by
  induction f with
  | bare c => rfl
  | within l inner ih => rw [chain, List.getLast?_cons, ih, Option.getD_some, cause]

/-- All that lies beneath the layers of a failure has its cause. -/
lemma cause_of_mem_chain {f g : Failure} (mem : g ∈ f.chain) : g.cause = f.cause := by
  induction f with
  | bare c =>
      obtain rfl := List.mem_singleton.mp mem
      rfl
  | within l inner ih =>
      obtain rfl | mem := List.mem_cons.mp mem
      · rfl
      · exact ih mem

end Failure

/-- Three sorts have others beneath them. -/
lemma CauseSort.isA_iff_eq {s t : CauseSort} (sole : t ∉ [general, description, mismatch]) :
    s.isA t = true ↔ s = t := by
  cases t <;> simp [isA] at sole ⊢

namespace Failure

/-- Nothing further is told beneath a layer that holds a trailing rest, beneath the resolving of
fields that say too little or contradict each other, and beneath the formatting of what has no
text. -/
lemma hasDeeperCause_eq_false_iff {l : Layer} {inner : Failure} :
    (within l inner).hasDeeperCause = false ↔
      ∃ c, inner = bare c ∧ (l, c.sort) ∈ [(Layer.parsing, CauseSort.trailing),
        (.any, .trailing), (.resolving, .insufficient), (.resolving, .inconsistent),
        (.formatting, .insufficientType), (.formatting, .unformattable)] := by
  rw [hasDeeperCause, Bool.not_eq_false', List.any_eq_true]
  cases inner with
  | within m inner => cases l <;> simp [Layer.complete, isA]
  | bare c =>
      -- each complete sort has no other beneath it, so being of that sort is being that sort
      have sole : ∀ s ∈ l.complete, s ∉ [CauseSort.general, .description, .mismatch] := by
        cases l <;> decide
      have held : (∃ s ∈ l.complete, (bare c).isA (.cause s) = true) ↔ c.sort ∈ l.complete := by
        constructor
        · rintro ⟨s, mem, sort⟩
          rwa [(CauseSort.isA_iff_eq (sole s mem)).mp sort]
        · intro mem
          exact ⟨_, mem, CauseSort.isA_refl _⟩
      rw [held]
      cases l <;> simp [Layer.complete]

end Failure

/-! ### What a layer keeps -/

open Failure (bare within)

namespace Layer

/-- What a layer keeps of a failure. -/
inductive Keeps (l : Layer) : Failure → Failure → Prop
  /-- what it stores, it keeps as it is -/
  | stored {f : Failure} : l.takes f = true → Keeps l f f
  /-- it puts another layer in between -/
  | promoted {f : Failure} {s : CauseSort} {m : Layer} : (s, m) ∈ l.inserts →
    f.isA (.cause s) = true → Keeps l f (within m f)
  /-- of a layer that it absorbs, it keeps what it keeps of the content -/
  | flattened {m : Layer} {f kept : Failure} : m ∈ l.absorbs → Keeps l f kept →
    Keeps l (within m f) kept

/-- The layers from the inside to the outside. -/
def rank : Layer → Nat
  | resolving | formatting => 1
  | parsing | any => 2

/-- Whether a layer stores the causes of a sort. -/
def takesCause (l : Layer) (s : CauseSort) : Bool :=
  l.stores.any fun t =>
    match t with
    | .cause t => s.isA t
    | .layer _ => false

lemma takes_bare (l : Layer) (c : Cause) : l.takes (bare c) = l.takesCause c.sort := by
  rw [takes, takesCause]
  congr 1
  funext t
  cases t <;> rfl

variable {l m : Layer} {f kept : Failure} {s : CauseSort}

/-- A layer is stored only further to the outside. -/
lemma rank_lt_of_takes (takes : l.takes (within m f) = true) : m.rank < l.rank := by
  cases l <;> cases m <;> first | decide | simp [Layer.takes, stores, Failure.isA] at takes

/-- What is absorbed is not stored. -/
lemma takes_of_absorbs (absorbed : m ∈ l.absorbs) (f : Failure) :
    l.takes (within m f) = false := by
  cases l <;> cases m <;> first | rfl | simp [absorbs] at absorbed

/-- A layer is put in between only for causes of exactly one sort. -/
lemma eq_bare_of_inserts (inserted : (s, m) ∈ l.inserts) (sort : f.isA (.cause s) = true) :
    ∃ c, f = bare c ∧ c.sort = s := by
  cases f with
  | within k inner =>
      obtain rfl : s = .general := of_decide_eq_true sort
      cases l <;> simp [inserts] at inserted
  | bare c =>
      have sole : ∀ x ∈ l.inserts, x.1 ∉ [CauseSort.general, .description, .mismatch] := by
        cases l <;> decide
      exact ⟨c, rfl, (CauseSort.isA_iff_eq (sole _ inserted)).mp sort⟩

/-- A layer that is put in between stores what it is put around, and is stored itself.  Without it
the failure would not be stored. -/
lemma takes_of_inserts (inserted : (s, m) ∈ l.inserts) (sort : f.isA (.cause s) = true) :
    m.takes f = true ∧ l.takes (within m f) = true ∧ l.takes f = false := by
  have table : ∀ x ∈ l.inserts, x.2.takesCause x.1 = true ∧ FailureSort.layer x.2 ∈ l.stores ∧
      l.takesCause x.1 = false := by
    cases l <;> decide
  obtain ⟨c, rfl, rfl⟩ := eq_bare_of_inserts inserted sort
  obtain ⟨inner, outer, missing⟩ := table _ inserted
  rw [takes_bare, takes_bare]
  exact ⟨inner, List.any_eq_true.mpr ⟨_, outer, decide_eq_true rfl⟩, missing⟩

/-- For each sort there is at most one layer that is put in between. -/
lemma find?_inserts_eq_some_iff :
    (l.inserts.find? fun (s, _) => f.isA (.cause s)) = some (s, m) ↔
      (s, m) ∈ l.inserts ∧ f.isA (.cause s) = true := by
  constructor
  · intro found
    exact ⟨List.mem_of_find?_eq_some found, by simpa using List.find?_some found⟩
  · rintro ⟨inserted, sort⟩
    have exists_found : (l.inserts.find? fun (s, _) => f.isA (.cause s)).isSome = true :=
      List.find?_isSome.mpr ⟨_, inserted, sort⟩
    obtain ⟨⟨t, k⟩, found⟩ := Option.isSome_iff_exists.mp exists_found
    have other : f.isA (.cause t) = true := by simpa using List.find?_some found
    obtain ⟨c, rfl, rfl⟩ := eq_bare_of_inserts inserted sort
    obtain ⟨d, same, rfl⟩ := eq_bare_of_inserts (List.mem_of_find?_eq_some found) other
    cases same
    -- the entry that is found first is the one meant, as no sort is entered twice
    have unique : ∀ x ∈ l.inserts, ∀ y ∈ l.inserts, x.1 = y.1 → x = y := by
      cases l <;> decide
    rw [found, unique _ inserted _ (List.mem_of_find?_eq_some found) rfl]

/-- What a layer keeps is never within a layer that it absorbs. -/
lemma Keeps.ne_within (keeps : l.Keeps f kept) (absorbed : m ∈ l.absorbs) (g : Failure) :
    kept ≠ within m g := by
  induction keeps with
  | stored takes =>
      rintro rfl
      rw [takes_of_absorbs absorbed] at takes
      cases takes
  | promoted inserted sort =>
      intro same
      have takes := (takes_of_inserts inserted sort).2.1
      rw [same, takes_of_absorbs absorbed] at takes
      cases takes
  | flattened _ _ ih => exact ih

/-- What a layer keeps, it stores. -/
lemma Keeps.takes (keeps : l.Keeps f kept) : l.takes kept = true := by
  induction keeps with
  | stored takes => exact takes
  | promoted inserted sort => exact (takes_of_inserts inserted sort).2.1
  | flattened _ _ ih => exact ih

/-- Beneath at most one layer that is put in between, a layer keeps the end of the chain that it is
given: nothing in it is made anew. -/
lemma Keeps.exists_chain (keeps : l.Keeps f kept) :
    ∃ added same, kept.chain = added ++ same ∧ added.length ≤ 1 ∧ same <:+ f.chain ∧
      same ≠ [] := by
  have nonempty (f : Failure) : f.chain ≠ [] := by cases f <;> exact List.cons_ne_nil _ _
  induction keeps with
  | @stored f _ => exact ⟨[], f.chain, rfl, Nat.zero_le _, List.suffix_refl _, nonempty f⟩
  | @promoted f s m _ _ =>
      exact ⟨[within m f], f.chain, rfl, Nat.le_refl _, List.suffix_refl _, nonempty f⟩
  | flattened _ _ ih =>
      obtain ⟨added, same, chain, short, suffix, some⟩ := ih
      exact ⟨added, same, chain, short, suffix.trans (List.suffix_cons _ _), some⟩

end Layer

/-! ### What can be built -/

namespace Failure

variable {l m : Layer} {f g kept : Failure}

/-- Taking off the layers that a layer absorbs changes nothing in what it keeps. -/
lemma keeps_strip_iff : l.Keeps (strip l f) kept ↔ l.Keeps f kept := by
  induction f with
  | bare c => rfl
  | within m inner ih =>
      rw [strip]
      split
      · rename_i absorbed
        rw [ih]
        refine ⟨.flattened absorbed, fun keeps => ?_⟩
        -- an absorbed layer is neither stored nor promoted, so it can only be flattened
        cases keeps with
        | stored takes =>
            rw [Layer.takes_of_absorbs absorbed] at takes
            cases takes
        | promoted inserted sort =>
            obtain ⟨c, ⟨⟩, -⟩ := Layer.eq_bare_of_inserts inserted sort
        | flattened _ keeps => exact keeps
      · rfl

/-- A layer is put around what it keeps, and it is refused when it keeps nothing. -/
lemma wrap_eq_ok_iff : f.wrap l = .ok g ↔ ∃ kept, l.Keeps f kept ∧ g = within l kept := by
  simp only [← keeps_strip_iff (f := f)]
  -- once the absorbed layers are off, only what is stored or promoted is left to tell apart
  have outermost (m : Layer) (inner : Failure) (h : strip l f = within m inner) := strip_eq_within h
  rw [wrap]
  dsimp only
  generalize strip l f = f at outermost
  constructor
  · intro wrapped
    split at wrapped
    · rename_i takes
      cases wrapped
      exact ⟨f, .stored takes, rfl⟩
    · split at wrapped
      · rename_i s m found
        cases wrapped
        obtain ⟨inserted, sort⟩ := Layer.find?_inserts_eq_some_iff.mp found
        exact ⟨within m f, .promoted inserted sort, rfl⟩
      · cases wrapped
  · rintro ⟨kept, keeps, rfl⟩
    cases keeps with
    | stored takes => rw [if_pos takes]
    | promoted inserted sort =>
        rw [(Layer.takes_of_inserts inserted sort).2.2, if_neg Bool.false_ne_true,
          Layer.find?_inserts_eq_some_iff.mpr ⟨inserted, sort⟩]
    | flattened absorbed _ => exact absurd absorbed (outermost _ _ rfl)

/-- A layer refuses exactly the failures of which it keeps nothing. -/
lemma exists_misfit_iff : (∃ misfit, f.wrap l = .error misfit) ↔ ∀ kept, ¬l.Keeps f kept := by
  constructor
  · rintro ⟨misfit, refused⟩ kept keeps
    rw [wrap_eq_ok_iff.mpr ⟨kept, keeps, rfl⟩] at refused
    cases refused
  · intro nothing
    cases wrapped : f.wrap l with
    | error misfit => exact ⟨misfit, rfl⟩
    | ok g =>
        obtain ⟨kept, keeps, -⟩ := wrap_eq_ok_iff.mp wrapped
        exact absurd keeps (nothing kept)

/-- Every layer stores what is directly beneath it. -/
def Fits : Failure → Prop
  | bare _ => True
  | within l inner => l.takes inner = true ∧ inner.Fits

/-- What a layer keeps of layers that fit into each other fits as well. -/
lemma Fits.keeps (fits : f.Fits) (keeps : l.Keeps f kept) : kept.Fits := by
  induction keeps with
  | stored _ => exact fits
  | promoted inserted sort => exact ⟨(Layer.takes_of_inserts inserted sort).1, fits⟩
  | flattened _ _ ih => exact ih fits.2

/-- Every layer stores what is directly beneath it, and the cause stands for itself. -/
def Regular : Failure → Prop
  | bare c => c.IsLeaf
  | within l inner => l.takes inner = true ∧ inner.Regular

lemma regular_iff : f.Regular ↔ f.Fits ∧ f.cause.IsLeaf := by
  induction f with
  | bare c => exact (iff_of_eq (true_and _)).symm
  | within l inner ih => rw [Regular, Fits, cause, ih, and_assoc]

lemma Regular.keeps (regular : f.Regular) (keeps : l.Keeps f kept) : kept.Regular := by
  obtain ⟨fits, isLeaf⟩ := regular_iff.mp regular
  have same : (within l kept).cause = f.cause := cause_wrap (wrap_eq_ok_iff.mpr ⟨kept, keeps, rfl⟩)
  exact regular_iff.mpr ⟨fits.keeps keeps, same.symm ▸ isLeaf⟩

/-- The failures that can be built are those in which every layer stores what is beneath it. -/
lemma built_iff_regular : f.Built ↔ f.Regular := by
  constructor
  · intro built
    induction built with
    | leaf isLeaf => exact isLeaf
    | wrap _ wrapped ih =>
        obtain ⟨kept, keeps, rfl⟩ := wrap_eq_ok_iff.mp wrapped
        exact ⟨keeps.takes, ih.keeps keeps⟩
  · intro regular
    induction f with
    | bare c => exact .leaf regular
    | within l inner ih =>
        exact .wrap (ih regular.2) (wrap_eq_ok_iff.mpr ⟨inner, .stored regular.1, rfl⟩)

/-- Of layers that store what is beneath them, only so many fit into each other. -/
lemma Regular.depth_le (regular : (within l f).Regular) : (within l f).depth ≤ l.rank := by
  induction f generalizing l with
  | bare c => cases l <;> simp [depth, Layer.rank]
  | within m inner ih =>
      have inside : (within m inner).depth ≤ m.rank := ih regular.2
      have outside := Layer.rank_lt_of_takes regular.1
      rw [depth]
      omega

/-- The most general layer keeps something of every failure that can be built. -/
lemma Regular.exists_keeps_any (regular : f.Regular) : ∃ kept, Layer.any.Keeps f kept := by
  induction f with
  | bare c =>
      -- a cause that stands for itself is stored or has an entry, sort by sort
      have table : ∀ s ∈ CauseSort.all, s ≠ .general ∧ s ≠ .foreign →
          Layer.any.takesCause s = true ∨ ∃ x ∈ Layer.any.inserts, x.1 = s := by
        decide
      have mem : c.sort ∈ CauseSort.all := by
        cases c.sort <;> decide
      obtain takes | ⟨⟨s, m⟩, inserted, same⟩ := table _ mem regular
      · exact ⟨bare c, .stored (by rwa [Layer.takes_bare])⟩
      · refine ⟨within m (bare c), .promoted inserted ?_⟩
        rw [isA, ← same]
        exact CauseSort.isA_refl s
  | within l inner ih =>
      obtain ⟨kept, keeps⟩ := ih regular.2
      cases l with
      | resolving | formatting => exact ⟨_, .stored rfl⟩
      -- an outer layer is absorbed, and what is kept of its content is kept of it
      | parsing | any => exact ⟨kept, .flattened (by decide) keeps⟩

end Failure

end CalendarText
