/-
Failures as objects, wrapped in layers.

A failure that is wrapped once more is to hold what was there before, not merely something that
looks like it.  So each layer and each cause is an object here, with a mark that no other object
has.  Wrapping makes new objects around old ones, and does to objects what `Failure.wrap` does to
failures.

* `Failure.Object`, `Object.wrap`, `Object.failure_wrap`: objects, and how they are wrapped;
* `Object.base`, `Object.base_of_wrap_eq_ok`: wrapping keeps the object of the cause;
* `Object.Made`, `Made.fits`, `Made.marked`: the objects that can be built, that their layers fit
  into each other, and that their marks are different;
* `Failure.wrap_loses_nothing`: every failure that was built can be wrapped once more, in the most
  general layer, and nothing of it is lost.
-/
import CalendarText.Proofs.Failure.Wrapping
import CalendarText.Proofs.Outcome

namespace CalendarText

namespace Failure

/-! ### Objects -/

/-- A failure as an object.  Its mark tells it from all others, and so do the marks of the objects
within its layers. -/
inductive Object where
  | bare (mark : Nat) (c : Cause)
  | within (mark : Nat) (layer : Layer) (inner : Object)
  deriving DecidableEq, Repr

namespace Object

/-- What the object is. -/
def failure : Object → Failure
  | bare _ c => .bare c
  | within _ l inner => .within l inner.failure

def mark : Object → Nat
  | bare m _ => m
  | within m _ _ => m

/-- The object and all that lie beneath its layers, from the outside. -/
def chain : Object → List Object
  | bare m c => [bare m c]
  | within m l inner => within m l inner :: inner.chain

/-- The object of the cause. -/
def base : Object → Object
  | bare m c => bare m c
  | within _ _ inner => inner.base

/-- The object without the outer layers that `l` absorbs. -/
def strip (l : Layer) : Object → Object
  | bare m c => bare m c
  | within m k inner => if k ∈ l.absorbs then strip l inner else within m k inner

/-- The object within a layer, which is a new object with a new mark.  A layer that is put in
between is another one. -/
def wrap (fresh : Nat) (l : Layer) (x : Object) : Except Misfit Object :=
  let x := strip l x
  if l.takes x.failure then .ok (within fresh l x)
  else
    match l.inserts.find? fun (s, _) => x.failure.isA (.cause s) with
    | some (_, m) => .ok (within (fresh + 1) l (within fresh m x))
    | none => .error ⟨l, x.failure.sort⟩

variable {fresh n : Nat} {l : Layer} {x y : Object}

/-! ### Objects wrapped -/

lemma failure_strip (l : Layer) (x : Object) : (x.strip l).failure = x.failure.strip l := by
  induction x with
  | bare m c => rfl
  | within m k inner ih =>
      rw [strip, failure, Failure.strip]
      split
      · exact ih
      · rfl

/-- Objects are wrapped as failures are. -/
theorem failure_wrap (fresh : Nat) (l : Layer) (x : Object) :
    (x.wrap fresh l).map failure = x.failure.wrap l := by
  have stripped := failure_strip l x
  by_cases taken : l.takes (x.failure.strip l)
  · rw [← stripped] at taken
    rw [wrap, Failure.wrap, ← stripped, if_pos taken, if_pos taken]
    rfl
  · rw [← stripped] at taken
    rw [wrap, Failure.wrap, ← stripped, if_neg taken, if_neg taken]
    cases l.inserts.find? fun (s, _) => (x.strip l).failure.isA (.cause s) with
    | none => rfl
    | some entry => rfl

lemma failure_of_wrap_eq_ok (wrapped : x.wrap fresh l = .ok y) :
    x.failure.wrap l = .ok y.failure := by
  rw [← failure_wrap fresh, wrapped]
  rfl

/-- Around what a layer does not absorb there is one new object or two. -/
lemma eq_of_wrap_eq_ok (wrapped : x.wrap fresh l = .ok y) :
    y = within fresh l (x.strip l) ∨
      ∃ m, y = within (fresh + 1) l (within fresh m (x.strip l)) := by
  rw [wrap] at wrapped
  dsimp only at wrapped
  split at wrapped
  · cases wrapped
    exact .inl rfl
  · split at wrapped
    · cases wrapped
      exact .inr ⟨_, rfl⟩
    · cases wrapped

/-- What a layer stores, it stores as the same object. -/
lemma wrap_of_takes (takes : l.takes x.failure = true) :
    x.wrap fresh l = .ok (within fresh l x) := by
  -- what is stored is not absorbed, so there is nothing to take off
  have same : x.strip l = x := by
    cases x with
    | bare m c => rfl
    | within m k inner =>
        refine if_neg fun absorbed => ?_
        rw [failure, Layer.takes_of_absorbs absorbed] at takes
        cases takes
  rw [wrap]
  dsimp only
  rw [same, if_pos takes]

lemma chain_strip_suffix (l : Layer) (x : Object) : (x.strip l).chain <:+ x.chain := by
  induction x with
  | bare m c => exact List.suffix_refl _
  | within m k inner ih =>
      rw [strip]
      split
      · exact ih.trans (List.suffix_cons _ _)
      · exact List.suffix_refl _

lemma base_strip (l : Layer) (x : Object) : (x.strip l).base = x.base := by
  induction x with
  | bare m c => rfl
  | within m k inner ih =>
      rw [strip]
      split
      · exact ih
      · rfl

/-- Wrapping keeps the object of the cause. -/
lemma base_of_wrap_eq_ok (wrapped : x.wrap fresh l = .ok y) : y.base = x.base := by
  obtain rfl | ⟨m, rfl⟩ := eq_of_wrap_eq_ok wrapped
  · exact base_strip l x
  · exact base_strip l x

/-- The chain of an object ends with the object of the cause. -/
lemma getLast?_chain (x : Object) : x.chain.getLast? = some x.base := by
  induction x with
  | bare m c => rfl
  | within m l inner ih => rw [chain, List.getLast?_cons, ih, Option.getD_some, base]

/-! ### What can be built -/

/-- The objects that can be built when the marks below `n` have been given out, possibly to others
as well: a cause by itself, and what a layer makes of an object. -/
inductive Made : Nat → Object → Prop
  | cause {n mark : Nat} {c : Cause} : mark < n → Made n (bare mark c)
  | wrap {n later : Nat} {l : Layer} {x y : Object} : Made n x → x.wrap n l = .ok y →
    n + 2 ≤ later → Made later y

/-- Of objects that can be built, the layers fit into each other. -/
lemma Made.fits (made : Made n x) : x.failure.Fits := by
  induction made with
  | cause _ => trivial
  | @wrap n _ l x y _ wrapped _ ih =>
      have made := failure_wrap n l x
      rw [wrapped] at made
      obtain ⟨kept, keeps, same⟩ := wrap_eq_ok_iff.mp made.symm
      rw [same]
      exact ⟨keeps.takes, ih.keeps keeps⟩

/-- Different objects have different marks, all of them below `n`. -/
structure Marked (n : Nat) (x : Object) : Prop where
  nodup : (x.chain.map mark).Nodup
  below : ∀ y ∈ x.chain, y.mark < n

lemma Marked.strip (marked : Marked n x) (l : Layer) : Marked n (x.strip l) := by
  have suffix := chain_strip_suffix l x
  exact ⟨marked.nodup.sublist (suffix.sublist.map mark),
    fun y mem => marked.below y (suffix.subset mem)⟩

/-- A new object around others has a mark of its own. -/
lemma Marked.within (marked : Marked n x) (l : Layer) : Marked (n + 1) (within n l x) := by
  refine ⟨List.nodup_cons.mpr ⟨fun mem => ?_, marked.nodup⟩, fun y mem => ?_⟩
  · obtain ⟨y, mem, same⟩ := List.mem_map.mp mem
    exact Nat.ne_of_lt (marked.below y mem) same
  · obtain rfl | mem := List.mem_cons.mp mem
    · exact Nat.lt_succ_self n
    · exact Nat.lt_succ_of_lt (marked.below y mem)

lemma Marked.mono {k : Nat} (marked : Marked n x) (h : n ≤ k) : Marked k x :=
  ⟨marked.nodup, fun y mem => Nat.lt_of_lt_of_le (marked.below y mem) h⟩

/-- The marks of an object and of all that lies beneath its layers are given out, each to one of
them. -/
lemma Made.marked (made : Made n x) : Marked n x := by
  induction made with
  | cause below =>
      refine ⟨List.pairwise_singleton .., fun y mem => ?_⟩
      obtain rfl := List.mem_singleton.mp mem
      exact below
  | @wrap n later l x y _ wrapped room ih =>
      have stripped := ih.strip l
      obtain rfl | ⟨m, rfl⟩ := eq_of_wrap_eq_ok wrapped
      · exact (stripped.within l).mono (by omega)
      · exact ((stripped.within m).within l).mono room

/-- Wrapping puts new objects around the end of a chain. -/
lemma Made.exists_chain (made : Made n x) (wrapped : x.wrap n l = .ok y) :
    ∃ added same, y.chain = added ++ same ∧ same <:+ x.chain ∧ same.getLast? = some x.base ∧
      ∀ z ∈ added, z ∉ x.chain := by
  have suffix := chain_strip_suffix l x
  have last : (x.strip l).chain.getLast? = some x.base := by rw [getLast?_chain, base_strip]
  -- marks from `n` on have not been given out
  have absent {z : Object} (new : n ≤ z.mark) : z ∉ x.chain := fun mem =>
    Nat.not_lt.mpr new (made.marked.below z mem)
  obtain rfl | ⟨m, rfl⟩ := eq_of_wrap_eq_ok wrapped
  · refine ⟨[within n l (x.strip l)], _, rfl, suffix, last, fun z mem => ?_⟩
    obtain rfl := List.mem_singleton.mp mem
    exact absent (Nat.le_refl n)
  · refine ⟨[within (n + 1) l (within n m (x.strip l)), within n m (x.strip l)], _, rfl, suffix,
      last, fun z mem => ?_⟩
    obtain rfl | mem := List.mem_cons.mp mem
    · exact absent (Nat.le_succ n)
    · obtain rfl := List.mem_singleton.mp mem
      exact absent (Nat.le_refl n)

/-- A failure whose cause stands for itself can be wrapped in the most general layer. -/
lemma Made.exists_wrap_any (made : Made n x) (isLeaf : x.failure.cause.IsLeaf) :
    ∃ w, x.wrap n .any = .ok w := by
  obtain ⟨kept, keeps⟩ := (regular_iff.mpr ⟨made.fits, isLeaf⟩).exists_keeps_any
  have wrapped := wrap_eq_ok_iff.mpr ⟨kept, keeps, rfl⟩
  rw [← failure_wrap n] at wrapped
  obtain ⟨w, made, -⟩ := Outcome.map_eq_ok_iff.mp wrapped
  exact ⟨w, made⟩

end Object

/-- Every failure that can be built is an object that can be built. -/
lemma Built.exists_made {f : Failure} (built : f.Built) :
    ∃ n x, Object.Made n x ∧ x.failure = f := by
  induction built with
  | @leaf c _ => exact ⟨1, .bare 0 c, .cause Nat.one_pos, rfl⟩
  | @wrap l f g _ wrapped ih =>
      obtain ⟨n, x, made, rfl⟩ := ih
      rw [← Object.failure_wrap n] at wrapped
      obtain ⟨y, wrappedObject, rfl⟩ := Outcome.map_eq_ok_iff.mp wrapped
      exact ⟨n + 2, y, made.wrap wrappedObject (Nat.le_refl _), rfl⟩

/-! ### Nothing is lost -/

/-- **Wrapping loses nothing.**  A failure that was built from a cause, however its layers were put
around each other, can be wrapped in the most general layer.  That layer holds neither itself nor
the layer of parsing, which does not hold itself either.  At most two layers further down is the
cause that was there before, at the end of a chain in which nothing is made anew, and each failure
on the way reports the sentence of that cause.  Nothing further is told beneath a layer only where
what it holds is the whole story.  A failure is refused exactly when it is neither stored, nor put
within another layer, nor taken out of layers that are absorbed.

What can be built as a failure can be built as an object, and wrapping does to objects what it does
to failures.  It puts new objects around the end of the chain that was there, so the cause at its
end is the very same object as before. -/
theorem wrap_loses_nothing :
    (∀ f : Failure, f.Built → ∃ kept, f.wrap .any = .ok (within .any kept) ∧
      (∀ g, kept ≠ within .parsing g ∧ kept ≠ within .any g) ∧
      (within .any kept).depth ≤ 2 ∧
      (∃ added same, (within .any kept).chain = added ++ same ∧ same <:+ f.chain ∧
        same.getLast? = some (bare f.cause)) ∧
      ∀ g ∈ (within .any kept).chain ++ f.chain, g.message = f.cause.message) ∧
    (∀ f kept : Failure, f.wrap .parsing = .ok (within .parsing kept) →
      ∀ g, kept ≠ within .parsing g) ∧
    (∀ (l : Layer) (kept : Failure), (within l kept).hasDeeperCause = false ↔
      ∃ c, kept = bare c ∧ (l, c.sort) ∈ [(Layer.parsing, CauseSort.trailing),
        (.any, .trailing), (.resolving, .insufficient), (.resolving, .inconsistent),
        (.formatting, .insufficientType), (.formatting, .unformattable)]) ∧
    (∀ (l : Layer) (f : Failure),
      (∃ misfit, f.wrap l = .error misfit) ↔ ∀ kept, ¬l.Keeps f kept) ∧
    (∀ f : Failure, f.Built → ∃ n x, Object.Made n x ∧ x.failure = f) ∧
    ∀ (n : Nat) (x : Object), x.Made n →
      (∀ (l : Layer) (y : Object), x.wrap n l = .ok y →
        x.failure.wrap l = .ok y.failure ∧ y.base = x.base ∧
        ∃ added same, y.chain = added ++ same ∧ same <:+ x.chain ∧
          same.getLast? = some x.base ∧ ∀ z ∈ added, z ∉ x.chain) ∧
      (x.failure.cause.IsLeaf → ∃ y, x.wrap n .any = .ok y) := by
  refine ⟨?_, ?_, fun _ _ => hasDeeperCause_eq_false_iff, fun _ _ => exists_misfit_iff,
    fun _ => Built.exists_made, fun n x made => ⟨fun l y wrapped => ?_, made.exists_wrap_any⟩⟩
  · intro f built
    have regular := built_iff_regular.mp built
    obtain ⟨kept, keeps⟩ := regular.exists_keeps_any
    have wrapped : f.wrap .any = .ok (within .any kept) := wrap_eq_ok_iff.mpr ⟨kept, keeps, rfl⟩
    have cause : (within .any kept).cause = f.cause := cause_wrap wrapped
    refine ⟨kept, wrapped, ?_, ?_, ?_, ?_⟩
    · intro g
      exact ⟨keeps.ne_within (by decide) g, keeps.ne_within (by decide) g⟩
    · exact Regular.depth_le ⟨keeps.takes, regular.keeps keeps⟩
    · -- the cause ends the old chain, and so it ends what is kept of it
      obtain ⟨added, same, chain, -, suffix, nonempty⟩ := keeps.exists_chain
      refine ⟨within .any kept :: added, same, by rw [Failure.chain, chain]; rfl, suffix, ?_⟩
      obtain ⟨before, whole⟩ := suffix
      have last := getLast?_chain f
      rwa [← whole, List.getLast?_append_of_ne_nil _ nonempty] at last
    · intro g mem
      obtain mem | mem := List.mem_append.mp mem
      · rw [message, cause_of_mem_chain mem, cause]
      · rw [message, cause_of_mem_chain mem]
  · intro f kept wrapped g
    obtain ⟨_, keeps, same⟩ := wrap_eq_ok_iff.mp wrapped
    cases same
    exact keeps.ne_within (by decide) g
  · exact ⟨Object.failure_of_wrap_eq_ok wrapped, Object.base_of_wrap_eq_ok wrapped,
      made.exists_chain wrapped⟩

/-- A weekday that contradicts a date, resolved, parsed, and wrapped twice in the most general
layer: the layer of parsing is absorbed, and the cause keeps the layer that was put in between.
Both are the objects that they were. -/
theorem wrap_loses_nothing_weekday :
    let leaf := bare (.inconsistent "weekday")
    let inner := within .resolving leaf
    leaf.wrap .parsing = .ok (within .parsing inner) ∧
      (within .parsing inner).wrap .any = .ok (within .any inner) ∧
      (within .any inner).Built ∧
      ∃ kept, (within .any inner).wrap .any = .ok (within .any kept) ∧ kept = inner ∧
        (within .any kept).depth ≤ 2 ∧ kept.message = leaf.message ∧
        (within .any kept).hasDeeperCause = true ∧ kept.hasDeeperCause = false ∧
        ∃ x y : Object, x = .within 1 .resolving (.bare 0 (.inconsistent "weekday")) ∧
          x.failure = inner ∧ x.Made 3 ∧ x.wrap 3 .any = .ok y ∧ y.failure = within .any inner ∧
          y.base = .bare 0 (.inconsistent "weekday") := by
  intro leaf inner
  have parsed : leaf.wrap .parsing = .ok (within .parsing inner) := rfl
  have general : (within .parsing inner).wrap .any = .ok (within .any inner) := rfl
  have built : (within .any inner).Built := .wrap (.wrap (.leaf (by decide)) parsed) general
  obtain ⟨kept, wrapped, -, depth, -, messages⟩ := wrap_loses_nothing.1 _ built
  have again : (within .any inner).wrap .any = .ok (within .any inner) := rfl
  obtain rfl : inner = kept := by
    rw [again] at wrapped
    cases wrapped
    rfl
  let x : Object := .within 1 .resolving (.bare 0 (.inconsistent "weekday"))
  let y : Object := .within 3 .any x
  have resolved : (Object.bare 0 (.inconsistent "weekday")).wrap 1 .resolving = .ok x := rfl
  have made : x.Made 3 := .wrap (.cause Nat.one_pos) resolved (Nat.le_refl _)
  have wrappedObject : x.wrap 3 .any = .ok y := rfl
  have objects := wrap_loses_nothing.2.2.2.2.2 3 x made
  exact ⟨parsed, general, built, inner, again, rfl, depth,
    messages inner (List.mem_append_left _ (by simp [Failure.chain, inner])), rfl,
    (wrap_loses_nothing.2.2.1 _ _).mpr ⟨_, rfl, by decide⟩, x, y, rfl, rfl, made, wrappedObject,
    rfl, (objects.1 .any y wrappedObject).2.1⟩

end Failure

end CalendarText
