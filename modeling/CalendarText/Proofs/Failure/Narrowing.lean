/-
Narrowing, with failures as objects.

A failure that is found by narrowing is one of those that were there, not merely one that looks
like it.  So narrowing goes through the objects of a chain, and it does to objects what
`Failure.narrow` does to failures.

Of a chain of layers that fit into each other only the outermost one absorbs anything.  So a layer
is built anew at the outside or nowhere, and never while the object that is asked for is further
down.

* `Object.narrow`, `Object.narrow_failure`: objects narrowed, and that failures are narrowed alike;
* `Object.find?_eq_some_iff`: what is found in layers that fit;
* `Object.narrow_finds_stored`: narrowing finds exactly what is stored.
-/
import CalendarText.Failure.Narrow
import CalendarText.Proofs.Failure.Object

namespace CalendarText

lemma Layer.rank_le_two (l : Layer) : l.rank ≤ 2 := by
  cases l <;> decide

/-- What the layer of parsing stores, the most general layer stores too. -/
lemma Layer.takes_any_of_parsing {f : Failure} (takes : parsing.takes f = true) :
    any.takes f = true := by
  obtain ⟨s, mem, isA⟩ := List.any_eq_true.mp takes
  have more : parsing.stores ⊆ any.stores := by decide
  exact List.any_eq_true.mpr ⟨s, more mem, isA⟩

/-- Only the outer layers absorb anything, and only outer layers are absorbed. -/
lemma Layer.rank_of_absorbs {l m : Layer} (absorbed : m ∈ l.absorbs) :
    m.rank = 2 ∧ l.rank = 2 := by
  cases l <;> cases m <;> first | decide | simp [absorbs] at absorbed

namespace Failure

/-- What is of the sort of a layer is within that layer. -/
lemma exists_within_of_isA {f : Failure} {l : Layer} (isA : f.isA (.layer l) = true) :
    ∃ inner, f = within l inner := by
  cases f with
  | bare c => cases isA
  | within m inner =>
      obtain rfl := of_decide_eq_true isA
      exact ⟨inner, rfl⟩

namespace Object

/-- The layer built anew around `inner`, when it was absorbed into the layer `outer`. -/
def rebuild (fresh : Nat) (wanted : FailureSort) (outer : Layer) (inner : Object) :
    Option Object :=
  match wanted with
  | .cause _ => none
  | .layer l =>
    if l ∈ outer.absorbs && l.takes inner.failure then some (within fresh l inner) else none

/-- The first object of a sort beneath the layers of another, or a new one. -/
def find? (fresh : Nat) (wanted : FailureSort) : Object → Option Object
  | bare m c => if (Failure.bare c).isA wanted then some (bare m c) else none
  | within m l inner =>
    if (Failure.within l inner.failure).isA wanted then some (within m l inner)
    else
      match rebuild fresh wanted l inner with
      | some y => some y
      | none => find? fresh wanted inner

/-- An object narrowed to a sort, or a new one that says that this failed. -/
def narrow (fresh : Nat) (wanted : FailureSort) (x : Object) : Except Object Object :=
  match x.find? fresh wanted with
  | some y => .ok y
  | none => .error (bare fresh .differentVariant)

/-- What is told of an object that was found: how many layers stand above it, or that it is new. -/
def found (x y : Object) : Found :=
  if y ∈ x.chain then .stored (x.chain.idxOf y) y.failure else .rebuilt y.failure

/-- What is told of the outcome of narrowing. -/
def seen (x : Object) : Except Object Object → Except Failure Found
  | .ok y => .ok (x.found y)
  | .error y => .error y.failure

variable {fresh n : Nat} {l m : Layer} {wanted : FailureSort} {x y z : Object}

/-! ### Objects narrowed -/

lemma failure_rebuild (fresh : Nat) (wanted : FailureSort) (outer : Layer) (inner : Object) :
    (rebuild fresh wanted outer inner).map failure =
      Failure.rebuild wanted outer inner.failure := by
  cases wanted with
  | cause s => rfl
  | layer l =>
      rw [rebuild, Failure.rebuild]
      split <;> rfl

lemma eq_of_rebuild_eq_some (built : rebuild fresh wanted l x = some y) :
    ∃ k, wanted = .layer k ∧ k ∈ l.absorbs ∧ k.takes x.failure = true ∧ y = within fresh k x := by
  cases wanted with
  | cause s => cases built
  | layer k =>
      rw [rebuild] at built
      split at built
      · rename_i both
        obtain ⟨absorbed, takes⟩ := (Bool.and_eq_true _ _).mp both
        cases built
        exact ⟨k, rfl, of_decide_eq_true absorbed, takes, rfl⟩
      · cases built

/-- What is found is there, or it is new. -/
lemma mem_chain_or_mark_of_find? (h : x.find? fresh wanted = some y) :
    y ∈ x.chain ∨ y.mark = fresh := by
  induction x with
  | bare m c =>
      rw [find?] at h
      split at h
      · cases h
        exact .inl (List.mem_singleton_self _)
      · cases h
  | within m l inner ih =>
      rw [find?] at h
      split at h
      · cases h
        exact .inl (List.mem_cons_self ..)
      · split at h
        · rename_i built
          cases h
          obtain ⟨k, -, -, -, rfl⟩ := eq_of_rebuild_eq_some built
          exact .inr rfl
        · exact (ih h).imp_left (List.mem_cons_of_mem _)

lemma depth_le_of_mem_chain (mem : y ∈ x.chain) : y.failure.depth ≤ x.failure.depth := by
  induction x with
  | bare m c =>
      obtain rfl := List.mem_singleton.mp mem
      exact Nat.le_refl _
  | within m l inner ih =>
      obtain rfl | mem := List.mem_cons.mp mem
      · exact Nat.le_refl _
      · exact Nat.le_succ_of_le (ih mem)

/-- One layer further up, one more layer stands above. -/
lemma found_within {m : Nat} {inner : Object} (other : within m l inner ≠ y) :
    (within m l inner).found y = (inner.found y).below := by
  by_cases mem : y ∈ inner.chain
  · have more : y ∈ (within m l inner).chain := List.mem_cons_of_mem _ mem
    rw [found, found, if_pos mem, if_pos more, chain, List.idxOf_cons_ne _ other]
    rfl
  · have more : y ∉ (within m l inner).chain := fun h =>
      (List.mem_cons.mp h).elim (fun same => other same.symm) mem
    rw [found, found, if_neg mem, if_neg more]
    rfl

/-- What is found among failures is what is found among objects, if its mark is new. -/
lemma find?_failure (new : ∀ y ∈ x.chain, y.mark ≠ fresh) (wanted : FailureSort) :
    x.failure.find? wanted = (x.find? fresh wanted).map x.found := by
  have outermost (x : Object) : x.found x = .stored 0 x.failure := by
    cases x <;> simp [found, chain]
  induction x with
  | bare m c =>
      rw [failure, Failure.find?, find?]
      split
      · rw [Option.map_some, outermost, failure]
      · rfl
  | within m l inner ih =>
      have newer : ∀ y ∈ inner.chain, y.mark ≠ fresh := fun y mem =>
        new y (List.mem_cons_of_mem _ mem)
      have own : m ≠ fresh := new _ (List.mem_cons_self ..)
      rw [failure, Failure.find?, find?, ← failure_rebuild fresh]
      split
      · rw [Option.map_some, outermost, failure]
      · cases built : rebuild fresh wanted l inner with
        | some y =>
            obtain ⟨k, -, -, -, rfl⟩ := eq_of_rebuild_eq_some built
            have absent : within fresh k inner ∉ (within m l inner).chain := fun mem =>
              new _ mem rfl
            simp only [Option.map_some, found, if_neg absent]
        | none =>
            simp only [Option.map_none]
            rw [ih newer, Option.map_map]
            refine Option.map_congr fun y h => (found_within ?_).symm
            rintro rfl
            -- what is found further down is not this layer: it is shallower, or its mark is new
            obtain mem | mark := mem_chain_or_mark_of_find? h
            · have := depth_le_of_mem_chain mem
              simp only [failure, depth] at this
              omega
            · exact own mark

/-- Objects are narrowed as failures are, if the marks of new objects are new. -/
theorem narrow_failure (new : ∀ y ∈ x.chain, y.mark ≠ fresh) (wanted : FailureSort) :
    x.failure.narrow wanted = x.seen (x.narrow fresh wanted) := by
  rw [Failure.narrow, narrow, find?_failure new]
  cases x.find? fresh wanted <;> rfl

/-! ### Layers that fit into each other -/

/-- Further down, layers that fit into each other are further to the inside. -/
lemma rank_lt_of_mem_chain {g : Failure} (fits : (within n l x).failure.Fits) (mem : y ∈ x.chain)
    (outermost : y.failure = .within m g) : m.rank < l.rank := by
  induction x generalizing n l with
  | bare k c =>
      obtain rfl := List.mem_singleton.mp mem
      cases outermost
  | within k j inner ih =>
      have inside : j.rank < l.rank := Layer.rank_lt_of_takes fits.1
      obtain rfl | mem := List.mem_cons.mp mem
      · cases outermost
        exact inside
      · have := ih (n := k) fits.2 mem
        omega

/-- The layer built anew around what lies directly beneath the outermost one. -/
def anew (fresh : Nat) (wanted : FailureSort) : Object → Option Object
  | bare _ _ => none
  | within _ l inner => rebuild fresh wanted l inner

/-- Beneath a layer that fits nothing is built anew. -/
lemma anew_of_fits (fits : (within n l x).failure.Fits) : x.anew fresh wanted = none := by
  cases x with
  | bare m c => rfl
  | within m k inner =>
      have inside : k.rank < l.rank := Layer.rank_lt_of_takes fits.1
      have outside := l.rank_le_two
      refine Option.eq_none_iff_forall_ne_some.mpr fun y built => ?_
      obtain ⟨j, -, absorbed, -⟩ := eq_of_rebuild_eq_some built
      have := Layer.rank_of_absorbs absorbed
      omega

/-- In layers that fit into each other the first object of a sort is found, and only if there is
none a layer is built anew, at the outside. -/
lemma find?_eq_or (fits : x.failure.Fits) :
    x.find? fresh wanted =
      (x.chain.find? fun y => y.failure.isA wanted).or (x.anew fresh wanted) := by
  induction x with
  | bare m c =>
      rw [find?, chain, List.find?_singleton, anew, Option.or_none]
      rfl
  | within m l inner ih =>
      rw [find?, chain, List.find?_cons, failure]
      cases own : (Failure.within l inner.failure).isA wanted with
      | true => rfl
      | false =>
          rw [if_neg Bool.false_ne_true, anew]
          cases built : rebuild fresh wanted l inner with
          | none => rw [ih fits.2, anew_of_fits fits]
          | some y =>
              obtain ⟨k, rfl, absorbed, -, -⟩ := eq_of_rebuild_eq_some built
              have ranks := Layer.rank_of_absorbs absorbed
              -- the layer that is built anew is an outer one, and none of these lies further down
              have nothing : (inner.chain.find? fun y => y.failure.isA (.layer k)) = none := by
                refine List.find?_eq_none.mpr fun z mem isA => ?_
                obtain ⟨g, outermost⟩ := Failure.exists_within_of_isA isA
                have := rank_lt_of_mem_chain fits mem outermost
                omega
              rw [nothing]
              rfl

/-- What the layer of parsing stores: what arose when fields were resolved, a mismatch, a trailing
rest, and a description that does not compile. -/
lemma takes_parsing_iff : Layer.parsing.takes x.failure = true ↔
    ∃ s ∈ [.layer .resolving, .cause .mismatch, .cause .trailing, .cause .description],
      x.failure.isA s = true :=
  List.any_eq_true

/-- What is found in layers that fit into each other: an object that is there, or around what the
most general layer stores in its place, a new layer of parsing. -/
theorem find?_eq_some_iff (fits : x.failure.Fits) :
    x.find? fresh wanted = some y ↔
      (x.chain.find? fun z => z.failure.isA wanted) = some y ∨
        (∀ z ∈ x.chain, z.failure.isA wanted = false) ∧ wanted = .layer .parsing ∧
          ∃ m inner, x = within m .any inner ∧
            (∃ s ∈ [.layer .resolving, .cause .mismatch, .cause .trailing, .cause .description],
              inner.failure.isA s = true) ∧ y = within fresh .parsing inner := by
  have absent : (x.chain.find? fun z => z.failure.isA wanted) = none ↔
      ∀ z ∈ x.chain, z.failure.isA wanted = false := by
    simp only [List.find?_eq_none, Bool.not_eq_true]
  rw [find?_eq_or fits, Option.or_eq_some_iff, absent]
  refine or_congr_right (and_congr_right fun other => ?_)
  constructor
  · intro built
    cases x with
    | bare m c => cases built
    | within m l inner =>
        obtain ⟨k, rfl, absorbed, takes, rfl⟩ := eq_of_rebuild_eq_some built
        -- absorbed, but not of its own sort: only the general layer absorbs another one
        have own : ¬(l = k) := of_decide_eq_false (other _ (List.mem_cons_self ..))
        have outer : l = .any ∧ k = .parsing := by
          revert absorbed own
          cases l <;> cases k <;> decide
        obtain ⟨rfl, rfl⟩ := outer
        exact ⟨rfl, m, inner, rfl, takes_parsing_iff.mp takes, rfl⟩
  · rintro ⟨rfl, m, inner, rfl, stored, rfl⟩
    have takes := takes_parsing_iff.mpr stored
    rw [anew, rebuild, takes]
    rfl

/-- A cause is found beneath all layers. -/
lemma find?_cause {s : CauseSort} (special : s ≠ .general) (x : Object) :
    x.find? fresh (.cause s) = if x.base.failure.isA (.cause s) then some x.base else none := by
  -- a special cause is none of the layers, so all of them are passed
  induction x with
  | bare m c => rfl
  | within m l inner ih =>
      have other : (Failure.within l inner.failure).isA (.cause s) = false :=
        decide_eq_false special
      rw [find?, other, if_neg Bool.false_ne_true, ih]
      rfl

lemma narrow_eq_ok_iff : x.narrow fresh wanted = .ok y ↔ x.find? fresh wanted = some y := by
  rw [narrow]
  cases x.find? fresh wanted <;> simp

/-- A failure of parsing that is wrapped in the most general layer is narrowed to a layer of parsing
around the same object. -/
lemma Made.narrow_wrap_parsing {m : Nat} {inner : Object}
    (made : Made n (within m .parsing inner)) :
    ∃ w, (within m .parsing inner).wrap n .any = .ok w ∧
      w.narrow (n + 2) (.layer .parsing) = .ok (within (n + 2) .parsing inner) := by
  have takes : Layer.parsing.takes inner.failure = true := made.fits.1
  have general : Layer.any.takes inner.failure = true := Layer.takes_any_of_parsing takes
  have wrapped : (within m .parsing inner).wrap n .any = .ok (within n .any inner) :=
    wrap_of_takes general
  have fits := (made.wrap wrapped (Nat.le_refl _)).fits
  refine ⟨_, wrapped, narrow_eq_ok_iff.mpr ((find?_eq_some_iff fits).mpr (.inr ⟨?_, rfl, ?_⟩))⟩
  · -- no layer of parsing is left in the chain: the one that was there has been absorbed
    intro z mem
    refine Bool.eq_false_iff.mpr fun isA => ?_
    obtain ⟨g, outermost⟩ := exists_within_of_isA isA
    obtain rfl | mem := List.mem_cons.mp mem
    · cases outermost
    · have := rank_lt_of_mem_chain (n := n) made.fits mem outermost
      omega
  · exact ⟨n, inner, rfl, takes_parsing_iff.mp takes, rfl⟩

/-- A cause is narrowed to the same object in the most general layer. -/
lemma narrow_wrap_cause {w : Object} (wrapped : x.wrap n l = .ok w) {s : CauseSort}
    (special : s ≠ .general) : w.narrow fresh (.cause s) = x.narrow fresh (.cause s) := by
  rw [narrow, narrow, find?_cause special, find?_cause special, base_of_wrap_eq_ok wrapped]

/-- **Narrowing finds exactly what is stored.**  Let an object be built from a cause by wrapping,
again and again, and look for a sort: that of a cause, one that has others beneath it, or a layer.
The first object of that sort, from the outside, is found as the object that it is.  If there is
none and the sort is the layer of parsing, a new layer of parsing is found around what the most
general layer stores in its place, which is the same object as before.  Otherwise nothing is found,
and a new failure says so.  In each case the failure that the object is is narrowed in the same way.

So a failure of parsing comes back from the most general layer around the object that it held.  And
when a cause of some sort is looked for, it makes no difference to wrap the object in the most
general layer first: the same object is found, or none. -/
theorem narrow_finds_stored (made : Made n x) :
    ((x.chain.map mark).Nodup ∧ ∀ y ∈ x.chain, y.mark < n) ∧
    (∀ wanted : FailureSort,
      x.failure.narrow wanted = x.seen (x.narrow n wanted) ∧
      (∀ y, x.narrow n wanted = .ok y ↔
        (x.chain.find? fun z => z.failure.isA wanted) = some y ∨
          (∀ z ∈ x.chain, z.failure.isA wanted = false) ∧ wanted = .layer .parsing ∧
            ∃ m inner, x = within m .any inner ∧
              (∃ s ∈ [.layer .resolving, .cause .mismatch, .cause .trailing, .cause .description],
                inner.failure.isA s = true) ∧ y = within n .parsing inner) ∧
      ∀ y, x.narrow n wanted = .error y → y = bare n .differentVariant) ∧
    (∀ (fresh : Nat) (l : Layer), (x.wrap fresh l).map failure = x.failure.wrap l) ∧
    (∀ m inner, x = within m .parsing inner → ∃ w, x.wrap n .any = .ok w ∧
      w.narrow (n + 2) (.layer .parsing) = .ok (within (n + 2) .parsing inner)) ∧
    (x.failure.cause.IsLeaf → ∃ w, x.wrap n .any = .ok w) ∧
    ∀ w, x.wrap n .any = .ok w → ∀ s, s ≠ .general → ∀ fresh,
      w.narrow fresh (.cause s) = x.narrow fresh (.cause s) := by
  have marked := made.marked
  refine ⟨⟨marked.nodup, marked.below⟩, fun wanted => ⟨?_, ?_, ?_⟩, fun fresh l => ?_, ?_, ?_, ?_⟩
  · exact narrow_failure (fun y mem => Nat.ne_of_lt (marked.below y mem)) wanted
  · intro y
    rw [narrow_eq_ok_iff, find?_eq_some_iff made.fits]
  · intro y refused
    rw [narrow] at refused
    split at refused
    · cases refused
    · cases refused
      rfl
  · exact failure_wrap fresh l x
  · rintro m inner rfl
    exact made.narrow_wrap_parsing
  · exact made.exists_wrap_any
  · intro w wrapped s special fresh
    exact narrow_wrap_cause wrapped special

/-- A mismatch that was wrapped in the layer of parsing and then in the most general one: the layer
of parsing comes back around it, the cause is found as it is, and there is nothing else. -/
theorem narrow_finds_stored_literal :
    let cause := bare 0 .literal
    let parsed := within 1 .parsing cause
    let general := within 3 .any cause
    Made 5 general ∧ parsed.wrap 3 .any = .ok general ∧
      (∃ w, parsed.wrap 3 .any = .ok w ∧
        w.narrow 5 (.layer .parsing) = .ok (within 5 .parsing cause)) ∧
      general.failure.narrow (.layer .parsing) = .ok (.rebuilt parsed.failure) ∧
      general.narrow 5 (.cause .mismatch) = .ok cause ∧
      general.failure.narrow (.cause .mismatch) = .ok (.stored 1 cause.failure) ∧
      ∀ y, general.narrow 5 (.layer .resolving) = .error y → y = bare 5 .differentVariant := by
  intro cause parsed general
  have first : cause.wrap 1 .parsing = .ok parsed := rfl
  have made : Made 3 parsed := .wrap (.cause Nat.one_pos) first (Nat.le_refl _)
  have wrapped : parsed.wrap 3 .any = .ok general := rfl
  have again : Made 5 general := .wrap made wrapped (Nat.le_refl _)
  have narrows := (narrow_finds_stored again).2.1
  have found : general.narrow 5 (.cause .mismatch) = .ok cause :=
    ((narrows _).2.1 cause).mpr (.inl rfl)
  refine ⟨again, wrapped, (narrow_finds_stored made).2.2.2.1 1 cause rfl, ?_, found, ?_,
    (narrows _).2.2⟩
  · exact (narrows _).1
  · rw [(narrows _).1, found]
    rfl

end Object

end Failure

end CalendarText
