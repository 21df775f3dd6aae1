/-
What a description means, and what it means when it was described and compiled again.

Describing and compiling put neighbouring literals together, cut them at their brackets, drop the
empty ones and forget how items were nested.  None of that can be told from texts: leaves that
differ by such a step need the same parts of a value, write the same text and read the same.

* `Leaf.Alike`: leaves that cannot be told from each other by what they need, write and read;
* `Leaf.alike_canonical`: leaves and their canonical form are alike;
* `Item.members`: the trees of a description;
* `Item.MeansSame`: two descriptions format all values and read all texts in the same way;
* `Item.compiled_again_means_same`: a description that was described and compiled again means the
  same.
-/
import CalendarText.Proofs.Description.Canonical
import CalendarText.Proofs.Reading.Run
import CalendarText.Proofs.Writing.Leaves

namespace CalendarText

/-- A text is behind two beginnings when it is behind the second one, behind the first one. -/
lemma Octets.behind?_append_eq_bind (s t data : Octets) :
    behind? (s ++ t) data = (behind? s data).bind (behind? t) := by
  ext rest
  simp [behind?_eq_some_iff, Option.bind_eq_some_iff]

namespace Leaf

/-- Leaves that cannot be told from each other: they need the same parts of a value, write the
same text and read the same. -/
structure Alike (a b : List Leaf) : Prop where
  needs : ∀ part, (a.any fun l => l.capabilities.has part) = b.any fun l => l.capabilities.has part
  write : ∀ parts, writeAll? parts a = writeAll? parts b
  read : ∀ data, parseAll a data = parseAll b data

namespace Alike

variable {a b c d : List Leaf}

lemma refl (a : List Leaf) : Alike a a :=
  ⟨fun _ => rfl, fun _ => rfl, fun _ => rfl⟩

lemma trans (h : Alike a b) (k : Alike b c) : Alike a c :=
  ⟨fun part => (h.needs part).trans (k.needs part),
    fun parts => (h.write parts).trans (k.write parts),
    fun data => (h.read data).trans (k.read data)⟩

lemma symm (h : Alike a b) : Alike b a :=
  ⟨fun part => (h.needs part).symm, fun parts => (h.write parts).symm,
    fun data => (h.read data).symm⟩

/-- Leaves in a row are alike when each part of the row is. -/
lemma append (h : Alike a b) (k : Alike c d) : Alike (a ++ c) (b ++ d) where
  needs part := by rw [List.any_append, List.any_append, h.needs, k.needs]
  write parts := by rw [writeAll?_append, writeAll?_append, h.write, k.write]
  read data := by rw [parseAll_append, parseAll_append, h.read, funext k.read]

end Alike

/-! ### Literal text -/

/-- A literal without text says nothing. -/
lemma alike_literal_nil : Alike [.literal []] [] :=
  ⟨fun part => by cases part <;> rfl, fun _ => rfl, fun data => by cases data <;> rfl⟩

/-- A literal may be cut in two. -/
lemma alike_literal_append (s t : Octets) :
    Alike [.literal (s ++ t)] [.literal s, .literal t] where
  needs part := by cases part <;> rfl
  write parts := by simp [writeAll?, write?]
  read data := by
    rw [parseAll_singleton, parse, Octets.behind?_append_eq_bind, parseAll, parse]
    cases Octets.behind? s data with
    | none => rfl
    | some rest =>
        dsimp only [Option.bind]
        rw [parseAll_singleton, parse]
        cases Octets.behind? t rest <;> rfl

/-- A literal may be cut into any pieces. -/
lemma alike_literals (texts : List Octets) :
    Alike (texts.map .literal) [.literal texts.flatten] := by
  induction texts with
  | nil => exact alike_literal_nil.symm
  | cons t texts ih =>
      rw [List.map_cons, List.flatten_cons]
      exact ((Alike.refl [.literal t]).append ih).trans (alike_literal_append t _).symm

/-! ### The canonical form -/

lemma alike_fuse (l : Leaf) (leaves : List Leaf) :
    Alike (Description.fuse l leaves) (l :: leaves) := by
  cases l with
  | component c => exact Alike.refl _
  | literal s =>
      match leaves with
      | [] | .component _ :: _ => exact Alike.refl _
      | .literal t :: leaves => exact (alike_literal_append s t).append (Alike.refl leaves)

lemma alike_foldr_fuse (leaves : List Leaf) :
    Alike (leaves.foldr Description.fuse []) leaves := by
  induction leaves with
  | nil => exact Alike.refl []
  | cons l leaves ih => exact (alike_fuse l _).trans ((Alike.refl [l]).append ih)

lemma alike_cut (l : Leaf) : Alike (Description.cut l) [l] := by
  cases l with
  | component c => exact Alike.refl _
  | literal text =>
      have whole : (Description.pieces text).flatten = text := List.flatten_splitBy _ text
      have pieces := alike_literals (Description.pieces text)
      rwa [whole] at pieces

lemma alike_flatMap_cut (leaves : List Leaf) : Alike (leaves.flatMap Description.cut) leaves := by
  induction leaves with
  | nil => exact Alike.refl []
  | cons l leaves ih => exact (alike_cut l).append ih

/-- The canonical form of leaves is like the leaves themselves. -/
theorem alike_canonical (leaves : List Leaf) : Alike (Description.canonical leaves) leaves :=
  (alike_flatMap_cut _).trans (alike_foldr_fuse leaves)

end Leaf

namespace Item

/-! ### Descriptions -/

/-- The trees of a description: those in a series, or the one that it is. -/
def members : Item → List Item
  | series _ items => items
  | item => [item]

/-- What a text is compiled to, as a description. -/
def ofLeaves (leaves : List Leaf) : Item :=
  series .tuple (leaves.map Leaf.item)

/-- Two descriptions format all values and read all texts in the same way. -/
structure MeansSame (a b : Item) : Prop where
  /-- a value has the same text, or is refused by both because it lacks a part -/
  formats : ∀ v : Value,
    (∃ text, format (some v) a = .ok text ∧ format (some v) b = .ok text) ∨
      (format (some v) a = .error (.wrapped .formatting (.bare .insufficientType)) ∧
        format (some v) b = .error (.wrapped .formatting (.bare .insufficientType)))
  /-- a text is read into all fields in the same way, or is missed by both for the same cause, and
  the fields are as they were -/
  reads : ∀ (p : Fields) (data : Octets),
    (∃ rest q, (parseItems a.members data).runOn p = (.ok rest, q) ∧
        (parseItems b.members data).runOn p = (.ok rest, q)) ∨
      ∃ cause, (cause = .literal ∨ ∃ name, cause = .component name) ∧
        (parseItems a.members data).runOn p = (.error (.ofCause cause), p) ∧
        (parseItems b.members data).runOn p = (.error (.ofCause cause), p)

/-- A tree stands for itself as an item. -/
lemma ofValues_of_areTrees {items : List Item} (trees : areTrees items = true) :
    ofValues items = .ok items := by
  induction items with
  | nil => rfl
  | cons i items ih =>
      rw [areTrees, Bool.and_eq_true] at trees
      have first : i.ofValue = .ok i := by
        cases i <;> first | rfl | simp [isTree] at trees
      rw [ofValues, first, ih trees.2]
      rfl

variable {description : Item}

/-- A description of trees is laid out as its trees are. -/
lemma layout_of_areTrees (trees : areTrees description.members = true) :
    description.layout = .ok (.items description.members) := by
  cases description with
  | series sort items =>
      have values : ofValues items = .ok items := ofValues_of_areTrees trees
      rw [layout, values]
      rfl
  | literal t => rfl
  | component c => rfl
  | compound items => rfl
  | bare c => simp [members, areTrees, isTree] at trees
  | stray v => simp [members, areTrees, isTree] at trees

/-- A description of trees is described by the leaves of its trees. -/
lemma describe_of_areTrees (trees : areTrees description.members = true) :
    description.describe = .ok ((leavesOf description.members).flatMap Leaf.describe) := by
  have alone {i : Item} (tree : areTrees [i] = true) :
      i.describe = .ok ((leavesOf [i]).flatMap Leaf.describe) := by
    rw [areTrees, areTrees, Bool.and_true] at tree
    rw [describe, flatten_eq_leaves tree, leavesOf, leavesOf, List.append_nil]
    rfl
  cases description with
  | series sort items => exact describe_series trees sort
  | _ => exact alone trees

/-- Descriptions whose leaves are alike ask for the same parts of a value. -/
lemma subset_iff_of_alike {a b : Item} (ha : areTrees a.members = true)
    (hb : areTrees b.members = true) (alike : Leaf.Alike (leavesOf a.members) (leavesOf b.members))
    (carried : Capabilities) :
    (capabilitiesOf a.members).subset carried = true ↔
      (capabilitiesOf b.members).subset carried = true := by
  simp only [Capabilities.subset_iff, has_capabilitiesOf ha, has_capabilitiesOf hb, alike.needs]

/-- Descriptions whose leaves are alike mean the same. -/
lemma meansSame_of_alike {a b : Item} (ha : areTrees a.members = true)
    (hb : areTrees b.members = true)
    (alike : Leaf.Alike (leavesOf a.members) (leavesOf b.members)) : MeansSame a b where
  formats v := by
    have needs := subset_iff_of_alike ha hb alike v.kind.capabilities
    -- both need the same parts, so a value of the kind carries those of both or of neither
    by_cases carried : (capabilitiesOf a.members).subset v.kind.capabilities = true
    · left
      obtain ⟨text, written⟩ := exists_writeAll? ha carried
      refine ⟨text, format_eq_ok (layout_of_areTrees ha) ha carried written, ?_⟩
      rw [alike.write] at written
      exact format_eq_ok (layout_of_areTrees hb) hb (needs.mp carried) written
    · right
      exact ⟨format_eq_insufficient (layout_of_areTrees ha) carried,
        format_eq_insufficient (layout_of_areTrees hb) fun h => carried (needs.mpr h)⟩
  reads p data := by
    rw [runOn_parseItems (areReadable_of_areTrees ha),
      runOn_parseItems (areReadable_of_areTrees hb), alike.read]
    cases h : Leaf.parseAll (leavesOf b.members) data with
    | ok reading => exact .inl ⟨_, _, rfl, rfl⟩
    | error cause => exact .inr ⟨cause, Leaf.cause_of_parseAll_eq_error h, rfl, rfl⟩

/-- **A description means the same when it was described and compiled again.**  A tree, or trees in
a row, have a text that describes them and that compiles, and what it compiles to formats all values
and reads all texts as the trees do. -/
theorem compiled_again_means_same (trees : areTrees description.members = true) :
    ∃ text leaves, description.describe = .ok text ∧ Description.compile text = .ok leaves ∧
      MeansSame description (ofLeaves leaves) := by
  have compiled := Description.compile_eq_ok_iff.mpr
    (Description.denotes_canonical (leavesOf description.members))
  refine ⟨_, _, describe_of_areTrees trees, compiled, ?_⟩
  refine meansSame_of_alike trees (areTrees_map_item _) ?_
  show Leaf.Alike _ (leavesOf ((Description.canonical _).map Leaf.item))
  rw [leavesOf_map_item]
  exact (Leaf.alike_canonical _).symm

/-- Literals that are put together, cut at a bracket, and dropped because they are empty, with a
component in a compound between them. -/
theorem compiled_again_means_same_bracket :
    let description : Item := .series .list [.literal [97],
      .compound [.literal [], .literal [91], .component (.year {})], .literal [91], .literal [195]]
    let leaves : List Leaf := [.literal [97], .literal [91], .component (.year {}), .literal [91],
      .literal [195]]
    areTrees description.members = true ∧
      ∃ text, description.describe = .ok text ∧ Description.compile text = .ok leaves ∧
        MeansSame description (ofLeaves leaves) := by
  intro description leaves
  obtain ⟨text, found, described, compiled, same⟩ :=
    compiled_again_means_same (rfl : areTrees description.members = true)
  have canonical : Description.compile text = .ok leaves := by
    obtain rfl := Except.ok.inj (described.symm.trans rfl)
    rfl
  obtain rfl := Except.ok.inj (compiled.symm.trans canonical)
  exact ⟨rfl, text, described, canonical, same⟩

end Item

end CalendarText
