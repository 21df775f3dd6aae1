/-
Describing, and compiling what was described.

Compiling finds literal text put together as far as it goes, and cut at its opening brackets.
Leaves of that form are canonical; describing takes every tree to a text that is compiled to the
canonical form of its leaves.

* `canonical`: the canonical form of leaves;
* `denotes_describe`: what the text of leaves denotes, when no two literals are neighbours;
* `compile_describe_eq_canonical`: a described tree is compiled to the canonical form of its
  leaves, and compiled leaves come back as they are.
-/
import CalendarText.Description.Describe
import CalendarText.Proofs.Description.Grammar
import Mathlib.Data.List.SplitBy

namespace CalendarText

namespace Description

/-! ### The canonical form -/

/-- A leaf in front of others.  Literal text is put together with literal text behind it. -/
def fuse : Leaf → List Leaf → List Leaf
  | .literal s, .literal t :: leaves => .literal (s ++ t) :: leaves
  | l, leaves => l :: leaves

/-- Text cut into single opening brackets and the longest runs between them. -/
def pieces (text : Octets) : List Octets :=
  text.splitBy fun a b => a ≠ openBracket && b ≠ openBracket

/-- A leaf with its literal text cut. -/
def cut : Leaf → List Leaf
  | .literal text => (pieces text).map .literal
  | .component c => [.component c]

/-- The canonical form of leaves: neighbouring literal texts are put together, and then cut. -/
def canonical (leaves : List Leaf) : List Leaf :=
  (leaves.foldr fuse []).flatMap cut

/-- No two literals are neighbours. -/
def Alternate (leaves : List Leaf) : Prop :=
  leaves.IsChain fun a b => ∀ s t, a = .literal s → b ≠ .literal t

lemma alternate_fuse {leaves : List Leaf} (l : Leaf) (alternate : Alternate leaves) :
    Alternate (fuse l leaves) := by
  cases l with
  | component c => exact List.isChain_cons.mpr ⟨fun _ _ _ _ h => (nomatch h), alternate⟩
  | literal s =>
      match leaves with
      | [] => exact List.isChain_singleton _
      | .component c :: leaves =>
          refine List.isChain_cons.mpr ⟨fun b hb _ _ _ h => ?_, alternate⟩
          obtain rfl : .component c = b := Option.some.inj hb
          exact nomatch h
      | .literal t :: leaves =>
          -- the longer text has the same neighbour as the text that it swallows
          obtain ⟨apart, others⟩ := List.isChain_cons.mp alternate
          exact List.isChain_cons.mpr ⟨fun b hb _ u _ => apart b hb t u rfl, others⟩

/-- Literals that are put together leave no neighbours. -/
lemma alternate_foldr_fuse (leaves : List Leaf) : Alternate (leaves.foldr fuse []) := by
  induction leaves with
  | nil => exact List.isChain_nil
  | cons l leaves ih => exact alternate_fuse l ih

/-! ### Text of literals -/

lemma escape_append (s t : Octets) : escape (s ++ t) = escape s ++ escape t :=
  List.flatMap_append

/-- Text without brackets stands for itself. -/
lemma escape_eq_self {text : Octets} (plain : openBracket ∉ text) : escape text = text := by
  induction text with
  | nil => rfl
  | cons b text ih =>
      rw [List.mem_cons, not_or] at plain
      rw [escape, List.flatMap_cons, if_neg (Ne.symm plain.1), ← escape, ih plain.2]
      rfl

lemma escape_bracket (text : Octets) :
    escape (openBracket :: text) = openBracket :: openBracket :: escape text := by
  rw [escape, List.flatMap_cons, if_pos rfl, ← escape]
  rfl

/-- Putting literals together does not change their text. -/
lemma describe_fuse (l : Leaf) (leaves : List Leaf) :
    (fuse l leaves).flatMap Leaf.describe = l.describe ++ leaves.flatMap Leaf.describe := by
  cases l with
  | component c => rfl
  | literal s =>
      match leaves with
      | [] | .component _ :: _ => rfl
      | .literal t :: leaves =>
          simp only [fuse, List.flatMap_cons, Leaf.describe, escape_append, List.append_assoc]

lemma describe_foldr_fuse (leaves : List Leaf) :
    (leaves.foldr fuse []).flatMap Leaf.describe = leaves.flatMap Leaf.describe := by
  induction leaves with
  | nil => rfl
  | cons l leaves ih => rw [List.foldr_cons, describe_fuse, ih, List.flatMap_cons]

lemma pieces_run {text rest : Octets} (nonempty : text ≠ []) (plain : openBracket ∉ text)
    (ends : EndsRun rest) : pieces (text ++ rest) = text :: pieces rest := by
  have single : pieces text = [text] := by
    refine List.splitBy_of_isChain nonempty (List.Pairwise.isChain ?_)
    refine List.pairwise_of_forall_mem_list fun a ha b hb => ?_
    have left : a ≠ openBracket := fun h => plain (h ▸ ha)
    have right : b ≠ openBracket := fun h => plain (h ▸ hb)
    simp [left, right]
  rw [pieces, List.splitBy_append, ← pieces, ← pieces, single]
  · rfl
  · intro a _ b hb
    simp [ends b hb]

lemma pieces_bracket (rest : Octets) :
    pieces (openBracket :: rest) = [openBracket] :: pieces rest := by
  rw [← List.singleton_append, pieces, List.splitBy_append, ← pieces, ← pieces]
  · rfl
  · intro a ha b _
    obtain rfl : openBracket = a := by simpa using ha
    simp

lemma endsRun_escape {text rest : Octets} (ends : EndsRun text) (stop : EndsRun rest) :
    EndsRun (escape text ++ rest) := by
  cases text with
  | nil => exact stop
  | cons b text =>
      obtain rfl : b = openBracket := ends b rfl
      rw [escape_bracket]
      exact fun c hc => (Option.some.inj hc).symm

/-- Escaped text denotes its pieces, in front of a text that ends a run. -/
lemma denotes_escape {rest : Octets} {leaves : List Leaf} (tail : Denotes rest leaves)
    (stop : EndsRun rest) (text : Octets) :
    Denotes (escape text ++ rest) ((pieces text).map .literal ++ leaves) := by
  -- a piece is one bracket or a whole run, so the text shrinks by more than its head
  induction hn : text.length using Nat.strongRecOn generalizing text with
  | ind n ih =>
      obtain ⟨before, after, plain, ends, rfl⟩ := split_at openBracket text
      by_cases nonempty : before = []
      · subst nonempty
        cases after with
        | nil => exact tail
        | cons b after =>
            obtain rfl : b = openBracket := ends b rfl
            have shorter : after.length < n := by
              simp at hn
              omega
            rw [List.nil_append, escape_bracket, pieces_bracket]
            exact .doubled (ih _ shorter after rfl)
      · have shorter : after.length < n := by
          have := List.length_pos_iff.mpr nonempty
          simp at hn
          omega
        rw [escape_append, escape_eq_self plain, pieces_run nonempty plain ends,
          List.append_assoc]
        exact .run nonempty plain (endsRun_escape ends stop) (ih _ shorter after rfl)

/-! ### Text of components -/

/-- Tokens, each behind a space, are a text of modifiers. -/
lemma options_flatMap {k : Kind} {ms : List Modifier} (mem : ∀ m ∈ ms, m ∈ k.vocabulary) :
    Options k ms (ms.flatMap fun m => 32 :: m.token) := by
  induction ms with
  | nil => exact .done (by simp [Blanks])
  | cons m ms ih =>
      have space : Blanks [32] := by decide
      exact .token (by simp) space (mem m (by simp)) (ih fun n hn => mem n (by simp [hn]))

/-- A described component denotes itself. -/
lemma denotes_bracketed (c : Component) {rest : Octets} {leaves : List Leaf}
    (tail : Denotes rest leaves) :
    Denotes (bracketed c ++ rest) (.component c :: leaves) := by
  have mem : ∀ m ∈ c.modifiers, m ∈ c.kind.vocabulary := fun m hm =>
    Component.modifiers_subset_vocabulary hm
  have spelled : Spells (Octets.ofAscii c.kind.name ++
      c.modifiers.flatMap fun m => 32 :: m.token) c.kind c.modifiers :=
    ⟨[], _, by simp [Blanks], options_flatMap mem, rfl⟩
  have takes : Takes c c.kind c.modifiers :=
    (takes_iff mem).mpr (Component.ofModifiers_modifiers c).symm
  have row : bracketed c ++ rest = openBracket :: (Octets.ofAscii c.kind.name ++
      c.modifiers.flatMap (fun m => 32 :: m.token) ++ closeBracket :: rest) := by
    simp [bracketed]
  rw [row]
  exact .component spelled.brackets.1 spelled.brackets.2 spelled takes tail

/-! ### Describing and compiling -/

/-- Leaves that do not begin with a literal are described by a text that ends a run. -/
lemma endsRun_describe {leaves : List Leaf} (first : ∀ t, leaves.head? ≠ some (.literal t)) :
    EndsRun (leaves.flatMap Leaf.describe) := by
  match leaves with
  | [] => exact fun b hb => nomatch hb
  | .literal t :: _ => exact absurd rfl (first t)
  | .component c :: _ => exact fun b hb => (Option.some.inj hb).symm

/-- The text of leaves among which no two literals are neighbours denotes them with their literal
text cut. -/
lemma denotes_describe {leaves : List Leaf} (alternate : Alternate leaves) :
    Denotes (leaves.flatMap Leaf.describe) (leaves.flatMap cut) := by
  induction leaves with
  | nil => exact .empty
  | cons l leaves ih =>
      obtain ⟨apart, others⟩ := List.isChain_cons.mp alternate
      rw [List.flatMap_cons, List.flatMap_cons]
      cases l with
      | component c => exact denotes_bracketed c (ih others)
      | literal s =>
          refine denotes_escape (ih others) (endsRun_describe fun t head => ?_) s
          exact apart _ head s t rfl rfl

/-- The text of leaves denotes their canonical form. -/
lemma denotes_canonical (leaves : List Leaf) :
    Denotes (leaves.flatMap Leaf.describe) (canonical leaves) := by
  rw [← describe_foldr_fuse]
  exact denotes_describe (alternate_foldr_fuse leaves)

/-- What a text that ends a run denotes is described by such a text. -/
lemma Denotes.endsRun {text : Octets} {leaves : List Leaf} (denotes : Denotes text leaves)
    (ends : EndsRun text) : EndsRun (leaves.flatMap Leaf.describe) := by
  cases denotes with
  | empty => exact ends
  | @run run rest leaves nonempty plain _ _ =>
      -- a run does not begin with the bracket that ends one
      obtain ⟨b, run, rfl⟩ := List.exists_cons_of_ne_nil nonempty
      obtain rfl : b = openBracket := ends b rfl
      exact absurd (by simp) plain
  | doubled => exact fun b hb => (Option.some.inj hb).symm
  | component => exact fun b hb => (Option.some.inj hb).symm

/-- Leaves that some text denotes are denoted by the text that describes them. -/
lemma Denotes.describe {text : Octets} {leaves : List Leaf} (denotes : Denotes text leaves) :
    Denotes (leaves.flatMap Leaf.describe) leaves := by
  induction denotes with
  | empty => exact .empty
  | run nonempty plain ends tail ih =>
      rw [List.flatMap_cons, Leaf.describe, escape_eq_self plain]
      exact .run nonempty plain (tail.endsRun ends) ih
  | doubled tail ih => exact .doubled ih
  | component opens closed spelled takes tail ih => exact denotes_bracketed _ ih

end Description

namespace Item

/-- Items in a row are gone through by their leaves. -/
lemma flatten_series {items : List Item} (trees : areTrees items = true) (sort : SeriesSort) :
    (series sort items).flatten = .ok (leavesOf items) := by
  have same := flatten_eq_leaves (isTree_compound trees)
  rw [flatten, leaves] at same
  rwa [flatten]

lemma areTrees_map_item (leaves : List Leaf) : areTrees (leaves.map Leaf.item) = true := by
  induction leaves with
  | nil => rfl
  | cons l leaves ih =>
      rw [List.map_cons, areTrees, ih, Bool.and_true]
      cases l <;> rfl

lemma leavesOf_map_item (leaves : List Leaf) : leavesOf (leaves.map Leaf.item) = leaves := by
  induction leaves with
  | nil => rfl
  | cons l leaves ih =>
      rw [List.map_cons, leavesOf, ih]
      cases l <;> rfl

lemma describe_series {items : List Item} (trees : areTrees items = true) (sort : SeriesSort) :
    (series sort items).describe = .ok ((leavesOf items).flatMap Leaf.describe) := by
  rw [describe, flatten_series trees]
  rfl

/-- **Compiling takes back describing**, up to the canonical form of the leaves.  A tree, or trees
in a row, are described by a text that is compiled to the canonical form of their leaves, and what
is compiled is itself in that form. -/
theorem compile_describe_eq_canonical :
    (∀ tree : Item, tree.isTree = true → ∃ text, tree.describe = .ok text ∧
      Description.compile text = .ok (Description.canonical tree.leaves)) ∧
    (∀ sort items, areTrees items = true → ∃ text, (series sort items).describe = .ok text ∧
      Description.compile text = .ok (Description.canonical (leavesOf items))) ∧
    ∀ sort description leaves, Description.compile description = .ok leaves →
      ∃ text, (series sort (leaves.map Leaf.item)).describe = .ok text ∧
        Description.compile text = .ok leaves := by
  refine ⟨?_, ?_, ?_⟩
  · intro tree isTree
    refine ⟨tree.leaves.flatMap Leaf.describe, ?_, ?_⟩
    · rw [describe, flatten_eq_leaves isTree]
      rfl
    · exact Description.compile_eq_ok_iff.mpr (Description.denotes_canonical _)
  · intro sort items trees
    refine ⟨_, describe_series trees sort, ?_⟩
    exact Description.compile_eq_ok_iff.mpr (Description.denotes_canonical _)
  · -- what a text compiles to is canonical already, so nothing is merged on the way back
    intro sort description leaves compiled
    have denotes := Description.compile_eq_ok_iff.mp compiled
    refine ⟨_, describe_series (areTrees_map_item leaves) sort, ?_⟩
    rw [leavesOf_map_item]
    exact Description.compile_eq_ok_iff.mpr denotes.describe

/-- Literals that end in brackets, begin with them, are empty, and break off in the middle of a
character, with components and a compound between them; and leaves that were compiled. -/
theorem compile_describe_of_brackets :
    let members : List Item :=
      [.literal [97, 91], .component (.year { isoWeekBased := true }),
        .compound [.literal [91], .literal [], .literal [93, 98]], .literal [195]]
    let leaves : List Leaf :=
      [.literal [97], .literal [91], .component (.year { isoWeekBased := true }), .literal [91],
        .literal [93, 98, 195]]
    let description := Octets.ofAscii "[[[ year  base:iso_week][[]b"
    (areTrees members = true ∧ Description.canonical (leavesOf members) = leaves ∧
      ∃ text, (compound members).describe = .ok text ∧
        Description.compile text = .ok (Description.canonical (compound members).leaves)) ∧
    (∃ text, (series .list members).describe = .ok text ∧
      Description.compile text = .ok (Description.canonical (leavesOf members))) ∧
    ∃ found, Description.compile description = .ok found ∧
      ∃ text, (series .tuple (found.map Leaf.item)).describe = .ok text ∧
        Description.compile text = .ok found := by
  intro members leaves description
  obtain ⟨whole, row, again⟩ := compile_describe_eq_canonical
  have compiled : Description.compile description = .ok [.literal [91],
      .component (.year { isoWeekBased := true }), .literal [91], .literal [93, 98]] := by
    rfl
  exact ⟨⟨rfl, rfl, whole (compound members) rfl⟩, row .list members rfl, _, compiled,
    again .tuple description _ compiled⟩

end Item

end CalendarText
