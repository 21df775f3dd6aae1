/-
Nested reading as a flat run over leaves.

The leaves of an item are read from left to right, and the first one that fails decides; only when
all of them are read are their numbers filled in.  That is what the nested transactions amount to.

* `Leaf.parseAll`: leaves read one after the other, without any state;
* `Fields.outcome`: the state that has taken up a reading, or is as it was;
* `FieldReader.Reads`: up to what a failure leaves behind, an action on a state is a reading;
* `Item.runOn_parse`, `runOn_parseItems`: an item, or a row of them, is read as its leaves are;
* `Fields.get_assign_eq`: of several numbers for one field, those that agree stand.
-/
import CalendarText.Proofs.Outcome
import CalendarText.Reading.Item

namespace CalendarText

open FieldReader

/-- Leaves read one after the other: the numbers that they give, and what is left of the text. -/
def Leaf.parseAll : List Leaf → Octets → Except Cause Reading
  | [], data => .ok ([], data)
  | l :: leaves, data =>
    match l.parse data with
    | .error c => .error c
    | .ok (numbers, rest) =>
      (parseAll leaves rest).map fun (others, rest) => (numbers ++ others, rest)

/-- A reading, and then another one of what it leaves. -/
def Reading.andThen (first : Except Cause Reading) (next : Octets → Except Cause Reading) :
    Except Cause Reading :=
  match first with
  | .error c => .error c
  | .ok (numbers, rest) => (next rest).map fun (others, rest) => (numbers ++ others, rest)

/-- What is left of the text, and the fields with the numbers of a reading.  A failure leaves the
fields as they are. -/
def Fields.outcome (p : Fields) : Except Cause Reading → Except Fault Octets × Fields
  | .ok (numbers, rest) => (.ok rest, p.assign numbers)
  | .error c => (.error (.ofCause c), p)

/-! ### Runs over leaves -/

lemma Leaf.parseAll_singleton (l : Leaf) (data : Octets) : parseAll [l] data = l.parse data := by
  rw [parseAll]
  cases h : l.parse data with
  | error c => rfl
  | ok reading => simp [parseAll, Except.map]

/-- Leaves that follow each other are read one after the other. -/
lemma Leaf.parseAll_append (a b : List Leaf) (data : Octets) :
    parseAll (a ++ b) data = Reading.andThen (parseAll a data) (parseAll b) := by
  induction a generalizing data with
  | nil =>
      simp only [List.nil_append, parseAll, Reading.andThen]
      cases parseAll b data <;> rfl
  | cons l a ih =>
      simp only [List.cons_append, parseAll]
      cases l.parse data with
      | error c => rfl
      | ok reading =>
          simp only [ih]
          cases parseAll a reading.2 with
          | error c => rfl
          | ok later =>
              simp only [Except.map, Reading.andThen]
              cases parseAll b later.2 <;> simp

/-! ### Readers on a state -/

lemma FieldReader.runOn_fillIn (reading : Except Cause Reading) (p : Fields) :
    (fillIn reading).runOn p = p.outcome reading := by
  cases reading <;> rfl

lemma FieldReader.runOn_bind {A B : Type} (x : FieldReader A) (f : A → FieldReader B)
    (p : Fields) :
    (x >>= f).runOn p =
      match x.runOn p with
      | (.error fault, q) => (.error fault, q)
      | (.ok a, q) => (f a).runOn q := by
  have steps : (x >>= f).runOn p =
      match x.runOn p with
      | (result, q) => FieldReader.runOn (ExceptT.bindCont f result) q := rfl
  rw [steps]
  obtain ⟨result, q⟩ := x.runOn p
  cases result <;> rfl

lemma FieldReader.runOn_map {A B : Type} (f : A → B) (x : FieldReader A) (p : Fields) :
    (f <$> x).runOn p = ((x.runOn p).1.map f, (x.runOn p).2) := by
  rw [map_eq_pure_bind, runOn_bind]
  obtain ⟨result, q⟩ := x.runOn p
  cases result <;> rfl

lemma FieldReader.runOn_transaction {A : Type} (x : FieldReader A) (p : Fields) :
    (transaction x).runOn p =
      match x.runOn p with
      | (.error fault, _) => (.error fault, p)
      | (.ok a, q) => (.ok a, q) := by
  show transaction x p = _
  rw [transaction]
  obtain ⟨result, q⟩ := x.runOn p
  cases result <;> rfl

/-- A transaction of two steps is a transaction of each of them; if either fails, the state is as
it was at the beginning. -/
lemma FieldReader.runOn_transaction_bind {A B : Type} (x : FieldReader A) (f : A → FieldReader B)
    (p : Fields) :
    (transaction (x >>= f)).runOn p =
      match (transaction x).runOn p with
      | (.error fault, _) => (.error fault, p)
      | (.ok a, q) =>
        match (transaction (f a)).runOn q with
        | (.error fault, _) => (.error fault, p)
        | (.ok b, r) => (.ok b, r) := by
  rw [runOn_transaction, runOn_bind, runOn_transaction]
  obtain ⟨result, q⟩ := x.runOn p
  cases result with
  | error fault => rfl
  | ok a =>
      dsimp only
      rw [runOn_transaction]
      obtain ⟨result, r⟩ := (f a).runOn q
      cases result <;> rfl

namespace FieldReader

/-- Up to what a failure leaves behind, an action on fields is a reading. -/
def Reads (x : FieldReader Octets) (reading : Except Cause Reading) : Prop :=
  ∀ p, (transaction x).runOn p = p.outcome reading

/-- What takes up a reading, and leaves nothing behind when it fails. -/
lemma reads_of_runOn {x : FieldReader Octets} {reading : Except Cause Reading}
    (h : ∀ p, x.runOn p = p.outcome reading) : Reads x reading := by
  intro p
  rw [runOn_transaction, h]
  cases reading <;> rfl

lemma reads_fillIn (reading : Except Cause Reading) : Reads (fillIn reading) reading :=
  reads_of_runOn (runOn_fillIn reading)

lemma reads_pure (data : Octets) : Reads (pure data) (.ok ([], data)) :=
  reads_of_runOn fun _ => rfl

lemma reads_fail (c : Cause) : Reads (fail c) (.error c) :=
  reads_of_runOn fun _ => rfl

/-- A second action reads what the first one leaves. -/
lemma Reads.bind {x : FieldReader Octets} {f : Octets → FieldReader Octets}
    {first : Except Cause Reading} {next : Octets → Except Cause Reading} (hx : Reads x first)
    (hf : ∀ rest, Reads (f rest) (next rest)) : Reads (x >>= f) (Reading.andThen first next) := by
  intro p
  rw [runOn_transaction_bind, hx p]
  cases first with
  | error c => rfl
  | ok reading =>
      obtain ⟨numbers, rest⟩ := reading
      dsimp only [Fields.outcome, Reading.andThen]
      rw [hf rest]
      cases next rest with
      | error c => rfl
      | ok later => simp only [Fields.outcome, Except.map, Fields.assign_append]

end FieldReader

namespace Item

mutual

/-- Whether an item can be read: it is made of literals, components and compounds, where
components need not be wrapped. -/
def isReadable : Item → Bool
  | literal _ | component _ | bare _ => true
  | compound items => areReadable items
  | series _ _ | stray _ => false

/-- Whether all items can be read. -/
def areReadable : List Item → Bool
  | [] => true
  | i :: items => isReadable i && areReadable items

end

lemma isReadable_of_mem {items : List Item} (readable : areReadable items = true) {i : Item}
    (mem : i ∈ items) : i.isReadable = true := by
  induction items with
  | nil => simp at mem
  | cons first items ih =>
      rw [areReadable, Bool.and_eq_true] at readable
      obtain rfl | mem := List.mem_cons.mp mem
      · exact readable.1
      · exact ih readable.2 mem

/-- A tree can be read. -/
lemma isReadable_of_isTree {i : Item} (tree : i.isTree = true) : i.isReadable = true := by
  induction i, tree using tree_ind with
  | literal t => rfl
  | component c => rfl
  | nil => rfl
  | cons i items _ _ first others =>
      rw [isReadable] at others
      rw [isReadable, areReadable, first, others]
      rfl

lemma areReadable_of_areTrees {items : List Item} (trees : areTrees items = true) :
    areReadable items = true := by
  have readable := isReadable_of_isTree (isTree_compound trees)
  rwa [isReadable] at readable

/-- Items in a row are read as their leaves are, once each of them is. -/
lemma reads_parseAll {items : List Item}
    (each : ∀ i ∈ items, ∀ data, Reads (i.parse data) (Leaf.parseAll i.leaves data))
    (data : Octets) : Reads (parseAll items data) (Leaf.parseAll (leavesOf items) data) := by
  induction items generalizing data with
  | nil => exact reads_pure data
  | cons i items ih =>
      rw [parseAll, leavesOf, Leaf.parseAll_append]
      exact (each i (by simp) data).bind (ih fun j hj => each j (by simp [hj]))

/-- An item is read as its leaves are. -/
lemma runOn_parse {i : Item} (readable : i.isReadable = true) (data : Octets) (p : Fields) :
    (i.parse data).runOn p = p.outcome (Leaf.parseAll i.leaves data) := by
  induction i using ind generalizing data p with
  | literal t => rw [parse, runOn_fillIn, leaves, Leaf.parseAll_singleton]
  | component c =>
      rw [parse, runOn_fillIn, leaves, Leaf.parseAll_singleton]
      rfl
  | bare c =>
      rw [parse, runOn_fillIn, leaves, Leaf.parseAll_singleton]
      rfl
  -- a compound reads its members as one transaction, and misses leave no trace
  | compound items ih =>
      rw [isReadable] at readable
      rw [parse, leaves]
      refine reads_parseAll (fun i hi data => reads_of_runOn ?_) data p
      exact ih i hi (isReadable_of_mem readable hi) data
  | series sort items => simp [isReadable] at readable
  | stray v => simp [isReadable] at readable

end Item

/-- Items in a row are read as their leaves are. -/
lemma runOn_parseItems {items : List Item} (readable : Item.areReadable items = true)
    (data : Octets) (p : Fields) :
    (parseItems items data).runOn p = p.outcome (Leaf.parseAll (Item.leavesOf items) data) :=
  Item.reads_parseAll
    (fun _ hi data => reads_of_runOn (Item.runOn_parse (Item.isReadable_of_mem readable hi) data))
    data p

lemma reads_parseItems {items : List Item} (readable : Item.areReadable items = true)
    (data : Octets) : Reads (parseItems items data) (Leaf.parseAll (Item.leavesOf items) data) :=
  reads_of_runOn (runOn_parseItems readable data)

/-! ### Fields after a reading -/

/-- A field for which there is no number keeps what it holds. -/
lemma Fields.get_assign_of_notMem {p : Fields} {numbers : List (Field × Int)} {f : Field}
    (without : ∀ x ∈ numbers, x.1 ≠ f) : (p.assign numbers).get f = p.get f := by
  induction numbers generalizing p with
  | nil => rfl
  | cons x numbers ih =>
      obtain ⟨g, n⟩ := x
      have other : f ≠ g := (without (g, n) (by simp)).symm
      rw [assign_cons, ih fun y hy => without y (by simp [hy]), get_put, if_neg other]

/-- Of several numbers for one field, those that agree stand. -/
lemma Fields.get_assign_eq {p : Fields} {numbers : List (Field × Int)} {f : Field} {n : Int}
    (agree : ∀ x ∈ numbers, x.1 = f → x.2 = n) (given : (f, n) ∈ numbers) :
    (p.assign numbers).get f = some n := by
  induction numbers generalizing p with
  | nil => simp at given
  | cons x numbers ih =>
      obtain ⟨g, m⟩ := x
      rw [assign_cons]
      by_cases later : (f, n) ∈ numbers
      · exact ih (fun y hy => agree y (by simp [hy])) later
      · -- the number at the front is the only one
        have first : (g, m) = (f, n) := by
          obtain h | h := List.mem_cons.mp given
          · exact h.symm
          · exact absurd h later
        cases first
        have without : ∀ y ∈ numbers, y.1 ≠ f := by
          rintro ⟨h, k⟩ hy rfl
          obtain rfl : k = n := agree (h, k) (by simp [hy]) rfl
          exact later hy
        rw [get_assign_of_notMem without, get_put, if_pos rfl]

end CalendarText
