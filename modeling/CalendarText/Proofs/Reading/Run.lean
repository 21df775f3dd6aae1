/-
Runs over leaves.

However deep items are nested, reading them is a run over their leaves: each leaf takes a token
from where the one before it ended, and the first leaf that does not match ends the run.  The
numbers of the tokens reach the fields all together, or not at all.

* `Leaf.Matches`, `Leaf.Misses`: a leaf takes a token from the front of a text, or fails there;
* `Leaf.Run`: leaves take their tokens one after the other;
* `Component.suffix_of_read?`: what a component leaves is the end of the text;
* `Leaf.parseAll_eq_ok_iff`, `Leaf.parseAll_eq_error_iff`: reading leaves is a run to their end, or
  one that stops at a leaf that fails;
* `parseItems_refines_run`: reading nested items is the run over their leaves.
-/
import CalendarText.Proofs.Reading.Leaves
import CalendarText.Proofs.Reading.Names

namespace CalendarText

open FieldReader
open Numeral (field? run? paddedRun?)

/-! ### What readers leave -/

lemma Numeral.suffix_of_field? {width : Nat} {data rest : Octets} {padding : Padding} {n : Nat}
    (h : field? width data padding = some (n, rest)) : rest <:+ data := by
  have run {least most : Nat} {data run rest : Octets}
      (h : run? least most data = some (run, rest)) : rest <:+ data :=
    ⟨run, (run?_eq_some h).2.2.symm⟩
  rw [field?, Option.map_eq_some_iff] at h
  obtain ⟨⟨digits, left⟩, read, same⟩ := h
  cases same
  cases padding with
  | none => exact run read
  | zero => exact run read
  | space => exact (run read).trans (List.drop_suffix _ _)

lemma suffix_of_readSign (data : Octets) : (readSign data).2 <:+ data := by
  cases data with
  | nil => exact List.suffix_refl []
  | cons b data =>
      rw [readSign]
      split
      · exact List.suffix_cons b data
      · split
        · exact List.suffix_cons b data
        · exact List.suffix_refl _

/-- What is made of a token leaves what the token leaves. -/
lemma suffix_of_map {A B : Type} {token : Option (A × Octets)} {f : A × Octets → B × Octets}
    {data rest : Octets} {b : B} (h : token.map f = some (b, rest))
    (keeps : ∀ x, (f x).2 = x.2) (behind : ∀ a rest, token = some (a, rest) → rest <:+ data) :
    rest <:+ data := by
  obtain ⟨⟨a, left⟩, read, same⟩ := Option.map_eq_some_iff.mp h
  have left_eq : rest = left := by
    have kept := keeps (a, left)
    rwa [same] at kept
  rw [left_eq]
  exact behind a left read

/-- A number that is taken on a condition was read, and meets the condition. -/
lemma taken_of_if {B : Type} {width : Nat} {data rest : Octets} {padding : Padding}
    {taken : Nat → Prop} [DecidablePred taken] {f : Nat → B} {b : B}
    (h : (match field? width data padding with
      | some (n, rest) => if taken n then some (f n, rest) else none
      | none => none) = some (b, rest)) :
    ∃ n, field? width data padding = some (n, rest) ∧ taken n ∧ f n = b := by
  split at h
  · rename_i n left read
    split at h
    · rename_i meets
      cases h
      exact ⟨n, read, meets, rfl⟩
    · cases h
  · cases h

/-- The same where only some numbers are taken. -/
lemma suffix_of_if {B : Type} {width : Nat} {data rest : Octets} {padding : Padding}
    {taken : Nat → Prop} [DecidablePred taken] {f : Nat → B} {b : B}
    (h : (match field? width data padding with
      | some (n, rest) => if taken n then some (f n, rest) else none
      | none => none) = some (b, rest)) : rest <:+ data := by
  obtain ⟨n, read, -⟩ := taken_of_if h
  exact Numeral.suffix_of_field? read

lemma suffix_of_firstMatch {data rest : Octets} {names : List Octets} {caseSensitive : Bool}
    {i : Nat} (h : firstMatch data names caseSensitive = some (i, rest)) : rest <:+ data := by
  obtain ⟨_, -, parts⟩ := firstMatch_eq_some_iff_isChoice.mp h
  exact ⟨_, parts.symm⟩

namespace Component

lemma suffix_of_readNumber {f : Field} {width : Nat} {padding : Padding} {data rest : Octets}
    {numbers : List (Field × Int)}
    (h : readNumber f width padding data = some (numbers, rest)) : rest <:+ data :=
  suffix_of_map h (fun _ => rfl) fun _ _ => Numeral.suffix_of_field?

lemma suffix_of_readSigned {width : Nat} {padding : Padding} {mandatory : Bool}
    {data : Octets} {number : Option Sign × Nat × Octets}
    (h : readSigned width padding mandatory data = some number) : number.2.2 <:+ data := by
  rw [readSigned] at h
  dsimp only at h
  split at h
  · cases h
  · obtain ⟨⟨m, left⟩, read, rfl⟩ := Option.map_eq_some_iff.mp h
    exact (Numeral.suffix_of_field? read).trans (suffix_of_readSign data)

lemma suffix_of_readYear {o : YearOptions} {data rest : Octets} {numbers : List (Field × Int)}
    (h : readYear o data = some (numbers, rest)) : rest <:+ data := by
  rw [readYear] at h
  split at h
  · exact suffix_of_readNumber h
  · obtain ⟨number, read, same⟩ := Option.map_eq_some_iff.mp h
    cases same
    exact suffix_of_readSigned read

lemma suffix_of_readMonth {o : MonthOptions} {data rest : Octets} {numbers : List (Field × Int)}
    (h : readMonth o data = some (numbers, rest)) : rest <:+ data := by
  rw [readMonth] at h
  dsimp only at h
  split at h
  · exact suffix_of_if h
  · exact suffix_of_map h (fun _ => rfl) fun _ _ => suffix_of_firstMatch
  · exact suffix_of_map h (fun _ => rfl) fun _ _ => suffix_of_firstMatch

lemma suffix_of_readWeekday {o : WeekdayOptions} {data rest : Octets}
    {numbers : List (Field × Int)} (h : readWeekday o data = some (numbers, rest)) :
    rest <:+ data := by
  rw [readWeekday] at h
  dsimp only at h
  split at h
  · exact suffix_of_map h (fun _ => rfl) fun _ _ => suffix_of_firstMatch
  · exact suffix_of_map h (fun _ => rfl) fun _ _ => suffix_of_firstMatch
  · exact suffix_of_if h
  · exact suffix_of_if h

lemma suffix_of_readSubsecond {d : SubsecondDigits} {data rest : Octets}
    {numbers : List (Field × Int)} (h : readSubsecond d data = some (numbers, rest)) :
    rest <:+ data := by
  refine suffix_of_map h (fun _ => rfl) fun run left read => ?_
  have split {least most : Nat} (read : run? least most data = some (run, left)) :
      left <:+ data := ⟨run, (Numeral.run?_eq_some read).2.2.symm⟩
  cases d <;> exact split read

/-- What a component leaves is the end of the text. -/
lemma suffix_of_read? {c : Component} {data rest : Octets} {numbers : List (Field × Int)}
    (h : c.read? data = some (numbers, rest)) : rest <:+ data := by
  cases c with
  | day p | ordinal p | minute p | second p | offsetMinute p | offsetSecond p =>
      exact suffix_of_readNumber h
  | month o => exact suffix_of_readMonth h
  | weekday o => exact suffix_of_readWeekday h
  | weekNumber o => exact suffix_of_readNumber h
  | year o => exact suffix_of_readYear h
  | hour o => exact suffix_of_readNumber h
  | period o => exact suffix_of_map h (fun _ => rfl) fun _ _ => suffix_of_firstMatch
  | subsecond d => exact suffix_of_readSubsecond h
  | offsetHour o =>
      obtain ⟨number, read, same⟩ := Option.map_eq_some_iff.mp h
      cases same
      exact suffix_of_readSigned read

/-- What is left behind a component that is read. -/
lemma suffix_of_parse {c : Component} {data rest : Octets} {numbers : List (Field × Int)}
    (h : c.parse data = .ok (numbers, rest)) : rest <:+ data := by
  rw [parse] at h
  split at h
  · rename_i read
    split at h
    · cases h
      exact suffix_of_read? read
    · cases h
  · cases h

lemma eq_of_parse_eq_error {c : Component} {data : Octets} {cause : Cause}
    (h : c.parse data = .error cause) : cause = .component c.kind.displayName := by
  rw [parse] at h
  split at h
  · split at h
    · cases h
    · exact (Except.error.inj h).symm
  · exact (Except.error.inj h).symm

/-- A component that is not read is reported by its name. -/
lemma parse_eq_error_iff {c : Component} {data : Octets} {cause : Cause} :
    c.parse data = .error cause ↔
      cause = .component c.kind.displayName ∧ ∀ reading, c.parse data ≠ .ok reading := by
  constructor
  · intro h
    refine ⟨eq_of_parse_eq_error h, ?_⟩
    intro reading same
    rw [h] at same
    cases same
  · rintro ⟨rfl, unread⟩
    cases h : c.parse data with
    | ok reading => exact absurd h (unread reading)
    | error cause => rw [eq_of_parse_eq_error h]

end Component

/-! ### Runs -/

namespace Leaf

/-- A leaf takes a token in front of a rest, which gives some numbers: a literal takes itself. -/
inductive Matches (rest : Octets) : Leaf → (token : Octets) → List (Field × Int) → Prop
  | literal (text : Octets) : Matches rest (.literal text) text []
  | component {c : Component} {token : Octets} {numbers : List (Field × Int)} :
    c.parse (token ++ rest) = .ok (numbers, rest) → Matches rest (.component c) token numbers

/-- A leaf does not stand at the front of a text, which is reported by a cause. -/
inductive Misses (data : Octets) : Leaf → Cause → Prop
  | literal {text : Octets} : ¬ text <+: data → Misses data (.literal text) .literal
  | component {c : Component} : (∀ reading, c.parse data ≠ .ok reading) →
    Misses data (.component c) (.component c.kind.displayName)

/-- Leaves take their tokens from left to right, each one where the one before it ended. -/
inductive Run : List Leaf → (data : Octets) → List (Field × Int) → (rest : Octets) → Prop
  | nil (data : Octets) : Run [] data [] data
  | cons {l : Leaf} {leaves : List Leaf} {token data rest : Octets}
    {numbers others : List (Field × Int)} : l.Matches data token numbers →
    Run leaves data others rest → Run (l :: leaves) (token ++ data) (numbers ++ others) rest

lemma parse_eq_ok_iff {l : Leaf} {data rest : Octets} {numbers : List (Field × Int)} :
    l.parse data = .ok (numbers, rest) ↔
      ∃ token, data = token ++ rest ∧ l.Matches rest token numbers := by
  cases l with
  | literal text =>
      rw [parse]
      constructor
      · intro h
        split at h
        · rename_i left behind
          cases h
          exact ⟨text, Octets.behind?_eq_some_iff.mp behind, .literal text⟩
        · cases h
      · rintro ⟨token, rfl, matched⟩
        cases matched
        rw [Octets.behind?_append]
  | component c =>
      constructor
      · intro h
        obtain ⟨token, rfl⟩ := Component.suffix_of_parse h
        exact ⟨token, rfl, .component h⟩
      · rintro ⟨token, rfl, matched⟩
        cases matched with
        | component read => exact read

lemma parse_eq_error_iff {l : Leaf} {data : Octets} {cause : Cause} :
    l.parse data = .error cause ↔ l.Misses data cause := by
  cases l with
  | literal text =>
      rw [parse]
      constructor
      · intro h
        split at h
        · cases h
        · rename_i missing
          cases h
          refine .literal ?_
          rintro ⟨rest, rfl⟩
          rw [Octets.behind?_append] at missing
          cases missing
      · intro misses
        cases misses with
        | literal away =>
            split
            · rename_i rest behind
              exact absurd ⟨rest, (Octets.behind?_eq_some_iff.mp behind).symm⟩ away
            · rfl
  | component c =>
      rw [parse, Component.parse_eq_error_iff]
      constructor
      · rintro ⟨rfl, unread⟩
        exact .component unread
      · intro misses
        cases misses with
        | component unread => exact ⟨rfl, unread⟩

/-- Leaves are read exactly when they have a run. -/
theorem parseAll_eq_ok_iff {leaves : List Leaf} {data rest : Octets}
    {numbers : List (Field × Int)} :
    parseAll leaves data = .ok (numbers, rest) ↔ Run leaves data numbers rest := by
  -- leaf by leaf, each one leaving the text on which the others go on
  induction leaves generalizing data numbers with
  | nil =>
      constructor
      · intro h
        cases h
        exact .nil rest
      · intro run
        cases run
        rfl
  | cons l leaves ih =>
      rw [parseAll]
      constructor
      · intro h
        split at h
        · cases h
        · rename_i taken left first
          obtain ⟨⟨others, last⟩, later, same⟩ := Outcome.map_eq_ok_iff.mp h
          cases same
          obtain ⟨token, rfl, matched⟩ := parse_eq_ok_iff.mp first
          exact .cons matched (ih.mp later)
      · intro run
        cases run with
        | @cons _ _ token left _ taken others matched run =>
            rw [parse_eq_ok_iff.mpr ⟨token, rfl, matched⟩]
            exact Outcome.map_eq_ok_iff.mpr ⟨(others, rest), ih.mpr run, rfl⟩

/-- Reading leaves fails exactly when a run comes to a leaf that fails. -/
theorem parseAll_eq_error_iff {leaves : List Leaf} {data : Octets} {cause : Cause} :
    parseAll leaves data = .error cause ↔
      ∃ before l after numbers rest, leaves = before ++ l :: after ∧
        Run before data numbers rest ∧ l.Misses rest cause := by
  constructor
  · intro h
    induction leaves generalizing data with
    | nil => cases h
    | cons first leaves ih =>
        rw [parseAll] at h
        split at h
        · rename_i read
          cases h
          exact ⟨[], first, leaves, [], data, rfl, .nil data, parse_eq_error_iff.mp read⟩
        · -- this leaf matched, so the one that misses is further back, behind a longer run
          rename_i taken left read
          obtain ⟨token, rfl, matched⟩ := parse_eq_ok_iff.mp read
          have later : parseAll leaves left = .error cause := by
            cases others : parseAll leaves left with
            | error c => rwa [others] at h
            | ok reading =>
                rw [others] at h
                cases h
          obtain ⟨before, l, after, numbers, rest, rfl, run, misses⟩ := ih later
          exact ⟨first :: before, l, after, taken ++ numbers, rest, rfl, .cons matched run, misses⟩
  · rintro ⟨before, l, after, numbers, rest, rfl, run, misses⟩
    have stop : parseAll (l :: after) rest = .error cause := by
      rw [parseAll, parse_eq_error_iff.mpr misses]
    rw [parseAll_append, parseAll_eq_ok_iff.mpr run, Reading.andThen, stop]
    rfl

/-- Where leaves do not match, a literal or a component is missed. -/
lemma cause_of_parseAll_eq_error {leaves : List Leaf} {data : Octets} {cause : Cause}
    (h : parseAll leaves data = .error cause) :
    cause = .literal ∨ ∃ name, cause = .component name := by
  obtain ⟨_, l, _, _, _, -, -, misses⟩ := parseAll_eq_error_iff.mp h
  cases misses with
  | literal _ => exact .inl rfl
  | component _ => exact .inr ⟨_, rfl⟩

lemma Run.suffix {leaves : List Leaf} {data rest : Octets} {numbers : List (Field × Int)}
    (run : Run leaves data numbers rest) : rest <:+ data := by
  induction run with
  | nil data => exact List.suffix_refl data
  | cons _ _ ih => exact ih.trans (List.suffix_append _ _)

end Leaf

/-! ### Nested items -/

/-- The numbers of a run overwrite what the fields hold, and of several numbers for one field the
last one stands. -/
lemma Fields.get_assign (p : Fields) (numbers : List (Field × Int)) (f : Field) :
    (p.assign numbers).get f = (numbers.reverse.lookup f).or (p.get f) := by
  induction numbers generalizing p with
  | nil => rfl
  | cons x numbers ih =>
      obtain ⟨g, n⟩ := x
      rw [assign_cons, ih, get_put, List.reverse_cons, List.lookup_append, Option.or_assoc]
      by_cases same : f = g
      · subst same
        simp
      · have other : (f == g) = false := by simpa using same
        simp [same, List.lookup_cons, other]

/-- Items in two rows are read one row after the other. -/
lemma Item.parseAll_append (a b : List Item) (data : Octets) :
    parseAll (a ++ b) data = (parseAll a data >>= parseAll b) := by
  induction a generalizing data with
  | nil => simp [parseAll]
  | cons i a ih => simp [parseAll, ih]

/-- Two rows of items are read exactly when the first one is, and then the other one where the
first one ended. -/
lemma runOn_parseItems_append_eq_ok_iff {a b : List Item} {data rest : Octets} {p q : Fields} :
    (parseItems (a ++ b) data).runOn p = (.ok rest, q) ↔
      ∃ left between, (parseItems a data).runOn p = (.ok left, between) ∧
        (parseItems b left).runOn between = (.ok rest, q) := by
  rw [parseItems, Item.parseAll_append, runOn_transaction_bind]
  show _ ↔ ∃ left between, (transaction (Item.parseAll a data)).runOn p = (.ok left, between) ∧
    (transaction (Item.parseAll b left)).runOn between = (.ok rest, q)
  obtain ⟨result, between⟩ := (transaction (Item.parseAll a data)).runOn p
  cases result with
  | error fault => simp
  | ok left =>
      simp only [Prod.mk.injEq, Except.ok.injEq, and_assoc, exists_and_left, exists_eq_left']
      obtain ⟨result, final⟩ := (transaction (Item.parseAll b left)).runOn between
      cases result <;> simp

namespace Item

lemma leavesOf_append (a b : List Item) : leavesOf (a ++ b) = leavesOf a ++ leavesOf b := by
  induction a with
  | nil => rfl
  | cons i a ih => rw [List.cons_append, leavesOf, ih, leavesOf, List.append_assoc]

lemma areReadable_append (a b : List Item) :
    areReadable (a ++ b) = (areReadable a && areReadable b) := by
  induction a with
  | nil => rfl
  | cons i a ih => rw [List.cons_append, areReadable, ih, areReadable, Bool.and_assoc]

end Item

variable {items : List Item}

/-- Items in a compound are read as if they stood there by themselves. -/
lemma runOn_parseItems_compound {before after : List Item}
    (readable : Item.areReadable (before ++ items ++ after) = true) (data : Octets) (p : Fields) :
    (parseItems (before ++ .compound items :: after) data).runOn p =
      (parseItems (before ++ items ++ after) data).runOn p := by
  have grouped : Item.areReadable (before ++ .compound items :: after) = true := by
    rwa [Item.areReadable_append, Item.areReadable, Item.isReadable, ← Bool.and_assoc,
      ← Item.areReadable_append, ← Item.areReadable_append]
  have leaves : Item.leavesOf (before ++ .compound items :: after) =
      Item.leavesOf (before ++ items ++ after) := by
    rw [Item.leavesOf_append, Item.leavesOf, Item.leaves, ← List.append_assoc,
      ← Item.leavesOf_append, ← Item.leavesOf_append]
  rw [runOn_parseItems grouped, runOn_parseItems readable, leaves]

/-- Items are read to their end exactly when their leaves have a run, whose numbers they fill
in. -/
lemma runOn_parseItems_eq_ok_iff (readable : Item.areReadable items = true) {data rest : Octets}
    {p q : Fields} :
    (parseItems items data).runOn p = (.ok rest, q) ↔
      ∃ numbers, Leaf.Run (Item.leavesOf items) data numbers rest ∧ q = p.assign numbers := by
  rw [runOn_parseItems readable]
  constructor
  · intro h
    cases read : Leaf.parseAll (Item.leavesOf items) data with
    | error c =>
        rw [read] at h
        cases h
    | ok reading =>
        rw [read] at h
        cases h
        exact ⟨reading.1, Leaf.parseAll_eq_ok_iff.mp read, rfl⟩
  · rintro ⟨numbers, run, rfl⟩
    rw [Leaf.parseAll_eq_ok_iff.mpr run]
    rfl

/-- Items are not read exactly when a run comes to a leaf that fails, and then nothing is filled
in. -/
lemma runOn_parseItems_eq_error_iff (readable : Item.areReadable items = true) {data : Octets}
    {p q : Fields} {fault : Fault} :
    (parseItems items data).runOn p = (.error fault, q) ↔
      q = p ∧ ∃ before l after numbers rest cause,
        Item.leavesOf items = before ++ l :: after ∧ Leaf.Run before data numbers rest ∧
          l.Misses rest cause ∧ fault = .ofCause cause := by
  -- items in a row are a transaction over their leaves, so a miss leaves the fields alone
  rw [runOn_parseItems readable]
  constructor
  · intro h
    cases read : Leaf.parseAll (Item.leavesOf items) data with
    | error c =>
        rw [read] at h
        cases h
        obtain ⟨before, l, after, numbers, rest, split, run, misses⟩ :=
          Leaf.parseAll_eq_error_iff.mp read
        exact ⟨rfl, before, l, after, numbers, rest, c, split, run, misses, rfl⟩
    | ok reading =>
        rw [read] at h
        cases h
  · rintro ⟨rfl, before, l, after, numbers, rest, cause, split, run, misses, rfl⟩
    rw [Leaf.parseAll_eq_error_iff.mpr ⟨before, l, after, numbers, rest, split, run, misses⟩]
    rfl

/-- **Nested reading is a flat run.**  Items of any depth are read exactly when their leaves take
their tokens one after the other.  What is left is then the rest of the text behind the tokens, and
each field holds the last number that a token gives for it, or what it held before.  Otherwise the
first leaf that fails is reported, and the fields are as they were.  So a row of items may be read
in two parts, and items may be put together in a compound. -/
theorem parseItems_refines_run (readable : Item.areReadable items = true) (data : Octets)
    (p : Fields) :
    (∀ rest q, (parseItems items data).runOn p = (.ok rest, q) ↔
      ∃ numbers, Leaf.Run (Item.leavesOf items) data numbers rest ∧
        ∀ f, q.get f = (numbers.reverse.lookup f).or (p.get f)) ∧
      (∀ fault q, (parseItems items data).runOn p = (.error fault, q) ↔
        q = p ∧ ∃ before l after numbers rest cause,
          Item.leavesOf items = before ++ l :: after ∧ Leaf.Run before data numbers rest ∧
            l.Misses rest cause ∧ fault = .ofCause cause) ∧
      (∀ numbers rest, Leaf.Run (Item.leavesOf items) data numbers rest →
        ∃ consumed, data = consumed ++ rest) ∧
      (∀ more rest q, (parseItems (items ++ more) data).runOn p = (.ok rest, q) ↔
        ∃ left between, (parseItems items data).runOn p = (.ok left, between) ∧
          (parseItems more left).runOn between = (.ok rest, q)) ∧
      (∀ before after, Item.areReadable before = true → Item.areReadable after = true →
        (parseItems (before ++ .compound items :: after) data).runOn p =
          (parseItems (before ++ items ++ after) data).runOn p) := by
  refine ⟨?_, ?_, ?_, ?_, ?_⟩
  · intro rest q
    -- of several numbers for one field the last one stands
    have overwritten (numbers : List (Field × Int)) : q = p.assign numbers ↔
        ∀ f, q.get f = (numbers.reverse.lookup f).or (p.get f) := by
      simp only [← Fields.get_assign]
      exact ⟨fun same f => by rw [same], Fields.ext⟩
    simp only [runOn_parseItems_eq_ok_iff readable, overwritten]
  · intro fault q
    exact runOn_parseItems_eq_error_iff readable
  · intro numbers rest run
    obtain ⟨consumed, same⟩ := run.suffix
    exact ⟨consumed, same.symm⟩
  · intro more rest q
    exact runOn_parseItems_append_eq_ok_iff
  · intro before after hb ha
    apply runOn_parseItems_compound
    rw [Item.areReadable_append, Item.areReadable_append, hb, readable, ha]
    rfl

/-- A day that is read twice, the second time in a compound within a compound: the later number
stands. -/
theorem parseItems_day_read_twice :
    let items : List Item := [.compound [.component (.day .zero),
      .compound [.literal [45], .bare (.day .none)]], .compound []]
    let data := Octets.ofAscii "01-2x"
    Item.areReadable items = true ∧
      (parseItems items data).runOn .empty = (.ok (Octets.ofAscii "x"),
        (Fields.empty.put .day (some 1)).put .day (some 2)) ∧
      ∃ numbers, Leaf.Run (Item.leavesOf items) data numbers (Octets.ofAscii "x") ∧
        ∀ f, ((Fields.empty.put .day (some 1)).put .day (some 2)).get f =
          (numbers.reverse.lookup f).or (Fields.empty.get f) := by
  intro items data
  have readable : Item.areReadable items = true := rfl
  have read : (parseItems items data).runOn .empty = (.ok (Octets.ofAscii "x"),
      (Fields.empty.put .day (some 1)).put .day (some 2)) := rfl
  exact ⟨readable, read, ((parseItems_refines_run readable data .empty).1 _ _).mp read⟩

end CalendarText
