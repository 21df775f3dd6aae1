/-
How far reading looks ahead.

Where a token ends depends on the text behind it: digits may go on, and so may spaces, or a name
that begins like a shorter one.  All of that is settled by one octet.  So once a description has
been read up to some place, everything behind the next octet can be exchanged.

* `OneAhead`: a reader looks at its token and at one octet behind it;
* `Numeral.oneAhead_run?`, `Numeral.oneAhead_field?`: digits, and numbers in a padded field;
* `oneAhead_firstMatch`: names that are apart from each other;
* `Component.oneAhead_read?`: each component;
* `Leaf.Run.oneAhead`, `Layout.Matches.oneAhead`: leaves in a row, and whole layouts;
* `Layout.isReadable_of_runOn`: only what can be read is ever read to its end;
* `runOn_parseFormat_eq_ok_iff_matches`: parsing takes what the layout of a description matches;
* `parseFormat_oneAhead`: parsing depends on what it takes and on the octet behind that.
-/
import CalendarText.Proofs.Reading.Layout

namespace CalendarText

open FieldReader
open Numeral (field? paddedRun? run?)

/-- A reader that takes a token looks at the token and at the first octet behind it: what stands
behind this octet can be exchanged. -/
def OneAhead {A : Type} (read : Octets → Option (A × Octets)) : Prop :=
  ∀ ⦃token rest : Octets⦄ ⦃b : UInt8⦄ ⦃a : A⦄, read (token ++ b :: rest) = some (a, b :: rest) →
    ∀ other, read (token ++ b :: other) = some (a, b :: other)

variable {b : UInt8} {token rest other : Octets} {numbers : List (Field × Int)}

/-- What is made of a token looks no further ahead than the token does. -/
lemma OneAhead.map {A B : Type} {read : Octets → Option (A × Octets)} (ahead : OneAhead read)
    (f : A → B) : OneAhead fun data => (read data).map fun x => (f x.1, x.2) := by
  intro token rest b a h other
  obtain ⟨⟨n, left⟩, taken, same⟩ := Option.map_eq_some_iff.mp h
  cases same
  dsimp only
  rw [ahead taken other]
  rfl

/-! ### Numbers -/

namespace Numeral

/-- Whether a run goes on is settled by the octet behind it. -/
lemma oneAhead_run? (least most : Nat) : OneAhead (run? least most) := by
  intro token rest b run h other
  obtain ⟨parts, digits, long, short, ends⟩ := run?_eq_some_iff.mp h
  obtain rfl := List.append_cancel_right parts
  exact run?_eq_some_iff.mpr ⟨rfl, digits, long, short, ends⟩

/-- A field is filled from its front, so the spaces in it are counted within its token. -/
lemma oneAhead_paddedRun? (width : Nat) (padding : Padding) :
    OneAhead fun data => paddedRun? width data padding := by
  cases padding with
  | none => exact oneAhead_run? 1 width
  | zero => exact oneAhead_run? width width
  | space =>
      intro token rest b run h other
      dsimp only at h ⊢
      rw [paddedRun?] at h ⊢
      -- the digits stand behind the spaces and fill the field
      have inside : width - 1 ≤ token.length ∧
          (((token ++ b :: rest).take (width - 1)).takeWhile (· == 32)).length ≤
            token.length := by
        obtain ⟨parts, -, long, short, -⟩ := run?_eq_some_iff.mp h
        have sizes := congrArg List.length parts
        rw [List.length_drop, List.length_append, List.length_append, List.length_cons] at sizes
        omega
      rw [List.take_append_of_le_length inside.1] at h inside ⊢
      rw [List.drop_append_of_le_length inside.2] at h ⊢
      exact oneAhead_run? _ _ h other

lemma oneAhead_field? (width : Nat) (padding : Padding) :
    OneAhead fun data => field? width data padding :=
  (oneAhead_paddedRun? width padding).map value

end Numeral

/-- A number that is taken on a condition looks no further ahead than the number. -/
lemma oneAhead_of_if {B : Type} (width : Nat) (padding : Padding) (taken : Nat → Prop)
    [DecidablePred taken] (f : Nat → B) :
    OneAhead fun data => match field? width data padding with
      | some (n, rest) => if taken n then some (f n, rest) else none
      | none => none := by
  intro token rest b a h other
  obtain ⟨n, read, meets, rfl⟩ := taken_of_if h
  have again := Numeral.oneAhead_field? width padding read other
  dsimp only at again ⊢
  rw [again]
  exact if_pos meets

/-! ### Names -/

/-- Where a name stands no other one does, so a longer one does not begin to match. -/
lemma oneAhead_firstMatch {names : List Octets} (apart : names.Pairwise Apart)
    (caseSensitive : Bool) : OneAhead fun data => firstMatch data names caseSensitive := by
  intro token rest b i h other
  obtain ⟨name, place, stands⟩ := (firstMatch_eq_some_iff apart).mp h
  rw [behindName?_append_eq_some_iff] at stands
  exact (firstMatch_eq_some_iff apart).mpr
    ⟨name, place, behindName?_append_eq_some_iff.mpr stands⟩

/-! ### Components -/

/-- A sign stands at the front of a token, or it is the octet behind an empty one. -/
lemma readSign_append (token : Octets) (b : UInt8) :
    (∃ sign left, ∀ behind, readSign (token ++ b :: behind) = (sign, left ++ b :: behind)) ∨
      ∃ sign, ∀ behind, readSign (token ++ b :: behind) = (some sign, behind) := by
  -- only the octet in front decides, so the sign is seen within one octet of lookahead
  cases token with
  | nil =>
      by_cases plus : b = 43
      · exact .inr ⟨.plus, fun behind => by simp [readSign, plus]⟩
      · by_cases minus : b = 45
        · exact .inr ⟨.minus, fun behind => by simp [readSign, minus]⟩
        · exact .inl ⟨none, [], fun behind => by simp [readSign, plus, minus]⟩
  | cons c token =>
      refine .inl ?_
      by_cases plus : c = 43
      · exact ⟨some .plus, token, fun behind => by simp [readSign, plus]⟩
      · by_cases minus : c = 45
        · exact ⟨some .minus, token, fun behind => by simp [readSign, minus]⟩
        · exact ⟨none, c :: token, fun behind => by simp [readSign, plus, minus]⟩

namespace Component

lemma oneAhead_readNumber (f : Field) (width : Nat) (padding : Padding) :
    OneAhead (readNumber f width padding) :=
  (Numeral.oneAhead_field? width padding).map fun n => [(f, (n : Int))]

lemma oneAhead_readSigned {width : Nat} {padding : Padding} {mandatory : Bool}
    {sign : Option Sign} {n : Nat}
    (h : readSigned width padding mandatory (token ++ b :: rest) = some (sign, n, b :: rest))
    (other : Octets) :
    readSigned width padding mandatory (token ++ b :: other) = some (sign, n, b :: other) := by
  obtain ⟨front, left, signed⟩ | ⟨front, signed⟩ := readSign_append token b
  · rw [readSigned, signed] at h ⊢
    dsimp only at h ⊢
    split at h
    · cases h
    · rename_i optional
      obtain ⟨⟨m, behind⟩, read, same⟩ := Option.map_eq_some_iff.mp h
      cases same
      have again := Numeral.oneAhead_field? width padding read other
      dsimp only at again
      rw [if_neg optional, again]
      rfl
  · -- the sign is taken, and cannot be left
    rw [readSigned, signed] at h
    obtain ⟨⟨m, behind⟩, read, same⟩ := Option.map_eq_some_iff.mp h
    cases same
    have shorter := (Numeral.suffix_of_field? read).length_le
    rw [List.length_cons] at shorter
    omega

lemma oneAhead_readYear (o : YearOptions) : OneAhead (readYear o) := by
  intro token rest b numbers h other
  rw [readYear] at h ⊢
  split at h
  · exact oneAhead_readNumber _ _ _ h other
  · obtain ⟨⟨sign, n, left⟩, read, same⟩ := Option.map_eq_some_iff.mp h
    cases same
    rw [oneAhead_readSigned read other]
    rfl

lemma oneAhead_readMonth (o : MonthOptions) : OneAhead (readMonth o) := by
  have named {names : List Octets} (apart : names.Pairwise Apart) :=
    (oneAhead_firstMatch apart o.caseSensitive).map fun i => [(Field.month, (i : Int) + 1)]
  obtain ⟨padding, form, caseSensitive⟩ := o
  cases form with
  | numerical =>
      exact oneAhead_of_if shortWidth padding (fun n => 1 ≤ n ∧ n ≤ 12)
        fun n => [(Field.month, (n : Int))]
  | long => exact named Month.pairwise_apart_name
  | short => exact named Month.pairwise_apart_shortName

lemma oneAhead_readWeekday (o : WeekdayOptions) : OneAhead (readWeekday o) := by
  have named {names : List Octets} (apart : names.Pairwise Apart) :=
    (oneAhead_firstMatch apart o.caseSensitive).map fun i => [(Field.weekday, (i : Int))]
  intro token rest b numbers h other
  rw [readWeekday] at h ⊢
  dsimp only at h ⊢
  split at h
  · exact named Weekday.pairwise_apart_name h other
  · exact named Weekday.pairwise_apart_shortName h other
  · exact oneAhead_of_if 1 .none _ _ h other
  · exact oneAhead_of_if 1 .none _ _ h other

lemma oneAhead_readSubsecond (d : SubsecondDigits) : OneAhead (readSubsecond d) := by
  have made (least most : Nat) := (Numeral.oneAhead_run? least most).map fun run =>
    [(Field.subsecond, ((Numeral.value run * Numeral.scale (9 - run.length) : Nat) : Int))]
  cases d with
  | exactly n => exact made _ _
  | oneOrMore => exact made 1 9

/-- A component looks at its token and at one octet behind it. -/
lemma oneAhead_read? (c : Component) : OneAhead fun data => c.read? data := by
  cases c with
  | day p | ordinal p | minute p | second p | offsetMinute p | offsetSecond p =>
      exact oneAhead_readNumber _ _ _
  | month o => exact oneAhead_readMonth o
  | weekday o => exact oneAhead_readWeekday o
  | weekNumber o => exact oneAhead_readNumber _ _ _
  | year o => exact oneAhead_readYear o
  | hour o => exact oneAhead_readNumber _ _ _
  | period o =>
      exact (oneAhead_firstMatch (pairwise_apart_periodName o.uppercase) o.caseSensitive).map
        fun i => [(Field.hour12IsPm, (i : Int))]
  | subsecond d => exact oneAhead_readSubsecond d
  | offsetHour o =>
      intro token rest b numbers h other
      obtain ⟨⟨sign, n, left⟩, read, same⟩ := Option.map_eq_some_iff.mp h
      cases same
      exact Option.map_eq_some_iff.mpr ⟨_, oneAhead_readSigned read other, rfl⟩

end Component

/-! ### Rows of leaves, and layouts -/

lemma Leaf.Matches.oneAhead {l : Leaf} (matched : l.Matches (b :: rest) token numbers)
    (other : Octets) : l.Matches (b :: other) token numbers := by
  cases matched with
  | literal => exact .literal _
  | component read =>
      obtain ⟨admitted, read⟩ := Component.parse_eq_ok_iff.mp read
      exact .component (Component.parse_eq_ok_iff.mpr
        ⟨admitted, Component.oneAhead_read? _ read other⟩)

/-- Behind each leaf of a run stands the octet that the next one begins with, or in the end the one
that is left. -/
lemma Leaf.Run.oneAhead {leaves : List Leaf}
    (run : Run leaves (token ++ b :: rest) numbers (b :: rest)) (other : Octets) :
    Run leaves (token ++ b :: other) numbers (b :: other) := by
  generalize text : token ++ b :: rest = data at run
  generalize left : b :: rest = final at run
  induction run generalizing token with
  | nil data =>
      subst left
      obtain rfl : token = [] := by simpa using text
      exact .nil _
  -- each leaf has its own octet ahead: the next one's first octet, or the one behind the run
  | @cons l leaves first data final taken others matched run ih =>
      subst left
      obtain ⟨later, rfl⟩ := run.suffix
      obtain rfl : token = first ++ later := by
        rw [← List.append_assoc] at text
        exact List.append_cancel_right text
      rw [List.append_assoc]
      refine .cons ?_ (ih rfl rfl)
      cases later with
      | nil => exact matched.oneAhead other
      | cons c later => exact matched.oneAhead _

lemma Layout.Matches.oneAhead {l : Layout} (matched : l.Matches (b :: rest) token numbers)
    (other : Octets) : l.Matches (b :: other) token numbers := by
  cases matched with
  | items run => exact .items (run.oneAhead other)
  | rfc3339 spells admitted => exact .rfc3339 spells admitted

/-! ### What is read to its end -/

/-- What a transaction ends with is what it does. -/
lemma FieldReader.runOn_of_transaction {A : Type} {x : FieldReader A} {a : A} {p q : Fields}
    (h : (transaction x).runOn p = (.ok a, q)) : x.runOn p = (.ok a, q) := by
  rw [runOn_transaction] at h
  split at h
  · cases h
  · rename_i result
    rw [result, h]

namespace Item

/-- Items that are read to their end can be read, once that holds of each of them. -/
lemma areReadable_of_runOn {items : List Item}
    (each : ∀ i ∈ items, ∀ data rest p q,
      (i.parse data).runOn p = (.ok rest, q) → i.isReadable = true)
    {data : Octets} {p q : Fields} (h : (parseAll items data).runOn p = (.ok rest, q)) :
    areReadable items = true := by
  induction items generalizing data p with
  | nil => rfl
  | cons i items ih =>
      rw [parseAll, runOn_bind] at h
      split at h
      · cases h
      · rename_i left between first
        rw [areReadable, each i (by simp) data left p between first,
          ih (fun j hj => each j (by simp [hj])) h]
        rfl

/-- An item that is read to its end can be read. -/
lemma isReadable_of_runOn (i : Item) (data rest : Octets) (p q : Fields)
    (h : (i.parse data).runOn p = (.ok rest, q)) : i.isReadable = true := by
  induction i using ind generalizing data rest p q with
  | literal t => rfl
  | component c => rfl
  | bare c => rfl
  | compound items ih =>
      rw [parse] at h
      rw [isReadable]
      exact areReadable_of_runOn ih (runOn_of_transaction h)
  | series sort items => cases h
  | stray v => cases h

end Item

/-- A layout that is read to its end can be read. -/
lemma Layout.isReadable_of_runOn {l : Layout} {data : Octets} {p q : Fields}
    (h : (l.parse data).runOn p = (.ok rest, q)) : l.isReadable = true := by
  match l with
  | items members =>
      exact Item.areReadable_of_runOn (fun i _ => i.isReadable_of_runOn)
        (runOn_of_transaction h)
  | wellKnown .rfc3339 => rfl
  | wellKnown .abstract => cases h

/-- What a description takes from the front of a text, and what it does with any fields. -/
lemma runOn_parseFormat_eq_ok_iff_matches {description : Item} {data : Octets} {p q : Fields} :
    (parseFormat description data).runOn p = (.ok rest, q) ↔
      ∃ l token numbers, description.layout = .ok l ∧ l.isReadable = true ∧
        data = token ++ rest ∧ l.Matches rest token numbers ∧ q = p.assign numbers := by
  constructor
  · intro h
    cases known : description.layout with
    | error fault =>
        rw [parseFormat, known] at h
        cases h
    | ok l =>
        have parsed : (l.parse data).runOn p = (.ok rest, q) := by
          rwa [parseFormat, known] at h
        have readable := Layout.isReadable_of_runOn parsed
        obtain ⟨reading, reads⟩ := Layout.exists_reads readable data
        rw [reads.runOn p] at parsed
        cases reading with
        | error cause => cases parsed
        | ok reading =>
            cases parsed
            obtain ⟨token, parts, matched⟩ := (reads.eq_ok_iff reading.1 reading.2).mp rfl
            exact ⟨l, token, reading.1, rfl, readable, parts, matched, rfl⟩
  · rintro ⟨l, token, numbers, known, readable, parts, matched, rfl⟩
    obtain ⟨reading, reads⟩ := Layout.exists_reads readable data
    rw [reads.runOn_parseFormat known, (reads.eq_ok_iff numbers rest).mpr ⟨token, parts, matched⟩]
    rfl

/-- **Parsing looks at what it consumes and at one octet further.**  Where a description takes a
token from the front of a text and leaves something behind it, it takes the same token from every
text that goes on with the same octet behind the token.  Then all that stands behind the token is
left, and the fields are the same.  What is left of a text is always an end of that text. -/
theorem parseFormat_oneAhead (description : Item) (p q : Fields) :
    (∀ consumed rest other : Octets, rest ≠ [] → other.head? = rest.head? →
      (parseFormat description (consumed ++ rest)).runOn p = (.ok rest, q) →
      (parseFormat description (consumed ++ other)).runOn p = (.ok other, q)) ∧
      ∀ data rest : Octets, (parseFormat description data).runOn p = (.ok rest, q) →
        rest <:+ data := by
  constructor
  · intro consumed rest other more next h
    obtain ⟨b, rest, rfl⟩ := List.exists_cons_of_ne_nil more
    obtain ⟨other, rfl⟩ : ∃ behind, other = b :: behind := List.head?_eq_some_iff.mp next
    -- what was consumed is the token, and the token matches as well in front of the other rest
    obtain ⟨l, token, numbers, known, readable, parts, matched, rfl⟩ :=
      runOn_parseFormat_eq_ok_iff_matches.mp h
    obtain rfl := List.append_cancel_right parts
    exact runOn_parseFormat_eq_ok_iff_matches.mpr
      ⟨l, consumed, numbers, known, readable, rfl, matched.oneAhead other, rfl⟩
  · intro data rest h
    obtain ⟨l, token, numbers, -, -, parts, -⟩ := runOn_parseFormat_eq_ok_iff_matches.mp h
    exact ⟨token, parts.symm⟩

/-- A day of one digit in front of a letter: what stands behind the letter does not matter. -/
theorem parseFormat_oneAhead_day :
    let description : Item := .compound [.literal (Octets.ofAscii "on "), .bare (.day .none)]
    let consumed := Octets.ofAscii "on 5"
    let q := Fields.empty.put .day (some 5)
    (parseFormat description (consumed ++ Octets.ofAscii "th")).runOn .empty =
        (.ok (Octets.ofAscii "th"), q) ∧
      (parseFormat description (consumed ++ Octets.ofAscii "t6")).runOn .empty =
        (.ok (Octets.ofAscii "t6"), q) := by
  intro description consumed q
  have read : (parseFormat description (consumed ++ Octets.ofAscii "th")).runOn .empty =
      (.ok (Octets.ofAscii "th"), q) := rfl
  exact ⟨read, (parseFormat_oneAhead description .empty q).1 consumed (Octets.ofAscii "th")
    (Octets.ofAscii "t6") (by decide) rfl read⟩

end CalendarText
