/-
Readings that take phrases of one kind.

What a reading of fixed shape takes from the front of a text does not depend on what follows.  So
it can be said which texts are taken, and with which numbers, and a row of readings takes the texts
that are put together of what each of them takes.

* `Phrase`: a kind of text, with the numbers that each text gives; `Phrase.Seq`: one text behind
  another;
* `Reading.Takes`: a reading takes the texts of a kind whose numbers the fields can hold;
* `Reading.takes_andThen_of_delimited`, `Reading.Takes.andThen`: readings one after the other;
* `Leaf.takes_cons`: leaves in a row;
* `Component.takes_number`, `Component.takes_month`, `Component.takes_offsetHour`: components that
  are padded with zeros.
-/
import CalendarText.Proofs.Fields.Quantity
import CalendarText.Proofs.Reading.Run
import CalendarText.Proofs.Text.Numeral

namespace CalendarText

open Numeral (Shows field? value)

/-! ### Phrases -/

/-- A kind of text: which texts are of this kind, each of them with the numbers that it gives. -/
abbrev Phrase :=
  Octets → List (Field × Int) → Prop

namespace Phrase

/-- A text of one kind, and behind it a text of another one. -/
inductive Seq (K L : Phrase) : Phrase
  | append {a b : Octets} {m n : List (Field × Int)} : K a m → L b n → Seq K L (a ++ b) (m ++ n)

/-- One text that gives nothing. -/
inductive Exactly (text : Octets) : Phrase
  | itself : Exactly text text []

/-- A number in an exact count of digits, for one field. -/
inductive Number (width : Nat) (f : Field) : Phrase
  | digits {text : Octets} {n : Nat} : Shows width text n → Number width f text [(f, n)]

/-- Hours in two digits behind a sign. -/
inductive SignedHours : Phrase
  | signed (sign : Sign) {text : Octets} {n : Nat} : Shows 2 text n →
    SignedHours (sign.octet :: text) [(.offsetHour, Sign.apply (some sign) n),
      (.offsetIsNegative, if sign = .minus then 1 else 0)]

end Phrase

/-- Every field can hold the number that is meant for it. -/
def Admitted (numbers : List (Field × Int)) : Prop :=
  ∀ q ∈ numbers, q.1.admits q.2 = true

namespace Reading

/-- A reading takes the texts of a kind whose numbers the fields can hold, and nothing else,
whatever follows. -/
def Takes (reading : Octets → Except Cause Reading) (L : Phrase) : Prop :=
  ∀ data numbers rest, reading data = .ok (numbers, rest) ↔
    Admitted numbers ∧ ∃ text, data = text ++ rest ∧ L text numbers

lemma andThen_eq_ok_iff {first : Except Cause Reading} {next : Octets → Except Cause Reading}
    {numbers : List (Field × Int)} {rest : Octets} :
    andThen first next = .ok (numbers, rest) ↔
      ∃ m left n, first = .ok (m, left) ∧ next left = .ok (n, rest) ∧ numbers = m ++ n := by
  constructor
  · intro h
    cases first with
    | error c => cases h
    | ok reading =>
        obtain ⟨⟨n, last⟩, later, same⟩ := Outcome.map_eq_ok_iff.mp h
        cases same
        exact ⟨reading.1, reading.2, n, rfl, later, rfl⟩
  · rintro ⟨m, left, n, rfl, later, rfl⟩
    exact Outcome.map_eq_ok_iff.mpr ⟨(n, rest), later, rfl⟩

lemma Takes.congr {reading : Octets → Except Cause Reading} {K L : Phrase}
    (takes : Takes reading K) (same : ∀ text numbers, K text numbers ↔ L text numbers) :
    Takes reading L := by
  intro data numbers rest
  simp only [takes data numbers rest, same]

/-- Two readings one after the other, of which the first need only take its texts whole in front of
those of the second. -/
lemma takes_andThen_of_delimited {first next : Octets → Except Cause Reading} {K L : Phrase}
    (sound : ∀ data m left, first data = .ok (m, left) →
      Admitted m ∧ ∃ a, data = a ++ left ∧ K a m)
    (complete : ∀ a m b n rest, Admitted m → K a m → L b n →
      first (a ++ (b ++ rest)) = .ok (m, b ++ rest))
    (takesL : Takes next L) :
    Takes (fun data => Reading.andThen (first data) next) (K.Seq L) := by
  intro data numbers rest
  rw [andThen_eq_ok_iff]
  constructor
  · rintro ⟨m, left, n, read, later, rfl⟩
    obtain ⟨holdM, a, rfl, inK⟩ := sound data m left read
    obtain ⟨holdN, b, rfl, inL⟩ := (takesL _ _ _).mp later
    exact ⟨List.forall_mem_append.mpr ⟨holdM, holdN⟩, a ++ b, (List.append_assoc a b rest).symm,
      .append inK inL⟩
  · rintro ⟨hold, text, rfl, member⟩
    obtain @⟨a, b, m, n, inK, inL⟩ := member
    obtain ⟨holdM, holdN⟩ := List.forall_mem_append.mp hold
    -- the first reading is asked with the second phrase behind it, which delimits it
    have read := complete a m b n rest holdM inK inL
    rw [← List.append_assoc] at read
    exact ⟨m, b ++ rest, n, read, (takesL _ _ _).mpr ⟨holdN, b, rfl, inL⟩, rfl⟩

/-- Readings one after the other take texts that stand one behind the other. -/
lemma Takes.andThen {first next : Octets → Except Cause Reading} {K L : Phrase}
    (takesK : Takes first K) (takesL : Takes next L) :
    Takes (fun data => Reading.andThen (first data) next) (K.Seq L) :=
  takes_andThen_of_delimited (fun _ _ _ read => (takesK _ _ _).mp read)
    (fun a _ _ _ _ hold inK _ => (takesK _ _ _).mpr ⟨hold, a, rfl, inK⟩) takesL

end Reading

/-! ### Leaves -/

namespace Leaf

/-- A leaf takes the texts of a kind whose numbers the fields can hold. -/
abbrev Takes (l : Leaf) (L : Phrase) : Prop :=
  Reading.Takes (fun data => l.parse data) L

/-- A literal takes itself. -/
lemma takes_literal (t : Octets) : (literal t).Takes (.Exactly t) := by
  intro data numbers rest
  rw [parse_eq_ok_iff]
  constructor
  · rintro ⟨token, rfl, matched⟩
    cases matched
    exact ⟨List.forall_mem_nil _, t, rfl, .itself⟩
  · rintro ⟨-, text, rfl, member⟩
    cases member
    exact ⟨t, rfl, .literal t⟩

/-- Leaves in a row take texts that stand one behind the other. -/
lemma takes_cons {l : Leaf} {leaves : List Leaf} {K L : Phrase} (first : l.Takes K)
    (others : Reading.Takes (parseAll leaves) L) :
    Reading.Takes (parseAll (l :: leaves)) (K.Seq L) :=
  first.andThen others

lemma takes_singleton {l : Leaf} {L : Phrase} (takes : l.Takes L) :
    Reading.Takes (parseAll [l]) L := by
  intro data numbers rest
  rw [parseAll_singleton]
  exact takes data numbers rest

end Leaf

/-! ### Signs -/

/-- What begins with the octet of a sign has that sign in front. -/
lemma readSign_eq_some_iff {data rest : Octets} {sign : Sign} :
    readSign data = (some sign, rest) ↔ data = sign.octet :: rest := by
  constructor
  · intro h
    cases data with
    | nil => cases h
    | cons b data =>
        rw [readSign] at h
        split at h
        · rename_i plus
          cases h
          rw [plus]
          rfl
        · split at h
          · rename_i minus
            cases h
            rw [minus]
            rfl
          · cases h
  · rintro rfl
    cases sign <;> rfl

lemma readSign_of_isDigit {b : UInt8} (digit : Octets.isDigit b = true) (rest : Octets) :
    readSign (b :: rest) = (none, b :: rest) := by
  have plus : b ≠ 43 := by
    rintro rfl
    exact absurd digit (by decide)
  have minus : b ≠ 45 := by
    rintro rfl
    exact absurd digit (by decide)
  rw [readSign, if_neg plus, if_neg minus]

/-- What does not begin with a sign is left as it is. -/
lemma readSign_of_none {data : Octets} (unsigned : (readSign data).1 = none) :
    readSign data = (none, data) := by
  cases data with
  | nil => rfl
  | cons b rest =>
      rw [readSign] at unsigned ⊢
      split at unsigned
      · cases unsigned
      · rename_i plus
        split at unsigned
        · cases unsigned
        · rename_i minus
          rw [if_neg plus, if_neg minus]

/-! ### Components -/

namespace Component

/-- A component is read when its fields can hold what it gives. -/
lemma parse_eq_ok_iff {c : Component} {data rest : Octets} {numbers : List (Field × Int)} :
    c.parse data = .ok (numbers, rest) ↔
      Admitted numbers ∧ c.read? data = some (numbers, rest) := by
  rw [parse]
  cases c.read? data with
  | none => simp
  | some reading =>
      have all : (reading.1.all fun q => q.1.admits q.2) = true ↔ Admitted reading.1 :=
        List.all_eq_true
      by_cases hold : Admitted reading.1
      · dsimp only
        rw [if_pos (all.mpr hold)]
        constructor
        · intro h
          cases h
          exact ⟨hold, rfl⟩
        · rintro ⟨-, same⟩
          cases same
          rfl
      · dsimp only
        rw [if_neg (mt all.mp hold)]
        constructor
        · intro h
          cases h
        · rintro ⟨holds, same⟩
          cases same
          exact absurd holds hold

/-- A component takes the texts that it gives numbers for, where its fields can hold these. -/
lemma takes_of_read? {c : Component} {L : Phrase}
    (read : ∀ data numbers rest, Admitted numbers →
      (c.read? data = some (numbers, rest) ↔ ∃ text, data = text ++ rest ∧ L text numbers)) :
    (Leaf.component c).Takes L := by
  intro data numbers rest
  show c.parse data = _ ↔ _
  rw [parse_eq_ok_iff]
  exact and_congr_right (read data numbers rest)

lemma readNumber_zero_eq_some_iff {f : Field} {width : Nat} {data rest : Octets}
    {numbers : List (Field × Int)} :
    readNumber f width .zero data = some (numbers, rest) ↔
      ∃ text, data = text ++ rest ∧ Phrase.Number width f text numbers := by
  rw [readNumber, Option.map_eq_some_iff]
  constructor
  · rintro ⟨⟨n, left⟩, read, same⟩
    cases same
    obtain ⟨text, shows, rfl⟩ := Numeral.field?_zero_eq_some_iff.mp read
    exact ⟨text, rfl, .digits shows⟩
  · rintro ⟨text, rfl, member⟩
    obtain @⟨_, n, shows⟩ := member
    exact ⟨(n, rest), Numeral.field?_zero_eq_some_iff.mpr ⟨text, shows, rfl⟩, rfl⟩

/-- A number that is padded with zeros takes its digits. -/
lemma takes_number {c : Component} {f : Field} {width : Nat}
    (same : ∀ data, c.read? data = readNumber f width .zero data) :
    (Leaf.component c).Takes (.Number width f) := by
  apply takes_of_read?
  intro data numbers rest _
  rw [same, readNumber_zero_eq_some_iff]

/-- The number of a month takes its digits: what reading asks of it, its field asks as well. -/
lemma takes_month : (Leaf.component (ofKind .month)).Takes (.Number 2 .month) := by
  apply takes_of_read?
  intro data numbers rest hold
  rw [← readNumber_zero_eq_some_iff]
  show readMonth {} data = _ ↔ _
  rw [readMonth, readNumber, shortWidth]
  cases field? 2 data .zero with
  | none => rfl
  | some read =>
      obtain ⟨n, left⟩ := read
      dsimp only
      split
      · rfl
      · -- a number that is no month is refused here already, and the field would not hold it
        rename_i outside
        constructor
        · intro h
          cases h
        · intro h
          cases h
          have admitted := (Field.admits_iff _ _).mp (hold (.month, n) (by simp))
          simp only [Field.least, Field.greatest] at admitted
          omega

/-- A number that needs a sign stands behind one. -/
lemma readSigned_mandatory_eq_some_iff {width n : Nat} {data rest : Octets}
    {found : Option Sign} :
    readSigned width .zero true data = some (found, n, rest) ↔
      ∃ sign text, found = some sign ∧ Shows width text n ∧
        data = sign.octet :: (text ++ rest) := by
  rw [readSigned]
  constructor
  · intro h
    cases signed : readSign data with
    | mk front behind =>
        rw [signed] at h
        cases front with
        | none => cases h
        | some sign =>
            obtain ⟨⟨k, last⟩, number, same⟩ := Option.map_eq_some_iff.mp h
            cases same
            obtain ⟨text, shows, rfl⟩ := Numeral.field?_zero_eq_some_iff.mp number
            exact ⟨sign, text, rfl, shows, readSign_eq_some_iff.mp signed⟩
  · rintro ⟨sign, text, rfl, shows, rfl⟩
    have number : field? width (text ++ rest) .zero = some (n, rest) :=
      Numeral.field?_zero_eq_some_iff.mpr ⟨text, shows, rfl⟩
    rw [readSign_eq_some_iff.mpr rfl]
    show (field? width (text ++ rest) .zero).map _ = _
    rw [number]
    rfl

/-- Hours of an offset that need a sign take the sign and their digits. -/
lemma takes_offsetHour :
    (Leaf.component (offsetHour { signMandatory := true })).Takes .SignedHours := by
  have flag (sign : Sign) : (if some sign = some Sign.minus then (1 : Int) else 0) =
      if sign = .minus then 1 else 0 := by
    cases sign <;> rfl
  apply takes_of_read?
  intro data numbers rest _
  rw [read?, readOffsetHour, Option.map_eq_some_iff]
  constructor
  · rintro ⟨⟨found, n, left⟩, read, same⟩
    cases same
    obtain ⟨sign, text, rfl, shows, rfl⟩ := readSigned_mandatory_eq_some_iff.mp read
    rw [flag]
    exact ⟨sign.octet :: text, rfl, .signed sign shows⟩
  · rintro ⟨text, rfl, member⟩
    obtain @⟨sign, run, n, shows⟩ := member
    have read : readSigned 2 .zero true (sign.octet :: (run ++ rest)) = some (some sign, n, rest) :=
      readSigned_mandatory_eq_some_iff.mpr ⟨sign, run, rfl, shows, rfl⟩
    refine ⟨(some sign, n, rest), read, ?_⟩
    dsimp only
    rw [flag]

end Component

end CalendarText
