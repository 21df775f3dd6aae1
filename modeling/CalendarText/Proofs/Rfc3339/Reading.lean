/-
The internet format read: which texts are taken, and which numbers they give.

* `Stamp.numbers`: the numbers of a stamp, with their fields;
* `read`, `reads_parse`: what reading amounts to, without the fields that it fills in;
* `fractionDigits_of_parse`, `parse_fractionDigits`: the digits that are taken behind a point;
* `Spells.exists_cut`, `Spells.zone_unique`: the parts of a text in the format, and its one zone;
* `takes_read`: the texts that are taken are those that are spelled as the format prescribes.
-/
import CalendarText.Proofs.Reading.Phrase
import CalendarText.Proofs.Rfc3339.Layout
import CalendarText.Rfc3339.Reader

namespace CalendarText.Rfc3339

open FieldReader
open Phrase (Exactly Number SignedHours)
open Numeral (run? value)
open Octets (isDigit EndsNumber)
open Reading (Takes andThen)

/-! ### Numbers -/

/-- The number of a fraction, if there is one. -/
def fractionNumbers : Option Nat → List (Field × Int)
  | none => []
  | some n => [(.subsecond, n)]

/-- The numbers of a zone. -/
def Zone.numbers : Zone → List (Field × Int)
  | zulu => zuluFields
  | offset sign h m =>
    [(.offsetHour, Sign.apply (some sign) h), (.offsetIsNegative, if sign = .minus then 1 else 0),
      (.offsetMinute, m)]

/-- The numbers of a stamp, in the order in which they are read. -/
def Stamp.numbers (s : Stamp) : List (Field × Int) :=
  (.year, s.year) :: (.month, s.month) :: (.day, s.day) :: (.hour24, s.hour) ::
    (.minute, s.minute) :: (.second, s.second) :: (fractionNumbers s.fraction ++ s.zone.numbers)

/-! ### Reading without fields -/

/-- The date, at the front of a text that begins with no sign. -/
def readDate (data : Octets) : Except Cause Reading :=
  if (readSign data).1 = none then Leaf.parseAll (Item.leavesOf dateItems) data
  else .error (.component Kind.year.displayName)

/-- The letter between date and time. -/
def readSeparator : Octets → Except Cause Reading
  | b :: rest => if b = 84 ∨ b = 116 then .ok ([], rest) else .error .literal
  | [] => .error .literal

/-- A fraction of a second, if there is a point. -/
def readFraction : Octets → Except Cause Reading
  | b :: rest => if b = 46 then (Component.ofKind .subsecond).parse rest else .ok ([], b :: rest)
  | [] => .ok ([], [])

/-- The letter for UTC, or an offset. -/
def readZone : Octets → Except Cause Reading
  | b :: rest =>
    if b = 90 ∨ b = 122 then .ok (zuluFields, rest)
    else Leaf.parseAll (Item.leavesOf offsetItems) (b :: rest)
  | [] => Leaf.parseAll (Item.leavesOf offsetItems) []

/-- A date, a time and an offset at the front of a text. -/
def read (data : Octets) : Except Cause Reading :=
  andThen (readDate data) fun data =>
    andThen (readSeparator data) fun data =>
      andThen (Leaf.parseAll (Item.leavesOf timeItems) data) fun data =>
        andThen (readFraction data) readZone

lemma reads_parseDate (data : Octets) : Reads (parseDate data) (readDate data) := by
  rw [parseDate, readDate]
  split
  · exact reads_parseItems rfl data
  · exact reads_fail _

lemma reads_parseSeparator (data : Octets) : Reads (parseSeparator data) (readSeparator data) := by
  cases data with
  | nil => exact reads_fail _
  | cons b rest =>
      rw [parseSeparator, readSeparator]
      split
      · exact reads_pure rest
      · exact reads_fail _

lemma reads_parseFraction (data : Octets) : Reads (parseFraction data) (readFraction data) := by
  cases data with
  | nil => exact reads_pure []
  | cons b rest =>
      rw [parseFraction, readFraction]
      split
      · exact reads_fillIn _
      · exact reads_pure _

lemma reads_parseZone (data : Octets) : Reads (parseZone data) (readZone data) := by
  cases data with
  | nil => exact reads_parseItems rfl []
  | cons b rest =>
      rw [parseZone, readZone]
      split
      · exact reads_fillIn _
      · exact reads_parseItems rfl _

/-- Up to what a failure leaves behind, the parts are read one after the other. -/
lemma reads_parse (data : Octets) : Reads (parse data) (read data) :=
  (reads_parseDate data).bind fun data =>
    (reads_parseSeparator data).bind fun data =>
      (reads_parseItems rfl data).bind fun data =>
        (reads_parseFraction data).bind reads_parseZone

/-! ### The date and the time -/

/-- A year without a sign takes its four digits. -/
lemma takes_year : Takes (fun data => if (readSign data).1 = none
    then (Component.ofKind .year).parse data else .error (.component Kind.year.displayName))
    (.Number 4 .year) := by
  -- without a sign in front, a year is read like any other number of four digits
  have read? {data : Octets} (unsigned : (readSign data).1 = none) :
      (Component.ofKind .year).read? data = Component.readNumber .year 4 .zero data := by
    show (Component.readSigned 4 .zero false data).map _ = _
    rw [Component.readSigned, readSign_of_none unsigned, Component.readNumber]
    show ((Numeral.field? 4 data .zero).map _).map _ = _
    rw [Option.map_map]
    rfl
  intro data numbers rest
  dsimp only
  constructor
  · intro h
    split at h
    · rename_i unsigned
      obtain ⟨hold, read⟩ := Component.parse_eq_ok_iff.mp h
      rw [read? unsigned] at read
      exact ⟨hold, Component.readNumber_zero_eq_some_iff.mp read⟩
    · cases h
  · rintro ⟨hold, text, rfl, member⟩
    have unsigned : (readSign (text ++ rest)).1 = none := by
      obtain @⟨_, n, shows⟩ := member
      obtain ⟨b, digits, rfl⟩ := List.exists_cons_of_length_eq_add_one shows.length
      rw [List.cons_append, readSign_of_isDigit (shows.digits b (by simp))]
    rw [if_pos unsigned, Component.parse_eq_ok_iff, read? unsigned]
    exact ⟨hold, Component.readNumber_zero_eq_some_iff.mpr ⟨text, rfl, member⟩⟩

/-- A year of four digits, a month and a day, with `-` between them. -/
abbrev DateText : Phrase :=
  (Number 4 .year).Seq <| (Exactly [45]).Seq <| (Number 2 .month).Seq <|
    (Exactly [45]).Seq (.Number 2 .day)

lemma takes_readDate : Takes readDate DateText := by
  have hyphen := Leaf.takes_literal [45]
  have month := Component.takes_month
  have day : (Leaf.component (.ofKind .day)).Takes (.Number 2 .day) :=
    Component.takes_number fun _ => rfl
  have behind := Leaf.takes_cons hyphen <| Leaf.takes_cons month <| Leaf.takes_cons hyphen <|
    Leaf.takes_singleton day
  have parts (data : Octets) : readDate data = andThen (if (readSign data).1 = none
      then (Component.ofKind .year).parse data else .error (.component Kind.year.displayName))
      (Leaf.parseAll [.literal [45], .component (.ofKind .month), .literal [45],
        .component (.ofKind .day)]) := by
    rw [readDate]
    split <;> rfl
  intro data numbers rest
  rw [parts]
  exact takes_year.andThen behind data numbers rest

/-- An hour, a minute and a second, with `:` between them. -/
abbrev TimeText : Phrase :=
  (Number 2 .hour24).Seq <| (Exactly [58]).Seq <| (Number 2 .minute).Seq <|
    (Exactly [58]).Seq (.Number 2 .second)

lemma takes_readTime : Takes (Leaf.parseAll (Item.leavesOf timeItems)) TimeText := by
  have colon := Leaf.takes_literal [58]
  have hour : (Leaf.component (.ofKind .hour)).Takes (.Number 2 .hour24) :=
    Component.takes_number fun _ => rfl
  have minute : (Leaf.component (.ofKind .minute)).Takes (.Number 2 .minute) :=
    Component.takes_number fun _ => rfl
  have second : (Leaf.component (.ofKind .second)).Takes (.Number 2 .second) :=
    Component.takes_number fun _ => rfl
  exact Leaf.takes_cons hour <| Leaf.takes_cons colon <| Leaf.takes_cons minute <|
    Leaf.takes_cons colon <| Leaf.takes_singleton second

/-- The letter between date and time, as a text that gives nothing. -/
inductive Separator : Phrase
  | letter {letter : UInt8} : letter = 84 ∨ letter = 116 → Separator [letter] []

lemma takes_readSeparator : Takes readSeparator Separator := by
  intro data numbers rest
  constructor
  · intro h
    cases data with
    | nil => cases h
    | cons b data =>
        rw [readSeparator] at h
        split at h
        · rename_i letter
          cases h
          exact ⟨List.forall_mem_nil _, [b], rfl, .letter letter⟩
        · cases h
  · rintro ⟨-, text, rfl, member⟩
    obtain @⟨b, letter⟩ := member
    exact if_pos letter

/-! ### The zone -/

/-- The text of a zone, with its numbers. -/
inductive ZoneText : Phrase
  | zone {text : Octets} {z : Zone} : SpellsZone text z → ZoneText text z.numbers

/-- Hours behind a sign, and minutes, with `:` between them. -/
abbrev OffsetText : Phrase :=
  SignedHours.Seq <| (Exactly [58]).Seq (.Number 2 .offsetMinute)

lemma takes_offset : Takes (Leaf.parseAll (Item.leavesOf offsetItems)) OffsetText := by
  have colon := Leaf.takes_literal [58]
  have minutes : (Leaf.component (.ofKind .offsetMinute)).Takes (.Number 2 .offsetMinute) :=
    Component.takes_number fun _ => rfl
  exact Leaf.takes_cons Component.takes_offsetHour <| Leaf.takes_cons colon <|
    Leaf.takes_singleton minutes

lemma zoneText_of_offset {text : Octets} {numbers : List (Field × Int)}
    (member : OffsetText text numbers) : ZoneText text numbers := by
  obtain ⟨⟨sign, hours⟩, ⟨⟨⟩, ⟨minutes⟩⟩⟩ := member
  exact .zone (.offset sign hours minutes)

/-- A zone is UTC by its letter, or an offset. -/
lemma takes_readZone : Takes readZone ZoneText := by
  intro data numbers rest
  constructor
  · intro h
    -- whatever is no letter is left to the offset, an empty text as well
    have offset (read : Leaf.parseAll (Item.leavesOf offsetItems) data = .ok (numbers, rest)) :
        Admitted numbers ∧ ∃ text, data = text ++ rest ∧ ZoneText text numbers := by
      obtain ⟨hold, text, same, member⟩ := (takes_offset _ _ _).mp read
      exact ⟨hold, text, same, zoneText_of_offset member⟩
    cases data with
    | nil => exact offset h
    | cons b data =>
        rw [readZone] at h
        split at h
        · rename_i letter
          cases h
          exact ⟨by unfold Admitted; decide, [b], rfl, .zone (.zulu letter)⟩
        · exact offset h
  · rintro ⟨hold, text, rfl, member⟩
    obtain @⟨_, z, spells⟩ := member
    cases spells with
    | zulu letter => exact if_pos letter
    | offset sign hours minutes =>
        have other : ¬(sign.octet = 90 ∨ sign.octet = 122) := by cases sign <;> decide
        rw [List.cons_append, readZone, if_neg other]
        have member : OffsetText _ _ :=
          .append (.signed sign hours) (.append .itself (.digits minutes))
        exact (takes_offset _ _ _).mpr ⟨hold, _, rfl, member⟩

/-- A zone begins with a letter or a sign, and so with no digit and no point. -/
lemma SpellsZone.exists_head {text : Octets} {z : Zone} (spells : SpellsZone text z) :
    ∃ b tail, text = b :: tail ∧ isDigit b = false ∧ b ≠ 46 := by
  cases spells with
  | @zulu letter h =>
      refine ⟨letter, [], rfl, ?_⟩
      obtain rfl | rfl := h
      · decide
      · decide
  | offset sign hours minutes =>
      refine ⟨sign.octet, _, rfl, ?_⟩
      cases sign <;> decide

/-- A zone ends in a letter exactly if it is UTC by its letter. -/
lemma SpellsZone.last_iff {text : Octets} {z : Zone} (spells : SpellsZone text z) :
    (∀ b ∈ text.getLast?, b ≠ 90 ∧ b ≠ 122) ↔ z ≠ .zulu := by
  cases spells with
  | @zulu letter h =>
      have last : ¬(letter ≠ 90 ∧ letter ≠ 122) := by
        rintro ⟨large, small⟩
        exact h.elim large small
      simpa using last
  | @offset sign hours minutes h m showsHours showsMinutes =>
      refine iff_of_true (fun b mem => ?_) (by simp)
      have last : (sign.octet :: (hours ++ 58 :: minutes)).getLast? = minutes.getLast? := by
        obtain ⟨c, tail, rfl⟩ := List.exists_cons_of_length_eq_add_one showsMinutes.length
        simp [List.getLast?_cons, List.getLast?_append]
      have digit : isDigit b = true :=
        showsMinutes.digits b (List.mem_of_getLast? (last.symm.trans mem))
      constructor
      · rintro rfl
        exact absurd digit (by decide)
      · rintro rfl
        exact absurd digit (by decide)

/-- The zone at the end of a text is the only one there. -/
lemma SpellsZone.unique {front front' text text' : Octets} {z z' : Zone}
    (spells : SpellsZone text z) (spells' : SpellsZone text' z')
    (same : front ++ text = front' ++ text') : z = z' := by
  -- what stands in front may differ in length, so the zones are compared from the end
  have last : text.getLast? = text'.getLast? := by
    obtain ⟨b, tail, rfl, -⟩ := spells.exists_head
    obtain ⟨b', tail', rfl, -⟩ := spells'.exists_head
    simpa [List.getLast?_cons, List.getLast?_append] using congrArg List.getLast? same
  have either := spells.last_iff
  rw [last, spells'.last_iff] at either
  cases spells with
  | zulu => exact (not_not.mp (mt either.mp (by simp))).symm
  | @offset sign hours minutes h m showsHours showsMinutes =>
      cases spells' with
      | zulu => exact absurd rfl (either.mpr (by simp))
      | @offset sign' hours' minutes' h' m' showsHours' showsMinutes' =>
          -- two offsets have the same number of octets, so the texts part at the same place
          have long : (sign.octet :: (hours ++ 58 :: minutes)).length =
              (sign'.octet :: (hours' ++ 58 :: minutes')).length := by
            simp [showsHours.length, showsHours'.length, showsMinutes.length, showsMinutes'.length]
          obtain ⟨octets, digits⟩ := List.cons.inj (List.append_inj' same long).2
          obtain ⟨rfl, behind⟩ :=
            List.append_inj digits (showsHours.length.trans showsHours'.length.symm)
          obtain rfl := (List.cons.inj behind).2
          obtain rfl : sign = sign' := by cases sign <;> cases sign' <;> simp_all [Sign.octet]
          rw [← showsHours.worth, ← showsHours'.worth, ← showsMinutes.worth, ← showsMinutes'.worth]

/-! ### The fraction -/

/-- The text of a fraction, with its number. -/
inductive FractionText : Phrase
  | fraction {text : Octets} {fraction : Option Nat} : SpellsFraction text fraction →
    FractionText text (fractionNumbers fraction)

lemma readSubsecond_eq_some_iff {data rest : Octets} {numbers : List (Field × Int)} :
    Component.readSubsecond .oneOrMore data = some (numbers, rest) ↔
      ∃ run, run? 1 9 data = some (run, rest) ∧
        numbers = [(Field.subsecond, (value (run.rightpad 9 48) : Int))] := by
  show (run? 1 9 data).map _ = _ ↔ _
  rw [Option.map_eq_some_iff]
  simp only [Numeral.value_rightpad, Int.natCast_mul]
  constructor
  · rintro ⟨⟨run, left⟩, read, same⟩
    cases same
    exact ⟨run, read, rfl⟩
  · rintro ⟨run, read, rfl⟩
    exact ⟨(run, rest), read, rfl⟩

/-- The digits of a fraction, with its number. -/
inductive FractionDigits : Phrase
  | digits {run : Octets} {n : Nat} : SpellsFraction (46 :: run) (some n) →
    FractionDigits run [(.subsecond, n)]

/-- What is taken behind the point are the digits of a fraction. -/
lemma fractionDigits_of_parse {data rest : Octets} {numbers : List (Field × Int)}
    (h : (Component.ofKind .subsecond).parse data = .ok (numbers, rest)) :
    Admitted numbers ∧ ∃ run, data = run ++ rest ∧ FractionDigits run numbers := by
  obtain ⟨hold, read⟩ := Component.parse_eq_ok_iff.mp h
  obtain ⟨run, taken, rfl⟩ := readSubsecond_eq_some_iff.mp read
  obtain ⟨least, most, rfl⟩ := Numeral.run?_eq_some taken
  exact ⟨hold, run, rfl, .digits (.digits least most (Numeral.isDigit_of_run? taken))⟩

/-- The digits of a fraction are taken whole in front of what begins with no digit. -/
lemma parse_fractionDigits {run : Octets} {numbers : List (Field × Int)}
    (member : FractionDigits run numbers) (hold : Admitted numbers) {b : UInt8}
    (stop : isDigit b = false) (tail : Octets) :
    (Component.ofKind .subsecond).parse (run ++ b :: tail) = .ok (numbers, b :: tail) := by
  obtain @⟨_, n, spells⟩ := member
  cases spells with
  | digits least most digits =>
      have ends : run.length < 9 → EndsNumber (b :: tail) := by
        rintro - c mem
        cases mem
        exact stop
      have taken := Numeral.run?_append digits least most ends
      exact Component.parse_eq_ok_iff.mpr
        ⟨hold, readSubsecond_eq_some_iff.mpr ⟨run, taken, rfl⟩⟩

/-- What is taken as a fraction is spelled as one. -/
lemma fractionText_of_readFraction {data rest : Octets} {numbers : List (Field × Int)}
    (h : readFraction data = .ok (numbers, rest)) :
    Admitted numbers ∧ ∃ text, data = text ++ rest ∧ FractionText text numbers := by
  cases data with
  | nil =>
      cases h
      exact ⟨List.forall_mem_nil _, [], rfl, .fraction .none⟩
  | cons b data =>
      rw [readFraction] at h
      split at h
      · rename_i point
        subst point
        obtain ⟨hold, run, rfl, ⟨spells⟩⟩ := fractionDigits_of_parse h
        exact ⟨hold, 46 :: run, rfl, .fraction spells⟩
      · cases h
        exact ⟨List.forall_mem_nil _, [], rfl, .fraction .none⟩

/-- A fraction is taken whole in front of what begins with no digit and no point. -/
lemma readFraction_append {text : Octets} {numbers : List (Field × Int)}
    (member : FractionText text numbers) (hold : Admitted numbers) {b : UInt8}
    (stop : isDigit b = false) (other : b ≠ 46) (tail : Octets) :
    readFraction (text ++ b :: tail) = .ok (numbers, b :: tail) := by
  obtain @⟨_, fraction, spells⟩ := member
  cases spells with
  | none => exact if_neg other
  | digits least most digits =>
      exact parse_fractionDigits (.digits (.digits least most digits)) hold stop tail

/-- A fraction is taken together with the zone that ends it. -/
lemma takes_fraction_zone :
    Takes (fun data => andThen (readFraction data) readZone) (FractionText.Seq ZoneText) := by
  refine Reading.takes_andThen_of_delimited (fun _ _ _ => fractionText_of_readFraction) ?_
    takes_readZone
  rintro fraction m zone n rest hold inFraction ⟨spells⟩
  obtain ⟨b, tail, rfl, stop, other⟩ := spells.exists_head
  exact readFraction_append inFraction hold stop other (tail ++ rest)

/-! ### The whole format -/

/-- A text of the format is cut at its letter, and on both sides of its fraction. -/
lemma Spells.exists_cut {text : Octets} {s : Stamp} (spells : Spells text s) :
    ∃ date letter time fraction zone, text = date ++ letter :: (time ++ (fraction ++ zone)) ∧
      DateText date [(.year, s.year), (.month, s.month), (.day, s.day)] ∧
      (letter = 84 ∨ letter = 116) ∧
      TimeText time [(.hour24, s.hour), (.minute, s.minute), (.second, s.second)] ∧
      SpellsFraction fraction s.fraction ∧ SpellsZone zone s.zone := by
  obtain @⟨_, _, _, _, _, _, _, _, _, letter, year, month, day, large, hour, minute, second,
    fraction, zone⟩ := spells
  have date : DateText _ _ := .append (.digits year) <| .append .itself <|
    .append (.digits month) <| .append .itself (.digits day)
  have time : TimeText _ _ := .append (.digits hour) <| .append .itself <|
    .append (.digits minute) <| .append .itself (.digits second)
  exact ⟨_, letter, _, _, _, by simp, date, large, time, fraction, zone⟩

/-- A text of the format says one zone. -/
lemma Spells.zone_unique {text : Octets} {s s' : Stamp} (spells : Spells text s)
    (spells' : Spells text s') : s.zone = s'.zone := by
  obtain ⟨date, letter, time, fraction, zone, rfl, -, -, -, -, inZone⟩ := spells.exists_cut
  obtain ⟨date', letter', time', fraction', zone', same, -, -, -, -, inZone'⟩ := spells'.exists_cut
  have ends : (date ++ letter :: (time ++ fraction)) ++ zone =
      (date' ++ letter' :: (time' ++ fraction')) ++ zone' := by simpa using same
  exact inZone.unique inZone' ends

/-- What is taken are the texts that are spelled as the format prescribes, with the numbers of
their stamps. -/
lemma takes_read : Takes read fun text numbers => ∃ s, Spells text s ∧ s.numbers = numbers := by
  refine (takes_readDate.andThen <| takes_readSeparator.andThen <| takes_readTime.andThen
    takes_fraction_zone).congr ?_
  intro text numbers
  constructor
  · rintro ⟨date, ⟨⟨letter⟩, ⟨time, ⟨⟨fraction⟩, ⟨zone⟩⟩⟩⟩⟩
    obtain ⟨⟨year⟩, ⟨⟨⟩, ⟨⟨month⟩, ⟨⟨⟩, ⟨day⟩⟩⟩⟩⟩ := date
    obtain ⟨⟨hour⟩, ⟨⟨⟩, ⟨⟨minute⟩, ⟨⟨⟩, ⟨second⟩⟩⟩⟩⟩ := time
    refine ⟨⟨_, _, _, _, _, _, _, _⟩, ?_, rfl⟩
    simpa using Spells.stamp year month day letter hour minute second fraction zone
  · rintro ⟨s, spells, rfl⟩
    obtain ⟨_, _, _, _, _, rfl, date, letter, time, fraction, zone⟩ := spells.exists_cut
    have whole : (DateText.Seq <| Separator.Seq <| TimeText.Seq <| FractionText.Seq ZoneText) _ _ :=
      .append date <| .append (.letter letter) <| .append time <|
        .append (.fraction fraction) (.zone zone)
    simpa [Stamp.numbers] using whole

end CalendarText.Rfc3339
