/-
The internet format beside descriptions.

The format has a writer and a reader of its own.  They do what descriptions with the same layout
do, but for what the format leaves open: the size of its letters, a fraction, and a letter for UTC.

* `format_textual`: what the description in a text writes for a date-time at an offset;
* `writeAll?_clock`, `writeAll?_fraction`, `writeAll?_zone`: the parts of the format, written by the
  components of descriptions;
* `Explicit`: a text in which nothing is left open, with `Spells.explicit_iff`;
* `takes_readWhole`: a description takes the texts of the format that are explicit;
* `agrees_with_descriptions`: writing and reading agree.
-/
import CalendarText.Proofs.Description.Canonical
import CalendarText.Proofs.Rfc3339.RoundTrip
import CalendarText.Proofs.Writing.Leaves

namespace CalendarText

/-- The description in a text. -/
abbrev Item.textual (text : String) : Item :=
  .stray (.text (Octets.ofAscii text))

variable {text : String} {leaves : List Leaf}

lemma Item.layout_textual (compiled : Description.compile (Octets.ofAscii text) = .ok leaves) :
    (Item.textual text).layout = .ok (.items (leaves.map Leaf.item)) := by
  rw [layout, Layout.compile, compiled]

/-- A date-time at an offset is written by the leaves of any description. -/
lemma format_textual (compiled : Description.compile (Octets.ofAscii text) = .ok leaves)
    {v : OffsetDateTime} {written : Octets}
    (writes : Leaf.writeAll? (Value.offsetDateTime v).parts leaves = some written) :
    format (some (.offsetDateTime v)) (.textual text) = .ok written := by
  refine format_eq_ok (Item.layout_textual compiled) (Item.areTrees_map_item leaves) ?_ ?_
  · refine (Capabilities.subset_iff _ _).mpr fun part _ => ?_
    cases part <;> rfl
  · rwa [Item.leavesOf_map_item]

/-- A text is read by the leaves of a description. -/
lemma runOn_parseFormat_textual
    (compiled : Description.compile (Octets.ofAscii text) = .ok leaves) (data : Octets)
    (p : Fields) :
    (parseFormat (.textual text) data).runOn p = p.outcome (Leaf.parseAll leaves data) := by
  have trees := Item.areTrees_map_item leaves
  rw [parseFormat, Item.layout_textual compiled]
  show (parseItems _ _).runOn p = _
  rw [runOn_parseItems (Item.areReadable_of_areTrees trees), Item.leavesOf_map_item]

namespace Rfc3339

open FieldReader
open Phrase (Exactly)
open Numeral (pad)
open Octets (isDigit)
open Reading (Takes andThen)

/-! ### Descriptions of the parts -/

/-- The leaves of a date, the letter `T` and a time. -/
def clockLeaves : List Leaf :=
  Item.leavesOf dateItems ++ .literal [84] :: Item.leavesOf timeItems

/-- The leaves of a fraction, behind its point. -/
def fractionLeaves : List Leaf :=
  [.component (.ofKind .subsecond)]

/-- The leaves of an offset. -/
def zoneLeaves : List Leaf :=
  Item.leavesOf offsetItems

/-- The leaves of all parts in a row. -/
def wholeLeaves : List Leaf :=
  clockLeaves ++ .literal [46] :: (fractionLeaves ++ zoneLeaves)

/-- A date and a time as the format has them. -/
abbrev clockDescription : Item :=
  .textual "[year]-[month]-[day]T[hour]:[minute]:[second]"

/-- A fraction as the format has it, without its point. -/
abbrev fractionDescription : Item :=
  .textual "[subsecond]"

/-- An offset as the format has it. -/
abbrev zoneDescription : Item :=
  .textual "[offset_hour sign:mandatory]:[offset_minute]"

/-- All parts in a row. -/
abbrev wholeDescription : Item :=
  .textual ("[year]-[month]-[day]T[hour]:[minute]:[second].[subsecond]" ++
    "[offset_hour sign:mandatory]:[offset_minute]")

/-! ### Writing -/

/-- A date, the letter `T` and a time, with four digits of the year. -/
def clock (v : OffsetDateTime) : Octets :=
  pad v.date.year.toNat 4 .zero ++ [45] ++ two v.date.month.number ++ [45] ++ two v.date.day ++
    [84] ++ two v.time.hour ++ [58] ++ two v.time.minute ++ [58] ++ two v.time.second

lemma pad_eq_two {n : Int} (nonneg : 0 ≤ n) : pad n.toNat 2 .zero = two n := by
  have same : n.toNat = n.natAbs := by omega
  rw [two, same]

/-- Components write the date and the time as the format does, if the year has no sign. -/
lemma writeAll?_clock {v : OffsetDateTime} (unsigned : 0 ≤ v.date.year) :
    Leaf.writeAll? (Value.offsetDateTime v).parts clockLeaves = some (clock v) := by
  -- a year that is not negative has no sign in front, and its four digits are those of the clock
  have year : Component.writeYear {} v.date.year = pad v.date.year.toNat 4 .zero := by
    have positive : ¬v.date.year < 0 := by omega
    have same : v.date.year.natAbs = v.date.year.toNat := by omega
    simp [Component.writeYear, signText, positive, same, Component.yearWidth]
  have month := v.date.month.number_bounds
  have day := v.date.day_mem
  have hour := v.time.hour_mem
  have minute := v.time.minute_mem
  have second := v.time.second_mem
  show some (Component.writeYear {} v.date.year ++ ([45] ++
    (pad v.date.month.number.toNat 2 .zero ++ ([45] ++ (pad v.date.day.toNat 2 .zero ++ ([84] ++
    (pad v.time.hour.toNat 2 .zero ++ ([58] ++ (pad v.time.minute.toNat 2 .zero ++ ([58] ++
    (pad v.time.second.toNat 2 .zero ++ []))))))))))) = _
  rw [year, pad_eq_two (by omega), pad_eq_two (by omega), pad_eq_two (by omega),
    pad_eq_two (by omega), pad_eq_two (by omega), clock]
  simp only [List.append_assoc, List.append_nil]

/-- A component writes the fraction as the format does, and writes one for no nanoseconds. -/
lemma writeAll?_fraction (v : OffsetDateTime) :
    ∃ digits, Leaf.writeAll? (Value.offsetDateTime v).parts fractionLeaves = some digits ∧
      fraction v.time.nanosecond = if v.time.nanosecond = 0 then [] else 46 :: digits := by
  refine ⟨Component.writeSubsecond .oneOrMore v.time.nanosecond, ?_, ?_⟩
  · show some (_ ++ []) = _
    rw [List.append_nil]
  · have spells := spells_fraction v.time.nanosecond_mem
    have shown {run : Octets} {found : Option Nat} (spells : SpellsFraction (46 :: run) found) :
        run ≠ [] := by
      cases spells with
      | digits least => exact List.length_pos_iff.mp least
    rw [fraction] at spells ⊢
    split
    · rfl
    · rename_i nonzero
      rw [if_neg nonzero] at spells
      exact congrArg _ (if_neg (shown spells)).symm

/-- Components write the offset as the format does, and write one for UTC. -/
lemma writeAll?_zone (v : OffsetDateTime) :
    ∃ digits, Leaf.writeAll? (Value.offsetDateTime v).parts zoneLeaves = some digits ∧
      zone v.offset = if v.offset.isUtc then [90] else digits := by
  refine ⟨signText v.offset.isNegative true ++ two v.offset.hours ++ [58] ++ two v.offset.minutes,
    ?_, rfl⟩
  show some ((signText v.offset.isNegative true ++ two v.offset.hours) ++
    ([58] ++ (two v.offset.minutes ++ []))) = _
  simp only [List.append_assoc, List.append_nil]

/-! ### Explicit texts -/

/-- Nothing is left open in a text of the format: its letter is large, it has a fraction, and there
is no letter for UTC. -/
structure Explicit (text : Octets) : Prop where
  letter : text[10]? = some 84
  fraction : text[19]? = some 46
  zone : ∀ b ∈ text.getLast?, b ≠ 90 ∧ b ≠ 122

lemma DateText.length {text : Octets} {numbers : List (Field × Int)}
    (member : DateText text numbers) : text.length = 10 := by
  obtain ⟨⟨year⟩, ⟨⟨⟩, ⟨⟨month⟩, ⟨⟨⟩, ⟨day⟩⟩⟩⟩⟩ := member
  simp [year.length, month.length, day.length]

lemma TimeText.length {text : Octets} {numbers : List (Field × Int)}
    (member : TimeText text numbers) : text.length = 8 := by
  obtain ⟨⟨hour⟩, ⟨⟨⟩, ⟨⟨minute⟩, ⟨⟨⟩, ⟨second⟩⟩⟩⟩⟩ := member
  simp [hour.length, minute.length, second.length]

lemma letter_behind {date : Octets} {numbers : List (Field × Int)} (inDate : DateText date numbers)
    (letter : UInt8) (rest : Octets) : (date ++ letter :: rest)[10]? = some letter := by
  have ten : date.length = 10 := DateText.length inDate
  rw [List.getElem?_append_right (by omega), ten]
  rfl

/-- A fraction begins with a point, and a zone does not. -/
lemma SpellsFraction.head_iff {text zone : Octets} {fraction : Option Nat} {z : Zone}
    (spells : SpellsFraction text fraction) (behind : SpellsZone zone z) :
    (text ++ zone)[0]? = some 46 ↔ fraction ≠ .none := by
  cases spells with
  | none =>
      obtain ⟨b, tail, rfl, -, other⟩ := behind.exists_head
      simpa using other
  | digits => simp

/-- What is explicit in a text of the format. -/
lemma Spells.explicit_iff {text : Octets} {s : Stamp} (spells : Spells text s) :
    Explicit text ↔ text[10]? = some 84 ∧ s.fraction ≠ none ∧ s.zone ≠ .zulu := by
  obtain ⟨date, letter, time, fraction, zone, rfl, inDate, -, inTime, inFraction, inZone⟩ :=
    spells.exists_cut
  have ten : date.length = 10 := inDate.length
  have eight : time.length = 8 := inTime.length
  have point : (date ++ letter :: (time ++ (fraction ++ zone)))[19]? = (fraction ++ zone)[0]? := by
    rw [List.getElem?_append_right (by omega), ten, List.getElem?_cons_succ,
      List.getElem?_append_right (by omega), eight]
  have last : (date ++ letter :: (time ++ (fraction ++ zone))).getLast? = zone.getLast? := by
    obtain ⟨b, tail, rfl, -⟩ := inZone.exists_head
    simp [List.getLast?_cons, List.getLast?_append]
  rw [← inFraction.head_iff inZone, ← inZone.last_iff, ← point, ← last]
  exact ⟨fun h => ⟨h.letter, h.fraction, h.zone⟩, fun h => ⟨h.1, h.2.1, h.2.2⟩⟩

/-! ### Reading -/

/-- The digits of a fraction are taken together with the offset that ends them. -/
lemma takes_fraction_offset :
    Takes (Leaf.parseAll (fractionLeaves ++ zoneLeaves)) (FractionDigits.Seq OffsetText) := by
  refine Reading.takes_andThen_of_delimited (fun _ _ _ => fractionDigits_of_parse) ?_ takes_offset
  rintro run m offset n rest hold inFraction ⟨⟨sign, hours⟩, -⟩
  have stop : isDigit sign.octet = false := by cases sign <;> rfl
  exact parse_fractionDigits inFraction hold stop _

/-- The leaves behind the date. -/
def behindDate : List Leaf :=
  .literal [84] :: (Item.leavesOf timeItems ++ .literal [46] :: (fractionLeaves ++ zoneLeaves))

/-- All parts in a row, at the front of a text that begins with no sign. -/
def readWhole (data : Octets) : Except Cause Reading :=
  andThen (readDate data) (Leaf.parseAll behindDate)

lemma parseAll_wholeLeaves {data : Octets} (unsigned : (readSign data).1 = none) :
    Leaf.parseAll wholeLeaves data = readWhole data := by
  have parts : wholeLeaves = Item.leavesOf dateItems ++ behindDate := rfl
  rw [parts, Leaf.parseAll_append, readWhole, readDate, if_pos unsigned]

/-- A date, the letter `T`, a time, a point with digits, and an offset. -/
abbrev WholeText : Phrase :=
  DateText.Seq <| (Exactly [84]).Seq <| TimeText.Seq <| (Exactly [46]).Seq <|
    FractionDigits.Seq OffsetText

/-- What is put together of all parts is a text of the format, and explicit. -/
lemma spells_whole {text : Octets} {numbers : List (Field × Int)}
    (member : WholeText text numbers) :
    ∃ s, (Spells text s ∧ Explicit text) ∧ s.numbers = numbers := by
  obtain ⟨inDate, ⟨⟨⟩, ⟨inTime, ⟨⟨⟩, ⟨@⟨_, n, fraction⟩, inZone⟩⟩⟩⟩⟩ := member
  have letter := letter_behind inDate
  obtain ⟨@⟨_, y, year⟩, ⟨⟨⟩, ⟨@⟨_, mo, month⟩, ⟨⟨⟩, @⟨_, d, day⟩⟩⟩⟩⟩ := inDate
  obtain ⟨@⟨_, h, hour⟩, ⟨⟨⟩, ⟨@⟨_, mi, minute⟩, ⟨⟨⟩, @⟨_, sec, second⟩⟩⟩⟩⟩ := inTime
  obtain ⟨@⟨sign, _, oh, hours⟩, ⟨⟨⟩, @⟨_, om, minutes⟩⟩⟩ := inZone
  let s : Stamp := ⟨y, mo, d, h, mi, sec, some n, .offset sign oh om⟩
  have spells : Spells _ s := .stamp year month day (.inl rfl) hour minute second fraction
    (.offset sign hours minutes)
  simp only [List.append_assoc, List.cons_append, List.nil_append] at spells letter ⊢
  exact ⟨s, ⟨spells, spells.explicit_iff.mpr ⟨letter _ _, by simp [s], by simp [s]⟩⟩, rfl⟩

/-- A text of the format that is explicit is put together of all parts. -/
lemma wholeText_of_spells {text : Octets} {s : Stamp} (spells : Spells text s)
    (explicit : Explicit text) : WholeText text s.numbers := by
  obtain ⟨large, fractional, offset⟩ := spells.explicit_iff.mp explicit
  obtain ⟨date, letter, time, fraction, zone, rfl, inDate, -, inTime, inFraction, inZone⟩ :=
    spells.exists_cut
  rw [letter_behind inDate] at large
  cases large
  obtain ⟨year, month, day, hour, minute, second, fraction, zone⟩ := s
  -- the description asks for a fraction and an offset, so neither may be left out here
  cases inFraction with
  | none => exact absurd rfl fractional
  | digits least most digits =>
      cases inZone with
      | zulu => exact absurd rfl offset
      | offset sign hours minutes =>
          have inOffset : OffsetText _ _ :=
            .append (.signed sign hours) (.append .itself (.digits minutes))
          have whole : WholeText _ _ := .append inDate <| .append .itself <| .append inTime <|
            .append .itself <| .append (.digits (.digits least most digits)) inOffset
          simpa [Stamp.numbers, fractionNumbers, Zone.numbers] using whole

/-- What is taken are the texts of the format that are explicit. -/
lemma takes_readWhole :
    Takes readWhole fun text numbers => ∃ s, (Spells text s ∧ Explicit text) ∧
      s.numbers = numbers := by
  have behind := takes_readTime.andThen <| Leaf.takes_cons (Leaf.takes_literal [46])
    takes_fraction_offset
  simp only [← Leaf.parseAll_append] at behind
  refine (takes_readDate.andThen <| Leaf.takes_cons (Leaf.takes_literal [84]) behind).congr ?_
  intro text numbers
  refine ⟨spells_whole, ?_⟩
  rintro ⟨s, ⟨spells, explicit⟩, rfl⟩
  exact wholeText_of_spells spells explicit

/-- Behind no sign, the texts that the description parses are those of the format that are explicit,
and they are parsed to the same values. -/
lemma parseValue_whole_eq_ok_iff {text : Octets} (unsigned : (readSign text).1 = none)
    {value : Value} : parseValue .offsetDateTime text wholeDescription = .ok value ↔
      parseValue .offsetDateTime text description = .ok value ∧ Explicit text := by
  have compiled : Description.compile (Octets.ofAscii
      ("[year]-[month]-[day]T[hour]:[minute]:[second].[subsecond]" ++
        "[offset_hour sign:mandatory]:[offset_minute]")) = .ok wholeLeaves := by
    decide +kernel
  have read := runOn_parseFormat_textual compiled text .empty
  rw [parseAll_wholeLeaves unsigned] at read
  rw [parseValue_eq_ok_iff_of_takes read takes_readWhole, parseValue_eq_ok_iff]
  constructor
  · rintro ⟨s, v, ⟨spells, explicit⟩, denotes, rfl⟩
    exact ⟨⟨s, v, spells, denotes, rfl⟩, explicit⟩
  · rintro ⟨⟨s, v, spells, denotes, rfl⟩, explicit⟩
    exact ⟨s, v, ⟨spells, explicit⟩, denotes, rfl⟩

/-! ### Agreement -/

/-- **The format does what descriptions do.**  What it writes is put together of what descriptions
write: a date and a time, a fraction behind a point if there are nanoseconds, and an offset unless
it is UTC.  The description of all these parts, on a text that begins with no sign, parses what the
format parses if nothing is left open in it, and to the same value. -/
theorem agrees_with_descriptions :
    (∀ v : OffsetDateTime, 0 ≤ v.date.year ∧ v.date.year ≤ 9999 → v.offset.seconds = 0 →
      ∃ clock digits offset,
        format (some (.offsetDateTime v)) clockDescription = .ok clock ∧
        format (some (.offsetDateTime v)) fractionDescription = .ok digits ∧
        format (some (.offsetDateTime v)) zoneDescription = .ok offset ∧
        format (some (.offsetDateTime v)) description =
          .ok (clock ++ (if v.time.nanosecond = 0 then [] else 46 :: digits) ++
            if v.offset.isUtc then [90] else offset)) ∧
      ∀ text : Octets, (∀ b ∈ text.head?, b ≠ 43 ∧ b ≠ 45) → ∀ value,
        parseValue .offsetDateTime text wholeDescription = .ok value ↔
          parseValue .offsetDateTime text description = .ok value ∧ Explicit text := by
  refine ⟨fun v year seconds => ?_, fun text unsigned value => ?_⟩
  · -- each part is written by a description of its own, whatever the others are
    obtain ⟨digits, writesFraction, sameFraction⟩ := writeAll?_fraction v
    obtain ⟨offset, writesZone, sameZone⟩ := writeAll?_zone v
    refine ⟨clock v, digits, offset, format_textual (by decide +kernel) (writeAll?_clock year.1),
      format_textual (by decide +kernel) writesFraction,
      format_textual (by decide +kernel) writesZone, ?_⟩
    rw [← sameFraction, ← sameZone, format_eq, write, if_neg (not_not_intro year),
      if_neg (not_not_intro seconds)]
    rfl
  · refine parseValue_whole_eq_ok_iff ?_
    cases text with
    | nil => rfl
    | cons b rest =>
        obtain ⟨plus, minus⟩ := unsigned b rfl
        rw [readSign, if_neg plus, if_neg minus]

/-- The end of a leap day at half an hour west of UTC.  Its text is put together of its parts; with
a zero behind the fraction it is parsed by the description as well, but not with a small letter. -/
theorem agrees_with_descriptions_leapDay :
    let v : OffsetDateTime := ⟨⟨2020, .february, 29, by decide, by decide⟩,
      ⟨23, 59, 59, 50000000, by decide, by decide, by decide, by decide⟩,
      ⟨0, -30, 0, by decide, by decide, by decide, by decide⟩⟩
    format (some (.offsetDateTime v)) description =
        .ok (Octets.ofAscii "2020-02-29T23:59:59" ++ 46 :: Octets.ofAscii "05" ++
          Octets.ofAscii "-00:30") ∧
      parseValue .offsetDateTime (Octets.ofAscii "2020-02-29T23:59:59.050-00:30")
        wholeDescription = .ok (.offsetDateTime v) ∧
      ∀ value, parseValue .offsetDateTime (Octets.ofAscii "2020-02-29t23:59:59.050-00:30")
        wholeDescription ≠ .ok value := by
  intro v
  obtain ⟨writes, parses⟩ := agrees_with_descriptions
  refine ⟨?_, ?_, ?_⟩
  · obtain ⟨clock, digits, offset, writesClock, writesDigits, writesOffset, whole⟩ :=
      writes v (by decide) rfl
    have isClock : format (some (.offsetDateTime v)) clockDescription =
        .ok (Octets.ofAscii "2020-02-29T23:59:59") := by
      decide +kernel
    have isDigits : format (some (.offsetDateTime v)) fractionDescription =
        .ok (Octets.ofAscii "05") := by
      decide +kernel
    have isOffset : format (some (.offsetDateTime v)) zoneDescription =
        .ok (Octets.ofAscii "-00:30") := by
      decide +kernel
    cases writesClock.symm.trans isClock
    cases writesDigits.symm.trans isDigits
    cases writesOffset.symm.trans isOffset
    exact whole
  · exact (parses _ (by decide +kernel) _).mpr ⟨by decide +kernel, rfl, rfl, by decide +kernel⟩
  · intro value parsed
    have small := ((parses _ (by decide +kernel) value).mp parsed).2.letter
    cases Option.some.inj small

end Rfc3339

end CalendarText
