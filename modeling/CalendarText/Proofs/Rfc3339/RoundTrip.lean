/-
The internet format written and parsed back.

* `Writable`: the values that the format can express;
* `Stamp.of`: the stamp that is written for a value; `Stamp.denotes_of`: it denotes the value;
* `spells_write`: what is written spells that stamp;
* `parse_format`: what is written is parsed to the value;
* `parse_exactly_layout`: the texts that are parsed, and the values that they are parsed to;
* `format_lossless`: the values that are formatted, and what becomes of the other ones.
-/
import CalendarText.Proofs.Reading.Component
import CalendarText.Proofs.Rfc3339.Resolve
import CalendarText.Writing.Format

namespace CalendarText.Rfc3339

open Numeral (Shows pad value scale)
open Octets (isDigit)

/-- The format as a description. -/
abbrev description : Item :=
  .stray (.wellKnown .rfc3339)

/-- The format can express a value: its year has four digits and no sign, and its offset no
seconds. -/
structure Writable (v : OffsetDateTime) : Prop where
  year : 0 ≤ v.date.year ∧ v.date.year ≤ 9999
  seconds : v.offset.seconds = 0

/-! ### The stamp of a value -/

/-- The zone that is written for an offset. -/
def Zone.of (o : UtcOffset) : Zone :=
  if o.isUtc then zulu
  else offset (if o.isNegative then .minus else .plus) o.hours.natAbs o.minutes.natAbs

/-- The stamp that is written for a value. -/
def Stamp.of (v : OffsetDateTime) : Stamp where
  year := v.date.year.natAbs
  month := v.date.month.number.natAbs
  day := v.date.day.natAbs
  hour := v.time.hour.natAbs
  minute := v.time.minute.natAbs
  second := v.time.second.natAbs
  fraction := if v.time.nanosecond = 0 then none else some v.time.nanosecond.natAbs
  zone := Zone.of v.offset

/-- The hours and the minutes of an offset take its sign again. -/
lemma Zone.of_spec (o : UtcOffset) :
    (Zone.of o).hours = o.hours ∧ (Zone.of o).minutes = o.minutes := by
  have same := o.same_sign
  rw [Zone.of]
  split
  · rename_i utc
    rw [(o.isUtc_iff).mp utc]
    exact ⟨rfl, rfl⟩
  · by_cases negative : o.hours < 0 ∨ o.minutes < 0 ∨ o.seconds < 0
    · have flag : o.isNegative = true := decide_eq_true negative
      simp only [flag, if_true, hours, minutes, Sign.apply]
      omega
    · have flag : o.isNegative = false := decide_eq_false negative
      simp only [flag, Bool.false_eq_true, if_false, hours, minutes, Sign.apply, reduceCtorEq,
        Option.some.injEq]
      omega

/-- The stamp of a value denotes the value. -/
lemma Stamp.denotes_of {v : OffsetDateTime} (writable : Writable v) : (Stamp.of v).Denotes v := by
  obtain ⟨hours, minutes⟩ := Zone.of_spec v.offset
  have year := writable.year
  have month := v.date.month.number_bounds
  have day := v.date.day_mem
  have hour := v.time.hour_mem
  have minute := v.time.minute_mem
  have second := v.time.second_mem
  have nanosecond := v.time.nanosecond_mem
  constructor
  case hours => exact hours.symm
  case minutes => exact minutes.symm
  case seconds => exact writable.seconds
  case nanosecond =>
    simp only [Stamp.of]
    split
    · assumption
    · rw [Option.getD_some]
      omega
  all_goals
    simp only [Stamp.of]
    omega

/-! ### What is written -/

/-- A number of at most two digits is shown in two. -/
lemma shows_two {n : Int} (mem : -99 ≤ n ∧ n ≤ 99) : Shows 2 (two n) n.natAbs := by
  have small : n.natAbs < scale 2 := by
    have : scale 2 = 100 := rfl
    omega
  exact Numeral.pad_zero (by decide) small

/-- Nine digits without the zeros at their end are worth what zeros make of them. -/
lemma spells_fraction {n : Int} (mem : 0 ≤ n ∧ n ≤ 999999999) :
    SpellsFraction (fraction n) (if n = 0 then none else some n.natAbs) := by
  rw [fraction]
  split
  · exact .none
  · rename_i nonzero
    have small : n.toNat < scale 9 := by
      have : scale 9 = 1000000000 := rfl
      omega
    obtain ⟨length, digits, worth⟩ := Numeral.pad_zero (by decide : 1 ≤ 9) small
    -- all nine digits are written, and then zeros are dropped from the end
    obtain ⟨k, zeros⟩ := Component.eq_dropTrailingZeros_append (pad n.toNat 9 .zero)
    generalize dropTrailingZeros (pad n.toNat 9 .zero) = run at zeros
    rw [zeros] at length digits worth
    have count : run.length + k = 9 := by simpa using length
    have whole : value (run.rightpad 9 48) = n.natAbs := by
      have missing : 9 - run.length = k := by omega
      rw [List.rightpad, missing, worth]
      omega
    -- a number that is not zero keeps a digit
    have least : 1 ≤ run.length := by
      refine List.length_pos_iff.mpr ?_
      rintro rfl
      rw [List.nil_append, Numeral.value_zeros] at worth
      omega
    rw [← whole]
    exact .digits least (by omega) fun b mem => digits b (by simp [mem])

/-- An offset without seconds is spelled as its zone. -/
lemma spells_zone (o : UtcOffset) : SpellsZone (zone o) (Zone.of o) := by
  have hours := o.hours_mem
  have minutes := o.minutes_mem
  have showsHours : Shows 2 (two o.hours) o.hours.natAbs := shows_two (by omega)
  have showsMinutes : Shows 2 (two o.minutes) o.minutes.natAbs := shows_two (by omega)
  rw [zone, Zone.of]
  split
  · exact .zulu (.inl rfl)
  · cases o.isNegative with
    | true => simpa [signText, Sign.octet] using SpellsZone.offset .minus showsHours showsMinutes
    | false => simpa [signText, Sign.octet] using SpellsZone.offset .plus showsHours showsMinutes

/-- A value that the format can express is written as a text that spells its stamp. -/
lemma spells_write {v : OffsetDateTime} (writable : Writable v) :
    ∃ text, write v.date v.time v.offset = .ok text ∧ Spells text (Stamp.of v) := by
  have year := writable.year
  have month := v.date.month.number_bounds
  have day := v.date.day_mem
  have short := v.date.day_le
  have hour := v.time.hour_mem
  have minute := v.time.minute_mem
  have second := v.time.second_mem
  -- a year up to 9999 fills its four digits and no more
  have four : Shows 4 (pad v.date.year.toNat 4 .zero) v.date.year.natAbs := by
    have small : v.date.year.toNat < scale 4 := by
      have : scale 4 = 10000 := rfl
      omega
    have shows := Numeral.pad_zero (by decide : 1 ≤ 4) small
    have same : v.date.year.toNat = v.date.year.natAbs := by omega
    rwa [same] at shows ⊢
  rw [write, if_neg (not_not_intro year), if_neg (not_not_intro writable.seconds)]
  exact ⟨_, rfl, .stamp four (shows_two (by omega)) (shows_two (by omega)) (.inl rfl)
    (shows_two (by omega)) (shows_two (by omega)) (shows_two (by omega))
    (spells_fraction v.time.nanosecond_mem) (spells_zone v.offset)⟩

/-! ### Writing and parsing back -/

lemma format_eq (v : OffsetDateTime) : format (some (.offsetDateTime v)) description =
    (write v.date v.time v.offset).mapError fun c => .wrapped .formatting (.bare c) :=
  rfl

/-- What the format can express is formatted, and the text is parsed to the value. -/
lemma parse_format {v : OffsetDateTime} (writable : Writable v) :
    ∃ text, format (some (.offsetDateTime v)) description = .ok text ∧
      parseValue .offsetDateTime text description = .ok (.offsetDateTime v) := by
  obtain ⟨text, written, spells⟩ := spells_write writable
  refine ⟨text, ?_, parseValue_eq_ok_iff.mpr
    ⟨Stamp.of v, v, spells, Stamp.denotes_of writable, rfl⟩⟩
  rw [format_eq, written]
  rfl

/-- A value is refused for its year, and for the seconds of its offset only after that. -/
lemma format_eq_error {v : OffsetDateTime} (unwritable : ¬Writable v) :
    format (some (.offsetDateTime v)) description = .error (.failure (.within .formatting
      (.bare (.unformattable (if 0 ≤ v.date.year ∧ v.date.year ≤ 9999 then "offset_second"
        else "year"))))) := by
  rw [format_eq, write]
  by_cases year : 0 ≤ v.date.year ∧ v.date.year ≤ 9999
  · have seconds : v.offset.seconds ≠ 0 := fun zero => unwritable ⟨year, zero⟩
    rw [if_neg (not_not_intro year), if_pos seconds, if_pos year]
    rfl
  · rw [if_pos year, if_neg year]
    rfl

/-- A value that a stamp with a spelling denotes can be written. -/
lemma Stamp.Denotes.writable {s : Stamp} {v : OffsetDateTime} (denotes : s.Denotes v)
    {text : Octets} (spells : Spells text s) : Writable v := by
  obtain ⟨year, -, -, -, -, -, -, -, -⟩ := spells
  have upto : s.year < 10000 := year.lt
  have same := denotes.year
  exact ⟨by omega, denotes.seconds⟩

/-- What a zone says of the sign of an offset: it is UTC exactly when it is spelled so or all of
its digits are zero, with either sign, and a minus is negative in front of any other digit. -/
lemma Stamp.Denotes.sign {s : Stamp} {v : OffsetDateTime} (denotes : s.Denotes v) :
    (v.offset.isUtc = true ↔ s.zone = .zulu ∨ ∃ sign, s.zone = .offset sign 0 0) ∧
      (v.offset.isNegative = true ↔
        ∃ h m, s.zone = .offset .minus h m ∧ (0 < h ∨ 0 < m)) := by
  have hours := denotes.hours
  have minutes := denotes.minutes
  have seconds := denotes.seconds
  simp only [UtcOffset.isUtc, UtcOffset.isNegative, decide_eq_true_eq, hours, minutes, seconds]
  cases s.zone with
  | zulu => simp [Zone.hours, Zone.minutes]
  | offset sign h m => cases sign <;> simp [Zone.hours, Zone.minutes, Sign.apply]

/-- **The texts of the internet format.**  A text is parsed exactly when it is laid out as the
format prescribes, with numbers that are in range, and then to the value that has these numbers.
The letter `Z` and the offset of no hours and no minutes, with either sign, are UTC, and any other
offset behind a minus is negative.  The value is formatted again, as a text that is parsed to it. -/
theorem parse_exactly_layout (text : Octets) :
    ((∃ value, parseValue .offsetDateTime text description = .ok value) ↔
      ∃ s, Spells text s ∧ s.InRange) ∧
      (∀ value, parseValue .offsetDateTime text description = .ok value ↔
        ∃ s v, Spells text s ∧ s.Denotes v ∧ value = .offsetDateTime v) ∧
      (∀ s v, Spells text s → s.Denotes v →
        (v.offset.isUtc = true ↔ s.zone = .zulu ∨ ∃ sign, s.zone = .offset sign 0 0) ∧
        (v.offset.isNegative = true ↔
          ∃ h m, s.zone = .offset .minus h m ∧ (0 < h ∨ 0 < m))) ∧
      (∀ value, parseValue .offsetDateTime text description = .ok value →
        ∃ again, format (some value) description = .ok again ∧
          parseValue .offsetDateTime again description = .ok value) := by
  refine ⟨?_, ?_, ?_, ?_⟩
  · constructor
    · rintro ⟨value, parsed⟩
      obtain ⟨s, v, spells, denotes, -⟩ := parseValue_eq_ok_iff.mp parsed
      exact ⟨s, spells, (exists_denotes_iff spells).mp ⟨v, denotes⟩⟩
    · rintro ⟨s, spells, inRange⟩
      obtain ⟨v, denotes⟩ := (exists_denotes_iff spells).mpr inRange
      exact ⟨.offsetDateTime v, parseValue_eq_ok_iff.mpr ⟨s, v, spells, denotes, rfl⟩⟩
  · intro value
    exact parseValue_eq_ok_iff
  · intro s v _ denotes
    exact denotes.sign
  · -- what was parsed has no seconds in its offset and a year of four digits, so it can be written
    intro value parsed
    obtain ⟨s, v, spells, denotes, rfl⟩ := parseValue_eq_ok_iff.mp parsed
    exact parse_format (denotes.writable spells)

/-- The end of a leap day, with a fraction that begins and ends with a zero, at half an hour west
of UTC: the zero hours of the offset keep their sign. -/
theorem parse_leapDay_halfHourWest :
    let text := Octets.ofAscii "2020-02-29t23:59:59.050-00:30"
    let v : OffsetDateTime := ⟨⟨2020, .february, 29, by decide, by decide⟩,
      ⟨23, 59, 59, 50000000, by decide, by decide, by decide, by decide⟩,
      ⟨0, -30, 0, by decide, by decide, by decide, by decide⟩⟩
    parseValue .offsetDateTime text description = .ok (.offsetDateTime v) ∧
      (∃ s, Spells text s ∧ s.Denotes v ∧
        ∃ h m, s.zone = .offset .minus h m ∧ (0 < h ∨ 0 < m)) ∧
      ∃ again, format (some (.offsetDateTime v)) description = .ok again ∧
        parseValue .offsetDateTime again description = .ok (.offsetDateTime v) := by
  intro text v
  obtain ⟨-, accepted, sign, again⟩ := parse_exactly_layout text
  have parsed : parseValue .offsetDateTime text description = .ok (.offsetDateTime v) := by
    decide +kernel
  obtain ⟨s, u, spells, denotes, same⟩ := (accepted _).mp parsed
  cases same
  have west : v.offset.isNegative = true := rfl
  exact ⟨parsed, ⟨s, spells, denotes, (sign s v spells denotes).2.mp west⟩, again _ parsed⟩

/-- **Formatting loses nothing.**  A value is formatted exactly when its year has four digits and
no sign and its offset has no seconds.  Its text is then parsed to the value, so no two values share
a text.  Any other value is refused for its year, or else for the seconds of its offset. -/
theorem format_lossless (v : OffsetDateTime) :
    ((∃ text, format (some (.offsetDateTime v)) description = .ok text) ↔
      (0 ≤ v.date.year ∧ v.date.year ≤ 9999) ∧ v.offset.seconds = 0) ∧
      (∀ text, format (some (.offsetDateTime v)) description = .ok text →
        parseValue .offsetDateTime text description = .ok (.offsetDateTime v)) ∧
      (∀ w text, format (some (.offsetDateTime v)) description = .ok text →
        format (some (.offsetDateTime w)) description = .ok text → v = w) ∧
      (¬(0 ≤ v.date.year ∧ v.date.year ≤ 9999) →
        format (some (.offsetDateTime v)) description =
          .error (.failure (.within .formatting (.bare (.unformattable "year"))))) ∧
      (0 ≤ v.date.year ∧ v.date.year ≤ 9999 → v.offset.seconds ≠ 0 →
        format (some (.offsetDateTime v)) description =
          .error (.failure (.within .formatting (.bare (.unformattable "offset_second"))))) := by
  -- whatever has been formatted could be, and it is read back as itself
  have back {u : OffsetDateTime} {text : Octets}
      (formatted : format (some (.offsetDateTime u)) description = .ok text) :
      Writable u ∧ parseValue .offsetDateTime text description = .ok (.offsetDateTime u) := by
    by_cases writable : Writable u
    · obtain ⟨again, same, parsed⟩ := parse_format writable
      rw [formatted] at same
      cases same
      exact ⟨writable, parsed⟩
    · rw [format_eq_error writable] at formatted
      cases formatted
  refine ⟨?_, ?_, ?_, ?_, ?_⟩
  · constructor
    · rintro ⟨text, formatted⟩
      have writable := (back formatted).1
      exact ⟨writable.year, writable.seconds⟩
    · rintro ⟨year, seconds⟩
      obtain ⟨text, formatted, -⟩ := parse_format ⟨year, seconds⟩
      exact ⟨text, formatted⟩
  · intro text formatted
    exact (back formatted).2
  · -- the text determines what is read back, and so the value that it came from
    intro w text first second
    have parsed := (back first).2
    rw [(back second).2] at parsed
    cases parsed
    rfl
  · intro year
    rw [format_eq_error fun writable => year writable.year, if_neg year]
  · intro year seconds
    rw [format_eq_error fun writable => seconds writable.seconds, if_pos year]

/-- Five minutes into year 0, with zeros at both ends of the fraction, at half an hour west of UTC.
A second more in the offset cannot be written, and the year before cannot either, whatever the
offset is. -/
theorem format_yearZero :
    let t : Time := ⟨0, 5, 0, 60700, by decide, by decide, by decide, by decide⟩
    let o : UtcOffset := ⟨0, -30, -1, by decide, by decide, by decide, by decide⟩
    let u : OffsetDateTime := ⟨⟨-1, .december, 31, by decide, by decide⟩, t, o⟩
    let v : OffsetDateTime := ⟨⟨0, .january, 1, by decide, by decide⟩, t,
      ⟨0, -30, 0, by decide, by decide, by decide, by decide⟩⟩
    let text := Octets.ofAscii "0000-01-01T00:05:00.0000607-00:30"
    format (some (.offsetDateTime v)) description = .ok text ∧
      parseValue .offsetDateTime text description = .ok (.offsetDateTime v) ∧
      (∀ w, format (some (.offsetDateTime w)) description = .ok text → v = w) ∧
      format (some (.offsetDateTime u)) description =
        .error (.failure (.within .formatting (.bare (.unformattable "year")))) ∧
      format (some (.offsetDateTime { v with offset := o })) description =
        .error (.failure (.within .formatting (.bare (.unformattable "offset_second")))) := by
  intro t o u v text
  obtain ⟨-, back, same, -⟩ := format_lossless v
  have formatted : format (some (.offsetDateTime v)) description = .ok text := by
    decide +kernel
  exact ⟨formatted, back text formatted, fun w => same w text formatted,
    (format_lossless u).2.2.2.1 (by decide),
    (format_lossless { v with offset := o }).2.2.2.2 (by decide) (by decide)⟩

end CalendarText.Rfc3339
