/-
The internet format parsed: a text is parsed to the value that its stamp denotes.

* `Stamp.fields`, `Stamp.content`: the fields with the numbers of a stamp, and what each holds;
* `Stamp.date_eq_ok_iff`, `Stamp.time_eq_ok_iff`, `Stamp.offset_eq_ok_iff`: the parts of a value
  that these fields determine;
* `parseValue_eq_ok_iff_of_runOn`: when a value is parsed, by what is read without any fields;
* `parseValue_eq_ok_iff_of_takes`: which value is parsed where the numbers of stamps are taken;
* `parseValue_eq_ok_iff`: a text is parsed to a value exactly when it spells a stamp that denotes
  the value.
-/
import CalendarText.Proofs.Fields.Clock
import CalendarText.Proofs.Rfc3339.Reading
import CalendarText.Reading.Format

namespace CalendarText

open FieldReader

/-- What is read without any fields, and leaves nothing, is resolved from the fields that it fills
in. -/
lemma parseValue_eq_ok_iff_of_runOn {kind : ValueKind} {text : Octets} {description : Item}
    {reading : Except Cause Reading} {value : Value}
    (read : (parseFormat description text).runOn .empty = Fields.empty.outcome reading) :
    parseValue kind text description = .ok value ↔
      ∃ numbers, reading = .ok (numbers, []) ∧
        kind.resolve (Fields.empty.assign numbers) = .ok value := by
  rw [parseValue, read]
  -- a value comes only of a reading that leaves nothing
  cases reading with
  | error c =>
      constructor
      · intro h
        simp only [Fields.outcome] at h
        split at h
        · cases h
        · cases h
        · rename_i same
          cases same
      · rintro ⟨numbers, same, -⟩
        cases same
  | ok reading =>
      obtain ⟨numbers, rest⟩ := reading
      simp only [Fields.outcome]
      constructor
      · intro h
        split at h
        · rename_i nothing
          exact ⟨numbers, by rw [nothing], Outcome.mapError_eq_ok_iff.mp h⟩
        · cases h
      · rintro ⟨others, same, resolved⟩
        cases same
        rw [if_pos rfl, resolved]
        rfl

/-- A date-time at an offset is resolved from fields that determine its three parts. -/
lemma ValueKind.resolve_offsetDateTime_eq_ok_iff {p : Fields} {value : Value} :
    ValueKind.offsetDateTime.resolve p = .ok value ↔
      ∃ v : OffsetDateTime, value = .offsetDateTime v ∧ p.date = .ok v.date ∧
        p.time = .ok v.time ∧ p.offset = .ok v.offset := by
  rw [resolve, determine, Outcome.mapError_eq_ok_iff]
  constructor
  · intro h
    obtain ⟨d, date, h⟩ := Outcome.bind_eq_ok_iff.mp h
    obtain ⟨t, time, h⟩ := Outcome.bind_eq_ok_iff.mp h
    obtain ⟨o, offset, h⟩ := Outcome.bind_eq_ok_iff.mp h
    cases h
    exact ⟨⟨d, t, o⟩, rfl, date, time, offset⟩
  · rintro ⟨v, rfl, date, time, offset⟩
    rw [date, time, offset]
    rfl

namespace Rfc3339

/-! ### The fields of a stamp -/

/-- The minutes of a zone without a sign. -/
def Zone.minuteCount : Zone → Nat
  | zulu => 0
  | offset _ _ m => m

/-- Whether a zone is marked as negative, as a number. -/
def Zone.mark : Zone → Int
  | zulu => 0
  | offset sign _ _ => if sign = .minus then 1 else 0

/-- The minutes take the sign that the zone is marked with. -/
lemma Zone.sign_mul_minuteCount (z : Zone) :
    (if z.mark = 1 ∨ z.hours < 0 then (-1 : Int) else 1) * z.minuteCount = z.minutes := by
  cases z with
  | zulu => rfl
  | offset sign h m => cases sign <;> simp [mark, hours, minuteCount, minutes, Sign.apply]

lemma admitted_fractionNumbers {fraction : Option Nat} (small : fraction.getD 0 ≤ 999999999) :
    Admitted (fractionNumbers fraction) := by
  cases fraction with
  | none => exact List.forall_mem_nil _
  | some n =>
      rw [Option.getD_some] at small
      simp only [Admitted, fractionNumbers, List.forall_mem_singleton, Field.admits_iff,
        Field.least, Field.greatest]
      omega

lemma Zone.InRange.admitted {z : Zone} (inRange : z.InRange) : Admitted z.numbers := by
  cases z with
  | zulu => simp [Admitted, numbers, zuluFields, Field.admits_iff, Field.least, Field.greatest]
  | offset sign h m =>
      obtain ⟨hours, minutes⟩ := inRange
      cases sign
      all_goals
        simp [Admitted, numbers, Field.admits_iff, Field.least, Field.greatest, Sign.apply]
        omega

namespace Stamp

variable {s : Stamp}

/-- The fields that hold the numbers of a stamp, and nothing else. -/
def fields (s : Stamp) : Fields :=
  Fields.empty.assign s.numbers

/-- What each field holds. -/
def content (s : Stamp) : Field → Option Int
  | .year => some s.year
  | .month => some s.month
  | .day => some s.day
  | .hour24 => some s.hour
  | .minute => some s.minute
  | .second => some s.second
  | .subsecond => s.fraction.map fun n => n
  | .offsetHour => some s.zone.hours
  | .offsetMinute => some s.zone.minuteCount
  | .offsetIsNegative => some s.zone.mark
  | _ => none

lemma get_fields (s : Stamp) (f : Field) : s.fields.get f = s.content f := by
  obtain ⟨year, month, day, hour, minute, second, fraction, zone⟩ := s
  cases fraction <;> cases zone <;> cases f <;> rfl

/-- The fields determine the date that has the year, the month and the day of the stamp. -/
lemma date_eq_ok_iff {d : Date} : s.fields.date = .ok d ↔
    d.year = s.year ∧ d.month.number = s.month ∧ d.day = s.day := by
  rw [Fields.date_eq_ok_iff]
  constructor
  · rintro ⟨-, h⟩
    exact ⟨(h.year _ (s.get_fields _)).symm, (h.month _ (s.get_fields _)).symm,
      (h.day _ (s.get_fields _)).symm⟩
  · rintro ⟨year, month, day⟩
    refine ⟨⟨.calendar, ?_⟩, ?_⟩
    · simp [Fields.Has, DateSet.fields, get_fields, content]
    · simp [Fields.describes_iff, Date.quantities, get_fields, content, year, month, day]

/-- The fields determine the time that has the quantities of the stamp. -/
lemma time_eq_ok_iff {t : Time} : s.fields.time = .ok t ↔
    t.hour = s.hour ∧ t.minute = s.minute ∧ t.second = s.second ∧
      t.nanosecond = (s.fraction.getD 0 : Nat) := by
  have hour : s.fields.hour? = some (s.hour : Int) := by
    simp only [Fields.hour?, get_fields, content]
  -- the hour is read on the clock of 24, and nothing is known that could contradict it
  have clock (t : Time) : s.fields.clockContradiction t = none := by
    simp [Fields.clockContradiction, Fields.contradiction, get_fields, content]
  have nanosecond : (s.content .subsecond).getD 0 = (s.fraction.getD 0 : Nat) := by
    rw [content]
    cases s.fraction <;> rfl
  have named : s.fields.namedTime s.hour = (Time.ofClock s.hour s.minute s.second
      (s.fraction.getD 0 : Nat)).mapError .range := by
    simp only [Fields.namedTime, get_fields, nanosecond]
    rfl
  rw [Fields.time, hour]
  dsimp only
  rw [named, Outcome.bind_eq_ok_iff]
  simp only [clock]
  rw [← Time.ofClock_eq_ok_iff, ← Outcome.mapError_eq_ok_iff (f := Cause.range)]
  constructor
  · rintro ⟨u, read, same⟩
    cases same
    exact read
  · intro read
    exact ⟨t, read, rfl⟩

/-- The fields determine the offset that has the hours and the minutes of the zone. -/
lemma offset_eq_ok_iff {o : UtcOffset} : s.fields.offset = .ok o ↔
    o.hours = s.zone.hours ∧ o.minutes = s.zone.minutes ∧ o.seconds = 0 := by
  have same := s.zone.same_sign
  have minutes := s.zone.sign_mul_minuteCount
  rw [← UtcOffset.ofParts_eq_ok_iff (by omega), ← Outcome.mapError_eq_ok_iff (f := Cause.range)]
  simp [Fields.offset, get_fields, content, minutes]

/-- The fields determine the values that the stamp denotes. -/
lemma resolve_eq_ok_iff {value : Value} :
    ValueKind.offsetDateTime.resolve s.fields = .ok value ↔
      ∃ v, value = .offsetDateTime v ∧ s.Denotes v := by
  rw [ValueKind.resolve_offsetDateTime_eq_ok_iff]
  simp only [date_eq_ok_iff, time_eq_ok_iff, offset_eq_ok_iff]
  constructor
  · rintro ⟨v, rfl, ⟨year, month, day⟩, ⟨hour, minute, second, nanosecond⟩, hours, minutes,
      seconds⟩
    exact ⟨v, rfl, year, month, day, hour, minute, second, nanosecond, hours, minutes, seconds⟩
  · rintro ⟨v, rfl, h⟩
    exact ⟨v, rfl, ⟨h.year, h.month, h.day⟩, ⟨h.hour, h.minute, h.second, h.nanosecond⟩, h.hours,
      h.minutes, h.seconds⟩

/-- Fields can hold the numbers of what denotes a value. -/
lemma Denotes.admitted {v : OffsetDateTime} (h : s.Denotes v) : Admitted s.numbers := by
  have nanosecond := v.time.nanosecond_mem
  rw [h.nanosecond] at nanosecond
  have fraction := admitted_fractionNumbers (by omega : s.fraction.getD 0 ≤ 999999999)
  have inRange : s.zone.InRange := by
    rw [Zone.inRange_iff, ← h.hours, ← h.minutes]
    exact ⟨v.offset.hours_mem, v.offset.minutes_mem⟩
  have zone := inRange.admitted
  obtain ⟨year, month, day, hour, minute, second, -, -, -, -⟩ := h
  -- the quantities of a value are within its own bounds, which are closer than those of the fields
  have years := v.date.year_mem
  have months := v.date.month.number_bounds
  have days := v.date.day_mem
  have short := v.date.day_le
  have hours := v.time.hour_mem
  have minutes := v.time.minute_mem
  have seconds := v.time.second_mem
  simp only [Year.first, Year.last] at years
  simp only [Admitted, numbers, List.forall_mem_cons, List.forall_mem_append, Field.admits_iff,
    Field.least, Field.greatest] at fraction zone ⊢
  refine ⟨?_, ?_, ?_, ?_, ?_, ?_, fraction, zone⟩
  all_goals omega

end Stamp

/-- What takes the numbers of stamps parses a text to the values that these stamps denote. -/
lemma parseValue_eq_ok_iff_of_takes {description : Item} {text : Octets} {value : Value}
    {reading : Octets → Except Cause Reading} {P : Octets → Stamp → Prop}
    (read : (parseFormat description text).runOn .empty = Fields.empty.outcome (reading text))
    (takes : Reading.Takes reading fun text numbers => ∃ s, P text s ∧ s.numbers = numbers) :
    parseValue .offsetDateTime text description = .ok value ↔
      ∃ s v, P text s ∧ s.Denotes v ∧ value = .offsetDateTime v := by
  rw [parseValue_eq_ok_iff_of_runOn read]
  constructor
  · rintro ⟨numbers, taken, resolved⟩
    obtain ⟨-, spelled, same, s, spells, rfl⟩ := (takes _ _ _).mp taken
    rw [List.append_nil] at same
    obtain ⟨v, rfl, denotes⟩ := Stamp.resolve_eq_ok_iff.mp resolved
    exact ⟨s, v, same ▸ spells, denotes, rfl⟩
  · rintro ⟨s, v, spells, denotes, rfl⟩
    have taken := (takes text s.numbers []).mpr
      ⟨denotes.admitted, text, (List.append_nil text).symm, s, spells, rfl⟩
    exact ⟨s.numbers, taken, Stamp.resolve_eq_ok_iff.mpr ⟨v, rfl, denotes⟩⟩

/-- A text is parsed to a value exactly when it spells a stamp that denotes the value. -/
theorem parseValue_eq_ok_iff {text : Octets} {value : Value} :
    parseValue .offsetDateTime text (.stray (.wellKnown .rfc3339)) = .ok value ↔
      ∃ s v, Spells text s ∧ s.Denotes v ∧ value = .offsetDateTime v := by
  have read : (parseFormat (.stray (.wellKnown .rfc3339)) text).runOn .empty =
      Fields.empty.outcome (read text) := reads_parse text .empty
  exact parseValue_eq_ok_iff_of_takes read takes_read

end Rfc3339

end CalendarText
