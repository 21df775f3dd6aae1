/-
The offset that a text of the internet format leaves in fields that hold an offset already.

An offset is spread over four fields.  A text of the format writes over three of them, whether it
ends in a letter for UTC or in hours and minutes.  There are no seconds in its offset, and it leaves
those that were there: they count as seconds of the new offset, with its sign.

* `Zone.sign`: the sign of the offset in a text;
* `runOn_parseFormat_eq_ok_iff`: what reading does to any fields;
* `Stamp.get_assign`: what each field holds then;
* `Stamp.offset_assign`, `Stamp.resolve_assign_eq_ok_iff`: the offset that these fields determine;
* `parse_replaces_offset`: it is the one in the text exactly if no seconds were there before;
* `zulu_behind_seconds`: the letter for UTC does not give UTC behind seconds.
-/
import CalendarText.Proofs.Fields.Offset
import CalendarText.Proofs.Rfc3339.RoundTrip
import CalendarText.Reading.Operation

namespace CalendarText.Rfc3339

open Numeral (Shows)

/-- The sign of a zone.  No hours and no minutes behind a sign have one as well. -/
def Zone.sign : Zone → Int
  | zulu => 1
  | offset sign _ _ => Sign.apply (some sign) 1

/-- The sign that is resolved is that of the zone. -/
lemma Zone.sign_eq (z : Zone) : (if z.mark = 1 ∨ z.hours < 0 then (-1 : Int) else 1) = z.sign := by
  cases z with
  | zulu => rfl
  | offset sign h m => cases sign <;> simp [mark, hours, Zone.sign, Sign.apply]

lemma Zone.sign_mem (z : Zone) : z.sign = 1 ∨ z.sign = -1 := by
  cases z with
  | zulu => exact .inl rfl
  | offset sign h m => cases sign <;> simp [Zone.sign, Sign.apply]

/-- Hours, minutes and any seconds with the sign of a zone have one sign. -/
lemma Zone.same_sign_seconds (z : Zone) (seconds : Nat) :
    (0 ≤ z.hours ∧ 0 ≤ z.minutes ∧ 0 ≤ z.sign * seconds) ∨
      (z.hours ≤ 0 ∧ z.minutes ≤ 0 ∧ z.sign * seconds ≤ 0) := by
  cases z with
  | zulu => simp [hours, minutes, Zone.sign]
  | offset sign h m => cases sign <;> simp [hours, minutes, Zone.sign, Sign.apply]

/-- Seconds of less than a minute can be put behind the hours and the minutes of a zone. -/
lemma Zone.InRange.exists_offset {z : Zone} (inRange : z.InRange) {seconds : Nat}
    (few : seconds ≤ 59) :
    ∃ o : UtcOffset, o.hours = z.hours ∧ o.minutes = z.minutes ∧ o.seconds = z.sign * seconds := by
  obtain ⟨hours, minutes⟩ := z.inRange_iff.mp inRange
  have within : -59 ≤ z.sign * seconds ∧ z.sign * seconds ≤ 59 := by
    rcases z.sign_mem with sign | sign <;> rw [sign] <;> omega
  exact ⟨⟨z.hours, z.minutes, z.sign * seconds, hours, minutes, within,
    z.same_sign_seconds seconds⟩, rfl, rfl, rfl⟩

/-- The fields determine the offset with the hours and the minutes of a zone, and these seconds. -/
def Zone.IsResolved (z : Zone) (q : Fields) (seconds : Int) : Prop :=
  ∃ o, ValueKind.offset.resolve q = .ok (.offset o) ∧
    o.hours = z.hours ∧ o.minutes = z.minutes ∧ o.seconds = seconds

/-! ### Fields of any history -/

/-- The numbers that are read from a text are filled into any fields. -/
lemma runOn_parseFormat_eq_ok_iff_read {data rest : Octets} {p q : Fields} :
    (parseFormat description data).runOn p = (.ok rest, q) ↔
      ∃ numbers, read data = .ok (numbers, rest) ∧ q = p.assign numbers := by
  have outcome : (parseFormat description data).runOn p = p.outcome (read data) :=
    reads_parse data p
  rw [outcome]
  cases read data with
  | error c => simp [Fields.outcome]
  | ok reading =>
      obtain ⟨numbers, left⟩ := reading
      simp [Fields.outcome, eq_comm]

/-- A text is read into any fields as it is laid out: the numbers of its stamp are filled in. -/
lemma runOn_parseFormat_eq_ok_iff {data rest : Octets} {p q : Fields} :
    (parseFormat description data).runOn p = (.ok rest, q) ↔
      ∃ text s, data = text ++ rest ∧ Spells text s ∧ Admitted s.numbers ∧
        q = p.assign s.numbers := by
  rw [runOn_parseFormat_eq_ok_iff_read]
  constructor
  · rintro ⟨numbers, taken, rfl⟩
    obtain ⟨hold, text, rfl, s, spells, rfl⟩ := (takes_read _ _ _).mp taken
    exact ⟨text, s, rfl, spells, hold, rfl⟩
  · rintro ⟨text, s, rfl, spells, hold, rfl⟩
    exact ⟨s.numbers, (takes_read _ _ _).mpr ⟨hold, text, rfl, s, spells, rfl⟩, rfl⟩

namespace Stamp

/-- Fields for which a stamp has a number hold it, whatever they held before. -/
lemma get_assign (s : Stamp) (p : Fields) (f : Field) :
    (p.assign s.numbers).get f = (s.content f).or (p.get f) := by
  obtain ⟨year, month, day, hour, minute, second, fraction, zone⟩ := s
  cases fraction <;> cases zone <;> cases f <;> rfl

/-- The offset after a text was read: its hours and minutes, and seconds from before. -/
lemma offset_assign (s : Stamp) (p : Fields) :
    (p.assign s.numbers).offset = (UtcOffset.ofParts s.zone.hours s.zone.minutes
      (s.zone.sign * ((p.get .offsetSecond).getD 0).natAbs)).mapError .range := by
  have minutes := s.zone.sign_mul_minuteCount
  rw [s.zone.sign_eq] at minutes
  simp [Fields.offset, get_assign, content, minutes, Zone.sign_eq]

/-- The fields determine the offset that has the hours and the minutes in the text, and the seconds
from before with the sign of the text. -/
lemma resolve_assign_eq_ok_iff {s : Stamp} {p : Fields} {o : UtcOffset} :
    ValueKind.offset.resolve (p.assign s.numbers) = .ok (.offset o) ↔
      o.hours = s.zone.hours ∧ o.minutes = s.zone.minutes ∧
        o.seconds = s.zone.sign * ((p.get .offsetSecond).getD 0).natAbs := by
  have same := s.zone.same_sign_seconds ((p.get .offsetSecond).getD 0).natAbs
  rw [← UtcOffset.ofParts_eq_ok_iff same, ValueKind.resolve, Outcome.mapError_eq_ok_iff,
    ValueKind.determine, Outcome.map_eq_ok_iff, s.offset_assign]
  simp [Outcome.mapError_eq_ok_iff]

/-- Too many seconds from before are reported behind any hours and minutes that are in range. -/
lemma exists_resolve_assign_eq_error {s : Stamp} {p : Fields} (inRange : s.zone.InRange)
    (many : 59 < ((p.get .offsetSecond).getD 0).natAbs) :
    ∃ e, ValueKind.offset.resolve (p.assign s.numbers) = .error (.resolving (.range e)) ∧
      e.name = "seconds" := by
  obtain ⟨hours, minutes⟩ := s.zone.inRange_iff.mp inRange
  have beyond : ¬(-59 ≤ s.zone.sign * ((p.get .offsetSecond).getD 0).natAbs ∧
      s.zone.sign * ((p.get .offsetSecond).getD 0).natAbs ≤ 59) := by
    rcases s.zone.sign_mem with sign | sign <;> rw [sign] <;> omega
  rw [ValueKind.resolve, ValueKind.determine, s.offset_assign, UtcOffset.ofParts, dif_pos hours,
    dif_pos minutes, dif_neg beyond]
  exact ⟨_, rfl, rfl⟩

/-- A few seconds from before stay. -/
lemma isResolved_assign {s : Stamp} {p : Fields} (inRange : s.zone.InRange)
    (few : ((p.get .offsetSecond).getD 0).natAbs ≤ 59) :
    s.zone.IsResolved (p.assign s.numbers)
      (s.zone.sign * ((p.get .offsetSecond).getD 0).natAbs) := by
  obtain ⟨o, hours, minutes, seconds⟩ := inRange.exists_offset few
  exact ⟨o, resolve_assign_eq_ok_iff.mpr ⟨hours, minutes, seconds⟩, hours, minutes, seconds⟩

/-- The offset has no seconds exactly if there were none before. -/
lemma isResolved_assign_zero_iff {s : Stamp} {p : Fields} (inRange : s.zone.InRange) :
    s.zone.IsResolved (p.assign s.numbers) 0 ↔ (p.get .offsetSecond).getD 0 = 0 := by
  constructor
  · rintro ⟨o, resolved, -, -, none⟩
    have seconds := (resolve_assign_eq_ok_iff.mp resolved).2.2
    rcases s.zone.sign_mem with sign | sign <;> rw [sign] at seconds <;> omega
  · intro nothing
    have zero := isResolved_assign inRange (by omega : ((p.get .offsetSecond).getD 0).natAbs ≤ 59)
    rwa [nothing, Int.natAbs_zero, Int.natCast_zero, Int.mul_zero] at zero

end Stamp

/-- **Reading replaces an offset, except for its seconds.**  Let a text of the format be read into
fields that have any history.  Reading leaves the seconds of an offset as they were.  If the offset
in the text is in range, then the offset that the fields determine is exactly the one in the text if
and only if no seconds were there before, whatever the hours, the minutes and the mark were.  Up to
59 seconds that were there are kept, with the sign of the offset in the text, and any more are
reported as out of range. -/
theorem parse_replaces_offset {p q : Fields} {data rest : Octets}
    (parsed : (parseFormat description data).runOn p = (.ok rest, q)) :
    (∃ text s, data = text ++ rest ∧ Spells text s) ∧
      q.get .offsetSecond = p.get .offsetSecond ∧
      ∀ text s, data = text ++ rest → Spells text s → s.zone.InRange →
        (s.zone.IsResolved q 0 ↔ (p.get .offsetSecond).getD 0 = 0) ∧
        (((p.get .offsetSecond).getD 0).natAbs ≤ 59 →
          s.zone.IsResolved q (s.zone.sign * ((p.get .offsetSecond).getD 0).natAbs)) ∧
        (59 < ((p.get .offsetSecond).getD 0).natAbs →
          ∃ e, ValueKind.offset.resolve q = .error (.resolving (.range e)) ∧
            e.name = "seconds") := by
  obtain ⟨text, s, rfl, spells, -, rfl⟩ := runOn_parseFormat_eq_ok_iff.mp parsed
  refine ⟨⟨text, s, rfl, spells⟩, s.get_assign p .offsetSecond, ?_⟩
  intro text' s' same spells' inRange'
  -- the text and its zone are determined, and so the zone is the one that was read
  obtain rfl : text = text' := List.append_cancel_right same
  rw [← spells.zone_unique spells'] at inRange' ⊢
  exact ⟨Stamp.isResolved_assign_zero_iff inRange', Stamp.isResolved_assign inRange',
    Stamp.exists_resolve_assign_eq_error inRange'⟩

/-- After an offset at seven hours and a quarter west, the letter for UTC gives UTC.  If there were
thirty seconds as well, then half past five west is half past five and thirty seconds west. -/
theorem parse_replaces_offset_west :
    let west :=
      Fields.empty.assign [(.offsetHour, -7), (.offsetMinute, -15), (.offsetIsNegative, 1)]
    let seconds := west.assign [(.offsetSecond, 30)]
    let zulu : Stamp := ⟨2011, 11, 11, 11, 11, 11, none, .zulu⟩
    let behind : Stamp := ⟨2011, 11, 11, 11, 11, 11, none, .offset .minus 5 30⟩
    (parseFormat description (Octets.ofAscii "2011-11-11T11:11:11Z!")).runOn west =
        (.ok [33], west.assign zulu.numbers) ∧
      zulu.zone.IsResolved (west.assign zulu.numbers) 0 ∧
      (parseFormat description (Octets.ofAscii "2011-11-11T11:11:11-05:30")).runOn seconds =
        (.ok [], seconds.assign behind.numbers) ∧
      behind.zone.IsResolved (seconds.assign behind.numbers) (-30) := by
  intro west seconds zulu behind
  have year : Shows 4 (Octets.ofAscii "2011") 2011 := by decide
  have eleven : Shows 2 (Octets.ofAscii "11") 11 := by decide
  have spells (zone : Octets) (z : Zone) (inZone : SpellsZone zone z) :
      Spells (Octets.ofAscii "2011-11-11T11:11:11" ++ zone)
        ⟨2011, 11, 11, 11, 11, 11, none, z⟩ :=
    @Spells.stamp ⟨2011, 11, 11, 11, 11, 11, none, z⟩ _ _ _ _ _ _ _ _ 84 year eleven eleven
      (.inl rfl) eleven eleven eleven .none inZone
  have inZulu := spells [90] .zulu (.zulu (.inl rfl))
  have inBehind := spells (Octets.ofAscii "-05:30") (.offset .minus 5 30)
    (@SpellsZone.offset .minus (Octets.ofAscii "05") (Octets.ofAscii "30") 5 30 (by decide)
      (by decide))
  have readZulu : (parseFormat description (Octets.ofAscii "2011-11-11T11:11:11Z!")).runOn west =
      (.ok [33], west.assign zulu.numbers) :=
    runOn_parseFormat_eq_ok_iff.mpr ⟨_, zulu, rfl, inZulu, by unfold Admitted; decide, rfl⟩
  have readBehind : (parseFormat description (Octets.ofAscii "2011-11-11T11:11:11-05:30")).runOn
      seconds = (.ok [], seconds.assign behind.numbers) :=
    runOn_parseFormat_eq_ok_iff.mpr ⟨_, behind, rfl, inBehind, by unfold Admitted; decide, rfl⟩
  obtain ⟨-, -, utc⟩ := parse_replaces_offset readZulu
  obtain ⟨-, -, kept⟩ := parse_replaces_offset readBehind
  exact ⟨readZulu, (utc _ zulu rfl inZulu trivial).1.mpr rfl, readBehind,
    (kept _ behind rfl inBehind (by decide)).2.1 (by decide)⟩

/-- Seconds that were set before are seconds of the offset that the letter for UTC gives. -/
theorem zulu_behind_seconds :
    let set := (Operation.set "offset_second" (.integer 30)).run.runOn .empty
    let read := (Operation.readFormat (Octets.ofAscii "2021-01-02T03:04:05Z")
      description).run.runOn set.2
    let resolved := (Operation.resolve .offset).run.runOn read.2
    let o : UtcOffset := ⟨0, 0, 30, by decide, by decide, by decide, by decide⟩
    set.1 = .ok .done ∧ read.1 = .ok (.rest []) ∧ resolved.1 = .ok (.value (.offset o)) ∧
      o ≠ .utc := by
  decide +kernel

end CalendarText.Rfc3339
