/-
Offsets by their seconds, and date-times exchanged with the platform.

Whatever signs the parts of an offset are given with, it keeps one form, in which all parts have the
sign of the first that is not zero.  In that form an offset and its whole seconds determine each
other, so nothing is lost when an offset travels to the platform and back as a span of time.  Of a
date-time only what is finer than a microsecond is lost on that way.

* `UtcOffset.Part.error`, `UtcOffset.leadingSign`: how parts beyond their bounds are reported, and
  the sign of the others;
* `UtcOffset.ofParts_cases`: the two ways in which an offset is made of parts;
* `UtcOffset.ofWholeSeconds_eq_ok_iff`: the offset that is made of seconds is the one that has them;
* `OffsetDateTime.exists_toPlatform`: there and back;
* `UtcOffset.wholeSeconds_bijective`: all of this together.
-/
import CalendarText.Calendar.Platform
import CalendarText.Proofs.Fields.Offset

namespace CalendarText

namespace UtcOffset

/-! ### One form for all signs -/

/-- The error that reports a part. -/
def Part.error (part : Part) : RangeError :=
  { name := part.name, minimum := -part.most, maximum := part.most, value := part.number }

/-- The sign of the first part that is not zero, and 0 where there is none. -/
def leadingSign (parts : List Part) : Int :=
  match parts.find? fun part => part.number ≠ 0 with
  | some part => part.number.sign
  | none => 0

variable {hours minutes seconds n : Int} {o : UtcOffset}

/-- The first part that is not zero, one part after the other. -/
lemma leadingSign_partsOf (hours minutes seconds : Int) :
    leadingSign (partsOf hours minutes seconds) =
      if hours ≠ 0 then hours.sign else if minutes ≠ 0 then minutes.sign else seconds.sign := by
  by_cases hh : hours = 0
  · by_cases hm : minutes = 0
    · by_cases hs : seconds = 0
      · simp [leadingSign, partsOf, hh, hm, hs]
      · simp [leadingSign, partsOf, hh, hm, hs]
    · simp [leadingSign, partsOf, hh, hm]
  · simp [leadingSign, partsOf, hh]

/-- The sign that an offset takes is that of its first part that is not zero.  Where there is none
it is the plus sign, of which nothing is seen. -/
lemma sign_mul_eq_leadingSign_mul {k : Int} (within : k = hours ∨ k = minutes ∨ k = seconds) :
    sign hours minutes seconds * k.natAbs =
      leadingSign (partsOf hours minutes seconds) * k.natAbs := by
  have signOf (n : Int) : n.sign = if n < 0 then -1 else if n = 0 then 0 else 1 := by
    split_ifs with west none
    · exact Int.sign_eq_neg_one_of_neg west
    · rw [none, Int.sign_zero]
    · exact Int.sign_eq_one_of_pos (by omega)
  rw [leadingSign_partsOf, sign]
  simp only [signOf]
  split_ifs <;> omega

/-- The first part beyond its bound is reported, with the number that was given. -/
lemma ofParts_eq_error {part : Part}
    (first : (partsOf hours minutes seconds).find? Part.exceeds = some part) :
    ofParts hours minutes seconds = .error part.error := by
  -- the parts are checked as they are named: hours, then minutes, then seconds
  rw [find?_partsOf] at first
  rw [ofParts]
  split at first
  · rw [dif_neg (by omega)]
    cases first
    rfl
  rw [dif_pos (by omega)]
  split at first
  · rw [dif_neg (by omega)]
    cases first
    rfl
  rw [dif_pos (by omega)]
  split at first
  · rw [dif_neg (by omega)]
    cases first
    rfl
  · cases first

/-- The parts that an offset keeps are worth what was given, with one sign. -/
lemma parts_of_ofParts (h : ofParts hours minutes seconds = .ok o) :
    o.hours = leadingSign (partsOf hours minutes seconds) * hours.natAbs ∧
      o.minutes = leadingSign (partsOf hours minutes seconds) * minutes.natAbs ∧
      o.seconds = leadingSign (partsOf hours minutes seconds) * seconds.natAbs := by
  rw [← sign_mul_eq_leadingSign_mul (.inl rfl), ← sign_mul_eq_leadingSign_mul (.inr (.inl rfl)),
    ← sign_mul_eq_leadingSign_mul (.inr (.inr rfl))]
  rw [ofParts] at h
  split_ifs at h
  cases h
  refine ⟨?_, rfl, rfl⟩
  show hours = sign hours minutes seconds * hours.natAbs
  rw [sign]
  split <;> omega

/-- Either a part is beyond its bound, and the first such part is reported; or an offset is made. -/
lemma ofParts_cases (hours minutes seconds : Int) :
    (∃ part, (partsOf hours minutes seconds).find? Part.exceeds = some part ∧
        ofParts hours minutes seconds = .error part.error) ∨
      ((partsOf hours minutes seconds).find? Part.exceeds = none ∧
        ∃ o, ofParts hours minutes seconds = .ok o) := by
  cases first : (partsOf hours minutes seconds).find? Part.exceeds with
  | some part => exact .inl ⟨part, rfl, ofParts_eq_error first⟩
  | none => exact .inr ⟨rfl, exists_ofParts rfl rfl first⟩

/-! ### Seconds -/

/-- An offset stays below a day. -/
lemma natAbs_wholeSeconds_le (o : UtcOffset) : o.wholeSeconds.natAbs ≤ 86399 := by
  have hours := o.hours_mem
  have minutes := o.minutes_mem
  have seconds := o.seconds_mem
  rw [wholeSeconds]
  omega

/-- The divisions by which a number of seconds is split round toward zero, so its parts are those of
its absolute value, all with the sign of the number. -/
lemma exists_split (n : Int) :
    ∃ (s : Int) (h m k : Nat), (s = 1 ∨ s = -1) ∧ n = s * (3600 * h + 60 * m + k : Nat) ∧
      (m ≤ 59 ∧ k ≤ 59) ∧ n.tdiv 3600 = s * h ∧ (n.tmod 3600).tdiv 60 = s * m ∧
      (n.tmod 3600).tmod 60 = s * k := by
  obtain ⟨a, rfl | rfl⟩ := n.eq_nat_or_neg
  · refine ⟨1, a / 3600, a % 3600 / 60, a % 3600 % 60, .inl rfl, by omega, by omega, ?_⟩
    simp only [Int.one_mul]
    exact ⟨rfl, rfl, rfl⟩
  · refine ⟨-1, a / 3600, a % 3600 / 60, a % 3600 % 60, .inr rfl, by omega, by omega, ?_⟩
    simp only [Int.neg_tdiv, Int.neg_tmod, Int.neg_one_mul]
    exact ⟨rfl, rfl, rfl⟩

/-- A number of seconds below a day makes an offset, which is worth that number. -/
lemma exists_ofWholeSeconds (below : n.natAbs ≤ 86399) :
    ∃ o, ofWholeSeconds n = .ok o ∧ o.wholeSeconds = n := by
  obtain ⟨s, h, m, k, one, worth, small, hour, minute, second⟩ := exists_split n
  have hours : h ≤ 23 := by obtain rfl | rfl := one <;> omega
  rw [ofWholeSeconds, if_pos (by omega), hour, minute, second]
  obtain ⟨part, first, -⟩ | ⟨-, o, made⟩ := ofParts_cases (s * h) (s * m) (s * k)
  · rw [find?_partsOf] at first
    obtain rfl | rfl := one <;> split_ifs at first <;> omega
  · refine ⟨o, made, ?_⟩
    rw [wholeSeconds_ofParts made, worth, sign, magnitude]
    obtain rfl | rfl := one <;> split <;> omega

/-- The offset that is made of seconds is the one that has them. -/
theorem ofWholeSeconds_eq_ok_iff : ofWholeSeconds n = .ok o ↔ o.wholeSeconds = n := by
  constructor
  · intro h
    by_cases below : n.natAbs ≤ 86399
    · obtain ⟨u, made, worth⟩ := exists_ofWholeSeconds below
      cases h.symm.trans made
      exact worth
    · rw [ofWholeSeconds, if_neg (by omega)] at h
      cases h
  · rintro rfl
    obtain ⟨u, made, worth⟩ := exists_ofWholeSeconds o.natAbs_wholeSeconds_le
    rw [made, eq_of_wholeSeconds_eq worth]

/-- An offset is made of seconds exactly below a day. -/
lemma exists_ofWholeSeconds_iff : (∃ o, ofWholeSeconds n = .ok o) ↔ n.natAbs ≤ 86399 := by
  constructor
  · rintro ⟨o, made⟩
    rw [← ofWholeSeconds_eq_ok_iff.mp made]
    exact o.natAbs_wholeSeconds_le
  · intro below
    obtain ⟨o, made, -⟩ := exists_ofWholeSeconds below
    exact ⟨o, made⟩

/-- An offset comes back from the span of time that it is given to the platform as. -/
lemma ofDuration_toDuration (o : UtcOffset) : ofDuration o.toDuration = .ok o := by
  have below := o.natAbs_wholeSeconds_le
  have exact : o.wholeSeconds.natAbs < Duration.exactBelow := Nat.lt_of_le_of_lt below (by decide)
  rw [ofDuration, toDuration, Duration.wholeSeconds_ofSeconds exact]
  exact ofWholeSeconds_eq_ok_iff.mpr rfl

end UtcOffset

/-! ### There and back -/

/-- A time with its nanoseconds rounded down to a multiple of 1000. -/
def Time.roundedDown (t : Time) : Time :=
  { t with
    nanosecond := t.nanosecond - t.nanosecond % 1000
    nanosecond_mem := by
      have range := t.nanosecond_mem
      omega }

lemma Time.ofPlatform_toPlatform (t : Time) : ofPlatform t.toPlatform = .ok t.roundedDown := by
  have whole : t.nanosecond / 1000 * 1000 = t.nanosecond - t.nanosecond % 1000 := by omega
  rw [ofPlatform, toPlatform]
  dsimp only
  rw [whole]
  exact t.roundedDown.ofClock_self

namespace Platform

/-- Numbers that are small enough are not refused for their width. -/
lemma checkNumbers_eq_ok {numbers : List Int} (small : ∀ n ∈ numbers, n.natAbs ≤ 999999) :
    checkNumbers numbers = .ok () := by
  induction numbers with
  | nil => rfl
  | cons n numbers ih =>
      have first := small n (by simp)
      have fits : fitsHalfWord n = true := by
        simp only [fitsHalfWord, decide_eq_true_eq]
        omega
      rw [checkNumbers, if_pos fits]
      exact ih fun m hm => small m (by simp [hm])

/-- The platform has every date from year 1. -/
lemma Day.check_of_date {d : Date} (since : 1 ≤ d.year) :
    Day.check ⟨d.year, d.month.number, d.day⟩ = .ok () := by
  rw [check, if_neg (not_not_intro ⟨since, d.year_mem.2⟩), Month.ofNumber?_number]
  exact if_pos d.day_mem

/-- The platform has every time of whole microseconds. -/
lemma Clock.check_toPlatform (t : Time) : Clock.check t.toPlatform = .ok () := by
  have range := t.nanosecond_mem
  have microsecond : 0 ≤ t.nanosecond / 1000 ∧ t.nanosecond / 1000 ≤ 999999 := by omega
  rw [Time.toPlatform, check]
  dsimp only
  rw [if_neg (not_not_intro t.hour_mem), if_neg (not_not_intro t.minute_mem),
    if_neg (not_not_intro t.second_mem), if_neg (not_not_intro microsecond)]

/-- The platform has the span of time that an offset is given to it as. -/
lemma spanOfParts_wholeSeconds (o : UtcOffset) :
    spanOfParts o.wholeSeconds 0 = .ok o.toDuration := by
  have below := o.natAbs_wholeSeconds_le
  have fits : fitsHalfWord (o.wholeSeconds * 1000000 / 86400000000) = true := by
    simp only [fitsHalfWord, decide_eq_true_eq]
    omega
  simp only [spanOfParts, Int.add_zero]
  rw [if_neg (not_not_intro fits), if_neg (by omega)]
  rfl

/-- The platform has a zone with every offset. -/
lemma Zone.ofOffset_toDuration (o : UtcOffset) :
    Zone.ofOffset o.toDuration = .ok ⟨some o.toDuration⟩ := by
  have below := o.natAbs_wholeSeconds_le
  have span : o.toDuration.microseconds = o.wholeSeconds * 1000000 := rfl
  rw [ofOffset, span]
  exact if_pos (by omega)

/-- The platform makes the record of a date and a time from the record of its parts. -/
lemma Stamp.ofParts_toPlatform {d : Date} (since : 1 ≤ d.year) (t : Time) (z : Zone) :
    Stamp.ofParts ⟨d.year, d.month.number, d.day⟩ t.toPlatform (some z) =
      .ok ⟨⟨d.year, d.month.number, d.day⟩, t.toPlatform, z.fixed⟩ := by
  have small : checkNumbers [d.year, d.month.number, d.day, t.toPlatform.hour,
      t.toPlatform.minute, t.toPlatform.second, t.toPlatform.microsecond] = .ok () := by
    have year : d.year ≤ 9999 := d.year_mem.2
    have month := d.month.number_bounds
    have day := d.day_mem
    have length := Month.length_bounds (Year.isLeap d.year) d.month
    have hour := t.hour_mem
    have minute := t.minute_mem
    have second := t.second_mem
    have nanosecond := t.nanosecond_mem
    apply checkNumbers_eq_ok
    simp only [Time.toPlatform, List.forall_mem_cons, List.not_mem_nil, false_implies,
      implies_true, and_true]
    omega
  rw [ofParts, small]
  -- the numbers fit in half a word, so day and clock are checked on their own
  show (Day.check _ >>= fun _ => Clock.check _ >>= fun _ => _) = _
  rw [Day.check_of_date since, Clock.check_toPlatform]
  rfl

end Platform

namespace OffsetDateTime

/-- From year 1 on, a date-time is given to the platform as a record that the platform makes, and
comes back from it with its time rounded down. -/
lemma exists_toPlatform {v : OffsetDateTime} (since : 1 ≤ v.date.year) :
    ∃ s, v.toPlatform = .ok s ∧
      Platform.spanOfParts v.offset.wholeSeconds 0 = .ok v.offset.toDuration ∧
      (∃ z, Platform.Zone.ofOffset v.offset.toDuration = .ok z ∧
        Platform.Stamp.ofParts s.day s.clock (some z) = .ok s) ∧
      ofPlatform s = .ok ⟨v.date, v.time.roundedDown, v.offset⟩ := by
  refine ⟨⟨⟨v.date.year, v.date.month.number, v.date.day⟩, v.time.toPlatform,
    some v.offset.toDuration⟩, ?_, Platform.spanOfParts_wholeSeconds v.offset, ?_, ?_⟩
  · rw [toPlatform, Date.toPlatform, if_pos since]
    rfl
  · exact ⟨_, Platform.Zone.ofOffset_toDuration v.offset,
      Platform.Stamp.ofParts_toPlatform since v.time _⟩
  · have date : Date.ofPlatform ⟨v.date.year, v.date.month.number, v.date.day⟩ = .ok v.date :=
      v.date.ofCalendar_self
    simp only [ofPlatform, date, v.time.ofPlatform_toPlatform, v.offset.ofDuration_toDuration]
    rfl

end OffsetDateTime

/-- **Offsets are in bijection with their seconds.**  Of three parts the first one beyond its bound
is reported, and otherwise there is an offset whose parts are worth what was given, all with the
sign of the first that is not zero.  An offset is made again of its whole seconds; a number of
seconds makes an offset exactly when it stays below a day, and is then what the offset is worth; and
offsets of equal seconds are equal.  So from year 1 on the platform makes all the records that a
date-time is given to it as, and the date-time comes back from them with its nanoseconds rounded
down to whole microseconds; an earlier one is not given to the platform. -/
theorem UtcOffset.wholeSeconds_bijective :
    (∀ hours minutes seconds : Int,
      (∀ part, (partsOf hours minutes seconds).find? Part.exceeds = some part →
        ofParts hours minutes seconds = .error part.error) ∧
      ((partsOf hours minutes seconds).find? Part.exceeds = none →
        ∃ o, ofParts hours minutes seconds = .ok o ∧
          o.hours = leadingSign (partsOf hours minutes seconds) * hours.natAbs ∧
          o.minutes = leadingSign (partsOf hours minutes seconds) * minutes.natAbs ∧
          o.seconds = leadingSign (partsOf hours minutes seconds) * seconds.natAbs)) ∧
      (∀ o : UtcOffset, ofWholeSeconds o.wholeSeconds = .ok o) ∧
      (∀ n : Int, (∃ o, ofWholeSeconds n = .ok o) ↔ n.natAbs ≤ 86399) ∧
      (∀ (n : Int) (o : UtcOffset), ofWholeSeconds n = .ok o → o.wholeSeconds = n) ∧
      (∀ a b : UtcOffset, a = b ↔ a.wholeSeconds = b.wholeSeconds) ∧
      ∀ v : OffsetDateTime,
        (1 ≤ v.date.year → ∃ s, v.toPlatform = .ok s ∧
          Platform.spanOfParts v.offset.wholeSeconds 0 = .ok v.offset.toDuration ∧
          (∃ z, Platform.Zone.ofOffset v.offset.toDuration = .ok z ∧
            Platform.Stamp.ofParts s.day s.clock (some z) = .ok s) ∧
          OffsetDateTime.ofPlatform s = .ok ⟨v.date, v.time.roundedDown, v.offset⟩) ∧
        (v.date.year < 1 → v.toPlatform = .error .outOfRange) := by
  refine ⟨fun hours minutes seconds => ⟨fun part => ofParts_eq_error, ?_⟩, ?_,
    fun n => exists_ofWholeSeconds_iff, fun n o => ofWholeSeconds_eq_ok_iff.mp, ?_,
    fun v => ⟨OffsetDateTime.exists_toPlatform, ?_⟩⟩
  · intro within
    obtain ⟨o, made⟩ := exists_ofParts rfl rfl within
    exact ⟨o, made, parts_of_ofParts made⟩
  · intro o
    exact ofWholeSeconds_eq_ok_iff.mpr rfl
  · intro a b
    exact ⟨congrArg wholeSeconds, eq_of_wholeSeconds_eq⟩
  · intro before
    rw [OffsetDateTime.toPlatform, Date.toPlatform, if_neg (Int.not_le.mpr before)]
    rfl

/-- The first part that is not zero turns the others, and of two parts that are both too
large the first is reported.  The last nanosecond of the first day of year 1, at the offset farthest
west, comes back as the last microsecond of that day; one year earlier there is no record. -/
theorem UtcOffset.wholeSeconds_bijective_farWest :
    let west : UtcOffset := ⟨-23, -59, -59, by decide, by decide, by decide, by decide⟩
    let day : Date := ⟨1, .january, 1, by decide, by decide⟩
    let dayBefore : Date := ⟨0, .december, 31, by decide, by decide⟩
    let last : Time := ⟨23, 59, 59, 999999999, by decide, by decide, by decide, by decide⟩
    let lastMicrosecond : Time :=
      ⟨23, 59, 59, 999999000, by decide, by decide, by decide, by decide⟩
    ((partsOf 0 (-30) 59).find? Part.exceeds = none ∧
        ∃ o, ofParts 0 (-30) 59 = .ok o ∧ o.hours = 0 ∧ o.minutes = -30 ∧ o.seconds = -59) ∧
      ((partsOf 5 (-60) 99).find? Part.exceeds = some ⟨"minutes", 59, -60⟩ ∧
        ofParts 5 (-60) 99 = .error ⟨"minutes", -59, 59, -60, false⟩) ∧
      ofWholeSeconds (-86399) = .ok west ∧ (¬∃ o, ofWholeSeconds 86400 = .ok o) ∧
      (1 ≤ day.year ∧ ∃ s, (OffsetDateTime.mk day last west).toPlatform = .ok s ∧
        OffsetDateTime.ofPlatform s = .ok ⟨day, lastMicrosecond, west⟩) ∧
      dayBefore.year < 1 ∧
        (OffsetDateTime.mk dayBefore last west).toPlatform = .error .outOfRange := by
  intro west day dayBefore last lastMicrosecond
  obtain ⟨parts, again, below, -, -, exchange⟩ := wholeSeconds_bijective
  -- a negative half hour ahead of a positive second decides the sign of both
  have within : (partsOf 0 (-30) 59).find? Part.exceeds = none := rfl
  have beyond : (partsOf 5 (-60) 99).find? Part.exceeds = some ⟨"minutes", 59, -60⟩ := rfl
  obtain ⟨s, given, -, -, back⟩ := (exchange ⟨day, last, west⟩).1 (by decide)
  exact ⟨⟨within, (parts 0 (-30) 59).2 within⟩, ⟨beyond, (parts 5 (-60) 99).1 _ beyond⟩,
    again west, mt (below 86400).mp (by decide), ⟨by decide, s, given, back⟩, by decide,
    (exchange ⟨dayBefore, last, west⟩).2 (by decide)⟩

end CalendarText
