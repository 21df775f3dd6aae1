/-
The time and the offset that fields determine.

A time is known by the hour of either clock and by what follows the hour; an offset by its signed
hours and by its sign.  What is not filled in counts as zero.

* `Fields.DescribesTime`, `Fields.DescribesOffset`: what is filled in holds the quantities of a
  time or an offset, and what is not is zero there;
* `Fields.time_of_describes`, `Fields.offset_of_describes`: fields that suffice determine what they
  describe;
* `Fields.resolve_time_eq_ok_iff`: a time is determined only so, and a lack of information is
  reported exactly where the hour or the minute is missing.
-/
import CalendarText.Proofs.Fields.DateSet
import CalendarText.Proofs.Fields.Quantity

namespace CalendarText

namespace Time

/-- The two clocks agree: the hour of twelve and the half of the day make up the hour. -/
lemma hour12_mod (t : Time) : t.hour12 % 12 + 12 * (if t.isPm then 1 else 0) = t.hour := by
  have mem := t.hour_mem
  rw [hour12]
  by_cases pm : 12 ≤ t.hour
  · rw [if_pos (by simpa [isPm] using pm)]
    omega
  · rw [if_neg (by simpa [isPm] using pm)]
    omega

/-- On the clock of twelve, an hour and a half of the day are those of the hour that they
make up. -/
lemma eq_of_hour12 {t : Time} {n pm : Int} (hn : 1 ≤ n ∧ n ≤ 12) (hpm : 0 ≤ pm ∧ pm ≤ 1)
    (hour : t.hour = n % 12 + 12 * pm) : n = t.hour12 ∧ pm = if t.isPm then 1 else 0 := by
  rw [hour12]
  by_cases late : 12 ≤ t.hour
  · rw [if_pos (by simpa [isPm] using late)]
    omega
  · rw [if_neg (by simpa [isPm] using late)]
    omega

/-- A time is built from its own quantities, and from no other ones. -/
lemma ofClock_eq_ok_iff {hour minute second nanosecond : Int} {t : Time} :
    ofClock hour minute second nanosecond = .ok t ↔
      t.hour = hour ∧ t.minute = minute ∧ t.second = second ∧ t.nanosecond = nanosecond := by
  constructor
  · intro h
    rw [ofClock] at h
    repeat split at h
    all_goals cases h
    exact ⟨rfl, rfl, rfl, rfl⟩
  · rintro ⟨rfl, rfl, rfl, rfl⟩
    exact t.ofClock_self

end Time

/-- An offset is built from its own parts, and from no other ones of one sign. -/
lemma UtcOffset.ofParts_eq_ok_iff {hours minutes seconds : Int} {o : UtcOffset}
    (same : (0 ≤ hours ∧ 0 ≤ minutes ∧ 0 ≤ seconds) ∨ (hours ≤ 0 ∧ minutes ≤ 0 ∧ seconds ≤ 0)) :
    ofParts hours minutes seconds = .ok o ↔
      o.hours = hours ∧ o.minutes = minutes ∧ o.seconds = seconds := by
  constructor
  · intro h
    rw [ofParts] at h
    repeat split at h
    all_goals cases h
    refine ⟨rfl, ?_, ?_⟩
    all_goals
      simp only [sign]
      split <;> omega
  · rintro ⟨rfl, rfl, rfl⟩
    exact o.ofParts_self

namespace Fields

/-- Every time field that is filled in holds the quantity of its name of a time, and the parts of
an hour that are not filled in are zero there. -/
structure DescribesTime (p : Fields) (t : Time) : Prop where
  hour24 : ∀ n, p.get .hour24 = some n → n = t.hour
  hour12 : ∀ n, p.get .hour12 = some n → n = t.hour12
  hour12IsPm : ∀ n, p.get .hour12IsPm = some n → n = if t.isPm then 1 else 0
  minute : (p.get .minute).getD 0 = t.minute
  second : (p.get .second).getD 0 = t.second
  subsecond : (p.get .subsecond).getD 0 = t.nanosecond

/-- The hours of an offset are filled in with its sign, and the other parts with what they are
worth, or not at all where they are zero. -/
structure DescribesOffset (p : Fields) (o : UtcOffset) : Prop where
  hours : p.get .offsetHour = some o.hours
  isNegative : p.get .offsetIsNegative = some (if o.isNegative then 1 else 0)
  minutes : ((p.get .offsetMinute).getD 0).natAbs = o.minutes.natAbs
  seconds : ((p.get .offsetSecond).getD 0).natAbs = o.seconds.natAbs

/-- The hour is known by one of the two clocks. -/
def HasHour (p : Fields) : Prop :=
  (p.get .hour24).isSome = true ∨
    ((p.get .hour12).isSome = true ∧ (p.get .hour12IsPm).isSome = true)

/-- The minute is known, or the hour of the clock of twelve stands alone. -/
def HasMinute (p : Fields) : Prop :=
  (p.get .minute).isSome = true ∨
    (p.get .hour24 = none ∧ p.get .second = none ∧ p.get .subsecond = none)

/-- Whichever clock names the hour, it is that of the time. -/
lemma hour?_of_describes {p : Fields} {t : Time} (has : p.HasHour) (h : p.DescribesTime t) :
    p.hour? = some t.hour := by
  cases h24 : p.get .hour24 with
  | some n =>
      obtain rfl := h.hour24 n h24
      simp [hour?, h24]
  | none =>
      obtain some24 | ⟨some12, somePm⟩ := has
      · rw [h24] at some24
        exact nomatch some24
      · obtain ⟨n, h12⟩ := Option.isSome_iff_exists.mp some12
        obtain ⟨pm, hpm⟩ := Option.isSome_iff_exists.mp somePm
        obtain rfl := h.hour12 n h12
        obtain rfl := h.hour12IsPm pm hpm
        simp only [hour?, h24, h12, hpm, t.hour12_mod]

/-- The hour of a time and what follows it name the time. -/
lemma namedTime_of_describes {p : Fields} {t : Time} (has : p.HasMinute)
    (h : p.DescribesTime t) : p.namedTime t.hour = .ok t := by
  have second := h.second
  have subsecond := h.subsecond
  have minute := h.minute
  rw [namedTime]
  cases hm : p.get .minute with
  | some n =>
      obtain rfl : n = t.minute := by simpa [hm] using minute
      simp only [second, subsecond, Time.ofClock_self, Outcome.mapError_ok]
  | none =>
      obtain someMinute | alone := has
      · rw [hm] at someMinute
        exact nomatch someMinute
      · -- nothing is known but the hour, so all else is zero in the time
        have whole : Time.ofClock t.hour 0 0 0 = .ok t := by
          rw [hm] at minute
          rw [alone.2.1] at second
          rw [alone.2.2] at subsecond
          have self := t.ofClock_self
          rwa [← minute, ← second, ← subsecond] at self
        dsimp only
        rw [if_pos alone, whole]
        rfl

/-- The clock of twelve does not contradict a time that is described. -/
lemma clockContradiction_of_describes {p : Fields} {t : Time} (h : p.DescribesTime t) :
    p.clockContradiction t = none := by
  rw [clockContradiction]
  split
  · rfl
  · rw [contradiction_eq_none_iff]
    intro q hq
    simp only [List.mem_cons, List.not_mem_nil, or_false] at hq
    obtain rfl | rfl := hq
    · exact h.hour12
    · exact h.hour12IsPm

/-- Fields that suffice determine the time that they describe. -/
lemma time_of_describes {p : Fields} {t : Time} (hour : p.HasHour) (minute : p.HasMinute)
    (h : p.DescribesTime t) : p.time = .ok t := by
  rw [time, hour?_of_describes hour h]
  simp only [namedTime_of_describes minute h, bind, Except.bind, clockContradiction_of_describes h]
  rfl

/-- Fields determine the offset that they describe. -/
lemma offset_of_describes {p : Fields} {o : UtcOffset} (h : p.DescribesOffset o) :
    p.offset = .ok o := by
  have same := o.same_sign
  -- the sign is negative exactly when a part of the offset is
  have sign : (if p.get .offsetIsNegative = some 1 ∨ o.hours < 0 then (-1 : Int) else 1) =
      if o.hours < 0 ∨ o.minutes < 0 ∨ o.seconds < 0 then -1 else 1 := by
    rw [h.isNegative]
    by_cases negative : o.hours < 0 ∨ o.minutes < 0 ∨ o.seconds < 0
    · have flag : o.isNegative = true := decide_eq_true negative
      rw [flag, if_pos negative]
      exact if_pos (.inl rfl)
    · have flag : o.isNegative = false := decide_eq_false negative
      rw [flag, if_neg negative]
      refine if_neg ?_
      rintro (one | west)
      · exact nomatch one
      · exact negative (.inl west)
  have minutes : (if o.hours < 0 ∨ o.minutes < 0 ∨ o.seconds < 0 then (-1 : Int) else 1) *
      o.minutes.natAbs = o.minutes := by
    split <;> omega
  have seconds : (if o.hours < 0 ∨ o.minutes < 0 ∨ o.seconds < 0 then (-1 : Int) else 1) *
      o.seconds.natAbs = o.seconds := by
    split <;> omega
  simp only [offset, h.hours, sign, h.minutes, h.seconds, minutes, seconds,
    UtcOffset.ofParts_self, Outcome.mapError_ok]

/-! ### The time that fields determine -/

variable {p : Fields} {hour : Int} {t : Time}

/-- An hour is named exactly when it is known by one of the two clocks. -/
lemma isSome_hour? : p.hour?.isSome = true ↔ p.HasHour := by
  rw [hour?, HasHour]
  cases p.get .hour24 <;> cases p.get .hour12 <;> cases p.get .hour12IsPm <;> simp

/-- A time is named by its hour and by what follows it, as far as that is known. -/
lemma namedTime_eq_ok_iff :
    p.namedTime hour = .ok t ↔ p.HasMinute ∧ t.hour = hour ∧ (p.get .minute).getD 0 = t.minute ∧
      (p.get .second).getD 0 = t.second ∧ (p.get .subsecond).getD 0 = t.nanosecond := by
  rw [namedTime, HasMinute]
  cases p.get .minute with
  | some minute =>
      simp only [Outcome.mapError_eq_ok_iff, Time.ofClock_eq_ok_iff, Option.isSome_some, true_or,
        true_and, Option.getD_some]
      simp only [eq_comm]
  -- without a minute there is a time only where the hour stands alone
  | none =>
      simp only [Option.isSome_none, Bool.false_eq_true, false_or, Option.getD_none]
      split
      · rename_i alone
        simp only [Outcome.mapError_eq_ok_iff, Time.ofClock_eq_ok_iff, alone, true_and,
          Option.getD_none]
        simp only [eq_comm]
      · rename_i more
        exact ⟨nofun, fun h => absurd h.1 more⟩

/-- A time by an hour is short of information exactly when the minute is missing. -/
lemma namedTime_eq_insufficient_iff : p.namedTime hour = .error .insufficient ↔ ¬p.HasMinute := by
  rw [namedTime, HasMinute]
  cases p.get .minute with
  | some minute => simp [Outcome.mapError_eq_error_iff]
  | none =>
      simp only [Option.isSome_none, Bool.false_eq_true, false_or]
      split
      · rename_i alone
        simp [Outcome.mapError_eq_error_iff, alone]
      · rename_i more
        simp [more]

/-- The time of the hour that is named, unless the clock of twelve contradicts it. -/
lemma time_eq_bind (named : p.hour? = some hour) :
    p.time = p.namedTime hour >>= fun t =>
      match p.clockContradiction t with
      | some f => .error (.inconsistent f.name)
      | none => .ok t := by
  rw [time, named]
  rfl

/-- The fields say too little for a time exactly when the hour or the minute is missing. -/
lemma time_eq_insufficient_iff :
    p.time = .error .insufficient ↔ ¬(p.HasHour ∧ p.HasMinute) := by
  rw [← isSome_hour?]
  cases named : p.hour? with
  | none => simp [time, named, throw, throwThe, MonadExceptOf.throw]
  | some hour =>
      rw [time_eq_bind named, Outcome.bind_eq_error_iff, namedTime_eq_insufficient_iff]
      simp only [Option.isSome_some, true_and, or_iff_left_iff_imp]
      rintro ⟨t, -, h⟩
      split at h <;> cases h

/-- A time whose hour is named, and which no clock contradicts, has the hour that the fields
hold. -/
lemma hour_of_named (valid : p.Valid) (named : p.hour? = some t.hour)
    (agree : p.clockContradiction t = none) :
    (∀ n, p.get .hour24 = some n → n = t.hour) ∧ (∀ n, p.get .hour12 = some n → n = t.hour12) ∧
      ∀ n, p.get .hour12IsPm = some n → n = if t.isPm then 1 else 0 := by
  cases h24 : p.get .hour24 with
  -- the hour is given by itself, and the clock of twelve is compared with it
  | some n =>
      simp only [hour?, h24, Option.some.injEq] at named
      rw [clockContradiction, h24, if_neg nofun, contradiction_eq_none_iff] at agree
      refine ⟨?_, agree (.hour12, t.hour12) (by simp),
        agree (.hour12IsPm, if t.isPm then 1 else 0) (by simp)⟩
      rintro m ⟨⟩
      exact named
  | none =>
      -- the clock of twelve alone names the hour, so both of its fields are filled in
      cases h12 : p.get .hour12 with
      | none => simp [hour?, h24, h12] at named
      | some n =>
          cases hpm : p.get .hour12IsPm with
          | none => simp [hour?, h24, h12, hpm] at named
          | some pm =>
              simp only [hour?, h24, h12, hpm, Option.some.injEq] at named
              have admitted := valid .hour12
              have flag := valid .hour12IsPm
              rw [h12] at admitted
              rw [hpm] at flag
              have same := Time.eq_of_hour12 ((Field.admits_iff _ _).mp admitted)
                ((Field.admits_iff _ _).mp flag) named.symm
              refine ⟨nofun, ?_, ?_⟩
              · rintro m ⟨⟩
                exact same.1
              · rintro m ⟨⟩
                exact same.2

/-- Fields determine a time exactly when they suffice and describe it. -/
lemma time_eq_ok_iff (valid : p.Valid) :
    p.time = .ok t ↔ p.HasHour ∧ p.HasMinute ∧ p.DescribesTime t := by
  constructor
  · intro h
    cases named : p.hour? with
    | none =>
        rw [time, named] at h
        cases h
    | some hour =>
        rw [time_eq_bind named] at h
        obtain ⟨u, found, h⟩ := Outcome.bind_eq_ok_iff.mp h
        split at h
        · cases h
        · rename_i agree
          cases h
          obtain ⟨hasMinute, rfl, minute, second, subsecond⟩ := namedTime_eq_ok_iff.mp found
          obtain ⟨hour24, hour12, hour12IsPm⟩ := hour_of_named valid named agree
          have hasHour : p.HasHour := isSome_hour?.mp (by rw [named]; rfl)
          exact ⟨hasHour, hasMinute, ⟨hour24, hour12, hour12IsPm, minute, second, subsecond⟩⟩
  · rintro ⟨hasHour, hasMinute, describes⟩
    exact time_of_describes hasHour hasMinute describes

/-- **The fields determine the time that they describe.**  A time is determined exactly when an hour
is known, by the clock of 24 hours or by that of twelve with the half of the day, when the minute is
known or the hour of twelve stands alone, and when the time has every quantity that is filled in and
is zero where minute, second or fraction are not.  Too little is known exactly when the hour or the
minute is missing, whatever the fields hold. -/
theorem resolve_time_eq_ok_iff {p : Fields} (valid : p.Valid) :
    (∀ t, ValueKind.time.resolve p = .ok (.time t) ↔
        p.HasHour ∧ p.HasMinute ∧ p.DescribesTime t) ∧
      (ValueKind.time.resolve p = .error (.resolving .insufficient) ↔
        ¬p.HasHour ∨ ¬p.HasMinute) := by
  constructor
  · intro t
    rw [ValueKind.resolve, ValueKind.determine, Outcome.mapError_eq_ok_iff, Outcome.map_eq_ok_iff]
    simp only [Value.time.injEq, exists_eq_right, time_eq_ok_iff valid]
  · rw [ValueKind.resolve_eq_error_iff, ValueKind.determine, Outcome.map_eq_error_iff,
      time_eq_insufficient_iff, not_and_or]

/-- Noon by the clock of twelve: it stands alone, and is short of a minute once a second is
known. -/
theorem resolve_time_of_noon :
    let noon := empty.assign [(.hour12, 12), (.hour12IsPm, 1)]
    noon.Valid ∧ ValueKind.time.resolve noon =
        .ok (.time ⟨12, 0, 0, 0, by decide, by decide, by decide, by decide⟩) ∧
      (noon.put .second (some 99)).Valid ∧
      ValueKind.time.resolve (noon.put .second (some 99)) = .error (.resolving .insufficient) := by
  intro noon
  have valid : noon.Valid := by
    intro f
    cases f <;> decide
  have later : (noon.put .second (some 99)).Valid := valid_put valid (by decide)
  have describes : noon.DescribesTime ⟨12, 0, 0, 0, by decide, by decide, by decide, by decide⟩ :=
    ⟨by decide, by decide, by decide, by decide, by decide, by decide⟩
  refine ⟨valid, ((resolve_time_eq_ok_iff valid).1 _).mpr ⟨?_, ?_, ?_⟩, later,
    (resolve_time_eq_ok_iff later).2.mpr ?_⟩
  · exact .inr ⟨rfl, rfl⟩
  · exact .inr ⟨rfl, rfl, rfl⟩
  · exact describes
  · -- a second without a minute is not enough, whatever it holds
    right
    rintro (known | ⟨-, none, -⟩)
    · exact nomatch known
    · exact nomatch none

end Fields

end CalendarText
