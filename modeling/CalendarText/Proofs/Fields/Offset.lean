/-
The offset that fields determine.

Hours, minutes and seconds may be filled in with signs of their own, beside a mark that says whether
the offset is negative.  All of that comes down to one sign, which is that of the hours, or of the
mark where there are no hours; the other signs do not count.

* `UtcOffset.Part`, `UtcOffset.partsOf`: the parts of an offset as they are given, each with what it
  may be worth;
* `UtcOffset.exists_ofParts`, `UtcOffset.exists_reports`: parts within their bounds make an offset,
  and otherwise the first one beyond is reported;
* `UtcOffset.wholeSeconds_ofParts`, `UtcOffset.eq_of_wholeSeconds_eq`: the seconds that parts are
  worth, and the one offset that has them;
* `Fields.offset_eq_ofParts`: the two signs that are chosen, by the fields and by the parts, come
  down to one;
* `Fields.resolve_offset_one_sign`: the ends of a resolution, and the offset in seconds.
-/
import CalendarText.Proofs.Fields.Clock

namespace CalendarText

namespace UtcOffset

/-- A part of an offset as it is given: its name, what it may be worth at most, and its number. -/
structure Part where
  name : String
  most : Nat
  number : Int
  deriving DecidableEq, Repr

namespace Part

/-- The part is worth more than it may be, with either sign. -/
def exceeds (part : Part) : Bool :=
  part.most < part.number.natAbs

/-- An error reports a part: it has the name and the bounds of the part, and its number up to the
sign. -/
structure Reports (part : Part) (e : RangeError) : Prop where
  name : e.name = part.name
  minimum : e.minimum = -part.most
  maximum : e.maximum = part.most
  value : e.value.natAbs = part.number.natAbs
  unconditional : e.conditional = false

end Part

/-- Hours, minutes and seconds, in the order in which they are checked. -/
def partsOf (hours minutes seconds : Int) : List Part :=
  [⟨"hours", 23, hours⟩, ⟨"minutes", 59, minutes⟩, ⟨"seconds", 59, seconds⟩]

/-- What parts are worth in seconds, without any sign. -/
def magnitude (hours minutes seconds : Int) : Nat :=
  3600 * hours.natAbs + 60 * minutes.natAbs + seconds.natAbs

variable {hours minutes seconds m s : Int} {o : UtcOffset}

/-! ### Parts within and beyond their bounds -/

/-- The first part beyond its bound, one part after the other. -/
lemma find?_partsOf (hours minutes seconds : Int) :
    (partsOf hours minutes seconds).find? Part.exceeds =
      if 23 < hours.natAbs then some ⟨"hours", 23, hours⟩
      else if 59 < minutes.natAbs then some ⟨"minutes", 59, minutes⟩
      else if 59 < seconds.natAbs then some ⟨"seconds", 59, seconds⟩
      else none := by
  by_cases hh : 23 < hours.natAbs
  · simp [partsOf, Part.exceeds, hh]
  · by_cases hm : 59 < minutes.natAbs
    · simp [partsOf, Part.exceeds, hh, hm]
    · by_cases hs : 59 < seconds.natAbs
      · simp [partsOf, Part.exceeds, hh, hm, hs]
      · simp [partsOf, Part.exceeds, hh, hm, hs]

/-- The first part beyond its bound is reported, also when minutes and seconds have changed their
sign before they are checked. -/
lemma exists_reports {part : Part} (sameMinutes : m.natAbs = minutes.natAbs)
    (sameSeconds : s.natAbs = seconds.natAbs)
    (first : (partsOf hours minutes seconds).find? Part.exceeds = some part) :
    ∃ e, ofParts hours m s = .error e ∧ part.Reports e := by
  -- a sign changes no magnitude, so the parts exceed their bounds in the same order
  rw [find?_partsOf] at first
  rw [ofParts]
  split at first
  · rw [dif_neg (by omega)]
    cases first
    exact ⟨_, rfl, rfl, rfl, rfl, rfl, rfl⟩
  rw [dif_pos (by omega)]
  split at first
  · rw [dif_neg (by omega)]
    cases first
    exact ⟨_, rfl, rfl, rfl, rfl, sameMinutes, rfl⟩
  rw [dif_pos (by omega)]
  split at first
  · rw [dif_neg (by omega)]
    cases first
    exact ⟨_, rfl, rfl, rfl, rfl, sameSeconds, rfl⟩
  · cases first

/-- Parts within their bounds make an offset, also when minutes and seconds have changed their
sign before they are checked. -/
lemma exists_ofParts (sameMinutes : m.natAbs = minutes.natAbs)
    (sameSeconds : s.natAbs = seconds.natAbs)
    (within : (partsOf hours minutes seconds).find? Part.exceeds = none) :
    ∃ o, ofParts hours m s = .ok o := by
  rw [find?_partsOf] at within
  split_ifs at within
  rw [ofParts, dif_pos (by omega), dif_pos (by omega), dif_pos (by omega)]
  exact ⟨_, rfl⟩

/-! ### Offsets in seconds -/

/-- An offset is worth what its parts are worth, with the sign of the first that is not zero. -/
lemma wholeSeconds_ofParts (h : ofParts hours minutes seconds = .ok o) :
    o.wholeSeconds = sign hours minutes seconds * magnitude hours minutes seconds := by
  rw [ofParts] at h
  split_ifs at h
  cases h
  simp only [wholeSeconds, magnitude, sign]
  split <;> omega

/-- Minutes and seconds that have taken a sign of their own take that of the hours instead, and keep
it only where there are no hours. -/
lemma sign_mul_magnitude (hours minutes seconds : Int) (mark : Prop) [Decidable mark] {t : Int}
    (ht : t = if mark ∨ hours < 0 then -1 else 1) :
    sign hours (t * minutes.natAbs) (t * seconds.natAbs) *
        magnitude hours (t * minutes.natAbs) (t * seconds.natAbs) =
      (if hours < 0 ∨ (hours = 0 ∧ mark) then -1 else 1) * magnitude hours minutes seconds := by
  have same : magnitude hours (t * minutes.natAbs) (t * seconds.natAbs) =
      magnitude hours minutes seconds := by
    rw [magnitude, magnitude, ht]
    split <;> omega
  rw [same, sign]
  -- hours that are not zero settle the sign, and the mark counts where they are
  rcases Int.lt_trichotomy hours 0 with west | rfl | east
  · rw [if_pos (.inl west), if_pos (.inl west)]
  · by_cases marked : mark
    · -- where nothing is given there is no sign, and none is needed
      obtain rfl : t = -1 := ht.trans (if_pos (.inl marked))
      rw [if_pos (.inr ⟨rfl, marked⟩ : (0 : Int) < 0 ∨ ((0 : Int) = 0 ∧ mark)), magnitude]
      split <;> omega
    · obtain rfl : t = 1 := ht.trans (if_neg (by simp [marked]))
      rw [if_neg (by omega), if_neg (by simp [marked])]
  · rw [if_neg (by omega), if_neg (by omega)]

/-- There is one offset for a number of seconds. -/
lemma eq_of_wholeSeconds_eq {a b : UtcOffset} (same : a.wholeSeconds = b.wholeSeconds) : a = b := by
  obtain ⟨_, _, _, _, _, _, _⟩ := a
  obtain ⟨_, _, _, _, _, _, _⟩ := b
  simp only [wholeSeconds] at same
  simp only [mk.injEq]
  omega

end UtcOffset

namespace Fields

variable {p : Fields} {hours : Int}

/-- The parts of an offset that are filled in beside its hours; those that are not are zero. -/
def offsetParts (p : Fields) (hours : Int) : List UtcOffset.Part :=
  UtcOffset.partsOf hours ((p.get .offsetMinute).getD 0) ((p.get .offsetSecond).getD 0)

/-- The sign of an offset: the mark counts where there are no hours, and nowhere else. -/
def offsetSign (p : Fields) (hours : Int) : Int :=
  if hours < 0 ∨ (hours = 0 ∧ p.get .offsetIsNegative = some 1) then -1 else 1

/-- The seconds of an offset with these hours. -/
def offsetSeconds (p : Fields) (hours : Int) : Int :=
  p.offsetSign hours * UtcOffset.magnitude hours ((p.get .offsetMinute).getD 0)
    ((p.get .offsetSecond).getD 0)

/-- The fields say too little for an offset exactly when the hours are missing. -/
lemma offset_eq_insufficient_iff :
    p.offset = .error .insufficient ↔ p.get .offsetHour = none := by
  rw [offset]
  cases p.get .offsetHour with
  | none => exact ⟨fun _ => rfl, fun _ => rfl⟩
  | some hours => simp [Outcome.mapError_eq_error_iff]

/-- Minutes and seconds take the sign of the mark or of the hours before an offset is made of them,
and then that of the first part that is not zero.  Together the two signs are one. -/
lemma offset_eq_ofParts (known : p.get .offsetHour = some hours) :
    ∃ m s : Int, m.natAbs = ((p.get .offsetMinute).getD 0).natAbs ∧
      s.natAbs = ((p.get .offsetSecond).getD 0).natAbs ∧
      UtcOffset.sign hours m s * UtcOffset.magnitude hours m s = p.offsetSeconds hours ∧
      p.offset = (UtcOffset.ofParts hours m s).mapError .range := by
  simp only [offset, known]
  refine ⟨_, _, ?_, ?_, UtcOffset.sign_mul_magnitude hours _ _ _ rfl, rfl⟩
  · split <;> omega
  · split <;> omega

/-- **An offset has one sign.**  The fields say too little for an offset exactly when the hours are
missing.  Otherwise the first of the hours, the minutes and the seconds that is beyond its bound is
reported, where a part that is not filled in is zero.  When none is, there is an offset, and it is
the one that is worth the three parts with a single sign: negative for negative hours, and for no
hours when the mark is set, whatever signs the minutes and the seconds have.  So an offset comes
back from its hours, its mark, and its other parts with any signs. -/
theorem resolve_offset_one_sign (p : Fields) :
    (ValueKind.offset.resolve p = .error (.resolving .insufficient) ↔
        p.get .offsetHour = none) ∧
      (∀ hours, p.get .offsetHour = some hours →
        (∀ part, (p.offsetParts hours).find? UtcOffset.Part.exceeds = some part →
          ∃ e, ValueKind.offset.resolve p = .error (.resolving (.range e)) ∧ part.Reports e) ∧
        ((∀ part ∈ p.offsetParts hours, part.exceeds = false) →
          ∃ o, ValueKind.offset.resolve p = .ok (.offset o) ∧
            ∀ u : UtcOffset, u.wholeSeconds = p.offsetSeconds hours ↔ u = o)) ∧
      ∀ o, p.DescribesOffset o → ValueKind.offset.resolve p = .ok (.offset o) := by
  have failed (c : Cause) :
      ValueKind.offset.resolve p = .error (.resolving c) ↔ p.offset = .error c := by
    rw [ValueKind.resolve_eq_error_iff, ValueKind.determine, Outcome.map_eq_error_iff]
  have resolved {o : UtcOffset} (h : p.offset = .ok o) :
      ValueKind.offset.resolve p = .ok (.offset o) := by
    rw [ValueKind.resolve, ValueKind.determine, h]
    rfl
  simp only [failed]
  refine ⟨offset_eq_insufficient_iff, fun hours known => ?_,
    fun o describes => resolved (offset_of_describes describes)⟩
  -- whatever signs the parts have, the offset is built of their magnitudes under one sign
  obtain ⟨m, s, sameMinutes, sameSeconds, worth, offset⟩ := offset_eq_ofParts known
  refine ⟨fun part first => ?_, fun within => ?_⟩
  · obtain ⟨e, refused, reports⟩ := UtcOffset.exists_reports sameMinutes sameSeconds first
    rw [refused] at offset
    exact ⟨e, offset, reports⟩
  · obtain ⟨o, made⟩ := UtcOffset.exists_ofParts sameMinutes sameSeconds
      (List.find?_eq_none.mpr fun part mem => by simp [within part mem])
    rw [made] at offset
    have seconds : o.wholeSeconds = p.offsetSeconds hours :=
      (UtcOffset.wholeSeconds_ofParts made).trans worth
    refine ⟨o, resolved offset, fun u => ⟨fun same => ?_, ?_⟩⟩
    · exact UtcOffset.eq_of_wholeSeconds_eq (same.trans seconds.symm)
    · rintro rfl
      exact seconds

/-- No hours with the mark and with minutes to the east are half an hour west, and hours to the east
are not turned by the mark.  Of minutes and seconds that are both too many, the minutes are
reported. -/
theorem resolve_offset_halfHourWest :
    let west := empty.assign [(.offsetHour, 0), (.offsetMinute, 30), (.offsetIsNegative, 1)]
    let east := empty.assign [(.offsetHour, 5), (.offsetMinute, -30), (.offsetIsNegative, 1)]
    let tooMany := empty.assign [(.offsetHour, -5), (.offsetMinute, 60), (.offsetSecond, -99)]
    let o : UtcOffset := ⟨0, -30, 0, by decide, by decide, by decide, by decide⟩
    west.DescribesOffset o ∧ ValueKind.offset.resolve west = .ok (.offset o) ∧
      (east.get .offsetHour = some 5 ∧
        (∀ part ∈ east.offsetParts 5, part.exceeds = false) ∧
        ∃ u, ValueKind.offset.resolve east = .ok (.offset u) ∧ u.wholeSeconds = 19800) ∧
      tooMany.get .offsetHour = some (-5) ∧
      (tooMany.offsetParts (-5)).find? UtcOffset.Part.exceeds = some ⟨"minutes", 59, 60⟩ ∧
        ∃ e, ValueKind.offset.resolve tooMany = .error (.resolving (.range e)) ∧
          e.name = "minutes" ∧ e.value.natAbs = 60 := by
  intro west east tooMany o
  have describes : west.DescribesOffset o := ⟨rfl, rfl, rfl, rfl⟩
  have within : ∀ part ∈ east.offsetParts 5, part.exceeds = false := by decide
  obtain ⟨u, resolved, only⟩ := ((resolve_offset_one_sign east).2.1 5 rfl).2 within
  obtain ⟨e, refused, reports⟩ := ((resolve_offset_one_sign tooMany).2.1 (-5) rfl).1 _ rfl
  exact ⟨describes, (resolve_offset_one_sign west).2.2 o describes,
    ⟨rfl, within, u, resolved, (only u).mpr rfl⟩, rfl, rfl, e, refused, reports.name,
    reports.value⟩

end Fields

end CalendarText
