/-
Offsets from UTC, in hours, minutes and seconds of one sign.

* `UtcOffset.ofParts` gives all parts the sign of the first nonzero one, so that an hour and a
  half west may be written with `-1` and `30`;
* `UtcOffset.ofWholeSeconds` splits a number of seconds.
-/
import CalendarText.Calendar.Range

namespace CalendarText

/-- An offset from UTC; offsets to the east are positive. -/
structure UtcOffset where
  hours : Int
  minutes : Int
  seconds : Int
  hours_mem : -23 ≤ hours ∧ hours ≤ 23
  minutes_mem : -59 ≤ minutes ∧ minutes ≤ 59
  seconds_mem : -59 ≤ seconds ∧ seconds ≤ 59
  same_sign : (0 ≤ hours ∧ 0 ≤ minutes ∧ 0 ≤ seconds) ∨ (hours ≤ 0 ∧ minutes ≤ 0 ∧ seconds ≤ 0)
  deriving DecidableEq, Repr

namespace UtcOffset

/-- The sign of an offset with these parts, which is the sign of the first nonzero part. -/
def sign (hours minutes seconds : Int) : Int :=
  if hours < 0 ∨ (hours = 0 ∧ (minutes < 0 ∨ (minutes = 0 ∧ seconds < 0))) then -1 else 1

/-- The offset with these parts, all of them taken with the sign of the first nonzero one.  The
first part out of range is reported. -/
def ofParts (hours minutes seconds : Int) : Except RangeError UtcOffset :=
  if hh : -23 ≤ hours ∧ hours ≤ 23 then
    if hm : -59 ≤ minutes ∧ minutes ≤ 59 then
      if hs : -59 ≤ seconds ∧ seconds ≤ 59 then
        .ok {
          hours := hours
          minutes := sign hours minutes seconds * minutes.natAbs
          seconds := sign hours minutes seconds * seconds.natAbs
          hours_mem := hh
          minutes_mem := by rw [sign]; split <;> omega
          seconds_mem := by rw [sign]; split <;> omega
          same_sign := by rw [sign]; split <;> omega }
      else .error { name := "seconds", minimum := -59, maximum := 59, value := seconds }
    else .error { name := "minutes", minimum := -59, maximum := 59, value := minutes }
  else .error { name := "hours", minimum := -23, maximum := 23, value := hours }

/-- UTC itself. -/
def utc : UtcOffset :=
  ⟨0, 0, 0, by decide, by decide, by decide, by decide⟩

def isUtc (o : UtcOffset) : Bool :=
  o.hours = 0 ∧ o.minutes = 0 ∧ o.seconds = 0

/-- West of UTC. -/
def isNegative (o : UtcOffset) : Bool :=
  o.hours < 0 ∨ o.minutes < 0 ∨ o.seconds < 0

/-- The offset in seconds. -/
def wholeSeconds (o : UtcOffset) : Int :=
  o.hours * 3600 + o.minutes * 60 + o.seconds

/-- The offset of this many seconds, which must stay below one day. -/
def ofWholeSeconds (n : Int) : Except RangeError UtcOffset :=
  if -86399 ≤ n ∧ n ≤ 86399 then
    ofParts (n.tdiv 3600) ((n.tmod 3600).tdiv 60) ((n.tmod 3600).tmod 60)
  else .error { name := "seconds", minimum := -86399, maximum := 86399, value := n }

/-- Only UTC is at offset zero. -/
theorem isUtc_iff (o : UtcOffset) : o.isUtc = true ↔ o = utc := by
  rcases o with ⟨h, m, s, _, _, _, _⟩
  simp [isUtc, utc]

/-- An offset is built again from its own parts. -/
theorem ofParts_self (o : UtcOffset) : ofParts o.hours o.minutes o.seconds = .ok o := by
  rcases o with ⟨h, m, s, hh, hm, hs, same⟩
  rw [ofParts, dif_pos hh, dif_pos hm, dif_pos hs]
  simp only [Except.ok.injEq, mk.injEq, true_and, sign]
  split <;> omega

end UtcOffset

end CalendarText
