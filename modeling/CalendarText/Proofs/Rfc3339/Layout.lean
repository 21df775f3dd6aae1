/-
The internet format as a layout of digits.

A text in the format is a row of numbers with fixed counts of digits and fixed letters between
them.  What it says is a `Stamp`: numbers that need not be those of a date, a time and an offset.

* `Spells`: a text is laid out as the format prescribes, with the numbers of a stamp;
* `Stamp.InRange`: the numbers are those of a day of the calendar, a time and an offset;
* `Stamp.Denotes`: the date-time at an offset that has the numbers of a stamp;
* `exists_denotes_iff`: a stamp that is spelled denotes a value exactly when it is in range.
-/
import CalendarText.Calendar.DateTime
import CalendarText.Proofs.Text.Numeral
import CalendarText.Reading.Token

namespace CalendarText.Rfc3339

open Numeral (Shows value)
open Octets (isDigit)

/-! ### What a text says -/

/-- Where a clock is: at UTC, or at hours and minutes behind a sign. -/
inductive Zone where
  | zulu
  | offset (sign : Sign) (hours minutes : Nat)
  deriving DecidableEq, Repr

/-- The numbers of a text. -/
structure Stamp where
  year : Nat
  month : Nat
  day : Nat
  hour : Nat
  minute : Nat
  second : Nat
  /-- the nanoseconds of a fraction of a second, if there is a fraction -/
  fraction : Option Nat
  zone : Zone
  deriving DecidableEq, Repr

namespace Zone

/-- The hours with their sign. -/
def hours : Zone → Int
  | zulu => 0
  | offset sign h _ => Sign.apply (some sign) h

/-- The minutes with the sign of the hours. -/
def minutes : Zone → Int
  | zulu => 0
  | offset sign _ m => Sign.apply (some sign) m

/-- Less than a day, and less than an hour behind the hours. -/
def InRange : Zone → Prop
  | zulu => True
  | offset _ h m => h ≤ 23 ∧ m ≤ 59

instance (z : Zone) : Decidable z.InRange :=
  match z with
  | zulu => .isTrue trivial
  | offset _ _ _ => inferInstanceAs (Decidable (_ ∧ _))

/-- Hours and minutes have one sign. -/
lemma same_sign (z : Zone) :
    (0 ≤ z.hours ∧ 0 ≤ z.minutes) ∨ (z.hours ≤ 0 ∧ z.minutes ≤ 0) := by
  cases z with
  | zulu => exact .inl ⟨Int.le_refl 0, Int.le_refl 0⟩
  | offset sign h m => cases sign <;> simp [hours, minutes, Sign.apply]

lemma inRange_iff (z : Zone) :
    z.InRange ↔ (-23 ≤ z.hours ∧ z.hours ≤ 23) ∧ -59 ≤ z.minutes ∧ z.minutes ≤ 59 := by
  cases z with
  | zulu => simp [InRange, hours, minutes]
  | offset sign h m =>
      cases sign <;> simp [InRange, hours, minutes, Sign.apply]

end Zone

namespace Stamp

/-- The numbers are those of a day of the calendar, a time and an offset. -/
structure InRange (s : Stamp) : Prop where
  month : 1 ≤ s.month ∧ s.month ≤ 12
  day : 1 ≤ s.day ∧ ∃ days, Year.monthLength? s.year s.month = some days ∧ s.day ≤ days
  hour : s.hour ≤ 23
  minute : s.minute ≤ 59
  second : s.second ≤ 59
  zone : s.zone.InRange

/-- The date-time has the numbers of the stamp.  Without a fraction there are no nanoseconds, and
there are never seconds in the offset. -/
structure Denotes (s : Stamp) (v : OffsetDateTime) : Prop where
  year : v.date.year = s.year
  month : v.date.month.number = s.month
  day : v.date.day = s.day
  hour : v.time.hour = s.hour
  minute : v.time.minute = s.minute
  second : v.time.second = s.second
  nanosecond : v.time.nanosecond = (s.fraction.getD 0 : Nat)
  hours : v.offset.hours = s.zone.hours
  minutes : v.offset.minutes = s.zone.minutes
  seconds : v.offset.seconds = 0

end Stamp

/-! ### The layout -/

/-- A fraction of a second: nothing, or a point and one to nine digits, which count as if zeros
filled them up to nine. -/
inductive SpellsFraction : Octets → Option Nat → Prop
  | none : SpellsFraction [] none
  | digits {run : Octets} : 1 ≤ run.length → run.length ≤ 9 → (∀ b ∈ run, isDigit b = true) →
    SpellsFraction (46 :: run) (some (value (run.rightpad 9 48)))

/-- A zone: the letter `Z` or `z`, or a sign, two digits, a colon and two digits. -/
inductive SpellsZone : Octets → Zone → Prop
  | zulu {letter : UInt8} : letter = 90 ∨ letter = 122 → SpellsZone [letter] .zulu
  | offset (sign : Sign) {hours minutes : Octets} {h m : Nat} : Shows 2 hours h →
    Shows 2 minutes m → SpellsZone (sign.octet :: (hours ++ 58 :: minutes)) (.offset sign h m)

/-- A date, the letter `T` or `t`, a time, and a zone. -/
inductive Spells : Octets → Stamp → Prop
  | stamp {s : Stamp} {year month day hour minute second fraction zone : Octets}
    {letter : UInt8} : Shows 4 year s.year → Shows 2 month s.month → Shows 2 day s.day →
    letter = 84 ∨ letter = 116 → Shows 2 hour s.hour → Shows 2 minute s.minute →
    Shows 2 second s.second → SpellsFraction fraction s.fraction → SpellsZone zone s.zone →
    Spells (year ++ [45] ++ month ++ [45] ++ day ++ [letter] ++ hour ++ [58] ++ minute ++ [58] ++
      second ++ fraction ++ zone) s

/-! ### Stamps that denote a value -/

/-- Nine digits are less than a second. -/
lemma SpellsFraction.getD_le {text : Octets} {fraction : Option Nat}
    (spells : SpellsFraction text fraction) : fraction.getD 0 ≤ 999999999 := by
  cases spells with
  | none => decide
  | @digits run least most digits =>
      -- digits that are missing at the end count as zeros, so nine are always valued
      have length : (run.rightpad 9 48).length = 9 := by
        rw [List.length_rightpad]
        omega
      have padded : ∀ b ∈ run.rightpad 9 48, isDigit b = true := by
        intro b mem
        rw [List.rightpad, List.mem_append, List.mem_replicate] at mem
        obtain mem | ⟨-, rfl⟩ := mem
        · exact digits b mem
        · rfl
      have lt := Numeral.value_lt padded
      have scale : Numeral.scale 9 = 1000000000 := rfl
      rw [length, scale] at lt
      exact Nat.le_of_lt_succ lt

lemma exists_month {month : Nat} (mem : 1 ≤ month ∧ month ≤ 12) :
    ∃ m : Month, m.number = month := by
  have all : ∀ n ∈ List.range' 1 12, (n : Int) ∈ Month.all.map Month.number := by decide
  obtain ⟨m, -, number⟩ := List.mem_map.mp (all month (by rw [List.mem_range'_1]; omega))
  exact ⟨m, number⟩

/-- A day of the calendar, by what the month table says of its month. -/
lemma exists_date_iff {year : Nat} (upto : year ≤ 9999) (month day : Nat) :
    (∃ d : Date, d.year = year ∧ d.month.number = month ∧ d.day = day) ↔
      (1 ≤ month ∧ month ≤ 12) ∧
        1 ≤ day ∧ ∃ days, Year.monthLength? year month = some days ∧ day ≤ days := by
  constructor
  · rintro ⟨d, hy, hm, hd⟩
    have number := d.month.number_bounds
    have mem := d.day_mem
    refine ⟨by omega, by omega, _, ?_, hd ▸ mem.2⟩
    rw [← hm, Year.monthLength?_number, hy]
  · rintro ⟨hm, one, days, length, most⟩
    obtain ⟨m, number⟩ := exists_month hm
    rw [← number, Year.monthLength?_number] at length
    cases length
    refine ⟨⟨year, m, day, ?_, by omega, most⟩, rfl, number, rfl⟩
    simp only [Year.first, Year.last]
    omega

/-- A stamp that is spelled denotes a value exactly when it is in range. -/
theorem exists_denotes_iff {text : Octets} {s : Stamp} (spells : Spells text s) :
    (∃ v, s.Denotes v) ↔ s.InRange := by
  obtain ⟨year, -, -, -, -, -, -, fraction, -⟩ := spells
  have upto : s.year < 10000 := year.lt
  have nanosecond := fraction.getD_le
  have date := exists_date_iff (Nat.le_of_lt_succ upto) s.month s.day
  constructor
  · rintro ⟨v, h⟩
    have hour := v.time.hour_mem
    have minute := v.time.minute_mem
    have second := v.time.second_mem
    have hours := v.offset.hours_mem
    have minutes := v.offset.minutes_mem
    rw [h.hour] at hour
    rw [h.minute] at minute
    rw [h.second] at second
    rw [h.hours] at hours
    rw [h.minutes] at minutes
    obtain ⟨month, day⟩ := date.mp ⟨v.date, h.year, h.month, h.day⟩
    exact ⟨month, day, by omega, by omega, by omega, s.zone.inRange_iff.mpr ⟨hours, minutes⟩⟩
  · intro h
    obtain ⟨d, hy, hm, hd⟩ := date.mpr ⟨h.month, h.day⟩
    obtain ⟨hours, minutes⟩ := s.zone.inRange_iff.mp h.zone
    have hour := h.hour
    have minute := h.minute
    have second := h.second
    -- a zone without seconds has all that an offset needs: bounds, and one sign
    let t : Time := ⟨s.hour, s.minute, s.second, (s.fraction.getD 0 : Nat), by omega, by omega,
      by omega, by omega⟩
    let o : UtcOffset := ⟨s.zone.hours, s.zone.minutes, 0, hours, minutes, by decide,
      by have := s.zone.same_sign; omega⟩
    exact ⟨⟨d, t, o⟩, hy, hm, hd, rfl, rfl, rfl, rfl, rfl, rfl, rfl⟩

end CalendarText.Rfc3339
