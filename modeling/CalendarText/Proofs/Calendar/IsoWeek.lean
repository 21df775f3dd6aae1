/-
ISO week dates and dates.

A date has one ISO year, ISO week and weekday, and a weekday of an ISO week of the calendar is one
date.  Only the last ISO week is cut short: the calendar ends on its Friday.

* `Date.ofIsoWeek_eq_ok_iff`: the date that is built, by its place on the line of days;
* `Date.iso_eq_of_number`: a place on the line of days belongs to one ISO week only;
* `Date.ofIsoWeek_bijective`: building a date by its ISO week and taking its ISO week are inverse
  to each other.
-/
import CalendarText.Proofs.Calendar.Line

namespace CalendarText

/-- Later years begin their ISO weeks later. -/
lemma Year.isoStart_mono {y z : Int} (h : y ≤ z) : isoStart y ≤ isoStart z := by
  have before := daysBefore_mono h
  rw [isoStart, isoStart]
  omega

/-- The ISO years do not overlap: a day lies in one of them only. -/
lemma Year.eq_of_isoStart_le {y z n : Int} (hy : isoStart y ≤ n ∧ n < isoStart (y + 1))
    (hz : isoStart z ≤ n ∧ n < isoStart (z + 1)) : y = z := by
  have order {a b : Int} (ha : n < isoStart (a + 1)) (hb : isoStart b ≤ n) : b ≤ a := by
    refine Int.not_lt.mp fun later => ?_
    have := isoStart_mono (Int.add_one_le_of_lt later)
    omega
  exact Int.le_antisymm (order hz.2 hy.1) (order hy.2 hz.1)

namespace Date

/-! ### Weekdays of an ISO week -/

section

variable {year week : Int} {k : Weekday} {d : Date}

/-- What is built by an ISO week is asked for by a year and a week of the calendar. -/
lemma mem_of_ofIsoWeek_eq_ok (h : ofIsoWeek year week k = .ok d) :
    (Year.first ≤ year ∧ year ≤ Year.last) ∧ (1 ≤ week ∧ week ≤ Year.weeks year) := by
  rw [ofIsoWeek] at h
  split at h
  · cases h
  · rename_i hy
    split at h
    · cases h
    · rename_i hw
      exact ⟨Decidable.not_not.mp hy, Decidable.not_not.mp hw⟩

/-- The date of an ISO week and a weekday is the one at their place on the line of days. -/
theorem ofIsoWeek_eq_ok_iff :
    ofIsoWeek year week k = .ok d ↔
      (Year.first ≤ year ∧ year ≤ Year.last) ∧ (1 ≤ week ∧ week ≤ Year.weeks year) ∧
        d.number = Year.isoStart year + 7 * (week - 1) + k.index := by
  constructor
  · intro h
    obtain ⟨hy, hw⟩ := mem_of_ofIsoWeek_eq_ok h
    obtain ⟨y, o, same, -, place⟩ := exists_ofIsoWeek_eq k hy hw
    rw [same] at h
    obtain ⟨rfl, rfl⟩ := ofOrdinal_eq_ok_iff.mp h
    exact ⟨hy, hw, place⟩
  · rintro ⟨hy, hw, number⟩
    obtain ⟨y, o, same, mem, place⟩ := exists_ofIsoWeek_eq k hy hw
    rw [same, ofOrdinal_eq_ok_iff]
    exact Year.eq_of_daysBefore_add_eq d.ordinal_mem mem (number.trans place.symm)

/-- What is refused by an ISO week is refused for its year or its week. -/
lemma name_of_ofIsoWeek_eq_error {e : RangeError} (h : ofIsoWeek year week k = .error e) :
    e.name = "year" ∨ e.name = "week" := by
  by_cases hy : Year.first ≤ year ∧ year ≤ Year.last
  · by_cases hw : 1 ≤ week ∧ week ≤ Year.weeks year
    · obtain ⟨y, o, same, mem, -⟩ := exists_ofIsoWeek_eq k hy hw
      rw [same] at h
      exact .inl ((name_of_ofOrdinal_eq_error h).resolve_right fun late => late.1 mem)
    · rw [ofIsoWeek, if_neg (not_not_intro hy), if_pos hw] at h
      cases h
      exact .inr rfl
  · rw [ofIsoWeek, if_pos hy] at h
    cases h
    exact .inl rfl

/-- A place on the line of days belongs to one ISO week only, and falls on one weekday. -/
lemma iso_eq_of_number (hw : 1 ≤ week ∧ week ≤ Year.weeks year)
    (number : d.number = Year.isoStart year + 7 * (week - 1) + k.index) :
    d.isoYear = year ∧ d.isoWeek = week ∧ d.weekday = k := by
  have own := d.number_eq_isoStart
  have mem := d.isoWeek_mem
  have index := k.index_bounds
  have ownIndex := d.weekday.index_bounds
  have same : d.isoYear = year := by
    refine Year.eq_of_isoStart_le (n := d.number) ⟨by omega, ?_⟩ ⟨by omega, ?_⟩ <;>
      rw [Year.isoStart_succ] <;> omega
  rw [same, number] at own
  have weekday : d.weekday.index = k.index := by omega
  refine ⟨same, by omega, ?_⟩
  rw [← Weekday.ofDays_index d.weekday, weekday, Weekday.ofDays_index]

/-- The calendar ends on the Friday of the last ISO week of its last year. -/
lemma isoStart_last : Year.isoStart Year.last + 7 * Year.weeks Year.last = last.number + 3 := by
  decide

/-- The weekdays of the calendar's ISO weeks are dates, up to the Friday of the last one. -/
lemma exists_number_eq_iff (hy : Year.first ≤ year ∧ year ≤ Year.last)
    (hw : 1 ≤ week ∧ week ≤ Year.weeks year) :
    (∃ d : Date, d.number = Year.isoStart year + 7 * (week - 1) + k.index) ↔
      ¬(year = Year.last ∧ week = Year.weeks Year.last ∧ (k = .saturday ∨ k = .sunday)) := by
  -- the last ISO year runs past the last day by its final weekend
  have stop := isoStart_last
  have weekend : k = .saturday ∨ k = .sunday ↔ 5 ≤ k.index := by cases k <;> decide
  have index := k.index_bounds
  constructor
  · rintro ⟨d, number⟩ ⟨rfl, rfl, late⟩
    have upto := d.number_bounds.2
    have late := weekend.mp late
    omega
  · intro inside
    apply exists_of_number_mem
    · have start : first.number = Year.isoStart Year.first := by decide
      have := Year.isoStart_mono hy.1
      omega
    · -- a year before the last one ends where the next one starts
      by_cases before : year < Year.last
      · have next : Year.isoStart (year + 1) ≤ Year.isoStart Year.last := Year.isoStart_mono before
        have weeks := Year.weeks_mem Year.last
        rw [Year.isoStart_succ] at next
        omega
      · obtain rfl : year = Year.last := by omega
        by_cases earlier : week < Year.weeks Year.last
        · omega
        · -- in the last week of all, a day that is left lies before the weekend
          have early : ¬5 ≤ k.index := fun h => inside ⟨rfl, by omega, weekend.mpr h⟩
          omega

end

/-- **ISO week dates are in bijection with dates.**  The ISO year of a date is a year of the
calendar, and the date is built again from its ISO year, ISO week and weekday.  Conversely a date
is built from every year of the calendar, every ISO week of that year and every weekday, apart from
the weekend at the end of the calendar, and these three are then its own; anything else is refused
for its year or its week. -/
theorem ofIsoWeek_bijective :
    (∀ d : Date, (Year.first ≤ d.isoYear ∧ d.isoYear ≤ Year.last) ∧
        ofIsoWeek d.isoYear d.isoWeek d.weekday = .ok d) ∧
      (∀ (year week : Int) (k : Weekday), (∃ d, ofIsoWeek year week k = .ok d) ↔
        (Year.first ≤ year ∧ year ≤ Year.last) ∧ (1 ≤ week ∧ week ≤ Year.weeks year) ∧
          ¬(year = Year.last ∧ week = Year.weeks Year.last ∧ (k = .saturday ∨ k = .sunday))) ∧
      (∀ (year week : Int) (k : Weekday) (d : Date), ofIsoWeek year week k = .ok d →
        d.isoYearWeek = (year, week) ∧ d.weekday = k) ∧
      (∀ (year week : Int) (k : Weekday) (e : RangeError), ofIsoWeek year week k = .error e →
        e.name = "year" ∨ e.name = "week") := by
  refine ⟨?_, ?_, ?_, ?_⟩
  · intro d
    exact ⟨d.isoYear_mem, d.ofIsoWeek_self⟩
  · intro year week k
    simp only [ofIsoWeek_eq_ok_iff, exists_and_left]
    refine and_congr_right fun hy => and_congr_right fun hw => ?_
    exact exists_number_eq_iff hy hw
  · intro year week k d h
    obtain ⟨-, hw, number⟩ := ofIsoWeek_eq_ok_iff.mp h
    obtain ⟨isoYear, isoWeek, weekday⟩ := iso_eq_of_number hw number
    exact ⟨Prod.ext isoYear isoWeek, weekday⟩
  · intro year week k e
    exact name_of_ofIsoWeek_eq_error

/-- The last day of the calendar is the Friday of week 52, and the day after it is refused. -/
theorem ofIsoWeek_lastWeekend :
    (ofIsoWeek 9999 52 .friday = .ok last ∧
      last.isoYearWeek = (9999, 52) ∧ last.weekday = .friday) ∧
    ∃ e, ofIsoWeek 9999 52 .saturday = .error e ∧ (e.name = "year" ∨ e.name = "week") := by
  have built : ofIsoWeek 9999 52 .friday = .ok last := rfl
  refine ⟨⟨built, ofIsoWeek_bijective.2.2.1 9999 52 .friday last built⟩, ?_⟩
  cases h : ofIsoWeek 9999 52 .saturday with
  | ok d =>
      have inside := (ofIsoWeek_bijective.2.1 9999 52 .saturday).mp ⟨d, h⟩
      exact (inside.2.2 ⟨by decide, by decide, by decide⟩).elim
  | error e => exact ⟨e, rfl, ofIsoWeek_bijective.2.2.2 9999 52 .saturday e h⟩

end Date

end CalendarText
