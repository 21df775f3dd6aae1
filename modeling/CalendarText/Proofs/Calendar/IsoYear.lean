/-
ISO years on the line of days.

An ISO year begins on the last Monday that is not after the fourth of January, which may be a day of
the year before.  From there to the beginning of the next one it has 52 or 53 whole weeks, so that
ISO years follow each other without a gap, as years do, before the calendar and behind it as well.

* `Year.isGreatest_isoStart`: where an ISO year begins;
* `Year.exists_isoStart_le`: every day lies in an ISO year;
* `Year.isoYears_tile`: ISO years and years tile the line of days.
-/
import CalendarText.Proofs.Calendar.IsoWeek
import Mathlib.Order.Bounds.Basic

namespace CalendarText.Year

/-- The numbers of the Mondays on or before the fourth of January of a year.  Days of the years
before it have ordinals that are not positive. -/
def earlyMondays (year : Int) : Set Int :=
  {n | ∃ ordinal ≤ 4, weekdayOn year ordinal = .monday ∧ n = daysBefore year + ordinal}

/-- An ISO year begins on the Monday on or before the fourth of January. -/
lemma isGreatest_isoStart (year : Int) : IsGreatest (earlyMondays year) (isoStart year) := by
  have monday (ordinal : Int) :
      weekdayOn year ordinal = .monday ↔ (daysBefore year + ordinal - 1) % 7 = 0 :=
    Weekday.ofDays_eq_iff _ _
  constructor
  · refine ⟨isoStart year - daysBefore year, ?_, (monday _).mpr ?_, ?_⟩ <;> rw [isoStart] <;> omega
  · rintro n ⟨ordinal, early, first, rfl⟩
    rw [monday] at first
    rw [isoStart]
    omega

/-- Each ISO year begins after the one before it. -/
lemma isoStart_lt_succ (year : Int) : isoStart year < isoStart (year + 1) := by
  have step := isoStart_succ year
  have weeks := weeks_mem year
  omega

/-- A day lies in an ISO year, however far it is from the first one. -/
lemma exists_isoStart_le (n : Int) : ∃ year, isoStart year ≤ n ∧ n < isoStart (year + 1) := by
  -- day by day from day 0, to later and to earlier days
  induction n with
  | zero => exact ⟨0, by decide⟩
  | succ n ih =>
      obtain ⟨year, lo, hi⟩ := ih
      by_cases within : (n : Int) + 1 < isoStart (year + 1)
      · exact ⟨year, by omega, within⟩
      · have next := isoStart_lt_succ (year + 1)
        exact ⟨year + 1, by omega, by omega⟩
  | pred n ih =>
      obtain ⟨year, lo, hi⟩ := ih
      by_cases within : isoStart year ≤ -(n : Int) - 1
      · exact ⟨year, within, by omega⟩
      · have previous := isoStart_lt_succ (year - 1)
        rw [Int.sub_add_cancel] at previous
        exact ⟨year - 1, by omega, by rw [Int.sub_add_cancel]; omega⟩

/-- **ISO years tile the line of days.**  For every integer as a year, its ISO year begins on the
Monday on or before the fourth of January.  From one beginning to the next there are as many weeks
as the year is said to have, 52 or 53, just as there are as many days from one year to the next as
the year has.  So every day lies in exactly one ISO year. -/
theorem isoYears_tile :
    (∀ year n, IsGreatest (earlyMondays year) n ↔ n = isoStart year) ∧
      (∀ year, isoStart (year + 1) - isoStart year = 7 * weeks year ∧
        (weeks year = 52 ∨ weeks year = 53) ∧
        daysBefore (year + 1) - daysBefore year = days year) ∧
      ∀ n, ∃! year, isoStart year ≤ n ∧ n < isoStart (year + 1) := by
  refine ⟨?_, ?_, ?_⟩
  · intro year n
    constructor
    · intro greatest
      exact greatest.unique (isGreatest_isoStart year)
    · rintro rfl
      exact isGreatest_isoStart year
  · intro year
    refine ⟨?_, weeks_mem year, ?_⟩
    · rw [isoStart_succ]
      omega
    · rw [daysBefore_succ]
      omega
  · intro n
    obtain ⟨year, within⟩ := exists_isoStart_le n
    exact ⟨year, within, fun other alsoWithin => eq_of_isoStart_le alsoWithin within⟩

end CalendarText.Year
