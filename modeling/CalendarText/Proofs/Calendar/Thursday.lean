/-
The Thursday rule of ISO weeks.

A week from Monday to Sunday belongs to the year of its Thursday, and it is the week of that year
with as many Thursdays up to it.  The quantities of a date are computed without its Thursday, from
the week that the date would have if weeks stayed within years.

* `Year.exists_thursday`: the Thursdays of the ISO weeks of a year are the days of that year which
  count its weeks;
* `Date.isoYearWeek_thursday`: the ISO year and the ISO week of a date are those of its Thursday.
-/
import CalendarText.Proofs.Calendar.Week

namespace CalendarText

/-- The Thursday of an ISO week of a year is a day of that year: the first of them is one of its
first seven days, and the last one is not followed by seven more. -/
lemma Year.exists_thursday {year week : Int} (hw : 1 ≤ week ∧ week ≤ weeks year) :
    ∃ ordinal, (1 ≤ ordinal ∧ ordinal ≤ days year) ∧
      daysBefore year + ordinal = isoStart year + 7 * (week - 1) + 3 ∧
      (ordinal - 1) / 7 + 1 = week := by
  have start := isoStart_mem year
  have stop := isoStart_mem (year + 1)
  rw [isoStart_succ, daysBefore_succ] at stop
  exact ⟨isoStart year + 7 * (week - 1) + 3 - daysBefore year, by omega, by omega, by omega⟩

namespace Date

/-- The Thursday of the week of a date, as a date. -/
lemma exists_thursday (d : Date) :
    ∃ t : Date, t.number = d.number - d.weekday.index + 3 ∧ t.year = d.isoYear ∧
      (t.ordinal - 1) / 7 + 1 = d.isoWeek := by
  obtain ⟨ordinal, mem, place, count⟩ := Year.exists_thursday d.isoWeek_mem
  obtain ⟨t, year, same⟩ := exists_of_ordinal_mem d.isoYear_mem mem
  have own := d.number_eq_isoStart
  refine ⟨t, ?_, year, by rw [same, count]⟩
  rw [number, year, same, place]
  omega

/-- Three days after the Monday of a week is a Thursday. -/
lemma weekday_eq_thursday {d t : Date} (number : t.number = d.number - d.weekday.index + 3) :
    t.weekday = .thursday := by
  have monday := d.weekday_index
  have index : t.weekday.index = 3 := by
    rw [weekday_index, number]
    omega
  exact Weekday.index_injective index

/-- **ISO weeks follow the Thursday rule.**  Among the days of all years, one has the number of the
Thursday in the week of a date.  It is a date, so its year is a year of the calendar.  The ISO year
of the date is that year, and its ISO week is the number of Thursdays that the year has had by then,
which is one of the weeks of the year. -/
theorem isoYearWeek_thursday (d : Date) :
    ∃ t : Date,
      (∀ year ordinal : Int, (1 ≤ ordinal ∧ ordinal ≤ Year.days year) ∧
          Year.daysBefore year + ordinal =
            Year.daysBefore d.year + d.ordinal - d.weekday.index + 3 ↔
        year = t.year ∧ ordinal = t.ordinal) ∧
      t.weekday = .thursday ∧
      (Year.first ≤ t.year ∧ t.year ≤ Year.last) ∧
      d.isoYearWeek = (t.year, (t.ordinal - 1) / 7 + 1) ∧
      (1 ≤ d.isoWeek ∧ d.isoWeek ≤ Year.weeks t.year) := by
  obtain ⟨t, place, year, week⟩ := d.exists_thursday
  refine ⟨t, ?_, weekday_eq_thursday place, t.year_mem, ?_, ?_⟩
  · -- the place may lie outside all dates, so it is compared as year and ordinal
    intro y o
    constructor
    · rintro ⟨mem, same⟩
      exact Year.eq_of_daysBefore_add_eq mem t.ordinal_mem (same.trans place.symm)
    · rintro ⟨rfl, rfl⟩
      exact ⟨t.ordinal_mem, place⟩
  · rw [year, week]
    rfl
  · rw [year]
    exact d.isoWeek_mem

end Date

end CalendarText
