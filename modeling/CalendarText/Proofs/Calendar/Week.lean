/-
Dates by the week: the ISO week with its own year, and the week counted from the first Sunday or
Monday of the year.

ISO weeks are laid out on the line of day numbers.  The first ISO week of a year begins on the
Monday `Year.isoStart`, and a year takes as many days as its ISO weeks have
(`Year.isoStart_succ`), so that the weeks of one year are followed by those of the next.

* `Date.number_eq_isoStart`: the day number of a date, by its ISO year, ISO week and weekday;
* `Date.isoYear_mem`: the ISO year of a date is a year of the calendar;
* `Date.ofIsoWeek_self`: a date is built again from its ISO week and its weekday;
* `Date.ofWeek_self`: the same for weeks that begin with the first day of some name.
-/
import CalendarText.Fields.Resolve
import CalendarText.Proofs.Calendar.Ordinal

namespace CalendarText

lemma Weekday.ofDays_eq_iff (n : Int) (w : Weekday) : ofDays n = w ↔ n % 7 = w.index := by
  constructor
  · rintro rfl
    rw [index_ofDays]
  · intro h
    rw [← ofDays_index w, ← h]
    rw [ofDays, ofDays, Int.emod_emod_of_dvd n (by decide : (7 : Int) ∣ 7)]

/-- Weekdays are told apart by their index. -/
lemma Weekday.index_injective : Function.Injective index := by
  intro a b same
  rw [← ofDays_index a, same, ofDays_index]

/-- The index from Sunday is one day ahead. -/
lemma Weekday.indexFromSunday_ofDays (n : Int) : (ofDays n).indexFromSunday = (n + 1) % 7 := by
  rw [indexFromSunday, index_ofDays]
  omega

/-! ### ISO weeks on the line of days -/

namespace Year

/-- The weeks of a year follow from the days before it, modulo seven. -/
lemma weeks_eq (year : Int) :
    weeks year =
      if daysBefore year % 7 = 3 ∨ (daysBefore year % 7 = 2 ∧ isLeap year) then 53 else 52 := by
  have first (w : Weekday) : weekdayOn year 1 = w ↔ daysBefore year % 7 = w.index := by
    rw [weekdayOn, Weekday.ofDays_eq_iff]
    omega
  simp only [weeks, first]
  rfl

/-- The number of the Monday with which the first ISO week of a year begins: the one on or before
the fourth of January. -/
def isoStart (year : Int) : Int :=
  daysBefore year + 4 - (daysBefore year + 3) % 7

lemma isoStart_mem (year : Int) :
    daysBefore year - 2 ≤ isoStart year ∧ isoStart year ≤ daysBefore year + 4 := by
  rw [isoStart]
  omega

/-- The ISO weeks of a year are followed by those of the next year. -/
theorem isoStart_succ (year : Int) : isoStart (year + 1) = isoStart year + 7 * weeks year := by
  have step := daysBefore_succ year
  have weeks := weeks_eq year
  rw [isoStart, isoStart]
  by_cases leap : isLeap year = true
  · have days : days year = 366 := if_pos leap
    simp only [leap, and_true] at weeks
    split at weeks <;> omega
  · have days : days year = 365 := if_neg leap
    simp only [leap, Bool.false_eq_true, and_false, or_false] at weeks
    split at weeks <;> omega

lemma weeks_mem (year : Int) : weeks year = 52 ∨ weeks year = 53 := by
  rw [weeks_eq]
  split <;> simp

lemma days_mem (year : Int) : days year = 365 ∨ days year = 366 := by
  rw [days]
  split <;> simp

/-- Later years have more days before them. -/
lemma daysBefore_mono {y z : Int} (h : y ≤ z) : daysBefore y ≤ daysBefore z := by
  simp only [daysBefore]
  omega

/-- A place on the line of days is a day of one year only. -/
lemma eq_of_daysBefore_add_eq {y z o p : Int} (ho : 1 ≤ o ∧ o ≤ days y) (hp : 1 ≤ p ∧ p ≤ days z)
    (same : daysBefore y + o = daysBefore z + p) : y = z ∧ o = p := by
  have order {y z o p : Int} (ho : o ≤ days y) (hp : 1 ≤ p) (h : y < z) :
      daysBefore y + o < daysBefore z + p := by
    calc daysBefore y + o ≤ daysBefore (y + 1) := by rw [daysBefore_succ]; omega
      _ ≤ daysBefore z := daysBefore_mono h
      _ < daysBefore z + p := by omega
  rcases Int.lt_trichotomy y z with h | rfl | h
  · have := order ho.2 hp.1 h
    omega
  · exact ⟨rfl, by omega⟩
  · have := order hp.2 ho.1 h
    omega

end Year

namespace Date

lemma weekday_index (d : Date) : d.weekday.index = (d.number - 1) % 7 := by
  rw [weekday_eq_ofDays, Weekday.index_ofDays]

/-- The ISO week that a date would have if the weeks of a year stayed within it. -/
def plainWeek (d : Date) : Int :=
  (d.ordinal - d.weekday.numberFromMonday + 10) / 7

/-- The plain week of a date, on the line of days. -/
lemma number_eq_plainWeek (d : Date) :
    d.number = Year.isoStart d.year + 7 * (d.plainWeek - 1) + d.weekday.index := by
  have index := d.weekday_index
  have number : d.weekday.numberFromMonday = d.weekday.index + 1 := rfl
  have ordinal : d.number = Year.daysBefore d.year + d.ordinal := rfl
  rw [plainWeek, Year.isoStart, number]
  omega

/-- The ISO week lies in the year before, in the year after, or in the year itself. -/
lemma isoYearWeek_cases (d : Date) :
    (d.plainWeek < 1 ∧ d.isoYear = d.year - 1 ∧ d.isoWeek = Year.weeks (d.year - 1)) ∨
      (Year.weeks d.year < d.plainWeek ∧ d.isoYear = d.year + 1 ∧ d.isoWeek = 1) ∨
      (1 ≤ d.plainWeek ∧ d.plainWeek ≤ Year.weeks d.year ∧
        d.isoYear = d.year ∧ d.isoWeek = d.plainWeek) := by
  have unfolded : d.isoYearWeek =
      if d.plainWeek < 1 then (d.year - 1, Year.weeks (d.year - 1))
      else if Year.weeks d.year < d.plainWeek then (d.year + 1, 1)
      else (d.year, d.plainWeek) := rfl
  rw [isoYear, isoWeek, unfolded]
  split
  · exact .inl ⟨‹_›, rfl, rfl⟩
  · split
    · exact .inr (.inl ⟨‹_›, rfl, rfl⟩)
    · exact .inr (.inr ⟨by omega, by omega, rfl, rfl⟩)

lemma plainWeek_bounds (d : Date) : 0 ≤ d.plainWeek ∧ d.plainWeek ≤ 53 := by
  obtain ⟨one, upto⟩ := d.ordinal_mem
  obtain ⟨lo, hi⟩ := d.weekday.index_bounds
  have days := Year.days_mem d.year
  rw [plainWeek, Weekday.numberFromMonday]
  omega

/-- The day number of a date, by its ISO year, its ISO week and its weekday. -/
theorem number_eq_isoStart (d : Date) :
    d.number = Year.isoStart d.isoYear + 7 * (d.isoWeek - 1) + d.weekday.index := by
  have plain := d.number_eq_plainWeek
  obtain ⟨lo, hi⟩ := d.plainWeek_bounds
  rcases d.isoYearWeek_cases with ⟨below, year, week⟩ | ⟨above, year, week⟩ | ⟨-, -, year, week⟩
  · -- the plain week is week 0, which is the last one of the year before
    have step := Year.isoStart_succ (d.year - 1)
    rw [Int.sub_add_cancel] at step
    rw [year, week]
    omega
  · -- behind the last week, the next ISO year has begun
    have step := Year.isoStart_succ d.year
    have weeks := Year.weeks_mem d.year
    rw [year, week]
    omega
  · rw [year, week]
    exact plain

lemma isoWeek_mem (d : Date) : 1 ≤ d.isoWeek ∧ d.isoWeek ≤ Year.weeks d.isoYear := by
  have before := Year.weeks_mem (d.year - 1)
  have after := Year.weeks_mem (d.year + 1)
  rcases d.isoYearWeek_cases with ⟨-, year, week⟩ | ⟨-, year, week⟩ | ⟨lo, hi, year, week⟩
  all_goals
    rw [year, week]
    omega

/-- The ISO year of a date is a year of the calendar, since the calendar begins on a Monday and
ends in the last ISO week of its last year. -/
theorem isoYear_mem (d : Date) : Year.first ≤ d.isoYear ∧ d.isoYear ≤ Year.last := by
  obtain ⟨lo, hi⟩ := d.year_mem
  obtain ⟨one, upto⟩ := d.ordinal_mem
  obtain ⟨monday, sunday⟩ := d.weekday.index_bounds
  have plain := d.number_eq_plainWeek
  have ordinal : d.number = Year.daysBefore d.year + d.ordinal := rfl
  rcases d.isoYearWeek_cases with ⟨below, year, -⟩ | ⟨above, year, -⟩ | ⟨-, -, year, -⟩
  · -- the first year begins with a Monday, so no day falls before its ISO year
    have ne : d.year ≠ Year.first := by
      intro h
      have start : Year.isoStart Year.first = Year.daysBefore Year.first + 1 := by decide
      rw [h] at ordinal plain
      omega
    omega
  · -- the last year ends on a Friday, so its ISO year holds all that is left
    have ne : d.year ≠ Year.last := by
      intro h
      have stop : Year.isoStart Year.last + 7 * Year.weeks Year.last =
          Year.daysBefore Year.last + Year.days Year.last + 3 := by decide
      rw [h] at ordinal plain above upto
      omega
    omega
  · omega

/-- The weekday of the fourth of January, which lies in the first ISO week. -/
lemma numberFromMonday_fourth (year : Int) :
    (Year.weekdayOn year 4).numberFromMonday = (Year.daysBefore year + 3) % 7 + 1 := by
  rw [Year.weekdayOn, Weekday.numberFromMonday, Weekday.index_ofDays]
  congr 2
  omega

/-- The day of an ISO week is a day of its year, of the year before or of the year after, and is
placed on the line of days by the start of its ISO year. -/
lemma exists_ofIsoWeek_eq {year week : Int} (k : Weekday)
    (hy : Year.first ≤ year ∧ year ≤ Year.last) (hw : 1 ≤ week ∧ week ≤ Year.weeks year) :
    ∃ y o, ofIsoWeek year week k = ofOrdinal y o ∧ (1 ≤ o ∧ o ≤ Year.days y) ∧
      Year.daysBefore y + o = Year.isoStart year + 7 * (week - 1) + k.index := by
  obtain ⟨monday, sunday⟩ := k.index_bounds
  have ordinal_eq : week * 7 + k.numberFromMonday - ((Year.weekdayOn year 4).numberFromMonday + 3) =
      Year.isoStart year + 7 * (week - 1) + k.index - Year.daysBefore year := by
    rw [numberFromMonday_fourth, Year.isoStart, Weekday.numberFromMonday]
    omega
  rw [ofIsoWeek, if_neg (not_not_intro hy), if_neg (not_not_intro hw)]
  dsimp only
  rw [ordinal_eq]
  -- an ISO year begins and ends within three days of the year
  have start := Year.isoStart_mem year
  have stop := Year.isoStart_mem (year + 1)
  rw [Year.isoStart_succ, Year.daysBefore_succ] at stop
  by_cases before : Year.isoStart year + 7 * (week - 1) + k.index - Year.daysBefore year < 1
  · have step := Year.daysBefore_succ (year - 1)
    have days := Year.days_mem (year - 1)
    rw [Int.sub_add_cancel] at step
    rw [if_pos before]
    exact ⟨year - 1, _, rfl, by omega, by omega⟩
  · rw [if_neg before]
    by_cases after : Year.days year <
        Year.isoStart year + 7 * (week - 1) + k.index - Year.daysBefore year
    · have step := Year.daysBefore_succ year
      have days := Year.days_mem (year + 1)
      rw [if_pos after]
      exact ⟨year + 1, _, rfl, by omega, by omega⟩
    · rw [if_neg after]
      exact ⟨year, _, rfl, by omega, by omega⟩

/-- A date is built again from its ISO year, its ISO week and its weekday. -/
theorem ofIsoWeek_self (d : Date) : ofIsoWeek d.isoYear d.isoWeek d.weekday = .ok d := by
  obtain ⟨y, o, same, mem, place⟩ := exists_ofIsoWeek_eq d.weekday d.isoYear_mem d.isoWeek_mem
  rw [← number_eq_isoStart] at place
  obtain ⟨rfl, rfl⟩ := Year.eq_of_daysBefore_add_eq mem d.ordinal_mem place
  rw [same, ofOrdinal_self]

/-! ### Weeks from the first day of some name -/

lemma sundayWeek_mem (d : Date) : 0 ≤ d.sundayWeek ∧ d.sundayWeek ≤ 53 := by
  obtain ⟨one, upto⟩ := d.ordinal_mem
  have days := Year.days_mem d.year
  rw [sundayWeek, Weekday.indexFromSunday]
  omega

lemma mondayWeek_mem (d : Date) : 0 ≤ d.mondayWeek ∧ d.mondayWeek ≤ 53 := by
  obtain ⟨one, upto⟩ := d.ordinal_mem
  obtain ⟨lo, hi⟩ := d.weekday.index_bounds
  have days := Year.days_mem d.year
  rw [mondayWeek]
  omega

/-- The first of January of the year of a date. -/
def newYear (d : Date) : Date :=
  ⟨d.year, .january, 1, d.year_mem, by cases Year.isLeap d.year <;> decide⟩

lemma ofCalendar_newYear (d : Date) : ofCalendar d.year 1 1 = .ok d.newYear :=
  ofCalendar_self d.newYear

lemma ordinal_newYear (d : Date) : d.newYear.ordinal = 1 := by
  simp [ordinal, newYear, Month.daysBefore, Month.daysBefore.common, Month.number]

lemma number_newYear (d : Date) : d.newYear.number = Year.daysBefore d.year + 1 := by
  rw [number, ordinal_newYear]
  rfl

section

variable {indexOf : Weekday → Int} (shift : Int)
  (count : ∀ n, indexOf (Weekday.ofDays n) = (n + shift) % 7)

include count

/-- The index of the weekday of a date, by the days before its year. -/
lemma indexOf_weekday (d : Date) :
    indexOf d.weekday = (Year.daysBefore d.year + d.ordinal - 1 + shift) % 7 := by
  rw [weekday_eq_ofDays, count, number]

/-- The index of the weekday with which the year of a date begins. -/
lemma indexOf_newYear (d : Date) :
    indexOf d.newYear.weekday = (Year.daysBefore d.year + shift) % 7 := by
  rw [weekday_eq_ofDays, count, number_newYear]
  congr 1
  omega

/-- A date is built again from its year, its week and its weekday, where weekdays are counted from
the day with which weeks begin: from 0 to 6, and one more each day. -/
lemma ofWeek_self (d : Date) :
    ofWeek d.year ((d.ordinal + 6 - indexOf d.weekday) / 7) (indexOf d.weekday) indexOf =
      .ok d := by
  have ordinal_eq : (d.ordinal + 6 - indexOf d.weekday) / 7 * 7 + indexOf d.weekday -
      (if indexOf d.newYear.weekday = 0 then 7 else indexOf d.newYear.weekday) + 1 =
        d.ordinal := by
    rw [indexOf_newYear shift count, indexOf_weekday shift count]
    split <;> omega
  rw [ofWeek, ofCalendar_newYear]
  exact (congrArg (ofOrdinal d.year) ordinal_eq).trans d.ofOrdinal_self

end

/-- A date is built again from its week from Sunday and its weekday. -/
theorem ofSundayWeek_self (d : Date) :
    ofWeek d.year d.sundayWeek d.weekday.indexFromSunday Weekday.indexFromSunday = .ok d :=
  ofWeek_self 1 Weekday.indexFromSunday_ofDays d

/-- A date is built again from its week from Monday and its weekday. -/
theorem ofMondayWeek_self (d : Date) :
    ofWeek d.year d.mondayWeek d.weekday.index Weekday.index = .ok d :=
  ofWeek_self 0 (fun n => by rw [Weekday.index_ofDays, Int.add_zero]) d

end Date

end CalendarText
