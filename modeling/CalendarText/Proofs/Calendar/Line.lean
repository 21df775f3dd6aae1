/-
The line of days.

The order of dates by year, month and day is the order of their day numbers, and the numbers from
the first day of the calendar to the last one are each taken by one date.  So there are no gaps at
the ends of months and years, and the weekdays go round without a break.

* `Date.compare_eq`: dates are ordered as their numbers are;
* `Date.exists_next`: every day but the last one is followed by another one;
* `Date.exists_of_number_mem`: every number from the first day to the last one is that of a date;
* `DateTime.compare_eq`: date-times are ordered as the nanoseconds before them are;
* `Date.number_unbroken`: the calendar is a line of days.
-/
import CalendarText.Calendar.DateTime
import CalendarText.Proofs.Calendar.Week
import Mathlib.Data.Int.Init
import Mathlib.Logic.ExistsUnique

namespace CalendarText

/-! ### Months and weekdays, one after the other -/

lemma Month.number_injective {m l : Month} (same : m.number = l.number) : m = l := by
  have found := ofNumber?_number m
  rw [same, ofNumber?_number] at found
  exact (Option.some.inj found).symm

/-- The day after a day of the week. -/
def Weekday.next : Weekday → Weekday
  | monday => tuesday
  | tuesday => wednesday
  | wednesday => thursday
  | thursday => friday
  | friday => saturday
  | saturday => sunday
  | sunday => monday

lemma Weekday.index_next (w : Weekday) : w.next.index = (w.index + 1) % 7 := by
  cases w <;> rfl

/-- One day later it is the next weekday. -/
lemma Weekday.ofDays_succ (n : Int) : ofDays (n + 1) = (ofDays n).next := by
  rw [ofDays_eq_iff, index_next, index_ofDays]
  omega

namespace Date

/-! ### The order of dates -/

/-- The day number of a date lies within its year. -/
lemma number_mem (d : Date) :
    Year.daysBefore d.year < d.number ∧ d.number ≤ Year.daysBefore (d.year + 1) := by
  have ordinal := d.ordinal_mem
  rw [Year.daysBefore_succ, number]
  omega

lemma number_lt_of_year {a b : Date} (h : a.year < b.year) : a.number < b.number := by
  calc a.number ≤ Year.daysBefore (a.year + 1) := a.number_mem.2
    _ ≤ Year.daysBefore b.year := Year.daysBefore_mono h
    _ < b.number := b.number_mem.1

lemma number_lt_of_month {a b : Date} (year : a.year = b.year)
    (h : a.month.number < b.month.number) : a.number < b.number := by
  have months := Month.daysBefore_add_length_le (Year.isLeap b.year) h
  have upto := a.day_mem.2
  have one := b.day_mem.1
  rw [year] at upto
  rw [number, number, ordinal, ordinal, year]
  omega

lemma number_lt_of_day {a b : Date} (year : a.year = b.year) (month : a.month = b.month)
    (h : a.day < b.day) : a.number < b.number := by
  rw [number, number, ordinal, ordinal, year, month]
  omega

/-- Dates are ordered as their numbers are. -/
theorem compare_eq (a b : Date) : a.compare b = Ord.compare a.number b.number := by
  rw [compare]
  -- year, month and day in turn, each deciding unless it is the same in both
  rcases Int.lt_trichotomy a.year b.year with year | year | year
  · rw [Int.compare_eq_lt.mpr year, Int.compare_eq_lt.mpr (number_lt_of_year year)]
    rfl
  · rw [Int.compare_eq_eq.mpr year, Ordering.eq_then]
    rcases Int.lt_trichotomy a.month.number b.month.number with month | month | month
    · rw [Int.compare_eq_lt.mpr month, Int.compare_eq_lt.mpr (number_lt_of_month year month)]
      rfl
    · rw [Int.compare_eq_eq.mpr month, Ordering.eq_then]
      have month := Month.number_injective month
      rcases Int.lt_trichotomy a.day b.day with day | day | day
      · rw [Int.compare_eq_lt.mpr day, Int.compare_eq_lt.mpr (number_lt_of_day year month day)]
      · have same : a.number = b.number := by
          rw [number, number, ordinal, ordinal, year, month, day]
        rw [Int.compare_eq_eq.mpr day, Int.compare_eq_eq.mpr same]
      · rw [Int.compare_eq_gt.mpr day,
          Int.compare_eq_gt.mpr (number_lt_of_day year.symm month.symm day)]
    · rw [Int.compare_eq_gt.mpr month, Int.compare_eq_gt.mpr (number_lt_of_month year.symm month)]
      rfl
  · rw [Int.compare_eq_gt.mpr year, Int.compare_eq_gt.mpr (number_lt_of_year year)]
    rfl

lemma eq_of_compare_eq {a b : Date} (same : a.compare b = .eq) : a = b := by
  simp only [compare, Ordering.then_eq_eq, Int.compare_eq_eq] at same
  obtain ⟨year, month, day⟩ := same
  have month := Month.number_injective month
  cases a
  cases b
  cases year
  cases month
  cases day
  rfl

/-- No two dates share a day number. -/
theorem number_injective {a b : Date} (same : a.number = b.number) : a = b := by
  apply eq_of_compare_eq
  rw [compare_eq, Int.compare_eq_eq]
  exact same

/-! ### No day is missing -/

/-- The first day of the calendar. -/
def first : Date :=
  ⟨Year.first, .january, 1, by decide, by decide⟩

/-- The last day of the calendar. -/
def last : Date :=
  ⟨Year.last, .december, 31, by decide, by decide⟩

lemma number_last : last.number = Year.daysBefore (Year.last + 1) := by
  decide

/-- No date comes before the first day, and none after the last one. -/
lemma number_bounds (d : Date) : first.number ≤ d.number ∧ d.number ≤ last.number := by
  have start : first.number = Year.daysBefore Year.first + 1 := by decide
  have years := d.year_mem
  have number := d.number_mem
  have lower := Year.daysBefore_mono years.1
  have upper : Year.daysBefore (d.year + 1) ≤ Year.daysBefore (Year.last + 1) :=
    Year.daysBefore_mono (by omega)
  rw [start, number_last]
  omega

/-- Every day but the last one is followed by another one: in its month, on the first of the next
month, or on the first of the next year. -/
lemma exists_next {d : Date} (before : d.number < last.number) :
    ∃ e : Date, e.number = d.number + 1 := by
  obtain ⟨one, upto⟩ := d.day_mem
  -- within the month, into the next month, or into the next year
  by_cases within : d.day < d.month.length (Year.isLeap d.year)
  · refine ⟨⟨d.year, d.month, d.day + 1, d.year_mem, by omega⟩, ?_⟩
    simp only [number, ordinal]
    omega
  · have full : d.day = d.month.length (Year.isLeap d.year) := by omega
    cases next : Month.ofNumber? (d.month.number + 1) with
    | some m =>
        have days := Month.daysBefore_succ (Year.isLeap d.year) (Month.number_of_ofNumber? next)
        have length := Month.length_bounds (Year.isLeap d.year) m
        refine ⟨⟨d.year, m, 1, d.year_mem, by omega⟩, ?_⟩
        simp only [number, ordinal]
        omega
    | none =>
        -- no month comes after this one
        have december : d.month = .december := by
          revert next
          cases d.month <;> decide
        have turn : d.number = Year.daysBefore (d.year + 1) := by
          rw [number, ordinal, full, december, Month.daysBefore_december, Year.daysBefore_succ]
        have year : d.year < Year.last := by
          refine Int.not_le.mp fun late => ?_
          have := Year.daysBefore_mono (Int.add_le_add_right late 1)
          rw [number_last] at before
          omega
        have years := d.year_mem
        have length := Month.length_bounds (Year.isLeap (d.year + 1)) .january
        refine ⟨⟨d.year + 1, .january, 1, by omega, by omega⟩, ?_⟩
        rw [turn, number, ordinal, Month.daysBefore_january, Int.zero_add]

/-- Every number from the first day to the last one is that of a date. -/
theorem exists_of_number_mem {n : Int} (lo : first.number ≤ n) (hi : n ≤ last.number) :
    ∃ d : Date, d.number = n := by
  induction n, lo using Int.leInduction with
  | base => exact ⟨first, rfl⟩
  | succ n lo ih =>
      obtain ⟨d, rfl⟩ := ih (by omega)
      exact exists_next (by omega)

end Date

/-! ### Times and date-times -/

/-- Numbers that consist of a digit and a rest below the worth of the digit are ordered by the
digit first. -/
lemma compare_then_eq (worth : Int) {a b c d : Int} (hc : 0 ≤ c ∧ c < worth)
    (hd : 0 ≤ d ∧ d < worth) :
    (Ord.compare a b).then (Ord.compare c d) =
      Ord.compare (a * worth + c) (b * worth + d) := by
  -- one more of the greater worth outweighs all of the lesser
  have step {x y : Int} (h : x < y) : x * worth + worth ≤ y * worth := by
    calc x * worth + worth = (x + 1) * worth := by rw [Int.add_mul, Int.one_mul]
      _ ≤ y * worth := Int.mul_le_mul_of_nonneg_right h (by omega)
  rcases Int.lt_trichotomy a b with h | rfl | h
  · have room := step h
    have less : a * worth + c < b * worth + d := by omega
    rw [Int.compare_eq_lt.mpr h, Int.compare_eq_lt.mpr less]
    rfl
  · rw [Int.compare_eq_eq.mpr rfl, Ordering.eq_then]
    rcases Int.lt_trichotomy c d with h | rfl | h
    · rw [Int.compare_eq_lt.mpr h, Int.compare_eq_lt.mpr (by omega)]
    · rw [Int.compare_eq_eq.mpr rfl, Int.compare_eq_eq.mpr rfl]
    · rw [Int.compare_eq_gt.mpr h, Int.compare_eq_gt.mpr (by omega)]
  · have room := step h
    have more : b * worth + d < a * worth + c := by omega
    rw [Int.compare_eq_gt.mpr h, Int.compare_eq_gt.mpr more]
    rfl

/-- The nanoseconds of a day. -/
def nanosecondsPerDay : Int := 86400 * 1000000000

namespace Time

/-- A time comes before the day is over. -/
lemma sinceMidnight_mem (t : Time) :
    0 ≤ t.sinceMidnight ∧ t.sinceMidnight < nanosecondsPerDay := by
  have hour := t.hour_mem
  have minute := t.minute_mem
  have second := t.second_mem
  have nanosecond := t.nanosecond_mem
  rw [sinceMidnight, nanosecondsPerDay]
  omega

/-- Times are ordered as the nanoseconds since midnight are. -/
theorem compare_eq (a b : Time) :
    a.compare b = Ord.compare a.sinceMidnight b.sinceMidnight := by
  have minutes := And.intro a.minute_mem b.minute_mem
  have seconds := And.intro a.second_mem b.second_mem
  have nanoseconds := And.intro a.nanosecond_mem b.nanosecond_mem
  rw [compare, compare_then_eq 1000000000 (by omega) (by omega),
    compare_then_eq 60000000000 (by omega) (by omega),
    compare_then_eq 3600000000000 (by omega) (by omega)]
  congr 1 <;> rw [sinceMidnight] <;> omega

end Time

namespace DateTime

/-- The nanoseconds from the day before the first of January of year 1. -/
def instant (t : DateTime) : Int :=
  t.date.number * nanosecondsPerDay + t.time.sinceMidnight

/-- Date-times are ordered as the nanoseconds before them are. -/
theorem compare_eq (a b : DateTime) : a.compare b = Ord.compare a.instant b.instant := by
  rw [compare, Date.compare_eq, Time.compare_eq,
    compare_then_eq nanosecondsPerDay a.time.sinceMidnight_mem b.time.sinceMidnight_mem, instant,
    instant]

end DateTime

/-! ### The calendar -/

/-- **Dates form an unbroken calendar.**  Their order is that of their day numbers, every day from
the first to the last is one date, and weekdays follow each other from day to day, the first of
January of year 1 being day 1 and a Monday.  So date-times are ordered by the nanoseconds that
pass before them. -/
theorem Date.number_unbroken :
    (∀ a b : Date, a.compare b = .lt ↔ a.number < b.number) ∧
      (∀ n : Int, (first.number ≤ n ∧ n ≤ last.number) ↔ ∃! d : Date, d.number = n) ∧
      (∀ d e : Date, e.number = d.number + 1 → e.weekday = d.weekday.next) ∧
      (∃ d : Date, ofCalendar 1 1 1 = .ok d ∧ d.number = 1 ∧ d.weekday = .monday) ∧
      (∀ x y : DateTime, x.compare y = .lt ↔
        x.date.number * 86400 * 1000000000 + x.time.sinceMidnight <
          y.date.number * 86400 * 1000000000 + y.time.sinceMidnight) := by
  refine ⟨?_, ?_, ?_, ?_, ?_⟩
  · intro a b
    rw [compare_eq, Int.compare_eq_lt]
  · intro n
    constructor
    · rintro ⟨lo, hi⟩
      obtain ⟨d, hd⟩ := exists_of_number_mem lo hi
      refine ⟨d, hd, ?_⟩
      intro e he
      exact number_injective (he.trans hd.symm)
    · rintro ⟨d, rfl, -⟩
      exact d.number_bounds
  · intro d e h
    have shift : e.number - 1 = d.number - 1 + 1 := by omega
    rw [weekday_eq_ofDays, weekday_eq_ofDays, shift, Weekday.ofDays_succ]
  · exact ⟨⟨1, .january, 1, by decide, by decide⟩, rfl, rfl, rfl⟩
  · intro x y
    rw [DateTime.compare_eq, Int.compare_eq_lt, DateTime.instant, DateTime.instant,
      nanosecondsPerDay, Int.mul_assoc, Int.mul_assoc]

/-- The leap day of year -4 is followed by the first of March, a Tuesday by a Wednesday. -/
theorem Date.weekday_after_leapDay :
    let d : Date := ⟨-4, .february, 29, by decide, by decide⟩
    let e : Date := ⟨-4, .march, 1, by decide, by decide⟩
    e.number = d.number + 1 ∧ e.weekday = d.weekday.next := by
  intro d e
  have next : e.number = d.number + 1 := by decide
  exact ⟨next, number_unbroken.2.2.1 d e next⟩

end CalendarText
