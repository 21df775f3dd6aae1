/-
Dates by the day of the year.

The month of a day of the year is searched for from December downwards, and a month begins where
the one in front of it ends.  So the search stops within the days of a month, in common years and
in leap years, and every day of the year is a date.

* `Month.ofOrdinal_of_mem`: the month of a day of the year is the one within whose days it falls;
* `Month.ofOrdinal_mem`: every day of the year falls within the days of the month that is found;
* `Date.ordinal_mem`: the day of the year of a date is one that its year has;
* `Date.ofOrdinal_self`: a date is built again from its year and its day of the year;
* `Date.ofOrdinal_eq_ok_iff`: and from no others;
* `Date.ofOrdinal_bijective`: the days of the years of the calendar are its dates.
-/
import Mathlib.Tactic.Lemma
import CalendarText.Calendar.Date

namespace CalendarText

namespace Month

lemma daysBefore_nonneg (leap : Bool) (m : Month) : 0 ≤ m.daysBefore leap := by
  cases leap <;> cases m <;> decide

/-- All days of a month pass before any later month. -/
lemma daysBefore_add_length_le (leap : Bool) {m later : Month} (h : m.number < later.number) :
    m.daysBefore leap + m.length leap ≤ later.daysBefore leap := by
  revert h
  cases leap <;> cases m <;> cases later <;> decide

/-- The days of every month fall within the year. -/
lemma daysBefore_add_length_le_days (year : Int) (m : Month) :
    m.daysBefore (Year.isLeap year) + m.length (Year.isLeap year) ≤ Year.days year := by
  rw [Year.days]
  cases Year.isLeap year <;> cases m <;> decide

lemma daysBefore_january (leap : Bool) : january.daysBefore leap = 0 := by
  cases leap <;> rfl

/-- The year ends with December. -/
lemma daysBefore_december (year : Int) :
    december.daysBefore (Year.isLeap year) + december.length (Year.isLeap year) =
      Year.days year := by
  rw [Year.days]
  cases Year.isLeap year <;> rfl

/-- From the end of the year, the months after a month come before it. -/
lemma all_reverse_eq (m : Month) :
    all.reverse = (all.filter fun l => m.number < l.number).reverse ++
      m :: (all.filter fun l => l.number < m.number).reverse := by
  cases m <;> rfl

/-- A day of the year falls into the month within whose days it lies. -/
lemma ofOrdinal_of_mem {leap : Bool} {m : Month} {ordinal : Int}
    (after : m.daysBefore leap < ordinal)
    (upto : ordinal ≤ m.daysBefore leap + m.length leap) : ofOrdinal leap ordinal = m := by
  have found : (all.reverse.find? fun m => m.daysBefore leap < ordinal) = some m := by
    rw [List.find?_eq_some_iff_append]
    refine ⟨by simpa using after, _, _, all_reverse_eq m, fun l hl => ?_⟩
    obtain ⟨-, number_lt⟩ : l ∈ all ∧ m.number < l.number := by simpa using hl
    have := daysBefore_add_length_le leap number_lt
    simp only [Bool.not_eq_true', decide_eq_false_iff_not]
    omega
  rw [ofOrdinal, found]
  rfl

/-- The last month with fewer days before it than a day of the year has that day within its days,
since the next month has not. -/
lemma ofOrdinal_mem {year ordinal : Int} (one : 1 ≤ ordinal) (upto : ordinal ≤ Year.days year) :
    (ofOrdinal (Year.isLeap year) ordinal).daysBefore (Year.isLeap year) < ordinal ∧
      ordinal ≤ (ofOrdinal (Year.isLeap year) ordinal).daysBefore (Year.isLeap year) +
        (ofOrdinal (Year.isLeap year) ordinal).length (Year.isLeap year) := by
  -- January is passed last and always fits, so the search ends
  have isSome : (all.reverse.find? fun m => m.daysBefore (Year.isLeap year) < ordinal).isSome := by
    refine List.find?_isSome.mpr ⟨january, by decide, decide_eq_true ?_⟩
    rw [daysBefore_january]
    omega
  obtain ⟨m, found⟩ := Option.isSome_iff_exists.mp isSome
  have same : ofOrdinal (Year.isLeap year) ordinal = m := by rw [ofOrdinal, found, Option.getD_some]
  obtain ⟨after, later, earlier, split, passed⟩ := List.find?_eq_some_iff_append.mp found
  rw [same]
  refine ⟨of_decide_eq_true after, ?_⟩
  cases next : ofNumber? (m.number + 1) with
  | none =>
      have december : m = december := by
        revert next
        cases m <;> decide
      rw [december, daysBefore_december]
      exact upto
  | some l =>
      have number := number_of_ofNumber? next
      rw [← daysBefore_succ _ number]
      -- the months are passed from the last one, so the next month was passed before this one
      have downwards : all.reverse.Pairwise fun a b => b.number < a.number := by decide
      have mem : l ∈ all.reverse := by cases l <;> decide
      rw [split, List.pairwise_append, List.pairwise_cons] at downwards
      rw [split] at mem
      obtain mem | mem := List.mem_append.mp mem
      · simpa using passed l mem
      · obtain rfl | mem := List.mem_cons.mp mem
        · omega
        · have := downwards.2.1.1 l mem
          omega

end Month

namespace Date

/-- The day of the year of a date is one that its year has. -/
lemma ordinal_mem (d : Date) : 1 ≤ d.ordinal ∧ d.ordinal ≤ Year.days d.year := by
  have before := Month.daysBefore_nonneg (Year.isLeap d.year) d.month
  have within := Month.daysBefore_add_length_le_days d.year d.month
  obtain ⟨lo, hi⟩ := d.day_mem
  rw [ordinal]
  omega

/-- The month of a date is that of its day of the year. -/
lemma ofOrdinal_ordinal (d : Date) : Month.ofOrdinal (Year.isLeap d.year) d.ordinal = d.month := by
  obtain ⟨lo, hi⟩ := d.day_mem
  exact Month.ofOrdinal_of_mem (by rw [ordinal]; omega) (by rw [ordinal]; omega)

/-- A date is built again from its year and its day of the year. -/
theorem ofOrdinal_self (d : Date) : ofOrdinal d.year d.ordinal = .ok d := by
  have day : d.ordinal - d.month.daysBefore (Year.isLeap d.year) = d.day := by
    rw [ordinal]
    omega
  rw [ofOrdinal, if_neg (not_not_intro d.year_mem), if_neg (not_not_intro d.ordinal_mem)]
  dsimp only
  rw [ofOrdinal_ordinal, day, ofCalendar_self]

/-- Every day of a year of the calendar is a date. -/
lemma exists_of_ordinal_mem {year ordinal : Int} (hy : Year.first ≤ year ∧ year ≤ Year.last)
    (ho : 1 ≤ ordinal ∧ ordinal ≤ Year.days year) :
    ∃ d : Date, d.year = year ∧ d.ordinal = ordinal := by
  obtain ⟨m, after, upto⟩ : ∃ m : Month, m.daysBefore (Year.isLeap year) < ordinal ∧
      ordinal ≤ m.daysBefore (Year.isLeap year) + m.length (Year.isLeap year) :=
    ⟨_, Month.ofOrdinal_mem ho.1 ho.2⟩
  refine ⟨⟨year, m, ordinal - m.daysBefore (Year.isLeap year), hy, by omega⟩, rfl, ?_⟩
  show m.daysBefore (Year.isLeap year) + (ordinal - m.daysBefore (Year.isLeap year)) = ordinal
  omega

/-- A date is built from a year and a day that it has, and anything else is refused for its year, or
for a day that its year does not have. -/
lemma ofOrdinal_cases (year ordinal : Int) :
    (∃ d : Date, d.year = year ∧ d.ordinal = ordinal ∧ ofOrdinal year ordinal = .ok d) ∨
      ∃ e, ofOrdinal year ordinal = .error e ∧
        (e.name = "year" ∨ (¬(1 ≤ ordinal ∧ ordinal ≤ Year.days year) ∧ e.name = "ordinal")) := by
  by_cases hy : Year.first ≤ year ∧ year ≤ Year.last
  · by_cases ho : 1 ≤ ordinal ∧ ordinal ≤ Year.days year
    · obtain ⟨d, rfl, rfl⟩ := exists_of_ordinal_mem hy ho
      exact .inl ⟨d, rfl, rfl, d.ofOrdinal_self⟩
    · exact .inr ⟨_, by rw [ofOrdinal, if_neg (not_not_intro hy), if_pos ho], .inr ⟨ho, rfl⟩⟩
  · exact .inr ⟨_, by rw [ofOrdinal, if_pos hy], .inl rfl⟩

/-- A date is built from its year and its day of the year, and from no others. -/
theorem ofOrdinal_eq_ok_iff {year ordinal : Int} {d : Date} :
    ofOrdinal year ordinal = .ok d ↔ d.year = year ∧ d.ordinal = ordinal := by
  constructor
  · intro h
    obtain ⟨e, hy, ho, built⟩ | ⟨e, refused, -⟩ := ofOrdinal_cases year ordinal
    · cases h.symm.trans built
      exact ⟨hy, ho⟩
    · cases h.symm.trans refused
  · rintro ⟨rfl, rfl⟩
    exact d.ofOrdinal_self

/-- What is refused is refused for its year, or for a day that its year does not have. -/
lemma name_of_ofOrdinal_eq_error {year ordinal : Int} {e : RangeError}
    (h : ofOrdinal year ordinal = .error e) :
    e.name = "year" ∨ (¬(1 ≤ ordinal ∧ ordinal ≤ Year.days year) ∧ e.name = "ordinal") := by
  obtain ⟨d, -, -, built⟩ | ⟨e', refused, named⟩ := ofOrdinal_cases year ordinal
  · cases h.symm.trans built
  · cases h.symm.trans refused
    exact named

/-- **Ordinal dates are in bijection with dates.**  A date is built from a year and a day of the
year exactly when the year is one of the calendar and has that day, and these two are then its own.
Conversely the day of the year of a date is one that its year has, and the date is built again from
its year and that day.  What is refused is refused for its year or its day of the year, never for a
day of the month that the search of the month has led to. -/
theorem ofOrdinal_bijective :
    (∀ year ordinal : Int, (∃ d, ofOrdinal year ordinal = .ok d) ↔
        (Year.first ≤ year ∧ year ≤ Year.last) ∧ (1 ≤ ordinal ∧ ordinal ≤ Year.days year)) ∧
      (∀ (year ordinal : Int) (d : Date), ofOrdinal year ordinal = .ok d →
        d.year = year ∧ d.ordinal = ordinal) ∧
      (∀ d : Date, (1 ≤ d.ordinal ∧ d.ordinal ≤ Year.days d.year) ∧
        ofOrdinal d.year d.ordinal = .ok d) ∧
      (∀ (year ordinal : Int) (e : RangeError), ofOrdinal year ordinal = .error e →
        e.name = "year" ∨ e.name = "ordinal") := by
  refine ⟨?_, ?_, ?_, ?_⟩
  · intro year ordinal
    simp only [ofOrdinal_eq_ok_iff]
    constructor
    · rintro ⟨d, rfl, rfl⟩
      exact ⟨d.year_mem, d.ordinal_mem⟩
    · rintro ⟨hy, ho⟩
      exact exists_of_ordinal_mem hy ho
  · intro year ordinal d
    exact ofOrdinal_eq_ok_iff.mp
  · intro d
    exact ⟨d.ordinal_mem, d.ofOrdinal_self⟩
  · intro year ordinal e h
    exact (name_of_ofOrdinal_eq_error h).imp_right And.right

/-- Day 60 is the leap day of year -4 and the first of March of year -3, and day 366 is a day of the
first of these years only. -/
theorem ofOrdinal_leapDay :
    let leapDay : Date := ⟨-4, .february, 29, by decide, by decide⟩
    let march : Date := ⟨-3, .march, 1, by decide, by decide⟩
    (ofOrdinal (-4) 60 = .ok leapDay ∧ leapDay.year = -4 ∧ leapDay.ordinal = 60) ∧
      (ofOrdinal (-3) 60 = .ok march ∧ march.year = -3 ∧ march.ordinal = 60) ∧
      (∃ d, ofOrdinal (-4) 366 = .ok d) ∧
      ∃ e, ofOrdinal (-3) 366 = .error e ∧ (e.name = "year" ∨ e.name = "ordinal") := by
  intro leapDay march
  have inLeap : ofOrdinal (-4) 60 = .ok leapDay := rfl
  have inCommon : ofOrdinal (-3) 60 = .ok march := rfl
  refine ⟨⟨inLeap, ofOrdinal_bijective.2.1 _ _ _ inLeap⟩,
    ⟨inCommon, ofOrdinal_bijective.2.1 _ _ _ inCommon⟩,
    (ofOrdinal_bijective.1 _ _).mpr (by decide), ?_⟩
  cases h : ofOrdinal (-3) 366 with
  | ok d =>
      have inside := (ofOrdinal_bijective.1 _ _).mp ⟨d, h⟩
      exact absurd inside (by decide)
  | error e => exact ⟨e, rfl, ofOrdinal_bijective.2.2.2 _ _ _ h⟩

end Date

end CalendarText
