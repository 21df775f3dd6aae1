/-
Weeks counted within a year.

The week of a date from Sunday is the number of Sundays that its year has had by then, and the week
from Monday is the number of its Mondays.  Both are computed by one division; from one day of a year
to the next they grow exactly on the weekday with which weeks begin, and so they count its days.

* `Date.dayByDay`: the induction over the days of a year;
* `Date.yearSoFar`: the days of a year up to a date;
* `Date.CountsWeeks`: a quantity of dates counts the days of one name within each year;
* `Date.countsWeeks_of_steps`: so does all that begins with the first such day and grows on such
  days;
* `Date.weeks_count_weekdays`: the weeks of a date from Sunday and from Monday.
-/
import CalendarText.Proofs.Calendar.Line
import Mathlib.Data.List.Nodup

namespace CalendarText

namespace Date

/-! ### The days of a year, one after the other -/

/-- What holds on the first day of a year, and passes from each day to the next one of its year,
holds of all dates. -/
@[elab_as_elim]
theorem dayByDay {motive : Date → Prop} (first : ∀ d, d.ordinal = 1 → motive d)
    (next : ∀ d e, e.year = d.year → e.ordinal = d.ordinal + 1 → motive d → motive e)
    (d : Date) : motive d := by
  obtain ⟨one, -⟩ := d.ordinal_mem
  generalize place : d.ordinal = n at one
  induction n, one using Int.leInduction generalizing d with
  | base => exact first d place
  | succ n one ih =>
      have upto := d.ordinal_mem.2
      have inside : 1 ≤ n ∧ n ≤ Year.days d.year := ⟨one, by omega⟩
      obtain ⟨before, year, ordinal⟩ := exists_of_ordinal_mem d.year_mem inside
      exact next before d year.symm (by omega) (ih before ordinal)

/-- The days of the year of a date, from its first one up to the date itself. -/
def yearSoFar (d : Date) : List Date :=
  (List.range d.ordinal.toNat).filterMap fun i : Nat => (ofOrdinal d.year (i + 1)).toOption

variable {d e : Date}

lemma yearSoFar_first (first : d.ordinal = 1) : d.yearSoFar = [d] := by
  have built : ofOrdinal d.year ((0 : Nat) + 1) = .ok d := ofOrdinal_eq_ok_iff.mpr ⟨rfl, first⟩
  rw [yearSoFar, first]
  show (List.range 1).filterMap _ = [d]
  rw [List.range_one, List.filterMap_cons, built]
  rfl

/-- One day later there is one more day in the year so far. -/
lemma yearSoFar_next (year : e.year = d.year) (next : e.ordinal = d.ordinal + 1) :
    e.yearSoFar = d.yearSoFar ++ [e] := by
  have one := d.ordinal_mem.1
  have days : e.ordinal.toNat = d.ordinal.toNat + 1 := by omega
  have built : ofOrdinal d.year ((d.ordinal.toNat : Int) + 1) = .ok e :=
    ofOrdinal_eq_ok_iff.mpr ⟨year, by omega⟩
  rw [yearSoFar, days, year, List.range_succ, List.filterMap_append, List.filterMap_cons, built]
  rfl

/-- The year so far consists of the days of the year that are not after the date. -/
lemma mem_yearSoFar_iff : e ∈ d.yearSoFar ↔ e.year = d.year ∧ e.ordinal ≤ d.ordinal := by
  -- one day after the other, from the first of the year
  induction d using dayByDay with
  | first d first =>
      have one := e.ordinal_mem.1
      rw [yearSoFar_first first, List.mem_singleton]
      constructor
      · rintro rfl
        exact ⟨rfl, Int.le_refl _⟩
      · rintro ⟨year, upto⟩
        exact number_injective (by rw [number, number, year]; omega)
  | next d f year next ih =>
      rw [yearSoFar_next year next, List.mem_append, ih, List.mem_singleton, year, next]
      constructor
      · rintro (⟨same, upto⟩ | rfl)
        · exact ⟨same, by omega⟩
        · exact ⟨year, by omega⟩
      · rintro ⟨same, upto⟩
        by_cases within : e.ordinal ≤ d.ordinal
        · exact .inl ⟨same, within⟩
        · exact .inr (number_injective (by rw [number, number, same, year]; omega))

/-- No day of the year so far is listed twice. -/
lemma nodup_yearSoFar (d : Date) : d.yearSoFar.Nodup := by
  induction d using dayByDay with
  | first d first =>
      rw [yearSoFar_first first]
      exact List.nodup_singleton d
  | next d e year next ih =>
      have fresh : e ∉ d.yearSoFar := by
        rw [mem_yearSoFar_iff]
        omega
      rw [yearSoFar_next year next]
      exact ih.append (List.nodup_singleton e) (List.disjoint_singleton.mpr fresh)

/-- Within a year dates are ordered as their days of the year are. -/
lemma compare_ne_gt_iff (year : e.year = d.year) : e.compare d ≠ .gt ↔ e.ordinal ≤ d.ordinal := by
  rw [compare_eq, Ne, Int.compare_eq_gt, number, number, year]
  omega

/-- The day after a day of a year is the next day of the year. -/
lemma ordinal_next (year : e.year = d.year) (next : e.number = d.number + 1) :
    e.ordinal = d.ordinal + 1 := by
  rw [number, number, year] at next
  omega

/-! ### Counting weeks -/

/-- A quantity of dates counts the days of one name within each year. -/
structure CountsWeeks (week : Date → Int) (w : Weekday) : Prop where
  /-- it is the number of such days in the year so far -/
  count : ∀ d : Date, week d = d.yearSoFar.countP fun e => e.weekday = w
  /-- on the first of January it is 0 or 1 -/
  start : ∀ d : Date, week d.newYear = 0 ∨ week d.newYear = 1
  /-- within a year it never decreases -/
  mono : ∀ d e : Date, e.year = d.year → e.compare d ≠ .gt → week e ≤ week d
  /-- from one day of a year to the next it grows by one on such a day, and not otherwise -/
  step : ∀ d e : Date, e.year = d.year → e.number = d.number + 1 →
    week e = week d + if e.weekday = w then 1 else 0
  /-- there are at most 53 such days in a year -/
  bound : ∀ d : Date, week d ≤ 53

section

variable {week : Date → Int} {w : Weekday}
  (start : ∀ d : Date, d.ordinal = 1 → week d = if d.weekday = w then 1 else 0)
  (step : ∀ d e : Date, e.year = d.year → e.ordinal = d.ordinal + 1 →
    week e = week d + if e.weekday = w then 1 else 0)

include start step

/-- What begins with the first day of some name and grows on each of them counts them. -/
lemma eq_countP_yearSoFar (d : Date) : week d = d.yearSoFar.countP fun e => e.weekday = w := by
  induction d using dayByDay with
  | first d first =>
      rw [start d first, yearSoFar_first first, List.countP_singleton]
      simp only [decide_eq_true_eq]
      split <;> rfl
  | next d e year next ih =>
      rw [step d e year next, yearSoFar_next year next, List.countP_append, List.countP_singleton,
        ih]
      simp only [decide_eq_true_eq]
      split <;> rfl

/-- What begins with the first day of some name, and grows on each of them, does so without ever
decreasing within a year. -/
lemma countsWeeks_of_steps (bound : ∀ d, week d ≤ 53) : CountsWeeks week w where
  count := eq_countP_yearSoFar start step
  start d := by
    rw [start d.newYear d.ordinal_newYear]
    split
    · exact .inr rfl
    · exact .inl rfl
  -- a later day is reached in steps, none of which lowers the count
  mono d e year upto := by
    have later := (compare_ne_gt_iff year).mp upto
    induction d using dayByDay with
    | first d first =>
        have one := e.ordinal_mem.1
        have same : e = d := number_injective (by rw [number, number, year]; omega)
        exact Int.le_of_eq (congrArg week same)
    | next d f forward next ih =>
        by_cases within : e.ordinal ≤ d.ordinal
        · have same : e.year = d.year := year.trans forward
          have before := ih same ((compare_ne_gt_iff same).mpr within) within
          rw [step d f forward next]
          split <;> omega
        · have same : e = f := number_injective (by rw [number, number, year]; omega)
          exact Int.le_of_eq (congrArg week same)
  step d e year next := step d e year (ordinal_next year next)
  bound := bound

end

/-! ### Weeks from Sunday and from Monday -/

/-- One day later it is the next weekday. -/
lemma weekday_next (year : e.year = d.year) (next : e.ordinal = d.ordinal + 1) :
    e.weekday = d.weekday.next := by
  have shift : e.number - 1 = d.number - 1 + 1 := by
    rw [number, number, year]
    omega
  rw [weekday_eq_ofDays, weekday_eq_ofDays, shift, Weekday.ofDays_succ]

section

variable {indexOf : Weekday → Int} {w : Weekday}
  (range : ∀ v, 0 ≤ indexOf v ∧ indexOf v ≤ 6)
  (turn : ∀ v : Weekday, indexOf v.next = (indexOf v + 1) % 7)
  (zero : ∀ v, indexOf v = 0 ↔ v = w)

include range turn zero

/-- Weeks that begin with a weekday are counted by that weekday: the division by seven gains one
when the index of the weekday turns from 6 to 0. -/
lemma countsWeeks_div {week : Date → Int}
    (same : ∀ d : Date, week d = (d.ordinal + 6 - indexOf d.weekday) / 7)
    (bound : ∀ d, week d ≤ 53) : CountsWeeks week w := by
  refine countsWeeks_of_steps ?_ ?_ bound
  · intro d first
    have index := range d.weekday
    rw [same, first]
    simp only [← zero]
    split <;> omega
  · -- the quotient grows exactly when the index starts again at 0
    intro d e year next
    have index := range d.weekday
    have index_next := turn d.weekday
    rw [← weekday_next year next] at index_next
    rw [same, same, next]
    simp only [← zero]
    split <;> omega

end

/-- **Weeks count their first days.**  The year so far is the list of the days of the year that are
not after a date.  The week of a date from Sunday is the number of Sundays among them, and the week
from Monday is the number of Mondays.  So both begin with 0 or 1, never decrease within a year, grow
by one on that weekday and on no other, and are at most 53. -/
theorem weeks_count_weekdays :
    (∀ d e : Date, e ∈ d.yearSoFar ↔ e.year = d.year ∧ e.compare d ≠ .gt) ∧
      (∀ d : Date, d.yearSoFar.Nodup) ∧
      CountsWeeks sundayWeek .sunday ∧ CountsWeeks mondayWeek .monday := by
  refine ⟨?_, nodup_yearSoFar, ?_, ?_⟩
  · intro d e
    rw [mem_yearSoFar_iff]
    exact and_congr_right fun year => (compare_ne_gt_iff year).symm
  · have range (v : Weekday) : 0 ≤ v.indexFromSunday ∧ v.indexFromSunday ≤ 6 := by
      cases v <;> decide
    have turn (v : Weekday) : v.next.indexFromSunday = (v.indexFromSunday + 1) % 7 := by
      cases v <;> rfl
    have zero (v : Weekday) : v.indexFromSunday = 0 ↔ v = .sunday := by cases v <;> decide
    exact countsWeeks_div range turn zero (fun _ => rfl) fun d => d.sundayWeek_mem.2
  · have zero (v : Weekday) : v.index = 0 ↔ v = .monday := by cases v <;> decide
    exact countsWeeks_div Weekday.index_bounds Weekday.index_next zero (fun _ => rfl)
      fun d => d.mondayWeek_mem.2

/-- A leap year that begins on a Saturday ends on its 53rd Sunday. -/
theorem weeks_count_weekdays_leapYear :
    let saturday : Date := ⟨2000, .january, 1, by decide, by decide⟩
    let eve : Date := ⟨2000, .december, 30, by decide, by decide⟩
    let sunday : Date := ⟨2000, .december, 31, by decide, by decide⟩
    saturday.sundayWeek = 0 ∧ saturday ∈ sunday.yearSoFar ∧
      (eve.year = sunday.year ∧ sunday.number = eve.number + 1 ∧ sunday.weekday = .sunday) ∧
      sunday.sundayWeek = eve.sundayWeek + 1 ∧
      (sunday.yearSoFar.countP fun e => e.weekday = .sunday) = 53 := by
  intro saturday eve sunday
  obtain ⟨mem, -, fromSunday, -⟩ := weeks_count_weekdays
  have grown := fromSunday.step eve sunday rfl rfl
  have counted : (53 : Int) = _ := fromSunday.count sunday
  refine ⟨rfl, (mem sunday saturday).mpr ⟨rfl, by decide⟩, ⟨rfl, rfl, rfl⟩, grown, ?_⟩
  omega

end Date

end CalendarText
