/-
What the parts of a value would put into each field.

* `Parts.quantity?`: the number that belongs into a field;
* `Parts.admits_of_quantity?`: every field can hold the number that belongs into it.
-/
import CalendarText.Proofs.Calendar.Week

namespace CalendarText

/-- The number that belongs into a field, if the parts have what the field is about. -/
def Parts.quantity? (parts : Parts) : Field → Option Int
  | .year => parts.date.map fun d => d.year
  | .yearLastTwo => parts.date.map fun d => Year.lastTwo d.year
  | .isoYear => parts.date.map fun d => d.isoYear
  | .isoYearLastTwo => parts.date.map fun d => Year.lastTwo d.isoYear
  | .month => parts.date.map fun d => d.month.number
  | .sundayWeekNumber => parts.date.map fun d => d.sundayWeek
  | .mondayWeekNumber => parts.date.map fun d => d.mondayWeek
  | .isoWeekNumber => parts.date.map fun d => d.isoWeek
  | .weekday => parts.date.map fun d => d.weekday.index
  | .ordinal => parts.date.map fun d => d.ordinal
  | .day => parts.date.map fun d => d.day
  | .hour24 => parts.time.map fun t => t.hour
  | .hour12 => parts.time.map fun t => t.hour12
  | .hour12IsPm => parts.time.map fun t => if t.isPm then 1 else 0
  | .minute => parts.time.map fun t => t.minute
  | .second => parts.time.map fun t => t.second
  | .subsecond => parts.time.map fun t => t.nanosecond
  | .offsetHour => parts.offset.map fun o => o.hours
  | .offsetMinute => parts.offset.map fun o => o.minutes.natAbs
  | .offsetSecond => parts.offset.map fun o => o.seconds.natAbs
  | .offsetIsNegative => parts.offset.map fun o => if o.isNegative then 1 else 0

lemma Field.admits_iff (f : Field) (n : Int) :
    f.admits n = true ↔ f.least ≤ n ∧ n ≤ f.greatest := by
  simp [admits]

lemma Year.lastTwo_mem (year : Int) : 0 ≤ lastTwo year ∧ lastTwo year ≤ 99 := by
  rw [lastTwo]
  omega

/-- The days of the month are at most 31. -/
lemma Date.day_le (d : Date) : d.day ≤ 31 := by
  have day := d.day_mem
  have length := Month.length_bounds (Year.isLeap d.year) d.month
  omega

lemma Time.hour12_mem (t : Time) : 1 ≤ t.hour12 ∧ t.hour12 ≤ 12 := by
  rw [hour12]
  omega

/-- The hours of an offset with the sign of the offset. -/
lemma UtcOffset.signed_hours (o : UtcOffset) :
    (if o.isNegative then -(o.hours.natAbs : Int) else o.hours.natAbs) = o.hours := by
  have same := o.same_sign
  by_cases negative : o.hours < 0 ∨ o.minutes < 0 ∨ o.seconds < 0
  · rw [if_pos (by simpa [UtcOffset.isNegative] using negative)]
    omega
  · rw [if_neg (by simpa [UtcOffset.isNegative] using negative)]
    omega

/-- Every field can hold the number that belongs into it. -/
lemma Parts.admits_of_quantity? {parts : Parts} {f : Field} {n : Int}
    (known : parts.quantity? f = some n) : f.admits n = true := by
  rw [Field.admits_iff]
  -- by what the fields are about, since each group draws on the bounds of one part
  cases f with
  | year | isoYear | yearLastTwo | isoYearLastTwo =>
      obtain ⟨d, -, rfl⟩ := Option.map_eq_some_iff.mp known
      have year := d.year_mem
      have isoYear := d.isoYear_mem
      have lastTwo := Year.lastTwo_mem d.year
      have isoLastTwo := Year.lastTwo_mem d.isoYear
      simp only [Year.first, Year.last] at year isoYear
      simp only [Field.least, Field.greatest]
      omega
  | month | weekday =>
      obtain ⟨d, -, rfl⟩ := Option.map_eq_some_iff.mp known
      have month := d.month.number_bounds
      have weekday := d.weekday.index_bounds
      simp only [Field.least, Field.greatest]
      omega
  | day | ordinal | isoWeekNumber | sundayWeekNumber | mondayWeekNumber =>
      obtain ⟨d, -, rfl⟩ := Option.map_eq_some_iff.mp known
      have day := d.day_mem
      have short := d.day_le
      have ordinal := d.ordinal_mem
      have days := Year.days_mem d.year
      have isoWeek := d.isoWeek_mem
      have weeks := Year.weeks_mem d.isoYear
      have sundayWeek := d.sundayWeek_mem
      have mondayWeek := d.mondayWeek_mem
      simp only [Field.least, Field.greatest]
      omega
  | hour24 | hour12 | minute | second | subsecond =>
      obtain ⟨t, -, rfl⟩ := Option.map_eq_some_iff.mp known
      have hour := t.hour_mem
      have hour12 := t.hour12_mem
      have minute := t.minute_mem
      have second := t.second_mem
      have nanosecond := t.nanosecond_mem
      simp only [Field.least, Field.greatest]
      omega
  | offsetHour | offsetMinute | offsetSecond =>
      obtain ⟨o, -, rfl⟩ := Option.map_eq_some_iff.mp known
      have hours := o.hours_mem
      have minutes := o.minutes_mem
      have seconds := o.seconds_mem
      simp only [Field.least, Field.greatest]
      omega
  | hour12IsPm | offsetIsNegative =>
      obtain ⟨x, -, rfl⟩ := Option.map_eq_some_iff.mp known
      simp only [Field.least, Field.greatest]
      split <;> decide

end CalendarText
