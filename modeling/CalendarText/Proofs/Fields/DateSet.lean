/-
The date that fields determine.

Five sets of fields name a date by themselves.  Each of them is inverted by the quantities that a
date derives for its fields, so whichever set is looked at first, the date is the one that all
fields describe.

* `DateSet`, `Fields.Has`: the sets, and whether one is filled in;
* `Fields.Describes`: every date field that is filled in holds the quantity of a date;
* `Fields.named_of_describes`: a set that is filled in names the date that the fields describe;
* `Fields.resolve_date_eq_ok_iff`: the fields determine a date exactly when they have one of the
  sets and describe that date.
-/
import Mathlib.Data.List.Nodup
import CalendarText.Proofs.Calendar.Week
import CalendarText.Proofs.Outcome

namespace CalendarText

/-- A set of fields that names a date by itself. -/
inductive DateSet where
  | ordinal
  | calendar
  | isoWeek
  | sundayWeek
  | mondayWeek
  deriving DecidableEq, Repr

namespace DateSet

/-- The sets in the order in which they are tried. -/
def all : List DateSet :=
  [ordinal, calendar, isoWeek, sundayWeek, mondayWeek]

/-- The fields of a set. -/
def fields : DateSet → List Field
  | ordinal => [.year, .ordinal]
  | calendar => [.year, .month, .day]
  | isoWeek => [.isoYear, .isoWeekNumber, .weekday]
  | sundayWeek => [.year, .sundayWeekNumber, .weekday]
  | mondayWeek => [.year, .mondayWeekNumber, .weekday]

lemma mem_all (s : DateSet) : s ∈ all := by
  cases s <;> decide

end DateSet

/-- A resolution fails with the cause that keeps the value from being determined. -/
lemma ValueKind.resolve_eq_error_iff {kind : ValueKind} {p : Fields} {c : Cause} :
    kind.resolve p = .error (.resolving c) ↔ kind.determine p = .error c := by
  rw [resolve, Outcome.mapError_eq_error_iff]
  constructor
  · rintro ⟨cause, h, same⟩
    cases same
    exact h
  · intro h
    exact ⟨c, h, rfl⟩

namespace Fields

/-- All fields of a set are filled in. -/
def Has (p : Fields) (s : DateSet) : Prop :=
  ∀ f ∈ s.fields, (p.get f).isSome = true

/-- Every date field that is filled in holds the quantity of its name of a date. -/
structure Describes (p : Fields) (d : Date) : Prop where
  year : ∀ n, p.get .year = some n → n = d.year
  yearLastTwo : ∀ n, p.get .yearLastTwo = some n → n = (d.year.natAbs : Int) % 100
  isoYear : ∀ n, p.get .isoYear = some n → n = d.isoYear
  isoYearLastTwo : ∀ n, p.get .isoYearLastTwo = some n → n = (d.isoYear.natAbs : Int) % 100
  month : ∀ n, p.get .month = some n → n = d.month.number
  day : ∀ n, p.get .day = some n → n = d.day
  ordinal : ∀ n, p.get .ordinal = some n → n = d.ordinal
  weekday : ∀ n, p.get .weekday = some n → n = d.weekday.index
  isoWeekNumber : ∀ n, p.get .isoWeekNumber = some n → n = d.isoWeek
  sundayWeekNumber : ∀ n, p.get .sundayWeekNumber = some n → n = d.sundayWeek
  mondayWeekNumber : ∀ n, p.get .mondayWeekNumber = some n → n = d.mondayWeek

instance (p : Fields) (s : DateSet) : Decidable (p.Has s) :=
  inferInstanceAs (Decidable (∀ f ∈ s.fields, (p.get f).isSome = true))

/-- A date has the numbers that the fields of a set hold. -/
def NamesBy (p : Fields) (s : DateSet) (d : Date) : Prop :=
  ∀ q ∈ d.quantities, q.1 ∈ s.fields → p.get q.1 = some q.2

/-- The date that a set names, if it is filled in. -/
def named (p : Fields) : DateSet → Option (Except RangeError Date)
  | .ordinal => p.byOrdinal
  | .calendar => p.byCalendar
  | .isoWeek => p.byIsoWeek
  | .sundayWeek => p.bySundayWeek
  | .mondayWeek => p.byMondayWeek

/-- A date, unless a field contradicts it. -/
def checked (p : Fields) (d : Date) : Except Cause Date :=
  match p.contradiction d.quantities with
  | some f => .error (.inconsistent f.name)
  | none => .ok d

/-- The date that the fields determine when the sets are tried in some order. -/
def dateTrying (order : List DateSet) (p : Fields) : Except Cause Date :=
  match order.findSome? p.named with
  | some result => (result.mapError .range).bind p.checked
  | none => .error .insufficient

/-! ### Agreement -/

lemma contradiction_eq_none_iff (p : Fields) (quantities : List (Field × Int)) :
    p.contradiction quantities = none ↔
      ∀ q ∈ quantities, ∀ n, p.get q.1 = some n → n = q.2 := by
  rw [contradiction, Option.map_eq_none_iff, List.find?_eq_none]
  refine forall₂_congr fun q _ => ?_
  cases h : p.get q.1 <;> simp [h]

/-- A contradiction is found at the first field that holds another number. -/
lemma contradiction_eq_some_iff {p : Fields} {quantities : List (Field × Int)} {f : Field} :
    p.contradiction quantities = some f ↔
      ∃ before n after, quantities = before ++ (f, n) :: after ∧
        (∀ q ∈ before, ∀ m, p.get q.1 = some m → m = q.2) ∧ ∃ m, p.get f = some m ∧ m ≠ n := by
  -- an empty field neither agrees nor differs, and is passed over
  have differs (q : Field × Int) :
      (p.get q.1).any (· ≠ q.2) = true ↔ ∃ m, p.get q.1 = some m ∧ m ≠ q.2 := by
    cases p.get q.1 <;> simp
  have agrees (q : Field × Int) :
      (!(p.get q.1).any (· ≠ q.2)) = true ↔ ∀ m, p.get q.1 = some m → m = q.2 := by
    cases p.get q.1 <;> simp
  rw [contradiction, Option.map_eq_some_iff]
  constructor
  · rintro ⟨⟨g, n⟩, found, rfl⟩
    obtain ⟨differ, before, after, same, agree⟩ := List.find?_eq_some_iff_append.mp found
    exact ⟨before, n, after, same, fun q mem => (agrees q).mp (agree q mem),
      (differs (g, n)).mp differ⟩
  · rintro ⟨before, n, after, same, agree, differ⟩
    refine ⟨(f, n), List.find?_eq_some_iff_append.mpr ?_, rfl⟩
    exact ⟨(differs (f, n)).mpr differ, before, after, same, fun q mem =>
      (agrees q).mpr (agree q mem)⟩

lemma describes_iff (p : Fields) (d : Date) :
    p.Describes d ↔ ∀ q ∈ d.quantities, ∀ n, p.get q.1 = some n → n = q.2 := by
  simp only [Date.quantities, List.forall_mem_cons]
  constructor
  · rintro ⟨h₁, h₂, h₃, h₄, h₅, h₆, h₇, h₈, h₉, h₁₀, h₁₁⟩
    exact ⟨h₁, h₂, h₃, h₄, h₅, h₆, h₇, h₈, h₉, h₁₀, h₁₁, by simp⟩
  · rintro ⟨h₁, h₂, h₃, h₄, h₅, h₆, h₇, h₈, h₉, h₁₀, h₁₁, -⟩
    exact ⟨h₁, h₂, h₃, h₄, h₅, h₆, h₇, h₈, h₉, h₁₀, h₁₁⟩

/-- A date stands exactly when the fields describe it. -/
lemma checked_eq_ok_iff (p : Fields) (d e : Date) :
    p.checked d = .ok e ↔ d = e ∧ p.Describes d := by
  rw [describes_iff, ← contradiction_eq_none_iff, checked]
  cases p.contradiction d.quantities <;> simp

/-- A date has one quantity for each of its fields. -/
lemma eq_of_mem_quantities {d : Date} {q r : Field × Int} (hq : q ∈ d.quantities)
    (hr : r ∈ d.quantities) (same : q.1 = r.1) : q = r := by
  have nodup : (d.quantities.map Prod.fst).Nodup := by
    simp only [Date.quantities, List.map_cons, List.map_nil]
    decide
  exact List.inj_on_of_nodup_map nodup hq hr same

/-- Fields that describe a date still do so when one more of its quantities is filled in. -/
lemma Describes.put {p : Fields} {d : Date} (h : p.Describes d) {f : Field} {n : Int}
    (mem : (f, n) ∈ d.quantities) : (p.put f (some n)).Describes d := by
  rw [describes_iff] at h ⊢
  intro q hq m hm
  rw [get_put] at hm
  split at hm
  · rename_i same
    cases hm
    rw [← eq_of_mem_quantities mem hq same.symm]
  · exact h q hq m hm

/-- A set that is filled in stays so. -/
lemma Has.put {p : Fields} {s : DateSet} (h : p.Has s) (f : Field) (n : Int) :
    (p.put f (some n)).Has s := by
  intro g hg
  rw [get_put]
  split
  · rfl
  · exact h g hg

/-! ### What a set names -/

/-- A set names something exactly when it is filled in. -/
lemma isSome_named (p : Fields) (s : DateSet) : (p.named s).isSome = true ↔ p.Has s := by
  cases s with
  | ordinal =>
      simp only [named, byOrdinal, Has, DateSet.fields, List.forall_mem_cons]
      cases p.get .year <;> cases p.get .ordinal <;> simp
  | calendar =>
      simp only [named, byCalendar, Has, DateSet.fields, List.forall_mem_cons]
      cases p.get .year <;> cases p.get .month <;> cases p.get .day <;> simp
  | isoWeek =>
      simp only [named, byIsoWeek, weekday?, Has, DateSet.fields, List.forall_mem_cons]
      cases p.get .isoYear <;> cases p.get .isoWeekNumber <;> cases p.get .weekday <;> simp
  | sundayWeek =>
      simp only [named, bySundayWeek, weekday?, Has, DateSet.fields, List.forall_mem_cons]
      cases p.get .year <;> cases p.get .sundayWeekNumber <;> cases p.get .weekday <;> simp
  | mondayWeek =>
      simp only [named, byMondayWeek, weekday?, Has, DateSet.fields, List.forall_mem_cons]
      cases p.get .year <;> cases p.get .mondayWeekNumber <;> cases p.get .weekday <;> simp

section

variable {p : Fields} {s : DateSet} {d : Date}

lemma namesBy_ordinal : p.NamesBy .ordinal d ↔
    p.get .year = some d.year ∧ p.get .ordinal = some d.ordinal := by
  simp [NamesBy, Date.quantities, DateSet.fields]

lemma namesBy_calendar : p.NamesBy .calendar d ↔
    p.get .year = some d.year ∧ p.get .month = some d.month.number ∧ p.get .day = some d.day := by
  simp [NamesBy, Date.quantities, DateSet.fields]

lemma namesBy_isoWeek : p.NamesBy .isoWeek d ↔ p.get .isoYear = some d.isoYear ∧
    p.get .weekday = some d.weekday.index ∧ p.get .isoWeekNumber = some d.isoWeek := by
  simp [NamesBy, Date.quantities, DateSet.fields]

lemma namesBy_sundayWeek : p.NamesBy .sundayWeek d ↔ p.get .year = some d.year ∧
    p.get .weekday = some d.weekday.index ∧ p.get .sundayWeekNumber = some d.sundayWeek := by
  simp [NamesBy, Date.quantities, DateSet.fields]

lemma namesBy_mondayWeek : p.NamesBy .mondayWeek d ↔ p.get .year = some d.year ∧
    p.get .weekday = some d.weekday.index ∧ p.get .mondayWeekNumber = some d.mondayWeek := by
  simp [NamesBy, Date.quantities, DateSet.fields]

/-- Fields that hold the quantities of a date name it. -/
lemma NamesBy.named (h : p.NamesBy s d) : p.named s = some (.ok d) := by
  cases s with
  | ordinal =>
      obtain ⟨year, ordinal⟩ := namesBy_ordinal.mp h
      simp only [Fields.named, byOrdinal, year, ordinal]
      exact congrArg some d.ofOrdinal_self
  | calendar =>
      obtain ⟨year, month, day⟩ := namesBy_calendar.mp h
      simp only [Fields.named, byCalendar, year, month, day]
      exact congrArg some d.ofCalendar_self
  | isoWeek =>
      obtain ⟨year, weekday, week⟩ := namesBy_isoWeek.mp h
      simp only [Fields.named, byIsoWeek, weekday?, year, weekday, week, Option.map_some,
        Weekday.ofDays_index]
      exact congrArg some d.ofIsoWeek_self
  | sundayWeek =>
      obtain ⟨year, weekday, week⟩ := namesBy_sundayWeek.mp h
      simp only [Fields.named, bySundayWeek, weekday?, year, weekday, week, Option.map_some,
        Weekday.ofDays_index]
      exact congrArg some d.ofSundayWeek_self
  | mondayWeek =>
      obtain ⟨year, weekday, week⟩ := namesBy_mondayWeek.mp h
      simp only [Fields.named, byMondayWeek, weekday?, year, weekday, week, Option.map_some,
        Weekday.ofDays_index]
      exact congrArg some d.ofMondayWeek_self

lemma Has.exists_get (has : p.Has s) {f : Field} (mem : f ∈ s.fields) : ∃ n, p.get f = some n :=
  Option.isSome_iff_exists.mp (has f mem)

/-- Fields that describe a date name it by every set that is filled in. -/
lemma Describes.namesBy (h : p.Describes d) (has : p.Has s) : p.NamesBy s d := by
  intro q mem field
  obtain ⟨n, hn⟩ := has.exists_get field
  rw [hn, (describes_iff p d).mp h q mem n hn]

/-- A set that is filled in names the date that the fields describe. -/
lemma named_of_describes (has : p.Has s) (h : p.Describes d) : p.named s = some (.ok d) :=
  (h.namesBy has).named

end

/-! ### The date that fields determine -/

/-- The sets are tried in their order. -/
lemma date_eq_dateTrying (p : Fields) : p.date = p.dateTrying DateSet.all := by
  have first : (p.byOrdinal <|> p.byCalendar <|> p.byIsoWeek <|> p.bySundayWeek <|>
      p.byMondayWeek) = DateSet.all.findSome? p.named := by
    simp only [DateSet.all, List.findSome?, named]
    cases p.byOrdinal <;> cases p.byCalendar <;> cases p.byIsoWeek <;> cases p.bySundayWeek <;>
      cases p.byMondayWeek <;> rfl
  rw [date, namedDate, first, dateTrying]
  cases DateSet.all.findSome? p.named <;> rfl

/-- Whatever the order in which all sets are tried, the fields determine the date that they
describe. -/
lemma dateTrying_eq_ok_iff {order : List DateSet} (complete : ∀ s, s ∈ order) (p : Fields)
    (d : Date) : p.dateTrying order = .ok d ↔ (∃ s, p.Has s) ∧ p.Describes d := by
  rw [dateTrying]
  cases found : order.findSome? p.named with
  | none =>
      -- no set in the order names anything, and every set is in the order
      have empty (s : DateSet) : ¬p.Has s := by
        have := List.findSome?_eq_none_iff.mp found s (complete s)
        rw [← isSome_named, this]
        decide
      simp only [empty, exists_false, false_and, iff_false]
      rintro ⟨⟩
  | some result =>
      obtain ⟨s, -, hs⟩ := List.exists_of_findSome?_eq_some found
      have has : p.Has s := (isSome_named p s).mp (by rw [hs]; rfl)
      constructor
      · intro h
        cases result with
        | error e => cases h
        | ok e =>
            obtain ⟨rfl, describes⟩ := (checked_eq_ok_iff p e d).mp h
            exact ⟨⟨s, has⟩, describes⟩
      · rintro ⟨-, describes⟩
        -- the set that is found first cannot name another date
        have named := named_of_describes has describes
        rw [hs] at named
        cases named
        exact (checked_eq_ok_iff p d d).mpr ⟨rfl, describes⟩

lemma date_eq_ok_iff (p : Fields) (d : Date) :
    p.date = .ok d ↔ (∃ s, p.Has s) ∧ p.Describes d := by
  rw [date_eq_dateTrying, dateTrying_eq_ok_iff DateSet.mem_all]

lemma resolve_date_eq (p : Fields) (d : Date) :
    ValueKind.date.resolve p = .ok (.date d) ↔ p.date = .ok d := by
  rw [ValueKind.resolve, ValueKind.determine, Outcome.mapError_eq_ok_iff, Outcome.map_eq_ok_iff]
  simp

/-- The fields determine a date exactly when they have one of the five sets and describe that date.
So the order in which the sets are tried does not matter, and neither does a further field that
holds a quantity of the date. -/
theorem resolve_date_eq_ok_iff (p : Fields) (d : Date) :
    (ValueKind.date.resolve p = .ok (.date d) ↔ (∃ s, p.Has s) ∧ p.Describes d) ∧
      (∀ order : List DateSet, order.Perm DateSet.all →
        (p.dateTrying order = .ok d ↔ ValueKind.date.resolve p = .ok (.date d))) ∧
      (∀ f n, (f, n) ∈ d.quantities → ValueKind.date.resolve p = .ok (.date d) →
        ValueKind.date.resolve (p.put f (some n)) = .ok (.date d)) := by
  simp only [resolve_date_eq, date_eq_ok_iff]
  refine ⟨trivial, ?_, ?_⟩
  · intro order perm
    have complete (s : DateSet) : s ∈ order := perm.mem_iff.mpr s.mem_all
    exact dateTrying_eq_ok_iff complete p d
  · rintro f n mem ⟨⟨s, has⟩, describes⟩
    exact ⟨⟨s, has.put f n⟩, describes.put mem⟩

/-- The last day of ISO week 53 of 2020 is the third day of 2021: the sets may be tried from the
last to the first, and the day of the year may be filled in as well. -/
theorem resolve_date_of_lastIsoWeek :
    ∃ d : Date, d.year = 2021 ∧ d.ordinal = 3 ∧
      ((empty.assign [(.isoYear, 2020), (.isoWeekNumber, 53), (.weekday, 6)]).dateTrying
        DateSet.all.reverse = .ok d) ∧
      ValueKind.date.resolve ((empty.assign [(.isoYear, 2020), (.isoWeekNumber, 53),
        (.weekday, 6)]).put .ordinal (some 3)) = .ok (.date d) :=
  have known : ValueKind.date.resolve (empty.assign [(.isoYear, 2020), (.isoWeekNumber, 53),
      (.weekday, 6)]) = .ok (.date ⟨2021, .january, 3, by decide, by decide⟩) := rfl
  ⟨⟨2021, .january, 3, by decide, by decide⟩, rfl, rfl,
    ((resolve_date_eq_ok_iff _ _).2.1 _ (List.reverse_perm _)).mpr known,
    (resolve_date_eq_ok_iff _ _).2.2 .ordinal 3 (by decide) known⟩

end Fields

end CalendarText
