/-
How the resolution of a date ends.

The first set of fields that is filled in decides.  If there is none, the fields say too little; if
no date has the numbers of the set, a quantity is out of its range; and otherwise one date has them,
which stands unless another field contradicts it.

* `Date.eq_of_ofWeek`: a date that is built by a week has what was asked for;
* `Fields.named_eq_ok_iff`: a set names exactly the date whose quantities its fields hold;
* `Fields.firstSet?`, `Fields.compared`, `Fields.FirstDiffers`: the set that decides, the fields
  that are compared with its date, and the first of them that contradicts it;
* `Fields.date_eq_insufficient_iff`, `Fields.date_eq_range_iff`, `Fields.checked_cases`: the ends,
  one by one;
* `Fields.resolve_date_ends`: missing, impossible and contradicting information are told apart.
-/
import CalendarText.Proofs.Calendar.IsoWeek
import CalendarText.Proofs.Fields.DateSet
import CalendarText.Proofs.Fields.Quantity

namespace CalendarText

/-! ### Dates by weeks -/

namespace Date

/-- A date that is built by a week has the year, the weekday and the week that were asked for. -/
lemma eq_of_ofWeek {indexOf : Weekday → Int} (shift : Int)
    (count : ∀ n, indexOf (Weekday.ofDays n) = (n + shift) % 7) {year week index : Int} {d : Date}
    (mem : 0 ≤ index ∧ index ≤ 6) (h : ofWeek year week index indexOf = .ok d) :
    d.year = year ∧ indexOf d.weekday = index ∧
      (d.ordinal + 6 - indexOf d.weekday) / 7 = week := by
  obtain ⟨e, newYear, built⟩ := Outcome.bind_eq_ok_iff.mp h
  obtain ⟨rfl, ordinal⟩ := ofOrdinal_eq_ok_iff.mp built
  rw [ofCalendar_newYear] at newYear
  cases newYear
  have first := indexOf_newYear shift count d
  -- from the first day on, weekdays run through the weeks without a gap
  have same : indexOf d.weekday = index := by
    rw [indexOf_weekday shift count, ordinal, first]
    split <;> omega
  refine ⟨rfl, same, ?_⟩
  rw [same, ordinal, first]
  split <;> omega

/-- The same for weeks from Sunday. -/
lemma eq_of_ofSundayWeek {year week : Int} {k : Weekday} {d : Date}
    (h : ofWeek year week k.indexFromSunday Weekday.indexFromSunday = .ok d) :
    d.year = year ∧ d.weekday = k ∧ d.sundayWeek = week := by
  have index := k.index_bounds
  have own := d.weekday.index_bounds
  obtain ⟨year, same, week⟩ := eq_of_ofWeek 1 Weekday.indexFromSunday_ofDays
    (by rw [Weekday.indexFromSunday]; omega) h
  rw [Weekday.indexFromSunday, Weekday.indexFromSunday] at same
  exact ⟨year, Weekday.index_injective (by omega), week⟩

/-- The same for weeks from Monday. -/
lemma eq_of_ofMondayWeek {year week : Int} {k : Weekday} {d : Date}
    (h : ofWeek year week k.index Weekday.index = .ok d) :
    d.year = year ∧ d.weekday = k ∧ d.mondayWeek = week := by
  obtain ⟨year, same, week⟩ := eq_of_ofWeek 0
    (fun n => by rw [Weekday.index_ofDays, Int.add_zero]) k.index_bounds h
  exact ⟨year, Weekday.index_injective same, week⟩

end Date

namespace Fields

variable {p : Fields} {s : DateSet} {d : Date}

/-! ### The date that a set names -/

/-- A weekday field holds the index of its weekday. -/
lemma index_ofDays_of_valid (valid : p.Valid) {n : Int} (known : p.get .weekday = some n) :
    (Weekday.ofDays n).index = n := by
  have admitted := valid .weekday
  rw [known] at admitted
  obtain ⟨monday, sunday⟩ := (Field.admits_iff .weekday n).mp admitted
  rw [Weekday.index_ofDays]
  exact Int.emod_eq_of_lt monday (Int.lt_of_le_of_lt sunday (by decide))

/-- The fields of a set hold the quantities of the date that the set names. -/
lemma namesBy_of_named (valid : p.Valid) (h : p.named s = some (.ok d)) : p.NamesBy s d := by
  have has : p.Has s := (isSome_named p s).mp (by rw [h]; rfl)
  -- in each set the constructor is turned around, and the fields hold what it was given
  cases s with
  | ordinal =>
      obtain ⟨year, hy⟩ := has.exists_get (by decide : Field.year ∈ _)
      obtain ⟨ordinal, ho⟩ := has.exists_get (by decide : Field.ordinal ∈ _)
      simp only [named, byOrdinal, hy, ho] at h
      obtain ⟨rfl, rfl⟩ := Date.ofOrdinal_eq_ok_iff.mp (Option.some.inj h)
      exact namesBy_ordinal.mpr ⟨hy, ho⟩
  | calendar =>
      obtain ⟨year, hy⟩ := has.exists_get (by decide : Field.year ∈ _)
      obtain ⟨month, hm⟩ := has.exists_get (by decide : Field.month ∈ _)
      obtain ⟨day, hd⟩ := has.exists_get (by decide : Field.day ∈ _)
      simp only [named, byCalendar, hy, hm, hd] at h
      obtain ⟨rfl, rfl, rfl⟩ := Date.eq_of_ofCalendar (Option.some.inj h)
      exact namesBy_calendar.mpr ⟨hy, hm, hd⟩
  | isoWeek =>
      obtain ⟨year, hy⟩ := has.exists_get (by decide : Field.isoYear ∈ _)
      obtain ⟨week, hw⟩ := has.exists_get (by decide : Field.isoWeekNumber ∈ _)
      obtain ⟨weekday, hd⟩ := has.exists_get (by decide : Field.weekday ∈ _)
      simp only [named, byIsoWeek, weekday?, hy, hw, hd, Option.map_some] at h
      obtain ⟨-, mem, number⟩ := Date.ofIsoWeek_eq_ok_iff.mp (Option.some.inj h)
      obtain ⟨rfl, rfl, same⟩ := Date.iso_eq_of_number mem number
      refine namesBy_isoWeek.mpr ⟨hy, ?_, hw⟩
      rw [hd, same, index_ofDays_of_valid valid hd]
  | sundayWeek =>
      obtain ⟨year, hy⟩ := has.exists_get (by decide : Field.year ∈ _)
      obtain ⟨week, hw⟩ := has.exists_get (by decide : Field.sundayWeekNumber ∈ _)
      obtain ⟨weekday, hd⟩ := has.exists_get (by decide : Field.weekday ∈ _)
      simp only [named, bySundayWeek, weekday?, hy, hw, hd, Option.map_some] at h
      obtain ⟨rfl, same, rfl⟩ := Date.eq_of_ofSundayWeek (Option.some.inj h)
      refine namesBy_sundayWeek.mpr ⟨hy, ?_, hw⟩
      rw [hd, same, index_ofDays_of_valid valid hd]
  | mondayWeek =>
      obtain ⟨year, hy⟩ := has.exists_get (by decide : Field.year ∈ _)
      obtain ⟨week, hw⟩ := has.exists_get (by decide : Field.mondayWeekNumber ∈ _)
      obtain ⟨weekday, hd⟩ := has.exists_get (by decide : Field.weekday ∈ _)
      simp only [named, byMondayWeek, weekday?, hy, hw, hd, Option.map_some] at h
      obtain ⟨rfl, same, rfl⟩ := Date.eq_of_ofMondayWeek (Option.some.inj h)
      refine namesBy_mondayWeek.mpr ⟨hy, ?_, hw⟩
      rw [hd, same, index_ofDays_of_valid valid hd]

/-- A set names exactly the date whose quantities its fields hold. -/
lemma named_eq_ok_iff (valid : p.Valid) : p.named s = some (.ok d) ↔ p.NamesBy s d :=
  ⟨namesBy_of_named valid, NamesBy.named⟩

/-! ### The set that decides -/

/-- The first set that is filled in, in the order in which they are tried. -/
def firstSet? (p : Fields) : Option DateSet :=
  DateSet.all.find? fun s => p.Has s

lemma firstSet?_eq_none_iff : p.firstSet? = none ↔ ∀ s, ¬p.Has s := by
  simp [firstSet?, DateSet.mem_all]

/-- The sets before the first one that is filled in name nothing. -/
lemma findSome?_named (p : Fields) (order : List DateSet) :
    order.findSome? p.named = (order.find? fun s => p.Has s).bind p.named := by
  induction order with
  | nil => rfl
  | cons s order ih =>
      rw [List.findSome?_cons, List.find?_cons]
      by_cases has : p.Has s
      · obtain ⟨result, named⟩ := Option.isSome_iff_exists.mp ((isSome_named p s).mpr has)
        simp [has, named]
      · have none : p.named s = none := by simpa using mt (isSome_named p s).mp has
        simp [has, none, ih]

/-- The date that the first set names is the one that is compared with the other fields. -/
lemma date_eq_firstSet? (p : Fields) :
    p.date = match p.firstSet?.bind p.named with
      | some result => (result.mapError .range).bind p.checked
      | none => .error .insufficient := by
  rw [date_eq_dateTrying, dateTrying, findSome?_named]
  rfl

/-- The first set names a date, or says why there is none. -/
lemma exists_named (first : p.firstSet? = some s) : ∃ result, p.named s = some result := by
  have has : p.Has s := by simpa using List.find?_some first
  exact Option.isSome_iff_exists.mp ((isSome_named p s).mpr has)

/-! ### The ends of a resolution -/

/-- The fields that are compared with a date, in the order in which they are reported. -/
def compared : List Field :=
  [.year, .yearLastTwo, .isoYear, .isoYearLastTwo, .month, .day, .ordinal, .weekday,
    .isoWeekNumber, .sundayWeekNumber, .mondayWeekNumber]

/-- The field holds another number than belongs there for the date. -/
def Differs (p : Fields) (d : Date) (f : Field) : Prop :=
  ∃ n, p.get f = some n ∧ (Value.date d).parts.quantity? f ≠ some n

/-- A field is the first that a date contradicts: it holds another number than belongs there, and no
field that is compared before it does. -/
def FirstDiffers (p : Fields) (d : Date) (f : Field) : Prop :=
  ∃ before after, compared = before ++ f :: after ∧ (∀ g ∈ before, ¬p.Differs d g) ∧ p.Differs d f

/-- What is compared are the numbers that belong into the fields. -/
lemma quantity?_of_mem_quantities {q : Field × Int} (mem : q ∈ d.quantities) :
    (Value.date d).parts.quantity? q.1 = some q.2 := by
  have same : d.quantities.map (fun q => (q.1, some q.2)) =
      compared.map fun f => (f, (Value.date d).parts.quantity? f) := rfl
  have own : (q.1, some q.2) ∈ d.quantities.map fun q => (q.1, some q.2) :=
    List.mem_map_of_mem mem
  rw [same] at own
  obtain ⟨f, -, pair⟩ := List.mem_map.mp own
  obtain ⟨field, number⟩ := Prod.mk.inj pair
  rwa [field] at number

/-- The field that is found to contradict a date is the first one. -/
lemma firstDiffers_of_contradiction {f : Field} (found : p.contradiction d.quantities = some f) :
    p.FirstDiffers d f := by
  obtain ⟨before, n, after, split, agree, m, known, other⟩ := contradiction_eq_some_iff.mp found
  -- the search runs through the same fields as the list of those that are compared
  have order : compared = before.map Prod.fst ++ f :: after.map Prod.fst := by
    have fields : compared = d.quantities.map Prod.fst := rfl
    rw [fields, split, List.map_append, List.map_cons]
  have belongs (q : Field × Int) (mem : q ∈ before ++ (f, n) :: after) :
      (Value.date d).parts.quantity? q.1 = some q.2 :=
    quantity?_of_mem_quantities (split ▸ mem)
  refine ⟨_, _, order, ?_, m, known, ?_⟩
  · rintro g given ⟨k, holds, differs⟩
    obtain ⟨q, mem, rfl⟩ := List.mem_map.mp given
    rw [belongs q (List.mem_append_left _ mem), agree q mem k holds] at differs
    exact differs rfl
  · rw [belongs (f, n) (by simp)]
    exact fun same => other (Option.some.inj same).symm

/-- A date stands, or the first field that contradicts it is reported. -/
lemma checked_cases (p : Fields) (d : Date) :
    (p.checked d = .ok d ∧ p.Describes d) ∨
      ∃ f, p.FirstDiffers d f ∧ p.checked d = .error (.inconsistent f.name) := by
  cases found : p.contradiction d.quantities with
  | none =>
      have describes : p.Describes d :=
        (describes_iff p d).mpr ((contradiction_eq_none_iff p _).mp found)
      exact .inl ⟨(checked_eq_ok_iff p d d).mpr ⟨rfl, describes⟩, describes⟩
  | some f =>
      refine .inr ⟨f, firstDiffers_of_contradiction found, ?_⟩
      rw [checked, found]

/-- A date that is named is refused for a contradiction only. -/
lemma eq_inconsistent_of_checked {c : Cause} (h : p.checked d = .error c) :
    ∃ f : Field, c = .inconsistent f.name := by
  obtain ⟨stands, -⟩ | ⟨f, -, differs⟩ := p.checked_cases d
  · cases h.symm.trans stands
  · cases h.symm.trans differs
    exact ⟨f, rfl⟩

/-- The date that the first set names, compared with the other fields. -/
lemma date_of_namesBy (first : p.firstSet? = some s) (h : p.NamesBy s d) :
    p.date = p.checked d := by
  rw [date_eq_firstSet?, first, Option.bind_some, h.named]
  rfl

/-- The fields say too little for a date exactly when no set is filled in. -/
lemma date_eq_insufficient_iff : p.date = .error .insufficient ↔ ∀ s, ¬p.Has s := by
  rw [← firstSet?_eq_none_iff, date_eq_firstSet?]
  cases first : p.firstSet? with
  | none => exact ⟨fun _ => rfl, fun _ => rfl⟩
  -- a set that is filled in ends in a date, in a range error or in a contradiction
  | some s =>
      obtain ⟨result, named⟩ := exists_named first
      rw [Option.bind_some, named]
      refine ⟨fun h => ?_, nofun⟩
      cases result with
      | error e => cases h
      | ok d =>
          obtain ⟨f, same⟩ := eq_inconsistent_of_checked h
          cases same

/-- A quantity is out of its range exactly when no date has the numbers of the first set. -/
lemma date_eq_range_iff (valid : p.Valid) (first : p.firstSet? = some s) :
    (∃ e, p.date = .error (.range e)) ↔ ¬∃ d, p.NamesBy s d := by
  constructor
  · rintro ⟨e, h⟩ ⟨d, names⟩
    rw [date_of_namesBy first names] at h
    obtain ⟨f, same⟩ := eq_inconsistent_of_checked h
    cases same
  · intro nothing
    obtain ⟨result, named⟩ := exists_named first
    cases result with
    | ok d => exact absurd ⟨d, (named_eq_ok_iff valid).mp named⟩ nothing
    | error e =>
        refine ⟨e, ?_⟩
        rw [date_eq_firstSet?, first, Option.bind_some, named]
        rfl

/-- The fields of a set hold the quantities of one date only. -/
lemma NamesBy.unique {e : Date} (h : p.NamesBy s d) (other : p.NamesBy s e) : e = d := by
  have same := other.named.symm.trans h.named
  cases same
  rfl

/-- **Missing, impossible and contradicting information are told apart.**  The fields say too little
for a date exactly when none of the five sets is filled in, whatever they hold.  Otherwise the first
set that is filled in decides: a quantity is out of its range exactly when no date has the numbers
of the set, and if a date has them, it is the only one, and it is determined unless a field
contradicts it, the first of which is reported. -/
theorem resolve_date_ends (valid : p.Valid) :
    (ValueKind.date.resolve p = .error (.resolving .insufficient) ↔ ∀ s, ¬p.Has s) ∧
      ∀ s, p.firstSet? = some s →
        ((∃ e, ValueKind.date.resolve p = .error (.resolving (.range e))) ↔
          ¬∃ d, p.NamesBy s d) ∧
        ∀ d, p.NamesBy s d → (∀ e, p.NamesBy s e → e = d) ∧
          ((ValueKind.date.resolve p = .ok (.date d) ∧ p.Describes d) ∨
            ∃ f, p.FirstDiffers d f ∧
              ValueKind.date.resolve p = .error (.resolving (.inconsistent f.name))) := by
  have failed (c : Cause) :
      ValueKind.date.resolve p = .error (.resolving c) ↔ p.date = .error c := by
    rw [ValueKind.resolve_eq_error_iff, ValueKind.determine, Outcome.map_eq_error_iff]
  simp only [failed, resolve_date_eq]
  refine ⟨date_eq_insufficient_iff, fun s first => ⟨date_eq_range_iff valid first, ?_⟩⟩
  intro d names
  refine ⟨fun e other => names.unique other, ?_⟩
  rw [date_of_namesBy first names]
  exact p.checked_cases d

/-- A year that begins with a Sunday has no week 0 from Sunday.  Of a month and a weekday that are
both wrong beside the day of the year, the month is reported. -/
theorem resolve_date_ends_impossible :
    let weekZero := empty.assign [(.year, 2023), (.sundayWeekNumber, 0), (.weekday, 6)]
    let wrong := empty.assign [(.year, 2021), (.ordinal, 3), (.weekday, 0), (.month, 2)]
    let d : Date := ⟨2021, .january, 3, by decide, by decide⟩
    (weekZero.Valid ∧ weekZero.firstSet? = some .sundayWeek ∧
      ¬∃ d, weekZero.NamesBy .sundayWeek d) ∧
    wrong.Valid ∧ wrong.firstSet? = some .ordinal ∧ wrong.NamesBy .ordinal d ∧
      ∃ f, wrong.FirstDiffers d f ∧
        ValueKind.date.resolve wrong = .error (.resolving (.inconsistent f.name)) := by
  intro weekZero wrong d
  have validWeekZero : weekZero.Valid := by
    intro f
    cases f <;> decide
  have valid : wrong.Valid := by
    intro f
    cases f <;> decide
  -- the year begins with a Sunday, and the Sunday of week 0 would be a week before it
  have range : ValueKind.date.resolve weekZero =
      .error (.resolving (.range ⟨"ordinal", 1, 365, -6, true⟩)) := rfl
  have names : wrong.NamesBy .ordinal d := namesBy_ordinal.mpr ⟨rfl, rfl⟩
  refine ⟨⟨validWeekZero, rfl, ?_⟩, valid, rfl, names, ?_⟩
  · obtain ⟨impossible, -⟩ := (resolve_date_ends validWeekZero).2 .sundayWeek rfl
    exact impossible.mp ⟨_, range⟩
  · obtain ⟨-, ends⟩ := (resolve_date_ends valid).2 .ordinal rfl
    obtain ⟨-, ⟨-, describes⟩ | reported⟩ := ends d names
    · exact absurd (describes.month 2 rfl) (by decide)
    · exact reported

end Fields

end CalendarText
