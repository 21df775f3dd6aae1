/-
Components, read back in front of other text.

What a component writes for a value is read as the numbers that the value has for the fields of
the component.  Only tokens of varying length ask something of the text behind them.

* `Component.targets`, `Component.numbers`: the fields that a component gives, and the numbers
  that it shows of a value;
* `Component.Delimited`: a token of varying length is full, or is followed by no digit;
* `Component.parse_append`: a written component is read back, and nothing behind it is touched.
-/
import CalendarText.Proofs.Fields.Quantity
import CalendarText.Proofs.Reading.Names
import CalendarText.Proofs.Text.Numeral
import CalendarText.Reading.Component
import CalendarText.Writing.Component

namespace CalendarText

open Numeral (pad scale decimal field? run? value)
open Octets (isDigit EndsNumber)

/-- A count of nanoseconds with zeros for the digits that are not shown. -/
def SubsecondDigits.shown : SubsecondDigits → Int → Int
  | exactly n, nanosecond => nanosecond - nanosecond % 10 ^ (8 - n.val)
  | oneOrMore, nanosecond => nanosecond

namespace Component

/-- The fields that a component gives. -/
def targets : Component → List Field
  | day _ => [.day]
  | month _ => [.month]
  | ordinal _ => [.ordinal]
  | weekday _ => [.weekday]
  | weekNumber o => [weekField o.rule]
  | year ⟨_, .full, iso, _⟩ => [if iso then .isoYear else .year]
  | year ⟨_, .lastTwo, iso, _⟩ => [if iso then .isoYearLastTwo else .yearLastTwo]
  | hour o => [if o.twelveHour then .hour12 else .hour24]
  | minute _ => [.minute]
  | period _ => [.hour12IsPm]
  | second _ => [.second]
  | subsecond _ => [.subsecond]
  | offsetHour _ => [.offsetHour, .offsetIsNegative]
  | offsetMinute _ => [.offsetMinute]
  | offsetSecond _ => [.offsetSecond]

/-- What a component shows of a number: all of it, if it is no fraction of a second. -/
def shown : Component → Int → Int
  | subsecond d, n => d.shown n
  | _, n => n

/-- The numbers that a component shows of the parts of a value, with their fields. -/
def numbers (parts : Parts) (c : Component) : List (Field × Int) :=
  c.targets.filterMap fun f => (parts.quantity? f).map fun n => (f, c.shown n)

/-- The most digits that the component takes, if their count varies. -/
def mostDigits? : Component → Option Nat
  | day .none | minute .none | second .none | offsetMinute .none | offsetSecond .none
  | month ⟨.none, .numerical, _⟩ | weekNumber ⟨.none, _⟩ | year ⟨.none, .lastTwo, _, _⟩
  | hour ⟨.none, _⟩ | offsetHour ⟨.none, _⟩ => some shortWidth
  | ordinal .none => some ordinalWidth
  | year ⟨.none, .full, _, _⟩ => some yearWidth
  | subsecond .oneOrMore => some 9
  | _ => none

/-- A token of varying length has all its digits, or no digit follows it. -/
def Delimited (c : Component) (text rest : Octets) : Prop :=
  ∀ most ∈ c.mostDigits?, text.countP isDigit < most → EndsNumber rest

instance (c : Component) (text rest : Octets) : Decidable (c.Delimited text rest) :=
  Option.decidableForallMem c.mostDigits?

/-! ### Padded numbers and signs -/

/-- What a delimited token asks for, as its number asks for it. -/
lemma Delimited.ends {c : Component} {lead rest : Octets} {n width : Nat} {padding : Padding}
    (plain : lead.countP isDigit = 0) (delimited : c.Delimited (lead ++ pad n width padding) rest)
    (most : padding = .none → c.mostDigits? = some width) :
    padding = .none → (decimal n).length < width → EndsNumber rest := by
  rintro rfl short
  refine delimited width (most rfl) ?_
  have digits : (decimal n).countP isDigit = (decimal n).length :=
    List.countP_eq_length.mpr fun b hb => Numeral.isDigit_of_mem_decimal hb
  rw [List.countP_append, plain, pad, digits]
  omega

/-- A padded number for one field is read back. -/
lemma readNumber_append {c : Component} {f : Field} {width m : Nat} {padding : Padding} {n : Int}
    {rest : Octets} (worth : (m : Int) = n) (pos : 1 ≤ width) (small : m < scale width)
    (delimited : c.Delimited (pad m width padding) rest)
    (most : padding = .none → c.mostDigits? = some width) :
    readNumber f width padding (pad m width padding ++ rest) = some ([(f, n)], rest) := by
  have plain : ([] : Octets).countP isDigit = 0 := rfl
  rw [readNumber, Numeral.field?_pad pos small (Delimited.ends plain delimited most), ← worth]
  rfl

/-- A padded number begins with a digit or a space, and not with a sign. -/
lemma readSign_pad (n width : Nat) (padding : Padding) (rest : Octets) :
    readSign (pad n width padding ++ rest) = (none, pad n width padding ++ rest) := by
  obtain ⟨b, run, same, h⟩ := Numeral.pad_head n width padding
  have plus : b ≠ 43 := by
    rintro rfl
    exact absurd h (by decide)
  have minus : b ≠ 45 := by
    rintro rfl
    exact absurd h (by decide)
  rw [same, List.cons_append, readSign, if_neg plus, if_neg minus]

lemma countP_signText (negative mandatory : Bool) :
    (signText negative mandatory).countP isDigit = 0 := by
  cases negative <;> cases mandatory <;> rfl

/-- A number is read back with the sign in front of it. -/
lemma readSigned_append (negative mandatory : Bool) {n width : Nat} {padding : Padding}
    {rest : Octets} (pos : 1 ≤ width) (small : n < scale width)
    (ends : padding = .none → (decimal n).length < width → EndsNumber rest) :
    readSigned width padding mandatory
        (signText negative mandatory ++ pad n width padding ++ rest) =
      some (if negative then some .minus else if mandatory then some .plus else none, n, rest) := by
  have number := Numeral.field?_pad pos small ends
  rw [List.append_assoc]
  cases negative with
  | true =>
      show (field? width (pad n width padding ++ rest) padding).map _ = _
      rw [number]
      rfl
  | false =>
      cases mandatory with
      | true =>
          show (field? width (pad n width padding ++ rest) padding).map _ = _
          rw [number]
          rfl
      | false =>
          -- no sign is written, and what a number begins with is not taken for one
          have sign : readSign (signText false false ++ (pad n width padding ++ rest)) =
              (none, pad n width padding ++ rest) := readSign_pad n width padding rest
          rw [readSigned, sign]
          show (field? width (pad n width padding ++ rest) padding).map _ = _
          rw [number]
          rfl

/-! ### Fractions -/

/-- What is cut off at the end of a run are zeros. -/
lemma eq_dropTrailingZeros_append (run : Octets) :
    ∃ k, run = dropTrailingZeros run ++ List.replicate k 48 := by
  have zeros : run.reverse.takeWhile (· == 48) =
      List.replicate (run.reverse.takeWhile (· == 48)).length 48 := by
    refine List.eq_replicate_iff.mpr ⟨rfl, fun b hb => ?_⟩
    simpa using List.all_eq_true.mp List.all_takeWhile b hb
  have split := List.takeWhile_append_dropWhile (p := (· == (48 : UInt8))) (l := run.reverse)
  refine ⟨(run.reverse.takeWhile (· == 48)).length, ?_⟩
  rw [dropTrailingZeros, ← List.reverse_inj, List.reverse_append, List.reverse_reverse,
    List.reverse_replicate, ← zeros, split]

/-- The digits of a fraction are taken with zeros in the place of those that are not there. -/
lemma readSubsecond_of_run (d : SubsecondDigits) {data run rest : Octets} {m n : Nat}
    (read : run? (d.count?.getD 1) (d.count?.getD 9) data = some (run, rest))
    (nine : run.length + m = 9) (worth : value run * scale m = n) :
    readSubsecond d data = some ([(.subsecond, (n : Int))], rest) := by
  have missing : 9 - run.length = m := by omega
  have unfolded : readSubsecond d data =
      (run? (d.count?.getD 1) (d.count?.getD 9) data).map fun read =>
        ([(Field.subsecond, ((value read.1 * scale (9 - read.1.length) : Nat) : Int))],
          read.2) := by
    cases d <;> rfl
  rw [unfolded, read]
  show some ([(Field.subsecond, ((value run * scale (9 - run.length) : Nat) : Int))], rest) = _
  rw [missing, worth]

/-- A fixed count of digits is read back, with zeros for the other ones. -/
lemma readSubsecond_exactly {n : Fin 9} {nanosecond : Nat} (small : nanosecond < scale 9)
    (rest : Octets) :
    readSubsecond (.exactly n) ((pad nanosecond 9 .zero).take (n.val + 1) ++ rest) =
      some ([(.subsecond, (SubsecondDigits.exactly n).shown nanosecond)], rest) := by
  obtain ⟨length, digits, worth⟩ := Numeral.pad_zero (by decide : 1 ≤ 9) small
  have taken : ((pad nanosecond 9 .zero).take (n.val + 1)).length = n.val + 1 := by
    rw [List.length_take]
    omega
  have read : run? (n.val + 1) (n.val + 1) ((pad nanosecond 9 .zero).take (n.val + 1) ++ rest) =
      some ((pad nanosecond 9 .zero).take (n.val + 1), rest) :=
    Numeral.run?_append (fun b hb => digits b (List.mem_of_mem_take hb)) (by omega) (by omega)
      (by omega)
  -- cutting digits off at the end is dropping what is left below their place
  have truncated : value ((pad nanosecond 9 .zero).take (n.val + 1)) * scale (8 - n.val) =
      nanosecond - nanosecond % 10 ^ (8 - n.val) := by
    rw [Numeral.value_take digits (by omega), worth]
  rw [readSubsecond_of_run (.exactly n) read (by omega) truncated, SubsecondDigits.shown,
    Int.natCast_sub (Nat.mod_le _ _), Int.natCast_emod, Int.natCast_pow]
  rfl

/-- The digits that are needed stand for the whole count: what is left out of the nine digits is
zero. -/
lemma writeSubsecond_oneOrMore {nanosecond : Nat} (small : nanosecond < scale 9) :
    ∃ run m, writeSubsecond .oneOrMore nanosecond = run ∧ run ≠ [] ∧
      (∀ b ∈ run, isDigit b = true) ∧ run.length + m = 9 ∧ value run * scale m = nanosecond := by
  obtain ⟨length, digits, worth⟩ := Numeral.pad_zero (by decide : 1 ≤ 9) small
  obtain ⟨k, zeros⟩ := eq_dropTrailingZeros_append (pad nanosecond 9 .zero)
  have written : writeSubsecond .oneOrMore nanosecond =
      if dropTrailingZeros (pad nanosecond 9 .zero) = [] then [48]
      else dropTrailingZeros (pad nanosecond 9 .zero) := rfl
  generalize dropTrailingZeros (pad nanosecond 9 .zero) = run at zeros written
  rw [zeros] at length digits worth
  rw [Numeral.value_append, Numeral.value_zeros, List.length_replicate, Nat.add_zero] at worth
  -- of no nanoseconds all digits are dropped, and a single zero is written for them
  by_cases empty : run = []
  · subst empty
    have none : nanosecond = 0 := by simpa [value] using worth.symm
    have digit : ∀ b ∈ ([48] : Octets), isDigit b = true := by simp [isDigit]
    exact ⟨[48], 8, written, by simp, digit, rfl, by rw [none]; rfl⟩
  · rw [if_neg empty] at written
    refine ⟨run, k, written, empty, fun b hb => digits b (by simp [hb]), ?_, worth⟩
    simpa using length

/-- As many digits as are needed are read back in full. -/
lemma readSubsecond_oneOrMore {nanosecond : Nat} (small : nanosecond < scale 9) {rest : Octets}
    (delimited : (subsecond .oneOrMore).Delimited (writeSubsecond .oneOrMore nanosecond) rest) :
    readSubsecond .oneOrMore (writeSubsecond .oneOrMore nanosecond ++ rest) =
      some ([(.subsecond, (nanosecond : Int))], rest) := by
  obtain ⟨run, m, same, nonempty, digits, nine, worth⟩ := writeSubsecond_oneOrMore small
  rw [same] at delimited ⊢
  have count : run.countP isDigit = run.length := List.countP_eq_length.mpr digits
  have read : run? 1 9 (run ++ rest) = some (run, rest) := by
    refine Numeral.run?_append digits (List.length_pos_iff.mpr nonempty) (by omega) fun short => ?_
    exact delimited 9 rfl (by omega)
  exact readSubsecond_of_run .oneOrMore read nine worth

/-- A fraction is read back as far as it is shown. -/
lemma readSubsecond_append {d : SubsecondDigits} {nanosecond : Int} {rest : Octets}
    (mem : 0 ≤ nanosecond ∧ nanosecond ≤ 999999999)
    (delimited : (subsecond d).Delimited (writeSubsecond d nanosecond) rest) :
    readSubsecond d (writeSubsecond d nanosecond ++ rest) =
      some ([(.subsecond, d.shown nanosecond)], rest) := by
  obtain ⟨nanosecond, rfl⟩ := Int.eq_ofNat_of_zero_le mem.1
  have small : nanosecond < scale 9 := by
    rw [Numeral.scale_eq_pow]
    omega
  cases d with
  | exactly n => exact readSubsecond_exactly small rest
  | oneOrMore => exact readSubsecond_oneOrMore small delimited

/-! ### Months, weekdays, years and hours of offsets -/

lemma readMonth_append {o : MonthOptions} {m : Month} {rest : Octets}
    (delimited : (month o).Delimited (writeMonth o m) rest) :
    readMonth o (writeMonth o m ++ rest) = some ([(.month, m.number)], rest) := by
  have bounds := m.number_bounds
  have index : ((m.number - 1).toNat : Int) + 1 = m.number := by omega
  obtain ⟨padding, form, caseSensitive⟩ := o
  cases form with
  | numerical =>
      have plain : ([] : Octets).countP isDigit = 0 := rfl
      have small : m.number.toNat < scale shortWidth := by
        have : scale shortWidth = 100 := rfl
        omega
      have read : field? shortWidth (pad m.number.toNat shortWidth padding ++ rest) padding =
          some (m.number.toNat, rest) :=
        Numeral.field?_pad (by decide) small (Delimited.ends plain delimited (by rintro rfl; rfl))
      simp only [readMonth, writeMonth, read]
      rw [if_pos (by omega), Int.toNat_of_nonneg (by omega)]
  | long => simp only [readMonth, writeMonth, Month.firstMatch_name, Option.map_some, index]
  | short => simp only [readMonth, writeMonth, Month.firstMatch_shortName, Option.map_some, index]

/-- A weekday is read back.  Its digit is a single one, so it asks nothing of what follows. -/
lemma readWeekday_append (o : WeekdayOptions) (w : Weekday) (rest : Octets) :
    readWeekday o (writeWeekday o w ++ rest) = some ([(.weekday, w.index)], rest) := by
  obtain ⟨lo, hi⟩ := w.index_bounds
  have index : (w.index.toNat : Int) = w.index := by omega
  have sunday : w.indexFromSunday = (w.index + 1) % 7 := rfl
  obtain ⟨form, oneIndexed, caseSensitive⟩ := o
  -- one digit in either numbering, so nothing behind it can be taken for a second one
  have digit {k : Int} (mem : 0 ≤ k ∧ k ≤ 6) :
      field? 1 (decimal (k + if oneIndexed then 1 else 0).toNat ++ rest) .none =
        some ((k + if oneIndexed then 1 else 0).toNat, rest) := by
    show field? 1 (pad (k + if oneIndexed then 1 else 0).toNat 1 .none ++ rest) .none = _
    refine Numeral.field?_pad (by decide) ?_ fun _ short => ?_
    · have : scale 1 = 10 := rfl
      split <;> omega
    · have := List.length_pos_iff.mpr
        (Numeral.decimal_ne_nil (k + if oneIndexed then 1 else 0).toNat)
      omega
  have counted {k : Int} (mem : 0 ≤ k ∧ k ≤ 6) :
      (if oneIndexed then ((k + if oneIndexed then 1 else 0).toNat : Int) - 1
        else ((k + if oneIndexed then 1 else 0).toNat : Int)) = k := by
    cases oneIndexed
    · simp only [Bool.false_eq_true, if_false]
      omega
    · simp only [if_true]
      omega
  cases form with
  | long => simp only [readWeekday, writeWeekday, Weekday.firstMatch_name, Option.map_some, index]
  | short =>
      simp only [readWeekday, writeWeekday, Weekday.firstMatch_shortName, Option.map_some, index]
  | sunday =>
      have mem : 0 ≤ w.indexFromSunday ∧ w.indexFromSunday ≤ 6 := by omega
      have monday : (w.indexFromSunday - 1) % 7 = w.index := by omega
      simp only [readWeekday, writeWeekday, digit mem, counted mem, if_pos mem, monday]
  | monday =>
      have mem : 0 ≤ w.index ∧ w.index ≤ 6 := ⟨lo, hi⟩
      simp only [readWeekday, writeWeekday, digit mem, counted mem, if_pos mem]

/-- The sign that was written is applied again. -/
lemma apply_sign (negative mandatory : Bool) (n : Nat) :
    Sign.apply (if negative then some .minus else if mandatory then some .plus else none) n =
      if negative then -(n : Int) else n := by
  cases negative <;> cases mandatory <;> rfl

/-- A full year is read back with its sign. -/
lemma readYear_full {padding : Padding} {isoWeekBased mandatory : Bool} {y : Int}
    (mem : Year.first ≤ y ∧ y ≤ Year.last) {rest : Octets}
    (delimited : (year ⟨padding, .full, isoWeekBased, mandatory⟩).Delimited
      (writeYear ⟨padding, .full, isoWeekBased, mandatory⟩ y) rest) :
    readYear ⟨padding, .full, isoWeekBased, mandatory⟩
        (writeYear ⟨padding, .full, isoWeekBased, mandatory⟩ y ++ rest) =
      some ([(if isoWeekBased then .isoYear else .year, y)], rest) := by
  have small : y.natAbs < scale yearWidth := by
    have : scale yearWidth = 10000 := rfl
    simp only [Year.first, Year.last] at mem
    omega
  have ends := Delimited.ends (countP_signText (y < 0) mandatory) delimited (by rintro rfl; rfl)
  have read := readSigned_append (y < 0) mandatory (by decide) small ends
  have signed : (if decide (y < 0) then -(y.natAbs : Int) else y.natAbs) = y := by
    by_cases negative : y < 0
    · rw [if_pos (by simpa using negative)]
      omega
    · rw [if_neg (by simpa using negative)]
      omega
  simp only [readYear, writeYear, read, Option.map_some, apply_sign, signed]

/-- The last two digits of a year are read back. -/
lemma readYear_lastTwo {padding : Padding} {isoWeekBased mandatory : Bool} {y : Int}
    {rest : Octets}
    (delimited : (year ⟨padding, .lastTwo, isoWeekBased, mandatory⟩).Delimited
      (writeYear ⟨padding, .lastTwo, isoWeekBased, mandatory⟩ y) rest) :
    readYear ⟨padding, .lastTwo, isoWeekBased, mandatory⟩
        (writeYear ⟨padding, .lastTwo, isoWeekBased, mandatory⟩ y ++ rest) =
      some ([(if isoWeekBased then .isoYearLastTwo else .yearLastTwo, Year.lastTwo y)], rest) := by
  obtain ⟨nonneg, small⟩ := Year.lastTwo_mem y
  have fits : (Year.lastTwo y).toNat < scale shortWidth := by
    have : scale shortWidth = 100 := rfl
    omega
  exact readNumber_append (Int.toNat_of_nonneg nonneg) (by decide) fits delimited
    (by rintro rfl; rfl)

/-- The hours of an offset are read back with the sign of the whole offset. -/
lemma readOffsetHour_append {o : OffsetHourOptions} {offset : UtcOffset} {rest : Octets}
    (delimited : (offsetHour o).Delimited (writeOffsetHour o offset) rest) :
    readOffsetHour o (writeOffsetHour o offset ++ rest) =
      some ([(.offsetHour, offset.hours), (.offsetIsNegative, if offset.isNegative then 1 else 0)],
        rest) := by
  have mem := offset.hours_mem
  have small : offset.hours.natAbs < scale shortWidth := by
    have : scale shortWidth = 100 := rfl
    omega
  obtain ⟨padding, mandatory⟩ := o
  have ends := Delimited.ends (countP_signText offset.isNegative mandatory) delimited
    (by rintro rfl; rfl)
  have read := readSigned_append offset.isNegative mandatory (by decide) small ends
  -- the sign is written whenever the offset is negative, also in front of a zero
  have flag : (if (if offset.isNegative then some Sign.minus
      else if mandatory then some Sign.plus else none) = some Sign.minus then (1 : Int) else 0) =
        if offset.isNegative then 1 else 0 := by
    cases offset.isNegative <;> cases mandatory <;> rfl
  simp only [readOffsetHour, writeOffsetHour, read, Option.map_some, apply_sign,
    offset.signed_hours, flag]

/-! ### All components -/

/-- A component shows a number for its own fields only, and one number for each of them. -/
lemma mem_numbers_iff {parts : Parts} {c : Component} {f : Field} {n : Int} :
    (f, n) ∈ c.numbers parts ↔ f ∈ c.targets ∧ (parts.quantity? f).map c.shown = some n := by
  rw [numbers, List.mem_filterMap]
  constructor
  · rintro ⟨g, target, shows⟩
    obtain ⟨m, known, same⟩ := Option.map_eq_some_iff.mp shows
    cases same
    exact ⟨target, Option.map_eq_some_iff.mpr ⟨m, known, rfl⟩⟩
  · rintro ⟨target, shows⟩
    obtain ⟨m, known, rfl⟩ := Option.map_eq_some_iff.mp shows
    exact ⟨f, target, Option.map_eq_some_iff.mpr ⟨m, known, rfl⟩⟩

/-- A component for one field shows what belongs into it. -/
lemma numbers_single {parts : Parts} {c : Component} {f : Field} {n : Int}
    (one : c.targets = [f]) (known : parts.quantity? f = some n) :
    c.numbers parts = [(f, c.shown n)] := by
  simp [numbers, one, known]

/-- A padded number is read back as the number that its component shows, if the field of the
component holds no number that is wider. -/
lemma readNumber_numbers {parts : Parts} {c : Component} {f : Field} {width m : Nat}
    {padding : Padding} {n : Int} {rest : Octets} (known : parts.quantity? f = some n)
    (worth : (m : Int) = n) (one : c.targets = [f]) (whole : c.shown n = n) (pos : 1 ≤ width)
    (fits : f.greatest < scale width) (delimited : c.Delimited (pad m width padding) rest)
    (most : padding = .none → c.mostDigits? = some width) :
    readNumber f width padding (pad m width padding ++ rest) =
      some (c.numbers parts, rest) := by
  have upto := ((Field.admits_iff f n).mp (Parts.admits_of_quantity? known)).2
  rw [numbers_single one known, whole]
  exact readNumber_append worth pos (by omega) delimited most

/-- A component is read back as the numbers that it shows. -/
lemma read?_append {parts : Parts} {c : Component} {text rest : Octets}
    (written : c.write? parts = some text) (delimited : c.Delimited text rest) :
    c.read? (text ++ rest) = some (c.numbers parts, rest) := by
  cases c with
  | day padding =>
      obtain ⟨d, date, rfl⟩ := Option.map_eq_some_iff.mp written
      have known : parts.quantity? .day = some d.day := by rw [Parts.quantity?, date]; rfl
      have worth : (d.day.toNat : Int) = d.day := Int.toNat_of_nonneg (by have := d.day_mem; omega)
      exact readNumber_numbers known worth rfl rfl (by decide) (by decide) delimited
        (by rintro rfl; rfl)
  | month o =>
      obtain ⟨d, date, rfl⟩ := Option.map_eq_some_iff.mp written
      have known : parts.quantity? .month = some d.month.number := by
        rw [Parts.quantity?, date]; rfl
      rw [numbers_single rfl known]
      exact readMonth_append delimited
  | ordinal padding =>
      obtain ⟨d, date, rfl⟩ := Option.map_eq_some_iff.mp written
      have known : parts.quantity? .ordinal = some d.ordinal := by rw [Parts.quantity?, date]; rfl
      have worth : (d.ordinal.toNat : Int) = d.ordinal :=
        Int.toNat_of_nonneg (by have := d.ordinal_mem; omega)
      exact readNumber_numbers known worth rfl rfl (by decide) (by decide) delimited
        (by rintro rfl; rfl)
  | weekday o =>
      obtain ⟨d, date, rfl⟩ := Option.map_eq_some_iff.mp written
      have known : parts.quantity? .weekday = some d.weekday.index := by
        rw [Parts.quantity?, date]; rfl
      rw [numbers_single rfl known]
      exact readWeekday_append o d.weekday rest
  -- the rule says which field and which count belong together
  | weekNumber o =>
      obtain ⟨d, date, rfl⟩ := Option.map_eq_some_iff.mp written
      obtain ⟨padding, rule⟩ := o
      have known : parts.quantity? (weekField rule) = some (weekOf rule d) := by
        cases rule <;> rw [weekField, Parts.quantity?, date] <;> rfl
      have nonneg : 0 ≤ weekOf rule d := by
        have iso := d.isoWeek_mem
        have sunday := d.sundayWeek_mem
        have monday := d.mondayWeek_mem
        cases rule <;> rw [weekOf] <;> omega
      have fits : (weekField rule).greatest < scale shortWidth := by cases rule <;> decide
      exact readNumber_numbers known (Int.toNat_of_nonneg nonneg) rfl rfl (by decide) fits delimited
        (by rintro rfl; rfl)
  -- four choices, in which the field and the number change together
  | year o =>
      obtain ⟨d, date, rfl⟩ := Option.map_eq_some_iff.mp written
      obtain ⟨padding, form, isoWeekBased, mandatory⟩ := o
      have mem : Year.first ≤ (if isoWeekBased then d.isoYear else d.year) ∧
          (if isoWeekBased then d.isoYear else d.year) ≤ Year.last := by
        cases isoWeekBased
        · exact d.year_mem
        · exact d.isoYear_mem
      cases form with
      | full =>
          have known : parts.quantity? (if isoWeekBased then .isoYear else .year) =
              some (if isoWeekBased then d.isoYear else d.year) := by
            cases isoWeekBased <;> simp [Parts.quantity?, date]
          rw [numbers_single rfl known]
          exact readYear_full mem delimited
      | lastTwo =>
          have known : parts.quantity? (if isoWeekBased then .isoYearLastTwo else .yearLastTwo) =
              some (Year.lastTwo (if isoWeekBased then d.isoYear else d.year)) := by
            cases isoWeekBased <;> simp [Parts.quantity?, date]
          rw [numbers_single rfl known]
          exact readYear_lastTwo delimited
  | hour o =>
      obtain ⟨t, time, rfl⟩ := Option.map_eq_some_iff.mp written
      obtain ⟨padding, twelveHour⟩ := o
      have known : parts.quantity? (if twelveHour then .hour12 else .hour24) =
          some (if twelveHour then t.hour12 else t.hour) := by
        cases twelveHour <;> simp [Parts.quantity?, time]
      have nonneg : 0 ≤ if twelveHour then t.hour12 else t.hour := by
        have hour := t.hour_mem
        have hour12 := t.hour12_mem
        split <;> omega
      have fits : (if twelveHour then Field.hour12 else .hour24).greatest < scale shortWidth := by
        cases twelveHour <;> decide
      exact readNumber_numbers known (Int.toNat_of_nonneg nonneg) rfl rfl (by decide) fits delimited
        (by rintro rfl; rfl)
  | minute padding =>
      obtain ⟨t, time, rfl⟩ := Option.map_eq_some_iff.mp written
      have known : parts.quantity? .minute = some t.minute := by rw [Parts.quantity?, time]; rfl
      have worth : (t.minute.toNat : Int) = t.minute := Int.toNat_of_nonneg t.minute_mem.1
      exact readNumber_numbers known worth rfl rfl (by decide) (by decide) delimited
        (by rintro rfl; rfl)
  | period o =>
      obtain ⟨t, time, rfl⟩ := Option.map_eq_some_iff.mp written
      have known : parts.quantity? .hour12IsPm = some (if t.isPm then 1 else 0) := by
        rw [Parts.quantity?, time]; rfl
      rw [numbers_single rfl known, read?]
      simp only [readPeriod, firstMatch_periodName, Option.map_some]
      cases t.isPm <;> rfl
  | second padding =>
      obtain ⟨t, time, rfl⟩ := Option.map_eq_some_iff.mp written
      have known : parts.quantity? .second = some t.second := by rw [Parts.quantity?, time]; rfl
      have worth : (t.second.toNat : Int) = t.second := Int.toNat_of_nonneg t.second_mem.1
      exact readNumber_numbers known worth rfl rfl (by decide) (by decide) delimited
        (by rintro rfl; rfl)
  | subsecond d =>
      obtain ⟨t, time, rfl⟩ := Option.map_eq_some_iff.mp written
      have known : parts.quantity? .subsecond = some t.nanosecond := by
        rw [Parts.quantity?, time]; rfl
      rw [numbers_single rfl known]
      exact readSubsecond_append t.nanosecond_mem delimited
  | offsetHour o =>
      obtain ⟨f, offset, rfl⟩ := Option.map_eq_some_iff.mp written
      have shows : (offsetHour o).numbers parts = [(.offsetHour, f.hours),
          (.offsetIsNegative, if f.isNegative then 1 else 0)] := by
        simp [numbers, targets, Parts.quantity?, offset, shown]
      rw [shows]
      exact readOffsetHour_append delimited
  | offsetMinute padding =>
      obtain ⟨f, offset, rfl⟩ := Option.map_eq_some_iff.mp written
      have known : parts.quantity? .offsetMinute = some (f.minutes.natAbs : Int) := by
        rw [Parts.quantity?, offset]; rfl
      exact readNumber_numbers known rfl rfl rfl (by decide) (by decide) delimited
        (by rintro rfl; rfl)
  | offsetSecond padding =>
      obtain ⟨f, offset, rfl⟩ := Option.map_eq_some_iff.mp written
      have known : parts.quantity? .offsetSecond = some (f.seconds.natAbs : Int) := by
        rw [Parts.quantity?, offset]; rfl
      exact readNumber_numbers known rfl rfl rfl (by decide) (by decide) delimited
        (by rintro rfl; rfl)

/-- A fraction that is not shown in full is within the bounds of its field. -/
lemma admits_shown {c : Component} {f : Field} {n : Int} (target : f ∈ c.targets)
    (ok : f.admits n = true) : f.admits (c.shown n) = true := by
  cases c with
  | subsecond d =>
      obtain rfl : f = .subsecond := List.mem_singleton.mp target
      cases d with
      | oneOrMore => exact ok
      | exactly k =>
          rw [Field.admits_iff] at ok ⊢
          have pos : (0 : Int) < 10 ^ (8 - k.val) := Int.pow_pos (by decide)
          have lo := Int.emod_nonneg n (Int.ne_of_gt pos)
          have quotient := Int.mul_nonneg (Int.le_of_lt pos)
            (Int.ediv_nonneg ok.1 (Int.le_of_lt pos))
          have split := Int.emod_add_mul_ediv n (10 ^ (8 - k.val))
          simp only [shown, SubsecondDigits.shown, Field.least, Field.greatest] at ok ⊢
          omega
  | _ => exact ok

/-- A component is read back, and its fields can hold what it shows. -/
lemma parse_append {parts : Parts} {c : Component} {text rest : Octets}
    (written : c.write? parts = some text) (delimited : c.Delimited text rest) :
    c.parse (text ++ rest) = .ok (c.numbers parts, rest) := by
  have held : (c.numbers parts).all (fun x => x.1.admits x.2) = true := by
    rw [List.all_eq_true]
    rintro ⟨f, n⟩ mem
    obtain ⟨target, shows⟩ := mem_numbers_iff.mp mem
    obtain ⟨m, known, rfl⟩ := Option.map_eq_some_iff.mp shows
    exact admits_shown target (Parts.admits_of_quantity? known)
  rw [parse, read?_append written delimited]
  exact if_pos held

end Component

/-- The fields that a leaf gives: literal text gives none. -/
def Leaf.targets : Leaf → List Field
  | literal _ => []
  | component c => c.targets

end CalendarText
