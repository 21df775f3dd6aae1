/-
Which texts numbers are read from.

A number is read from the field at the front of a text, and a field is told by its padding: digits
that fill it, spaces and digits that fill it together, or as many digits as there are.  A fraction
of a second is read from its digits, of which there is a fixed count or as many as there are.
Nothing else is read, and a field is read from any text that begins with one, unless it holds more
digits than one conversion takes.

* `Numeral.worth`, `Numeral.value_eq_worth`: what digits are worth in the decimal system;
* `Numeral.FieldDigits`, `Numeral.paddedRun?_eq_some_iff`: the field at the front of a text;
* `Numeral.readPadded_eq_some_iff`, `Numeral.readPadded_eq_none_iff`,
  `Numeral.readPadded_eq_error_iff`: the three ways in which reading a number ends;
* `Component.FractionRun`, `Component.readSubsecond_eq_some_iff`: the digits of a fraction at the
  front of a text;
* `numbers_read_exactly`: all of this together;
* `Numeral.readPadded_tooLong`: a field that is too wide for one conversion.
-/
import CalendarText.Proofs.Reading.Token
import Mathlib.Data.List.TakeWhile
import Mathlib.Data.Nat.Digits.Defs

namespace CalendarText

open Octets (isDigit EndsNumber)

namespace Numeral

variable {width : Nat} {padding : Padding} {data rest field digits : Octets}

/-- What digits are worth in the decimal system, the last one being that of the units. -/
def worth (digits : Octets) : Nat :=
  Nat.ofDigits 10 (digits.map fun b => b.toNat - 48).reverse

/-- Reading digits one after the other gives what they are worth. -/
lemma value_eq_worth (digits : Octets) : value digits = worth digits := by
  rw [worth, Nat.ofDigits_eq_foldr, List.foldr_reverse, List.foldl_map, value]
  congr 1
  funext n b
  exact Nat.add_comm _ _

/-! ### Fields -/

/-- A field at the front of a text, with the digits in it, by the text that follows it. -/
inductive FieldDigits (width : Nat) (rest : Octets) : Padding → (field digits : Octets) → Prop
  /-- the digits fill the field -/
  | zero {digits : Octets} : (∀ b ∈ digits, isDigit b = true) → digits.length = width →
    FieldDigits width rest .zero digits digits
  /-- spaces and digits fill the field, which is not all spaces -/
  | space {k : Nat} {digits : Octets} : (∀ b ∈ digits, isDigit b = true) → k ≤ width - 1 →
    digits.length = width - k →
    FieldDigits width rest .space (List.replicate k 32 ++ digits) digits
  /-- there are as many digits as possible, and at least one -/
  | none {digits : Octets} : (∀ b ∈ digits, isDigit b = true) → 1 ≤ digits.length →
    digits.length ≤ width → (digits.length < width → EndsNumber rest) →
    FieldDigits width rest .none digits digits

lemma FieldDigits.isDigit (h : FieldDigits width rest padding field digits) :
    ∀ b ∈ digits, isDigit b = true := by
  cases h with
  | zero all _ => exact all
  | space all _ _ => exact all
  | none all _ _ _ => exact all

/-- There is a digit in a field, and no more of them than the field is wide. -/
lemma FieldDigits.length_mem (pos : 1 ≤ width) (h : FieldDigits width rest padding field digits) :
    1 ≤ digits.length ∧ digits.length ≤ width := by
  cases h with
  | zero _ length => omega
  | space _ few length => omega
  | none _ least most _ => exact ⟨least, most⟩

/-- The spaces that are counted at the front of a text stand there. -/
lemma take_spaces (limit : Nat) (data : Octets) :
    data.take ((data.take limit).takeWhile (· == 32)).length =
      List.replicate ((data.take limit).takeWhile (· == 32)).length 32 := by
  have front : (data.take limit).takeWhile (· == 32) <+: data :=
    (List.takeWhile_prefix _).trans (List.take_prefix _ _)
  rw [← List.prefix_iff_eq_take.mp front, List.eq_replicate_iff]
  refine ⟨rfl, fun b mem => ?_⟩
  simpa using List.mem_takeWhile_imp mem

/-- The digits in a field are found exactly where a text begins with that field. -/
lemma paddedRun?_eq_some_iff (pos : 1 ≤ width) :
    paddedRun? width data padding = some (digits, rest) ↔
      ∃ field, data = field ++ rest ∧ FieldDigits width rest padding field digits := by
  cases padding with
  | none =>
      rw [paddedRun?, run?_eq_some_iff]
      constructor
      · rintro ⟨parts, all, least, most, ends⟩
        exact ⟨digits, parts, .none all least most ends⟩
      · rintro ⟨field, parts, h⟩
        cases h with
        | none all least most ends => exact ⟨parts, all, least, most, ends⟩
  | zero =>
      rw [paddedRun?, run?_eq_some_iff]
      constructor
      · rintro ⟨parts, all, least, most, -⟩
        exact ⟨digits, parts, .zero all (by omega)⟩
      · rintro ⟨field, parts, h⟩
        cases h with
        | zero all length => exact ⟨parts, all, by omega, by omega, by omega⟩
  | space =>
      constructor
      · intro found
        rw [paddedRun?, run?_eq_some_iff] at found
        obtain ⟨behind, all, least, most, -⟩ := found
        have spaces := take_spaces (width - 1) data
        -- the last place of the field is never counted as a space, so a digit has room there
        have few : ((data.take (width - 1)).takeWhile (· == 32)).length ≤ width - 1 :=
          (List.takeWhile_sublist _).length_le.trans (List.length_take_le _ _)
        refine ⟨_, ?_, .space all few (by omega)⟩
        rw [← spaces, List.append_assoc, ← behind, List.take_append_drop]
      · rintro ⟨field, rfl, h⟩
        cases h with
        | @space k _ all few length =>
            -- behind its spaces the field goes on with a digit, so no more of them are counted
            have stop : (digits ++ rest).head? ≠ some 32 := by
              obtain ⟨b, others, rfl⟩ :=
                List.exists_cons_of_length_pos (by omega : 0 < digits.length)
              intro first
              obtain rfl : b = 32 := by simpa using first
              exact absurd (all 32 (by simp)) (by decide)
            rw [paddedRun?, List.append_assoc, length_takeWhile_spaces stop few,
              List.drop_left' (by simp)]
            exact run?_append all (by omega) (by omega) (by omega)

/-! ### The three ends of reading a number -/

/-- The digits in a field are converted, unless there are too many of them. -/
lemma convert_of_fieldDigits (pos : 1 ≤ width)
    (h : FieldDigits width rest padding field digits) :
    convert digits = if digits.length ≤ longest then .ok (worth digits)
      else .error (.tooLong digits.length) := by
  have nonempty : digits ≠ [] := List.ne_nil_of_length_pos (h.length_mem pos).1
  split
  · rename_i short
    rw [convert_eq_ok nonempty short, value_eq_worth]
  · rename_i long
    rw [convert, if_neg nonempty, if_pos (Nat.not_le.mp long)]

/-- What is read from a text that begins with a field. -/
lemma readPadded_of_fieldDigits (pos : 1 ≤ width)
    (h : FieldDigits width rest padding field digits) :
    readPadded width (field ++ rest) padding =
      if digits.length ≤ longest then .ok (some (worth digits, rest))
      else .error (.tooLong digits.length) := by
  have found : paddedRun? width (field ++ rest) padding = some (digits, rest) :=
    (paddedRun?_eq_some_iff pos).mpr ⟨field, rfl, h⟩
  rw [readPadded, found, converted, convert_of_fieldDigits pos h]
  split <;> rfl

/-- No number is read from a text that begins with no field. -/
lemma readPadded_eq_none_iff (pos : 1 ≤ width) :
    readPadded width data padding = .ok none ↔
      ∀ field digits rest, FieldDigits width rest padding field digits → data ≠ field ++ rest := by
  constructor
  · rintro missing field digits rest h rfl
    rw [readPadded_of_fieldDigits pos h] at missing
    split at missing <;> cases missing
  · intro missing
    have unfound : paddedRun? width data padding = none := by
      refine Option.eq_none_iff_forall_ne_some.mpr ?_
      rintro ⟨digits, rest⟩ found
      obtain ⟨field, parts, h⟩ := (paddedRun?_eq_some_iff pos).mp found
      exact missing field digits rest h parts
    rw [readPadded, unfound, converted]

/-- A text begins with a field, or nothing is read from it. -/
lemma exists_fieldDigits (pos : 1 ≤ width) (found : readPadded width data padding ≠ .ok none) :
    ∃ field digits rest, data = field ++ rest ∧ FieldDigits width rest padding field digits := by
  refine Classical.byContradiction fun missing => found ((readPadded_eq_none_iff pos).mpr ?_)
  intro field digits rest h parts
  exact missing ⟨field, digits, rest, parts, h⟩

/-- A number is read from a field that does not hold too many digits. -/
lemma readPadded_eq_some_iff (pos : 1 ≤ width) {n : Nat} :
    readPadded width data padding = .ok (some (n, rest)) ↔
      ∃ field digits, data = field ++ rest ∧ FieldDigits width rest padding field digits ∧
        digits.length ≤ longest ∧ n = worth digits := by
  constructor
  · intro read
    obtain ⟨field, digits, left, rfl, h⟩ := exists_fieldDigits pos (by rw [read]; nofun)
    rw [readPadded_of_fieldDigits pos h] at read
    split at read
    · rename_i short
      cases read
      exact ⟨field, digits, rfl, h, short, rfl⟩
    · cases read
  · rintro ⟨field, digits, rfl, h, short, rfl⟩
    rw [readPadded_of_fieldDigits pos h, if_pos short]

/-- The only failure is that of a field with more digits than one conversion takes. -/
lemma readPadded_eq_error_iff (pos : 1 ≤ width) {e : NumeralError} :
    readPadded width data padding = .error e ↔
      ∃ field digits rest, data = field ++ rest ∧ FieldDigits width rest padding field digits ∧
        longest < digits.length ∧ e = .tooLong digits.length := by
  constructor
  · intro failed
    obtain ⟨field, digits, rest, rfl, h⟩ := exists_fieldDigits pos (by rw [failed]; nofun)
    rw [readPadded_of_fieldDigits pos h] at failed
    split at failed
    · cases failed
    · rename_i long
      cases failed
      exact ⟨field, digits, rest, rfl, h, Nat.not_le.mp long, rfl⟩
  · rintro ⟨field, digits, rest, rfl, h, long, rfl⟩
    rw [readPadded_of_fieldDigits pos h, if_neg (Nat.not_le.mpr long)]

/-- A number in a field is below ten to the width of the field. -/
lemma FieldDigits.worth_lt (pos : 1 ≤ width) (h : FieldDigits width rest padding field digits) :
    worth digits < 10 ^ width := by
  calc worth digits = value digits := (value_eq_worth digits).symm
    _ < scale digits.length := value_lt h.isDigit
    _ = 10 ^ digits.length := scale_eq_pow _
    _ ≤ 10 ^ width := Nat.pow_le_pow_right (by decide) (h.length_mem pos).2

end Numeral

/-! ### Fractions -/

namespace Component

open Numeral (run? run?_eq_some_iff scale value value_lt worth value_eq_worth scale_eq_pow)

/-- The digits of a fraction at the front of a text, by the text that follows them. -/
inductive FractionRun (rest : Octets) : SubsecondDigits → (run : Octets) → Prop
  | exactly {n : Fin 9} {run : Octets} : (∀ b ∈ run, isDigit b = true) →
    run.length = n.val + 1 → FractionRun rest (.exactly n) run
  | oneOrMore {run : Octets} : (∀ b ∈ run, isDigit b = true) → 1 ≤ run.length →
    run.length ≤ 9 → (run.length < 9 → EndsNumber rest) → FractionRun rest .oneOrMore run

variable {d : SubsecondDigits} {data rest run : Octets} {numbers : List (Field × Int)}

lemma FractionRun.isDigit (h : FractionRun rest d run) : ∀ b ∈ run, isDigit b = true := by
  cases h with
  | exactly all _ => exact all
  | oneOrMore all _ _ _ => exact all

lemma FractionRun.length_le (h : FractionRun rest d run) : run.length ≤ 9 := by
  cases h with
  | @exactly n _ _ length => omega
  | oneOrMore _ _ most _ => exact most

/-- The digits of a fraction count as if zeros made nine digits of them. -/
lemma FractionRun.worth_le (h : FractionRun rest d run) :
    worth run * 10 ^ (9 - run.length) ≤ 999999999 := by
  have short := h.length_le
  have below : worth run < 10 ^ run.length := by
    rw [← value_eq_worth, ← scale_eq_pow]
    exact value_lt h.isDigit
  have nine : worth run * 10 ^ (9 - run.length) < 1000000000 := by
    calc worth run * 10 ^ (9 - run.length)
        < 10 ^ run.length * 10 ^ (9 - run.length) :=
          Nat.mul_lt_mul_of_pos_right below (Nat.pow_pos (by decide))
      _ = 10 ^ 9 := by rw [← Nat.pow_add, Nat.add_sub_cancel' short]
      _ = 1000000000 := by decide
  omega

/-- A fraction is read exactly from a text that begins with its digits. -/
lemma readSubsecond_eq_some_iff :
    readSubsecond d data = some (numbers, rest) ↔
      ∃ run, data = run ++ rest ∧ FractionRun rest d run ∧
        numbers = [(.subsecond, ((worth run * 10 ^ (9 - run.length) : Nat) : Int))] := by
  -- both forms read a run of digits and fill it up with zeros to nine
  have made {least most : Nat} :
      (run? least most data).map (fun found =>
          ([(Field.subsecond, ((value found.1 * scale (9 - found.1.length) : Nat) : Int))],
            found.2)) = some (numbers, rest) ↔
        ∃ run, run? least most data = some (run, rest) ∧
          numbers = [(.subsecond, ((worth run * 10 ^ (9 - run.length) : Nat) : Int))] := by
    simp only [← value_eq_worth, ← scale_eq_pow, Option.map_eq_some_iff]
    constructor
    · rintro ⟨⟨run, left⟩, read, same⟩
      cases same
      exact ⟨run, read, rfl⟩
    · rintro ⟨run, read, rfl⟩
      exact ⟨(run, rest), read, rfl⟩
  cases d with
  | exactly n =>
      refine made.trans (exists_congr fun run => ?_)
      rw [run?_eq_some_iff, and_assoc]
      refine and_congr_right fun _ => and_congr_left fun _ => ?_
      constructor
      · rintro ⟨all, least, most, -⟩
        exact .exactly all (by omega)
      · intro h
        cases h with
        | exactly all length => exact ⟨all, by omega, by omega, by omega⟩
  | oneOrMore =>
      refine made.trans (exists_congr fun run => ?_)
      rw [run?_eq_some_iff, and_assoc]
      refine and_congr_right fun _ => and_congr_left fun _ => ?_
      constructor
      · rintro ⟨all, least, most, ends⟩
        exact .oneOrMore all least most ends
      · intro h
        cases h with
        | oneOrMore all least most ends => exact ⟨all, least, most, ends⟩

end Component

open Numeral (FieldDigits readPadded field? longest worth)

/-- **Numbers are read exactly from their fields.**  A number is read from a text that begins with a
field, unless the field holds more digits than one conversion takes; the number is what the digits
in the field are worth, and what is left is what follows the field.  From a text that begins with no
field no number is read.  A field as wide as those of components never holds too many digits, so
that components read numbers without failing.  In the same way a fraction of a second is read from
its digits, which count as if zeros made nine of them. -/
theorem numbers_read_exactly :
    (∀ (width : Nat) (padding : Padding) (data : Octets), 1 ≤ width →
      (∀ n rest, readPadded width data padding = .ok (some (n, rest)) ↔
        ∃ field digits, data = field ++ rest ∧ FieldDigits width rest padding field digits ∧
          digits.length ≤ longest ∧ n = worth digits) ∧
      (readPadded width data padding = .ok none ↔
        ∀ field digits rest, FieldDigits width rest padding field digits →
          data ≠ field ++ rest) ∧
      (∀ e, readPadded width data padding = .error e ↔
        ∃ field digits rest, data = field ++ rest ∧ FieldDigits width rest padding field digits ∧
          longest < digits.length ∧ e = .tooLong digits.length) ∧
      (∀ n rest, readPadded width data padding = .ok (some (n, rest)) → n < 10 ^ width) ∧
      (width ≤ longest → readPadded width data padding = .ok (field? width data padding))) ∧
    ∀ (d : SubsecondDigits) (data rest : Octets) (numbers : List (Field × Int)),
      (Component.readSubsecond d data = some (numbers, rest) ↔
        ∃ run, data = run ++ rest ∧ Component.FractionRun rest d run ∧
          numbers = [(.subsecond, ((worth run * 10 ^ (9 - run.length) : Nat) : Int))]) ∧
      (Component.readSubsecond d data = some (numbers, rest) →
        ∀ x ∈ numbers, x.1 = .subsecond ∧ 0 ≤ x.2 ∧ x.2 ≤ 999999999) := by
  refine ⟨?_, ?_⟩
  · intro width padding data pos
    refine ⟨fun n rest => Numeral.readPadded_eq_some_iff pos, Numeral.readPadded_eq_none_iff pos,
      fun e => Numeral.readPadded_eq_error_iff pos, ?_, ?_⟩
    · intro n rest read
      obtain ⟨field, digits, -, h, -, rfl⟩ := (Numeral.readPadded_eq_some_iff pos).mp read
      exact h.worth_lt pos
    · intro narrow
      exact Numeral.readPadded_eq_ok pos narrow data padding
  · intro d data rest numbers
    refine ⟨Component.readSubsecond_eq_some_iff, ?_⟩
    intro read x mem
    obtain ⟨run, -, h, rfl⟩ := Component.readSubsecond_eq_some_iff.mp read
    obtain rfl := List.mem_singleton.mp mem
    exact ⟨rfl, Int.natCast_nonneg _, Int.ofNat_le.mpr h.worth_le⟩

/-- A digit behind two spaces in front of a colon, and two digits of a fraction in front of a
letter. -/
theorem numbers_read_exactly_spaces :
    FieldDigits 3 [58] .space [32, 32, 53] [53] ∧
      readPadded 3 [32, 32, 53, 58] .space = .ok (some (5, [58])) ∧ 5 < 10 ^ 3 ∧
      field? 3 [32, 32, 53, 58] .space = some (5, [58]) ∧
      Component.FractionRun [90] .oneOrMore [50, 53] ∧
      Component.readSubsecond .oneOrMore [50, 53, 90] =
        some ([(.subsecond, 250000000)], [90]) := by
  obtain ⟨fields, fractions⟩ := numbers_read_exactly
  obtain ⟨taken, -, -, below, narrow⟩ := fields 3 .space [32, 32, 53, 58] (by decide)
  have field : FieldDigits 3 [58] .space [32, 32, 53] [53] :=
    .space (k := 2) (List.all_eq_true.mp rfl) (by decide) rfl
  have five : 5 = worth [53] := Numeral.value_eq_worth [53]
  have read : readPadded 3 [32, 32, 53, 58] .space = .ok (some (5, [58])) :=
    (taken 5 [58]).mpr ⟨_, _, rfl, field, by decide, five⟩
  have run : Component.FractionRun [90] .oneOrMore [50, 53] :=
    .oneOrMore (List.all_eq_true.mp rfl) (by decide) (by decide) fun _ => by decide
  have quarter : worth [50, 53] = 25 := (Numeral.value_eq_worth [50, 53]).symm
  have fraction := (fractions .oneOrMore [50, 53, 90] [90] _).1.mpr ⟨_, rfl, run, rfl⟩
  rw [quarter] at fraction
  refine ⟨field, read, below 5 [58] read, ?_, run, fraction⟩
  exact Except.ok.inj ((narrow (by decide)).symm.trans read)

/-- Zeros that fill a field are worth zero, however many there are.  But where they are more than
one conversion takes, no number is read from them. -/
theorem Numeral.readPadded_tooLong :
    let zeros : Octets := List.replicate 4301 48
    FieldDigits 4301 [] .zero zeros zeros ∧ worth zeros = 0 ∧
      readPadded 4301 zeros .zero = .error (.tooLong 4301) := by
  intro zeros
  have field : FieldDigits 4301 [] .zero zeros zeros := by
    refine .zero (fun b mem => ?_) List.length_replicate
    rw [List.eq_of_mem_replicate mem]
    rfl
  refine ⟨field, ?_, ?_⟩
  · rw [← value_eq_worth, value_zeros]
  · have read := readPadded_of_fieldDigits (by decide) field
    rw [List.append_nil, List.length_replicate] at read
    exact read

end CalendarText
