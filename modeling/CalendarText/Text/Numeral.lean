/-
Decimal numerals as octets: written, padded, and read back.

* `Numeral.decimal` writes a number and `Numeral.value` reads a digit run;
  `value_decimal`: a written number reads back;
* `Numeral.pad`: numbers in a field of fixed width;
* `Numeral.run?` and `Numeral.paddedRun?`: digits at the front of a text;
* `Numeral.field?`: the number in a padded field;
* `Numeral.read` and `Numeral.readPadded`: the same for any width.  A run that is converted must
  hold a digit and at most `Numeral.longest` of them, and here an error says if it does not;
  "too few digits" is an ordinary `none`.  `readPadded_eq_ok`: fields of up to `longest` octets
  have no such errors.
-/
import CalendarText.Text.Octets

namespace CalendarText

/-- Why a digit run cannot be converted to a number. -/
inductive NumeralError where
  /-- there is no digit at all -/
  | noDigit
  /-- there are more digits than a conversion takes -/
  | tooLong (count : Nat)
  deriving DecidableEq, Repr

namespace Numeral

/-! ### Writing -/

/-- The octet of a digit. -/
def digit (d : Nat) : UInt8 :=
  (48 + d).toUInt8

/-- A number in decimal digits, without leading zeros. -/
def decimal (n : Nat) : Octets :=
  (Nat.toDigits 10 n).map fun c => c.toNat.toUInt8

/-- How a number fills a field that is wider than it. -/
inductive Padding where
  | space
  | zero
  | none
  deriving DecidableEq, Repr

/-- A number in a field of `width` octets.  One that is wider than its field stands in full. -/
def pad (n width : Nat) : Padding → Octets
  | .space => (decimal n).leftpad width 32
  | .zero => (decimal n).leftpad width 48
  | .none => decimal n

/-! ### Reading -/

/-- The number that a digit run denotes. -/
def value (run : Octets) : Nat :=
  run.foldl (fun n b => 10 * n + (b.toNat - 48)) 0

/-- What a digit is worth with `k` digits behind it: ten to the `k`. -/
def scale : (k : Nat) → Nat
  | 0 => 1
  | k + 1 => 10 * scale k

/-- The most digits that one conversion takes. -/
def longest : Nat := 4300

/-- A digit run as a number, with the two limits of a conversion. -/
def convert (run : Octets) : Except NumeralError Nat :=
  if run = [] then .error .noDigit
  else if longest < run.length then .error (.tooLong run.length)
  else .ok (value run)

/-- Between `least` and `most` digits at the front of `data`, and what follows them.  As many
are taken as there are. -/
def run? (least most : Nat) (data : Octets) : Option (Octets × Octets) :=
  let run := Octets.leading most data
  if run.length < least then none else some (run, data.drop run.length)

/-- The digits in a field of `width` octets, padded as `padding` says, and what follows the field.

* with zeros, the field holds exactly `width` digits;
* with spaces, up to `width - 1` spaces and then digits that fill the field;
* without padding, one to `width` digits. -/
def paddedRun? (width : Nat) (data : Octets) : Padding → Option (Octets × Octets)
  | .none => run? 1 width data
  | .zero => run? width width data
  | .space =>
    let spaces := ((data.take (width - 1)).takeWhile (· == 32)).length
    run? (width - spaces) (width - spaces) (data.drop spaces)

/-- The number in a padded field, and what follows the field. -/
def field? (width : Nat) (data : Octets) (padding : Padding) : Option (Nat × Octets) :=
  (paddedRun? width data padding).map fun (run, rest) => (value run, rest)

/-- A digit run, if there is one, converted to its number within the limits of a conversion. -/
def converted : Option (Octets × Octets) → Except NumeralError (Option (Nat × Octets))
  | none => .ok none
  | some (run, rest) => (convert run).map fun n => some (n, rest)

/-- A number of between `least` and `most` digits. -/
def read (least most : Nat) (data : Octets) : Except NumeralError (Option (Nat × Octets)) :=
  converted (run? least most data)

/-- A number in a padded field. -/
def readPadded (width : Nat) (data : Octets) (padding : Padding) :
    Except NumeralError (Option (Nat × Octets)) :=
  converted (paddedRun? width data padding)

theorem convert_eq_ok {run : Octets} (nonempty : run ≠ []) (short : run.length ≤ longest) :
    convert run = .ok (value run) := by
  simp [convert, nonempty, Nat.not_lt.mpr short]

/-- A run has between `least` and `most` digits, and nothing of the text is lost. -/
theorem run?_eq_some {least most : Nat} {data run rest : Octets}
    (h : run? least most data = some (run, rest)) :
    least ≤ run.length ∧ run.length ≤ most ∧ data = run ++ rest := by
  simp only [run?] at h
  split at h
  · cases h
  · cases h
    exact ⟨by omega, Octets.leading_length_le most data,
      (Octets.leading_append_drop most data).symm⟩

theorem paddedRun?_length {width : Nat} (pos : 1 ≤ width) {data run rest : Octets}
    {padding : Padding} (h : paddedRun? width data padding = some (run, rest)) :
    1 ≤ run.length ∧ run.length ≤ width := by
  cases padding with
  | none =>
    obtain ⟨lo, hi, -⟩ := run?_eq_some h
    exact ⟨lo, hi⟩
  | zero =>
    obtain ⟨lo, hi, -⟩ := run?_eq_some h
    exact ⟨by omega, hi⟩
  | space =>
    obtain ⟨lo, hi, -⟩ := run?_eq_some h
    have few : ((data.take (width - 1)).takeWhile (· == 32)).length ≤ width - 1 :=
      Nat.le_trans (List.takeWhile_sublist _).length_le (List.length_take_le _ _)
    exact ⟨by omega, by omega⟩

/-- A field that is not too wide is converted without an error. -/
theorem readPadded_eq_ok {width : Nat} (pos : 1 ≤ width) (narrow : width ≤ longest)
    (data : Octets) (padding : Padding) :
    readPadded width data padding = .ok (field? width data padding) := by
  rw [readPadded, field?]
  cases h : paddedRun? width data padding with
  | none => rfl
  | some pair =>
    obtain ⟨run, rest⟩ := pair
    obtain ⟨lo, hi⟩ := paddedRun?_length pos h
    have nonempty : run ≠ [] := by
      rintro rfl
      simp at lo
    rw [converted, convert_eq_ok nonempty (by omega)]
    rfl

/-! ### A written number reads back -/

theorem toUInt8_digitChar {d : Nat} (h : d < 10) :
    (Nat.digitChar d).toNat.toUInt8 = digit d := by
  have all : ∀ e ∈ List.range 10, (Nat.digitChar e).toNat.toUInt8 = digit e := by decide
  exact all d (List.mem_range.mpr h)

theorem toNat_digit {d : Nat} (h : d < 10) : (digit d).toNat - 48 = d := by
  have all : ∀ e ∈ List.range 10, (digit e).toNat - 48 = e := by decide
  exact all d (List.mem_range.mpr h)

theorem isDigit_digit {d : Nat} (h : d < 10) : Octets.isDigit (digit d) = true := by
  have all : ∀ e ∈ List.range 10, Octets.isDigit (digit e) = true := by decide
  exact all d (List.mem_range.mpr h)

/-- A single digit is written as itself. -/
theorem decimal_of_lt {n : Nat} (h : n < 10) : decimal n = [digit n] := by
  simp [decimal, Nat.toDigits_of_lt_base h, toUInt8_digitChar h]

/-- A longer number is written as its tens, and then its last digit. -/
theorem decimal_of_le {n : Nat} (h : 10 ≤ n) :
    decimal n = decimal (n / 10) ++ [digit (n % 10)] := by
  have split := Nat.toDigits_append_toDigits (b := 10) (n := n / 10) (d := n % 10)
    (by omega) (by omega) (by omega)
  rw [Nat.div_add_mod, Nat.toDigits_of_lt_base (by omega : n % 10 < 10)] at split
  simp [decimal, ← split, toUInt8_digitChar (by omega : n % 10 < 10)]

/-- A rule that holds of single digits and passes from the tens to the number holds of all. -/
theorem digitwise {motive : Nat → Prop} (lt : ∀ n < 10, motive n)
    (le : ∀ n, 10 ≤ n → motive (n / 10) → motive n) (n : Nat) : motive n := by
  induction n using Nat.strongRecOn with
  | _ n ih =>
    by_cases h : n < 10
    · exact lt n h
    · exact le n (by omega) (ih (n / 10) (by omega))

theorem decimal_ne_nil (n : Nat) : decimal n ≠ [] := by
  by_cases h : n < 10
  · simp [decimal_of_lt h]
  · simp [decimal_of_le (by omega : 10 ≤ n)]

/-- A written number holds digits only. -/
theorem isDigit_of_mem_decimal {n : Nat} {b : UInt8} (mem : b ∈ decimal n) :
    Octets.isDigit b = true := by
  induction n using digitwise with
  | lt n h =>
    rw [decimal_of_lt h, List.mem_singleton] at mem
    exact mem ▸ isDigit_digit h
  | le n h ih =>
    rw [decimal_of_le h, List.mem_append, List.mem_singleton] at mem
    rcases mem with mem | rfl
    · exact ih mem
    · exact isDigit_digit (by omega)

/-- A number below ten to the `k` takes at most `k` digits. -/
theorem length_decimal_le {n k : Nat} (pos : 1 ≤ k) (small : n < scale k) :
    (decimal n).length ≤ k := by
  induction n using digitwise generalizing k with
  | lt n h => simpa [decimal_of_lt h] using pos
  | le n h ih =>
    obtain ⟨k, rfl⟩ : ∃ j, k = j + 1 := ⟨k - 1, by omega⟩
    have tens : n / 10 < scale k := by
      rw [scale] at small
      omega
    have one : 1 ≤ k := by
      rcases Nat.eq_zero_or_pos k with rfl | h0
      · rw [scale] at tens
        omega
      · exact h0
    simpa [decimal_of_le h] using ih one tens

theorem value_append_digit (run : Octets) (b : UInt8) :
    value (run ++ [b]) = 10 * value run + (b.toNat - 48) := by
  simp [value, List.foldl_append]

/-- A written number reads back. -/
theorem value_decimal (n : Nat) : value (decimal n) = n := by
  induction n using digitwise with
  | lt n h => simp [decimal_of_lt h, value, toNat_digit h]
  | le n h ih =>
    rw [decimal_of_le h, value_append_digit, ih, toNat_digit (by omega)]
    omega

end Numeral

/-- The sentence that reports why a digit run cannot be converted. -/
def NumeralError.message : NumeralError → String
  | noDigit => "invalid literal for int() with base 10: b''"
  | tooLong count =>
    s!"Exceeds the limit ({Numeral.longest} digits) for integer string conversion: " ++
      s!"value has {count} digits; use sys.set_int_max_str_digits() to increase the limit"

end CalendarText
