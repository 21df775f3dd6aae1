/-
Padded numbers, read back in front of other text.

A run of digits is taken whole where it fills its field or where no digit follows it, so only a
number without padding asks something of the text behind it.

* `Octets.leading_append`: a run that cannot go on is taken whole;
* `run?_eq_some_iff`: a run is as many digits as there are, within its limits;
* `value_append`: a run in front of another one counts by the scale of the latter;
* `Shows`: a number in an exact count of digits;
* `pad_zero`: a number padded with zeros is shown in the width of its field;
* `field?_pad`: a number in a field is read back;
* `field?_zero_eq_some_iff`: a field that is padded with zeros holds a number that is shown in its
  width.
-/
import CalendarText.Text.Numeral
import Mathlib.Tactic.Lemma
import Mathlib.Tactic.Ring

namespace CalendarText

namespace Octets

/-- A text in front of which a number ends: it is empty or begins with no digit. -/
def EndsNumber (text : Octets) : Prop :=
  ∀ b ∈ text.head?, isDigit b = false

instance (text : Octets) : Decidable (EndsNumber text) :=
  Option.decidableForallMem text.head?

/-- A run that fills the limit, or is followed by no digit, is taken whole. -/
lemma leading_append {limit : Nat} {run rest : Octets} (digits : ∀ b ∈ run, isDigit b = true)
    (short : run.length ≤ limit) (ends : run.length < limit → EndsNumber rest) :
    leading limit (run ++ rest) = run := by
  induction run generalizing limit with
  | nil =>
      cases limit with
      | zero => rfl
      | succ limit =>
          cases rest with
          | nil => rfl
          | cons b rest =>
              -- the run is over before its limit, so what follows begins with no digit
              have stop := ends (by simp) b rfl
              simp [leading, stop]
  | cons b run ih =>
      obtain ⟨limit, rfl⟩ : ∃ m, limit = m + 1 := ⟨limit - 1, by simp at short; omega⟩
      have taken : leading limit (run ++ rest) = run :=
        ih (fun c hc => digits c (by simp [hc])) (by simpa using short)
          fun h => ends (by simpa using h)
      rw [List.cons_append, leading, if_pos (digits b (by simp)), taken]

/-- Below its limit a run goes on for as long as there are digits. -/
lemma endsNumber_of_leading {limit : Nat} {data : Octets}
    (short : (leading limit data).length < limit) :
    EndsNumber (data.drop (leading limit data).length) := by
  induction limit generalizing data with
  | zero => simp at short
  | succ limit ih =>
      cases data with
      | nil => simp [EndsNumber]
      | cons b data =>
          by_cases digit : isDigit b = true
          · rw [leading, if_pos digit] at short ⊢
            exact ih (by simpa using short)
          · rw [leading, if_neg digit]
            simpa [EndsNumber] using digit

end Octets

namespace Numeral

open Octets (isDigit EndsNumber)

/-! ### Runs -/

/-- A run that fills its limit, or is followed by no digit, is read whole. -/
lemma run?_append {least most : Nat} {run rest : Octets} (digits : ∀ b ∈ run, isDigit b = true)
    (long : least ≤ run.length) (short : run.length ≤ most)
    (ends : run.length < most → EndsNumber rest) :
    run? least most (run ++ rest) = some (run, rest) := by
  rw [run?, Octets.leading_append digits short ends]
  simp [Nat.not_lt.mpr long]

/-- A run holds digits only. -/
lemma isDigit_of_run? {least most : Nat} {data run rest : Octets}
    (h : run? least most data = some (run, rest)) : ∀ b ∈ run, isDigit b = true := by
  rw [run?] at h
  split at h
  · cases h
  · cases h
    intro b mem
    exact Octets.isDigit_of_mem_leading mem

/-- A run is as many digits as there are, within its limits. -/
lemma run?_eq_some_iff {least most : Nat} {data run rest : Octets} :
    run? least most data = some (run, rest) ↔
      data = run ++ rest ∧ (∀ b ∈ run, isDigit b = true) ∧ least ≤ run.length ∧
        run.length ≤ most ∧ (run.length < most → EndsNumber rest) := by
  constructor
  · intro h
    -- a run that stops below its limit met something that is no digit
    obtain ⟨long, short, parts⟩ := run?_eq_some h
    refine ⟨parts, isDigit_of_run? h, long, short, ?_⟩
    rw [run?] at h
    split at h
    · cases h
    · cases h
      exact Octets.endsNumber_of_leading
  · rintro ⟨rfl, digits, long, short, ends⟩
    exact run?_append digits long short ends

/-- Reading on from a number shifts it by the digits that are read. -/
lemma foldl_digits (run : Octets) (n : Nat) :
    run.foldl (fun n b => 10 * n + (b.toNat - 48)) n = n * scale run.length + value run := by
  -- on the run, for every number that was read before it
  induction run generalizing n with
  | nil => simp [scale, value]
  | cons b run ih =>
      have first : value (b :: run) = (b.toNat - 48) * scale run.length + value run := by
        rw [value, List.foldl_cons, ih]
        ring
      rw [List.foldl_cons, ih, first, List.length_cons, scale]
      ring

/-- A run in front of another one counts by the scale of the latter. -/
lemma value_append (a b : Octets) : value (a ++ b) = value a * scale b.length + value b := by
  rw [value, List.foldl_append, foldl_digits b]
  rfl

lemma value_zeros (k : Nat) : value (List.replicate k 48) = 0 := by
  induction k with
  | zero => rfl
  | succ k ih => rw [List.replicate_succ, value, List.foldl_cons, foldl_digits, ih]; simp

/-- Zeros behind a run scale it. -/
lemma value_rightpad (run : Octets) (width : Nat) :
    value (run.rightpad width 48) = value run * scale (width - run.length) := by
  rw [List.rightpad, value_append, value_zeros, List.length_replicate, Nat.add_zero]

/-- A run is worth less than the scale of its length. -/
lemma value_lt {run : Octets} (digits : ∀ b ∈ run, isDigit b = true) :
    value run < scale run.length := by
  induction run with
  | nil => decide
  | cons b run ih =>
      have rest := ih fun c hc => digits c (by simp [hc])
      have digit : b.toNat - 48 ≤ 9 := by
        have h := digits b (by simp)
        simp only [isDigit, Bool.and_eq_true, decide_eq_true_eq, UInt8.le_iff_toNat_le] at h
        have : (57 : UInt8).toNat = 57 := rfl
        omega
      have first : value (b :: run) = (b.toNat - 48) * scale run.length + value run := by
        rw [← List.singleton_append, value_append]
        simp [value]
      have scaled := Nat.mul_le_mul_right (scale run.length) digit
      rw [first, List.length_cons, scale]
      omega

lemma scale_eq_pow (k : Nat) : scale k = 10 ^ k := by
  induction k with
  | zero => rfl
  | succ k ih => rw [scale, ih, pow_succ, Nat.mul_comm]

/-- The first digits of a run are worth the run without its last digits. -/
lemma value_take {run : Octets} (digits : ∀ b ∈ run, isDigit b = true) {k m : Nat}
    (length : run.length = k + m) :
    value (run.take k) * scale m = value run - value run % 10 ^ m := by
  -- the last `m` digits are worth less than the scale of `m`, so they are the remainder
  have whole := value_append (run.take k) (run.drop k)
  have behind : (run.drop k).length = m := by simp [length]
  have small : value (run.drop k) < scale m := by
    rw [← behind]
    exact value_lt fun b hb => digits b (List.mem_of_mem_drop hb)
  rw [List.take_append_drop, behind] at whole
  have last : value run % 10 ^ m = value (run.drop k) := by
    rw [← scale_eq_pow, whole, Nat.mul_add_mod_of_lt small]
  omega

/-! ### Padded numbers -/

/-- A padded number is its digits with one octet, again and again, in front of them. -/
lemma pad_eq (n width : Nat) (padding : Padding) :
    ∃ k fill, (fill = 32 ∨ isDigit fill = true) ∧
      pad n width padding = List.replicate k fill ++ decimal n := by
  cases padding with
  | space => exact ⟨_, 32, .inl rfl, rfl⟩
  | zero => exact ⟨_, 48, .inr rfl, rfl⟩
  | none => exact ⟨0, 32, .inl rfl, rfl⟩

/-- A padded number begins with a digit or a space. -/
lemma pad_head (n width : Nat) (padding : Padding) :
    ∃ b run, pad n width padding = b :: run ∧ (b = 32 ∨ isDigit b = true) := by
  obtain ⟨k, fill, kind, same⟩ := pad_eq n width padding
  rw [same]
  cases k with
  | succ k => exact ⟨fill, _, rfl, kind⟩
  | zero =>
      obtain ⟨b, run, h⟩ := List.exists_cons_of_ne_nil (decimal_ne_nil n)
      exact ⟨b, run, h, .inr (isDigit_of_mem_decimal (n := n) (by simp [h]))⟩

/-- A text shows a number in exactly `width` digits. -/
structure Shows (width : Nat) (text : Octets) (n : Nat) : Prop where
  length : text.length = width
  digits : ∀ b ∈ text, isDigit b = true
  worth : value text = n

instance (width n : Nat) (text : Octets) : Decidable (Shows width text n) :=
  decidable_of_iff (text.length = width ∧ text.all isDigit ∧ value text = n)
    ⟨fun ⟨length, digits, worth⟩ => ⟨length, List.all_eq_true.mp digits, worth⟩,
      fun ⟨length, digits, worth⟩ => ⟨length, List.all_eq_true.mpr digits, worth⟩⟩

/-- A number that is shown is below ten to the count of its digits. -/
lemma Shows.lt {width n : Nat} {text : Octets} (shows : Shows width text n) : n < scale width := by
  have lt := value_lt shows.digits
  rwa [shows.length, shows.worth] at lt

/-- A number padded with zeros is shown in the width of its field. -/
lemma pad_zero {n width : Nat} (pos : 1 ≤ width) (small : n < scale width) :
    Shows width (pad n width .zero) n := by
  have short := length_decimal_le pos small
  rw [pad, List.leftpad]
  refine ⟨by simp; omega, ?_, ?_⟩
  · intro b hb
    rw [List.mem_append, List.mem_replicate] at hb
    obtain ⟨-, rfl⟩ | hb := hb
    · rfl
    · exact isDigit_of_mem_decimal hb
  · rw [value_append, value_zeros, value_decimal]
    omega

/-- Spaces are counted up to the first octet that is none, within a limit that they keep. -/
lemma length_takeWhile_spaces {data : Octets} (stop : data.head? ≠ some 32) {k limit : Nat}
    (short : k ≤ limit) :
    (((List.replicate k 32 ++ data).take limit).takeWhile (· == 32)).length = k := by
  have behind : (data.take (limit - k)).takeWhile (· == 32) = [] := by
    cases data with
    | nil => simp
    | cons b data =>
        have solid : (b == 32) = false := by simpa using stop
        cases limit - k with
        | zero => rfl
        | succ m => simp [solid]
  rw [List.take_append, List.length_replicate, List.take_of_length_le (by simpa using short),
    List.takeWhile_append_of_pos (by simp), behind]
  simp

/-- The run of a number in a field is read back. -/
lemma paddedRun?_pad {n width : Nat} (pos : 1 ≤ width) (small : n < scale width)
    {padding : Padding} {rest : Octets}
    (ends : padding = .none → (decimal n).length < width → EndsNumber rest) :
    ∃ run, paddedRun? width (pad n width padding ++ rest) padding = some (run, rest) ∧
      value run = n := by
  -- only without padding can a number go on behind its field
  have short := length_decimal_le pos small
  have digits : ∀ b ∈ decimal n, isDigit b = true := fun b hb => isDigit_of_mem_decimal hb
  cases padding with
  | none =>
      refine ⟨decimal n, ?_, value_decimal n⟩
      exact run?_append digits (List.length_pos_iff.mpr (decimal_ne_nil n)) short (ends rfl)
  | zero =>
      obtain ⟨length, digits, worth⟩ := pad_zero pos small
      refine ⟨pad n width .zero, ?_, worth⟩
      exact run?_append digits (by omega) (by omega) (by omega)
  | space =>
      refine ⟨decimal n, ?_, value_decimal n⟩
      have nonempty := List.length_pos_iff.mpr (decimal_ne_nil n)
      -- the number begins with a digit, so no space is counted that is not padding
      have stop : (decimal n ++ rest).head? ≠ some 32 := by
        obtain ⟨b, run, same⟩ := List.exists_cons_of_ne_nil (decimal_ne_nil n)
        rw [same] at digits ⊢
        intro h
        obtain rfl : b = 32 := by simpa using h
        exact absurd (digits 32 (by simp)) (by decide)
      have room : width - (decimal n).length ≤ width - 1 := by omega
      have spaces := length_takeWhile_spaces stop room
      rw [paddedRun?, pad, List.leftpad, List.append_assoc, spaces,
        List.drop_left' (by simp)]
      exact run?_append digits (by omega) (by omega) (by omega)

/-- A number in a field is read back.  Without padding and with room in the field, no digit may
follow it. -/
lemma field?_pad {n width : Nat} (pos : 1 ≤ width) (small : n < scale width) {padding : Padding}
    {rest : Octets} (ends : padding = .none → (decimal n).length < width → EndsNumber rest) :
    field? width (pad n width padding ++ rest) padding = some (n, rest) := by
  obtain ⟨run, read, worth⟩ := paddedRun?_pad pos small ends
  rw [field?, read, ← worth]
  rfl

/-- A field that is padded with zeros holds a number that is shown in its width. -/
lemma field?_zero_eq_some_iff {width n : Nat} {data rest : Octets} :
    field? width data .zero = some (n, rest) ↔
      ∃ text, Shows width text n ∧ data = text ++ rest := by
  constructor
  · intro h
    obtain ⟨⟨run, left⟩, read, same⟩ := Option.map_eq_some_iff.mp h
    cases same
    obtain ⟨least, most, rfl⟩ := run?_eq_some read
    exact ⟨run, ⟨by omega, isDigit_of_run? read, rfl⟩, rfl⟩
  · rintro ⟨text, ⟨length, digits, worth⟩, rfl⟩
    have read : run? width width (text ++ rest) = some (text, rest) :=
      run?_append digits (by omega) (by omega) (by omega)
    rw [field?, paddedRun?, read, ← worth]
    rfl

end Numeral

end CalendarText
