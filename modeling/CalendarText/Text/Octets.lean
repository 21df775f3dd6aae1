/-
Octet strings, the text that descriptions, inputs and outputs are made of:

* `Octets.ofAscii`: the octets of an ASCII word;
* `Octets.behind?`: what follows a given beginning, with `behind?_eq_some_iff`;
* `Octets.foldCase`: letters without their case, ASCII letters only;
* `Octets.leading`: the longest run of digits at the front, up to a limit, with
  `leading_append_drop` (nothing is lost) and `leading_length_le`.
-/

namespace CalendarText

/-- Text as octets.  It is UTF-8 by convention only: any octets are allowed. -/
abbrev Octets := List UInt8

namespace Octets

/-- The octets of an ASCII word. -/
def ofAscii (word : String) : Octets :=
  word.toList.map fun c => c.toNat.toUInt8

/-! ### Beginnings -/

/-- What is left of `data` behind `start`, when `data` begins with `start`. -/
def behind? : (start data : Octets) → Option Octets
  | [], data => some data
  | _ :: _, [] => none
  | a :: start, b :: data => if a = b then behind? start data else none

/-- A beginning is cut off exactly when it stands there. -/
theorem behind?_eq_some_iff {start data rest : Octets} :
    behind? start data = some rest ↔ data = start ++ rest := by
  induction start generalizing data with
  | nil => simp [behind?]
  | cons a start ih =>
    cases data with
    | nil => simp [behind?]
    | cons b data =>
      by_cases h : a = b
      · simp [behind?, h, ih]
      · simp [behind?, h, Ne.symm h]

/-- A beginning is found whatever follows it. -/
theorem behind?_append (start rest : Octets) : behind? start (start ++ rest) = some rest :=
  behind?_eq_some_iff.mpr rfl

/-! ### Letters without their case -/

/-- A capital ASCII letter becomes its small letter; every other octet stays. -/
def foldOctet (b : UInt8) : UInt8 :=
  if 65 ≤ b ∧ b ≤ 90 then b + 32 else b

/-- Text with the case of its ASCII letters forgotten.  Octets of other letters stay, since
they are no letters by themselves. -/
def foldCase (data : Octets) : Octets :=
  data.map foldOctet

@[simp]
theorem length_foldCase (data : Octets) : (foldCase data).length = data.length := by
  simp [foldCase]

/-! ### Digits -/

/-- An ASCII digit. -/
def isDigit (b : UInt8) : Bool :=
  48 ≤ b && b ≤ 57

/-- The longest run of digits at the front of `data`, of at most `limit` digits. -/
def leading : (limit : Nat) → (data : Octets) → Octets
  | 0, _ => []
  | _ + 1, [] => []
  | limit + 1, b :: data => if isDigit b then b :: leading limit data else []

/-- The run and what follows it make up the text. -/
theorem leading_append_drop (limit : Nat) (data : Octets) :
    leading limit data ++ data.drop (leading limit data).length = data := by
  induction limit generalizing data with
  | zero => simp [leading]
  | succ limit ih =>
    cases data with
    | nil => simp [leading]
    | cons b data =>
      by_cases h : isDigit b
      · simp [leading, h, ih]
      · simp [leading, h]

theorem leading_length_le (limit : Nat) (data : Octets) :
    (leading limit data).length ≤ limit := by
  induction limit generalizing data with
  | zero => simp [leading]
  | succ limit ih =>
    cases data with
    | nil => simp [leading]
    | cons b data =>
      by_cases h : isDigit b
      · simpa [leading, h] using ih data
      · simp [leading, h]

/-- The run holds digits only. -/
theorem isDigit_of_mem_leading {limit : Nat} {data : Octets} {b : UInt8}
    (h : b ∈ leading limit data) : isDigit b = true := by
  induction limit generalizing data with
  | zero => simp [leading] at h
  | succ limit ih =>
    cases data with
    | nil => simp [leading] at h
    | cons c data =>
      by_cases hc : isDigit c
      · rw [leading, if_pos hc, List.mem_cons] at h
        rcases h with rfl | h
        · exact hc
        · exact ih h
      · simp [leading, hc] at h

end Octets

end CalendarText
