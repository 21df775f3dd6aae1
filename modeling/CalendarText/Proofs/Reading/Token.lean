/-
Where the numbers of a component come from.

On the way from a token to its numbers nothing can fail.  Digits are converted only where there are
some, and not too many of them; a fraction is scaled only if it has no more digits than are asked
for; and a member of a finite set is named only by a number that one of them has.

* `Reading.Sourced`: a number is got from a text in one of these three ways;
* `Component.sourced_of_read?`: so are all numbers that a component reads;
* `Component.admits_of_read?`: the number of a month, of a weekday or of a truth value is always one
  that its field can hold.
-/
import CalendarText.Proofs.Reading.Run
import CalendarText.Proofs.Text.Numeral

namespace CalendarText

open Numeral (convert field? paddedRun? run? scale value)
open Octets (isDigit)

/-- A way in which a number for a field is got from a text. -/
inductive Reading.Sourced (data : Octets) : Field × Int → Prop
  /-- digits in the text, converted, with a sign or without one -/
  | digits {f : Field} {n : Int} {run : Octets} : f.meaning = .number → run <:+: data →
    (∀ b ∈ run, isDigit b = true) → convert run = .ok n.natAbs → Sourced data (f, n)
  /-- up to nine digits in the text, converted, with zeros in the places of those missing -/
  | fraction {run : Octets} {n : Nat} : run <:+: data → (∀ b ∈ run, isDigit b = true) →
    convert run = .ok n → run.length ≤ 9 →
    Sourced data (.subsecond, n * scale (9 - run.length))
  /-- the number of a member of a finite set -/
  | member {f : Field} {n : Int} : f.meaning ≠ .number → f.admits n = true → Sourced data (f, n)

open Reading (Sourced)

/-! ### Digits -/

namespace Numeral

variable {data run rest : Octets}

lemma run_infix_of_run? {least most : Nat} (h : run? least most data = some (run, rest)) :
    run <:+: data := by
  obtain ⟨-, -, rfl⟩ := run?_eq_some h
  exact (List.prefix_append run rest).isInfix

/-- A run of at least one digit, and not of too many, is converted. -/
lemma convert_of_run? {least most : Nat} (pos : 1 ≤ least) (narrow : most ≤ longest)
    (h : run? least most data = some (run, rest)) : convert run = .ok (value run) := by
  obtain ⟨long, short, -⟩ := run?_eq_some h
  have nonempty : run ≠ [] := List.ne_nil_of_length_pos (by omega)
  exact convert_eq_ok nonempty (by omega)

/-- The number in a padded field is converted from the digits in it. -/
lemma exists_run_of_field? {width n : Nat} {padding : Padding} (pos : 1 ≤ width)
    (narrow : width ≤ longest) (h : field? width data padding = some (n, rest)) :
    ∃ run, run <:+: data ∧ (∀ b ∈ run, isDigit b = true) ∧ convert run = .ok n := by
  obtain ⟨⟨run, left⟩, read, same⟩ := Option.map_eq_some_iff.mp h
  cases same
  obtain ⟨long, short⟩ := paddedRun?_length pos read
  have nonempty : run ≠ [] := List.ne_nil_of_length_pos (by omega)
  refine ⟨run, ?_, ?_, convert_eq_ok nonempty (by omega)⟩
  · cases padding with
    | none => exact run_infix_of_run? read
    | zero => exact run_infix_of_run? read
    | space => exact (run_infix_of_run? read).trans (List.drop_suffix _ _).isInfix
  · cases padding with
    | none => exact isDigit_of_run? read
    | zero => exact isDigit_of_run? read
    | space => exact isDigit_of_run? read

end Numeral

/-! ### Names -/

/-- A match is one of the names. -/
lemma lt_of_firstMatch {caseSensitive : Bool} {data rest : Octets} {names : List Octets} {i : Nat}
    (h : firstMatch data names caseSensitive = some (i, rest)) : i < names.length := by
  obtain ⟨_, choice, -⟩ := firstMatch_eq_some_iff_isChoice.mp h
  exact (List.getElem?_eq_some_iff.mp choice.place).1

/-! ### Components -/

namespace Component

variable {data rest : Octets} {numbers : List (Field × Int)}

/-- A number in an interval of integers that a field can hold. -/
lemma admits_of_mem {f : Field} {n : Int} (lower : f.least ≤ n) (upper : n ≤ f.greatest) :
    f.admits n = true := by
  rw [Field.admits, Bool.and_eq_true, decide_eq_true_eq, decide_eq_true_eq]
  exact ⟨lower, upper⟩

lemma sourced_of_readNumber {f : Field} {width : Nat} {padding : Padding}
    (number : f.meaning = .number) (pos : 1 ≤ width) (narrow : width ≤ Numeral.longest)
    (h : readNumber f width padding data = some (numbers, rest)) :
    ∀ x ∈ numbers, Sourced data x := by
  obtain ⟨⟨n, left⟩, read, same⟩ := Option.map_eq_some_iff.mp h
  cases same
  obtain ⟨run, inside, digits, converted⟩ := Numeral.exists_run_of_field? pos narrow read
  intro x mem
  obtain rfl := List.mem_singleton.mp mem
  exact .digits number inside digits converted

/-- A number with a sign is the number in its digits, or the opposite of it. -/
lemma sourced_of_readSigned {f : Field} {width n : Nat} {padding : Padding} {mandatory : Bool}
    {sign : Option Sign} (number : f.meaning = .number) (pos : 1 ≤ width)
    (narrow : width ≤ Numeral.longest)
    (h : readSigned width padding mandatory data = some (sign, n, rest)) :
    Sourced data (f, Sign.apply sign n) := by
  rw [readSigned] at h
  dsimp only at h
  split at h
  · cases h
  · obtain ⟨⟨m, left⟩, read, same⟩ := Option.map_eq_some_iff.mp h
    cases same
    obtain ⟨run, inside, digits, converted⟩ := Numeral.exists_run_of_field? pos narrow read
    have size : (Sign.apply (readSign data).1 m).natAbs = m := by
      rw [Sign.apply]
      split <;> simp
    rw [← size] at converted
    exact .digits number (inside.trans (suffix_of_readSign data).isInfix) digits converted

lemma sourced_of_readYear {o : YearOptions} (h : readYear o data = some (numbers, rest)) :
    ∀ x ∈ numbers, Sourced data x := by
  rw [readYear] at h
  split at h
  · refine sourced_of_readNumber ?_ (by decide) (by decide) h
    split <;> rfl
  · obtain ⟨⟨sign, n, left⟩, read, same⟩ := Option.map_eq_some_iff.mp h
    cases same
    intro x mem
    obtain rfl := List.mem_singleton.mp mem
    refine sourced_of_readSigned ?_ (by decide) (by decide) read
    split <;> rfl

/-- A name among as many as a field has members gives the number of one of them. -/
lemma sourced_of_named {f : Field} {names : List Octets} {caseSensitive : Bool}
    (member : f.meaning ≠ .number) (fits : names.length ≤ f.greatest - f.least + 1)
    (h : (firstMatch data names caseSensitive).map (fun (i, rest) =>
      ([(f, (i : Int) + f.least)], rest)) = some (numbers, rest)) :
    ∀ x ∈ numbers, Sourced data x := by
  obtain ⟨⟨i, left⟩, found, same⟩ := Option.map_eq_some_iff.mp h
  cases same
  have place := lt_of_firstMatch found
  intro x mem
  obtain rfl := List.mem_singleton.mp mem
  exact .member member (admits_of_mem (by omega) (by omega))

lemma sourced_of_readMonth {o : MonthOptions} (h : readMonth o data = some (numbers, rest)) :
    ∀ x ∈ numbers, Sourced data x := by
  rw [readMonth] at h
  dsimp only at h
  split at h
  · obtain ⟨n, -, ⟨lower, upper⟩, rfl⟩ := taken_of_if h
    intro x mem
    obtain rfl := List.mem_singleton.mp mem
    refine .member (by decide) (admits_of_mem ?_ ?_)
    · show (1 : Int) ≤ n
      omega
    · show (n : Int) ≤ 12
      omega
  · exact sourced_of_named (by decide) (by decide) h
  · exact sourced_of_named (by decide) (by decide) h

lemma sourced_of_readWeekday {o : WeekdayOptions}
    (h : readWeekday o data = some (numbers, rest)) : ∀ x ∈ numbers, Sourced data x := by
  have admitted {n : Int} (lower : 0 ≤ n) (upper : n ≤ 6) : Sourced data (.weekday, n) :=
    .member (by decide) (admits_of_mem lower upper)
  rw [readWeekday] at h
  dsimp only at h
  split at h
  · exact sourced_of_named (f := .weekday) (by decide) (by decide) h
  · exact sourced_of_named (f := .weekday) (by decide) (by decide) h
  · obtain ⟨n, -, range, rfl⟩ := taken_of_if h
    intro x mem
    obtain rfl := List.mem_singleton.mp mem
    exact admitted (by omega) (by omega)
  · obtain ⟨n, -, range, rfl⟩ := taken_of_if h
    intro x mem
    obtain rfl := List.mem_singleton.mp mem
    exact admitted range.1 range.2

lemma sourced_of_readSubsecond {d : SubsecondDigits}
    (h : readSubsecond d data = some (numbers, rest)) : ∀ x ∈ numbers, Sourced data x := by
  obtain ⟨⟨run, left⟩, read, same⟩ := Option.map_eq_some_iff.mp h
  cases same
  have sourced {least most : Nat} (pos : 1 ≤ least) (nine : most ≤ 9)
      (read : run? least most data = some (run, rest)) :
      Sourced data (.subsecond, value run * scale (9 - run.length)) := by
    have converted := Numeral.convert_of_run? pos (nine.trans (by decide)) read
    have short := (Numeral.run?_eq_some read).2.1
    exact .fraction (Numeral.run_infix_of_run? read) (Numeral.isDigit_of_run? read) converted
      (short.trans nine)
  intro x mem
  obtain rfl := List.mem_singleton.mp mem
  cases d with
  | exactly n => exact sourced (Nat.le_add_left 1 n.val) n.isLt read
  | oneOrMore => exact sourced (Nat.le_refl 1) (Nat.le_refl 9) read

lemma sourced_of_readOffsetHour {o : OffsetHourOptions}
    (h : readOffsetHour o data = some (numbers, rest)) : ∀ x ∈ numbers, Sourced data x := by
  obtain ⟨⟨sign, n, left⟩, read, same⟩ := Option.map_eq_some_iff.mp h
  cases same
  intro x mem
  obtain rfl | mem := List.mem_cons.mp mem
  · exact sourced_of_readSigned rfl (by decide) (by decide) read
  · obtain rfl := List.mem_singleton.mp mem
    refine .member (by decide) ?_
    split <;> rfl

/-- Every number that a component reads is got from the text in a way that cannot fail. -/
theorem sourced_of_read? {c : Component} (h : c.read? data = some (numbers, rest)) :
    ∀ x ∈ numbers, Sourced data x := by
  cases c with
  | day p | ordinal p | minute p | second p | offsetMinute p | offsetSecond p =>
      exact sourced_of_readNumber rfl (by decide) (by decide) h
  | weekNumber o =>
      refine sourced_of_readNumber ?_ (by decide) (by decide) h
      cases o.rule <;> rfl
  | hour o =>
      refine sourced_of_readNumber ?_ (by decide) (by decide) h
      split <;> rfl
  | month o => exact sourced_of_readMonth h
  | weekday o => exact sourced_of_readWeekday h
  | year o => exact sourced_of_readYear h
  | period o => exact sourced_of_named (by decide) (by simp [Field.greatest, Field.least]) h
  | subsecond d => exact sourced_of_readSubsecond h
  | offsetHour o => exact sourced_of_readOffsetHour h

/-- The number of a member of a finite set is always one that its field can hold. -/
lemma admits_of_read? {c : Component} (h : c.read? data = some (numbers, rest)) {f : Field}
    {n : Int} (mem : (f, n) ∈ numbers) (member : f.meaning ≠ .number) : f.admits n = true := by
  cases sourced_of_read? h _ mem with
  | digits number => exact absurd number member
  | fraction => exact absurd rfl member
  | member _ admitted => exact admitted

end Component

end CalendarText
