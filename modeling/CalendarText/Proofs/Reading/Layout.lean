/-
Layouts read from the front of a text.

What a layout takes from a text, and which numbers that gives, is settled by the text alone.  The
fields only take the numbers up, or stay as they are when the text does not match.

* `Layout.isReadable`: a row of items that can be read, or the internet format;
* `Layout.Matches`: a layout takes a token in front of a rest, which gives some numbers;
* `Layout.Reads`, `Layout.exists_reads`: for each layout and each text there is one reading, which
  is what happens on all fields;
* `Layout.matches_unique`: a layout matches in no more than one way.
-/
import CalendarText.Proofs.Rfc3339.Reading
import CalendarText.Reading.Format

namespace CalendarText

open FieldReader

/-- An input that does not match a description: literal text or a component is missed. -/
def Cause.IsMiss (c : Cause) : Prop :=
  c = .literal ∨ ∃ name, c = .component name

namespace Layout

/-- Whether a layout can be read.  The abstract format cannot. -/
def isReadable : Layout → Bool
  | items members => Item.areReadable members
  | wellKnown .rfc3339 => true
  | wellKnown .abstract => false

/-- A layout takes a token in front of a rest, which gives some numbers: items as their leaves do,
the internet format what is spelled as it prescribes, if the fields can hold it. -/
inductive Matches (rest : Octets) : Layout → (token : Octets) → List (Field × Int) → Prop
  | items {members : List Item} {token : Octets} {numbers : List (Field × Int)} :
    Leaf.Run (Item.leavesOf members) (token ++ rest) numbers rest →
    Matches rest (.items members) token numbers
  | rfc3339 {token : Octets} {s : Rfc3339.Stamp} : Rfc3339.Spells token s →
    Admitted s.numbers → Matches rest (.wellKnown .rfc3339) token s.numbers

/-- The layout at the front of a text amounts to a reading. -/
structure Reads (layout : Layout) (data : Octets) (reading : Except Cause Reading) : Prop where
  /-- on any fields, parsing takes up what is read -/
  runOn : ∀ p, (layout.parse data).runOn p = p.outcome reading
  /-- what is read are the tokens that match -/
  eq_ok_iff : ∀ numbers rest, reading = .ok (numbers, rest) ↔
    ∃ token, data = token ++ rest ∧ layout.Matches rest token numbers
  /-- otherwise something is missed -/
  isMiss : ∀ cause, reading = .error cause → cause.IsMiss

end Layout

/-! ### The internet format -/

namespace Rfc3339

open Reading (andThen)

/-- A reading that fails only where something is missed. -/
def Misses (reading : Octets → Except Cause Reading) : Prop :=
  ∀ data cause, reading data = .error cause → cause.IsMiss

lemma Misses.andThen {first next : Octets → Except Cause Reading} (hf : Misses first)
    (hn : Misses next) : Misses fun data => andThen (first data) next := by
  intro data cause failed
  dsimp only at failed
  -- what fails is the first reading or the second one, and each of them misses
  cases read : first data with
  | error c =>
      rw [read] at failed
      cases failed
      exact hf data _ read
  | ok reading =>
      obtain ⟨numbers, rest⟩ := reading
      rw [read] at failed
      cases later : next rest with
      | error c =>
          rw [Reading.andThen, later] at failed
          cases failed
          exact hn rest _ later
      | ok reading =>
          rw [Reading.andThen, later] at failed
          cases failed

lemma misses_parseAll (leaves : List Leaf) : Misses (Leaf.parseAll leaves) :=
  fun _ _ => Leaf.cause_of_parseAll_eq_error

lemma misses_readDate : Misses readDate := by
  intro data cause failed
  rw [readDate] at failed
  split at failed
  · exact misses_parseAll _ data cause failed
  · cases failed
    exact .inr ⟨_, rfl⟩

lemma misses_readSeparator : Misses readSeparator := by
  intro data cause failed
  cases data with
  | nil =>
      cases failed
      exact .inl rfl
  | cons b rest =>
      rw [readSeparator] at failed
      split at failed
      · cases failed
      · cases failed
        exact .inl rfl

lemma misses_readFraction : Misses readFraction := by
  intro data cause failed
  cases data with
  | nil => cases failed
  | cons b rest =>
      rw [readFraction] at failed
      split at failed
      · exact .inr ⟨_, Component.eq_of_parse_eq_error failed⟩
      · cases failed

lemma misses_readZone : Misses readZone := by
  intro data cause failed
  cases data with
  | nil => exact misses_parseAll _ [] cause failed
  | cons b rest =>
      rw [readZone] at failed
      split at failed
      · cases failed
      · exact misses_parseAll _ _ cause failed

lemma misses_read : Misses read :=
  misses_readDate.andThen <| misses_readSeparator.andThen <| (misses_parseAll _).andThen <|
    misses_readFraction.andThen misses_readZone

end Rfc3339

/-! ### Layouts -/

namespace Layout

lemma reads_items {members : List Item} (readable : Item.areReadable members = true)
    (data : Octets) :
    (items members).Reads data (Leaf.parseAll (Item.leavesOf members) data) where
  runOn := runOn_parseItems readable data
  eq_ok_iff numbers rest := by
    rw [Leaf.parseAll_eq_ok_iff]
    constructor
    · intro run
      obtain ⟨token, rfl⟩ := run.suffix
      exact ⟨token, rfl, .items run⟩
    · rintro ⟨token, rfl, matched⟩
      cases matched with
      | items run => exact run
  isMiss _ := Leaf.cause_of_parseAll_eq_error

lemma reads_rfc3339 (data : Octets) : (wellKnown .rfc3339).Reads data (Rfc3339.read data) where
  runOn := Rfc3339.reads_parse data
  eq_ok_iff numbers rest := by
    rw [Rfc3339.takes_read data numbers rest]
    constructor
    · rintro ⟨hold, token, rfl, s, spells, rfl⟩
      exact ⟨token, rfl, .rfc3339 spells hold⟩
    · rintro ⟨token, rfl, matched⟩
      cases matched with
      | rfc3339 spells hold => exact ⟨hold, token, rfl, _, spells, rfl⟩
  isMiss := Rfc3339.misses_read data

/-- For each layout and each text there is one reading, which is what happens on all fields. -/
theorem exists_reads {layout : Layout} (readable : layout.isReadable = true) (data : Octets) :
    ∃ reading, layout.Reads data reading := by
  match layout with
  | items members => exact ⟨_, reads_items readable data⟩
  | wellKnown .rfc3339 => exact ⟨_, reads_rfc3339 data⟩
  | wellKnown .abstract => cases readable

/-- A description does on any fields what its layout amounts to. -/
lemma Reads.runOn_parseFormat {l : Layout} {data : Octets} {reading : Except Cause Reading}
    (reads : l.Reads data reading) {description : Item} (known : description.layout = .ok l)
    (p : Fields) : (parseFormat description data).runOn p = p.outcome reading := by
  rw [parseFormat, known]
  exact reads.runOn p

/-- A layout matches at the front of a text in no more than one way. -/
lemma matches_unique {l : Layout} (readable : l.isReadable = true) {text a b rest left : Octets}
    {m n : List (Field × Int)} (first : text = a ++ rest) (hm : l.Matches rest a m)
    (second : text = b ++ left) (hn : l.Matches left b n) : m = n ∧ rest = left := by
  obtain ⟨reading, reads⟩ := exists_reads readable text
  have one := (reads.eq_ok_iff m rest).mpr ⟨a, first, hm⟩
  have other := (reads.eq_ok_iff n left).mpr ⟨b, second, hn⟩
  cases one.symm.trans other
  exact ⟨rfl, rfl⟩

end Layout

end CalendarText
