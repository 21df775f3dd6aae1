/-
Which of several names is found at the front of a text.

A text begins with a name when its first octets are those of the name; where case does not matter,
the capital and the small form of an ASCII letter pass for each other.  Several names of a list may
stand at the front of one text, since one of them can begin with another one, or differ from it in
case only.  The longest of them is found, and of those that are equally long the first in the list.

* `Octets.SameLetter`, `Octets.foldCase_eq_iff`: texts that differ in the case of letters only;
* `Leads`, `behindName?_eq_some_iff`: a name at the front of a text, and what is behind it;
* `IsChoice`, `IsChoice.unique`: the name that is to be found, of which there is one at most;
* `IsChoice.head`, `IsChoice.cons`: the choice after one more name is put in front of the list;
* `isChoice_of_bestMatch`: going through a list ends with its choice;
* `firstMatch_longest_earliest`: exactly the choice is found, and nothing only where no name of the
  list stands at the front.
-/
import CalendarText.Reading.Token
import Mathlib.Data.List.Forall2
import Mathlib.Tactic.Lemma

namespace CalendarText

/-! ### Letters in either case -/

namespace Octets

/-- Two octets are the same, or the capital and the small form of one ASCII letter. -/
def SameLetter (a b : UInt8) : Prop :=
  a = b ∨ (65 ≤ a ∧ a ≤ 90 ∧ b = a + 32) ∨ (65 ≤ b ∧ b ≤ 90 ∧ a = b + 32)

instance : DecidableRel SameLetter := fun _ _ =>
  inferInstanceAs (Decidable (_ ∨ _))

/-- Octets with one small form differ in the case of a letter at most. -/
lemma foldOctet_eq_iff {a b : UInt8} : foldOctet a = foldOctet b ↔ SameLetter a b := by
  simp only [foldOctet, SameLetter]
  grind

/-- Texts are the same without their case exactly when they are so octet by octet. -/
lemma foldCase_eq_iff {s t : Octets} : foldCase s = foldCase t ↔ List.Forall₂ SameLetter s t := by
  rw [foldCase, foldCase, ← List.forall₂_eq_eq_eq, List.forall₂_map_left_iff,
    List.forall₂_map_right_iff]
  simp only [foldOctet_eq_iff]

end Octets

open Octets (SameLetter foldCase)

variable {caseSensitive : Bool} {data rest name first : Octets} {names : List Octets}

/-! ### One name -/

/-- A name leads a text: the octets at the front, as many as the name has, are those of the name, or
the same letters in either case. -/
def Leads (caseSensitive : Bool) (name data : Octets) : Prop :=
  if caseSensitive then data.take name.length = name
  else List.Forall₂ SameLetter (data.take name.length) name

instance (caseSensitive : Bool) (name data : Octets) : Decidable (Leads caseSensitive name data) :=
  inferInstanceAs (Decidable (ite _ _ _))

/-- Where case does not matter, a name leads a text when it does so without its case. -/
lemma leads_false_iff : Leads false name data ↔ foldCase name <+: foldCase data := by
  rw [Leads, if_neg (by simp), ← Octets.foldCase_eq_iff, List.prefix_iff_eq_take,
    Octets.length_foldCase, foldCase, foldCase, List.map_take, eq_comm]
  rfl

/-- A text begins with the names that lead it, up to case. -/
lemma Leads.isPrefix (h : Leads caseSensitive name data) : foldCase name <+: foldCase data := by
  cases caseSensitive with
  | true =>
      have front : data.take name.length = name := by rwa [Leads, if_pos rfl] at h
      exact (List.prefix_iff_eq_take.mpr front.symm).map _
  | false => exact leads_false_iff.mp h

/-- A name is found where it leads the text, and what follows its octets is behind it. -/
lemma behindName?_eq_some_iff :
    behindName? caseSensitive name data = some rest ↔
      Leads caseSensitive name data ∧ data = data.take name.length ++ rest := by
  cases caseSensitive with
  | true =>
      rw [behindName?_sensitive, Leads, if_pos rfl]
      constructor
      · rintro rfl
        rw [List.take_left]
        exact ⟨rfl, rfl⟩
      · rintro ⟨front, parts⟩
        rwa [front] at parts
  | false =>
      -- folding changes no length, so the name's length parts the text itself
      have whole := List.take_append_drop name.length data
      rw [behindName?, if_neg (by simp), Option.map_eq_some_iff, leads_false_iff]
      constructor
      · rintro ⟨left, found, rfl⟩
        exact ⟨⟨left, (Octets.behind?_eq_some_iff.mp found).symm⟩, whole.symm⟩
      · rintro ⟨⟨left, front⟩, parts⟩
        exact ⟨left, Octets.behind?_eq_some_iff.mpr front.symm,
          List.append_cancel_left (whole.trans parts)⟩

lemma behindName?_eq_none_iff :
    behindName? caseSensitive name data = none ↔ ¬ Leads caseSensitive name data := by
  constructor
  · intro absent leads
    have found := behindName?_eq_some_iff.mpr ⟨leads, (List.take_append_drop _ data).symm⟩
    rw [absent] at found
    cases found
  · intro absent
    rw [Option.eq_none_iff_forall_ne_some]
    intro rest found
    exact absent (behindName?_eq_some_iff.mp found).1

/-! ### The choice -/

/-- The name to be found in a list: it leads the text, no name that does is longer, and none that is
as long stands earlier in the list. -/
structure IsChoice (caseSensitive : Bool) (data : Octets) (names : List Octets) (i : Nat)
    (name : Octets) : Prop where
  place : names[i]? = some name
  leads : Leads caseSensitive name data
  longest : ∀ other ∈ names, Leads caseSensitive other data → other.length ≤ name.length
  earliest : ∀ j < i, ∀ other, names[j]? = some other → Leads caseSensitive other data →
    other.length ≠ name.length

namespace IsChoice

variable {i j : Nat} {other : Octets}

/-- Of two names at different places one is longer, or one stands earlier. -/
lemma unique (h : IsChoice caseSensitive data names i name)
    (k : IsChoice caseSensitive data names j other) : i = j ∧ name = other := by
  have length : name.length = other.length :=
    Nat.le_antisymm (k.longest _ (List.mem_of_getElem? h.place) h.leads)
      (h.longest _ (List.mem_of_getElem? k.place) k.leads)
  have same : i = j := by
    obtain before | same | behind := Nat.lt_trichotomy i j
    · exact absurd length (k.earliest i before name h.place h.leads)
    · exact same
    · exact absurd length.symm (h.earliest j behind other k.place k.leads)
  subst same
  exact ⟨rfl, Option.some.inj (h.place.symm.trans k.place)⟩

/-- A name in front of a list is the choice if it leads the text and no name behind it that does is
longer. -/
lemma head (leads : Leads caseSensitive first data)
    (longest : ∀ other ∈ names, Leads caseSensitive other data → other.length ≤ first.length) :
    IsChoice caseSensitive data (first :: names) 0 first where
  place := rfl
  leads := leads
  longest := by
    rintro other (_ | ⟨_, mem⟩) found
    · exact Nat.le_refl _
    · exact longest other mem found
  earliest := fun j before => absurd before (Nat.not_lt_zero j)

/-- A name in front of a list leaves the choice as it is, unless it leads the text too and is no
shorter. -/
lemma cons (h : IsChoice caseSensitive data names i name)
    (shorter : Leads caseSensitive first data → first.length < name.length) :
    IsChoice caseSensitive data (first :: names) (i + 1) name where
  place := h.place
  leads := h.leads
  longest := by
    rintro other (_ | ⟨_, mem⟩) found
    · exact Nat.le_of_lt (shorter found)
    · exact h.longest other mem found
  earliest := by
    rintro (_ | j) before other place found
    · obtain rfl : first = other := by simpa using place
      exact Nat.ne_of_lt (shorter found)
    · exact h.earliest j (Nat.lt_of_succ_lt_succ before) other (by simpa using place) found

end IsChoice

/-! ### Going through a list -/

/-- There is no better one of two matches only where there is neither. -/
lemma longerMatch_eq_none_iff {a b : Option (Nat × Nat × Octets)} :
    longerMatch a b = none ↔ a = none ∧ b = none := by
  cases a with
  | none => simp [longerMatch]
  | some x =>
      cases b with
      | none => simp [longerMatch]
      | some y =>
          rw [longerMatch]
          split <;> simp

/-- A list without a match holds no name that leads the text. -/
lemma bestMatch_eq_none_iff {index : Nat} :
    bestMatch caseSensitive data index names = none ↔
      ∀ name ∈ names, ¬ Leads caseSensitive name data := by
  induction names generalizing index with
  | nil => simp [bestMatch]
  | cons first names ih =>
      rw [bestMatch, longerMatch_eq_none_iff, Option.map_eq_none_iff, behindName?_eq_none_iff, ih,
        List.forall_mem_cons]

/-- The match in a list is its choice.  By induction on the list: the choice behind its first name
gives way to that name, if it leads the text, unless the choice is longer. -/
lemma isChoice_of_bestMatch {index k m : Nat}
    (h : bestMatch caseSensitive data index names = some (k, m, rest)) :
    ∃ i name, k = index + i ∧ m = name.length ∧ IsChoice caseSensitive data names i name ∧
      data = data.take name.length ++ rest := by
  induction names generalizing index k m rest with
  | nil => cases h
  | cons first names ih =>
      rw [bestMatch] at h
      cases found : behindName? caseSensitive first data with
      | none =>
          have absent := behindName?_eq_none_iff.mp found
          rw [found] at h
          obtain ⟨i, name, rfl, rfl, choice, parts⟩ := ih h
          exact ⟨i + 1, name, by omega, rfl, choice.cons fun leads => absurd leads absent, parts⟩
      | some behind =>
          obtain ⟨leads, parts⟩ := behindName?_eq_some_iff.mp found
          rw [found] at h
          cases best : bestMatch caseSensitive data (index + 1) names with
          | none =>
              have absent := bestMatch_eq_none_iff.mp best
              rw [best] at h
              cases h
              exact ⟨0, first, rfl, rfl,
                .head leads fun other mem found => absurd found (absent other mem), parts⟩
          -- two candidates: the one further back has to be longer, as ties go to the front
          | some later =>
              obtain ⟨k', m', rest'⟩ := later
              obtain ⟨i, name, rfl, rfl, choice, parts'⟩ := ih best
              rw [best, Option.map_some, longerMatch] at h
              split at h
              · rename_i longer
                cases h
                exact ⟨i + 1, name, by omega, rfl, choice.cons fun _ => longer, parts'⟩
              · rename_i short
                cases h
                refine ⟨0, first, rfl, rfl, .head leads fun other mem found => ?_, parts⟩
                exact Nat.le_trans (choice.longest other mem found) (Nat.le_of_not_lt short)

/-- What is found in a list is its choice, with what is behind it. -/
lemma firstMatch_eq_some_iff_isChoice {i : Nat} :
    firstMatch data names caseSensitive = some (i, rest) ↔
      ∃ name, IsChoice caseSensitive data names i name ∧ data = data.take name.length ++ rest := by
  rw [firstMatch, Option.map_eq_some_iff]
  constructor
  · rintro ⟨⟨k, m, left⟩, best, same⟩
    cases same
    obtain ⟨i, name, rfl, -, choice, parts⟩ := isChoice_of_bestMatch best
    rw [Nat.zero_add]
    exact ⟨name, choice, parts⟩
  · rintro ⟨name, choice, parts⟩
    -- there is a match, it is a choice too, and there are no two of them
    cases best : bestMatch caseSensitive data 0 names with
    | none =>
        have absent := bestMatch_eq_none_iff.mp best name (List.mem_of_getElem? choice.place)
        exact absurd choice.leads absent
    | some found =>
        obtain ⟨k, m, behind⟩ := found
        obtain ⟨j, other, rfl, -, choice', parts'⟩ := isChoice_of_bestMatch best
        obtain ⟨rfl, rfl⟩ := choice.unique choice'
        obtain rfl : rest = behind := List.append_cancel_left (parts.symm.trans parts')
        exact ⟨_, rfl, by rw [Nat.zero_add]⟩

/-- Nothing is found only where no name of the list leads the text. -/
lemma firstMatch_eq_none_iff :
    firstMatch data names caseSensitive = none ↔
      ∀ name ∈ names, ¬ Leads caseSensitive name data := by
  rw [firstMatch, Option.map_eq_none_iff, bestMatch_eq_none_iff]

/-- Of the names at the front of a text the longest one is found, and of those that are equally
long the first in the list, whatever names there are.  Nothing is found only where none of them is
at the front. -/
theorem firstMatch_longest_earliest (data : Octets) (names : List Octets) (caseSensitive : Bool) :
    (∀ i rest, firstMatch data names caseSensitive = some (i, rest) ↔
      ∃ name, IsChoice caseSensitive data names i name ∧
        data = data.take name.length ++ rest) ∧
      (firstMatch data names caseSensitive = none ↔
        ∀ name ∈ names, ¬ Leads caseSensitive name data) :=
  ⟨fun _ _ => firstMatch_eq_some_iff_isChoice, firstMatch_eq_none_iff⟩

/-- Four names lead the text if case does not matter.  Two of them are the longest, and the first of
these is found. -/
example :
    let names := ["", "jun", "june", "JUNE"].map Octets.ofAscii
    (∀ name ∈ names, Leads false name (.ofAscii "JUNEs")) ∧
      firstMatch (.ofAscii "JUNEs") names false = some (2, .ofAscii "s") := by
  decide

end CalendarText
