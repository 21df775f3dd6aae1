/-
Names, read back in front of other text.

None of the names that components are written with begins with another one of its table, with
capital and small letters alike.  So at most one name of a table stands at the front of a text,
and it does not matter that the longest one is taken.

* `Apart`: neither of two names begins with the other;
* `behindName?_append_eq_some_iff`: what a name takes from the front of a text;
* `isChoice_of_apart`: the name that stands there is the only one to choose from;
* `firstMatch_eq_some_iff`: of a table of names that are apart, the one that stands there is found;
* `firstMatch_append`: such a name is found in front of any text;
* `Month.firstMatch_name` and its like: the tables of months, weekdays and halves of the day.
-/
import CalendarText.Calendar.Names
import CalendarText.Proofs.Reading.Choice

namespace CalendarText

open Octets (foldCase)

/-- Neither name begins with the other, whatever their case. -/
def Apart (a b : Octets) : Prop :=
  ¬ foldCase a <+: foldCase b ∧ ¬ foldCase b <+: foldCase a

instance (a b : Octets) : Decidable (Apart a b) :=
  inferInstanceAs (Decidable (_ ∧ _))

/-! ### One name -/

/-- A name takes as many octets as it has, which are its letters up to case, whatever follows. -/
lemma behindName?_append_eq_some_iff {caseSensitive : Bool} {name token rest : Octets} :
    behindName? caseSensitive name (token ++ rest) = some rest ↔
      if caseSensitive then token = name else foldCase token = foldCase name := by
  rw [behindName?_eq_some_iff, Leads, ← Octets.foldCase_eq_iff]
  constructor
  · rintro ⟨leads, parts⟩
    rwa [← List.append_cancel_right parts] at leads
  · intro same
    have length : token.length = name.length := by
      cases caseSensitive with
      | true => exact congrArg List.length same
      | false =>
          rw [← Octets.length_foldCase token, ← Octets.length_foldCase name]
          exact congrArg List.length same
    rw [List.take_left' length]
    exact ⟨same, rfl⟩

/-- A name is found in front of any text. -/
lemma behindName?_append (caseSensitive : Bool) (name rest : Octets) :
    behindName? caseSensitive name (name ++ rest) = some rest := by
  rw [behindName?_append_eq_some_iff]
  split <;> rfl

/-- Where a name leads a text, no name that is apart from it does. -/
lemma Apart.not_leads {a b data : Octets} (apart : Apart a b) {caseSensitive : Bool}
    (leads : Leads caseSensitive a data) : ¬ Leads caseSensitive b data := by
  intro found
  obtain h | h := List.prefix_or_prefix_of_prefix leads.isPrefix found.isPrefix
  · exact apart.1 h
  · exact apart.2 h

/-! ### Tables of names -/

/-- Among names that are apart, two that lead a text stand at one place. -/
lemma eq_of_leads {names : List Octets} (apart : names.Pairwise Apart) {i j : Nat} {a b : Octets}
    (first : names[i]? = some a) (second : names[j]? = some b) {caseSensitive : Bool}
    {data : Octets} (leads : Leads caseSensitive a data) (found : Leads caseSensitive b data) :
    i = j := by
  obtain ⟨inside, rfl⟩ := List.getElem?_eq_some_iff.mp first
  obtain ⟨inside', rfl⟩ := List.getElem?_eq_some_iff.mp second
  have pairs := List.pairwise_iff_getElem.mp apart
  obtain before | same | behind := Nat.lt_trichotomy i j
  · exact absurd found ((pairs i j inside inside' before).not_leads leads)
  · exact same
  · exact absurd leads ((pairs j i inside' inside behind).not_leads found)

/-- Among names that are apart, the one that leads a text is the choice. -/
lemma isChoice_of_apart {names : List Octets} (apart : names.Pairwise Apart) {i : Nat}
    {name : Octets} (place : names[i]? = some name) {caseSensitive : Bool} {data : Octets}
    (leads : Leads caseSensitive name data) : IsChoice caseSensitive data names i name where
  place := place
  leads := leads
  longest := by
    intro other mem found
    obtain ⟨j, place'⟩ := List.mem_iff_getElem?.mp mem
    obtain rfl := eq_of_leads apart place place' leads found
    obtain rfl := Option.some.inj (place.symm.trans place')
    exact Nat.le_refl _
  earliest := by
    intro j before other place' found
    exact absurd (eq_of_leads apart place place' leads found) (Nat.ne_of_gt before)

/-- Among names that are apart, exactly those that stand at the front of a text are found. -/
lemma firstMatch_eq_some_iff {names : List Octets} (apart : names.Pairwise Apart)
    {caseSensitive : Bool} {data rest : Octets} {i : Nat} :
    firstMatch data names caseSensitive = some (i, rest) ↔
      ∃ name, names[i]? = some name ∧ behindName? caseSensitive name data = some rest := by
  rw [firstMatch_eq_some_iff_isChoice]
  constructor
  · rintro ⟨name, choice, parts⟩
    exact ⟨name, choice.place, behindName?_eq_some_iff.mpr ⟨choice.leads, parts⟩⟩
  · rintro ⟨name, place, stands⟩
    obtain ⟨leads, parts⟩ := behindName?_eq_some_iff.mp stands
    exact ⟨name, isChoice_of_apart apart place leads, parts⟩

/-- A name of a table of names that are apart is found in front of any text. -/
lemma firstMatch_append {names : List Octets} (apart : names.Pairwise Apart) {i : Nat}
    {name : Octets} (place : names[i]? = some name) (caseSensitive : Bool) (rest : Octets) :
    firstMatch (name ++ rest) names caseSensitive = some (i, rest) :=
  (firstMatch_eq_some_iff apart).mpr ⟨name, place, behindName?_append caseSensitive name rest⟩

/-! ### The tables of the library -/

lemma Month.pairwise_apart_name : (all.map name).Pairwise Apart := by
  decide

lemma Month.pairwise_apart_shortName : (all.map shortName).Pairwise Apart := by
  decide

lemma Weekday.pairwise_apart_name : (all.map name).Pairwise Apart := by
  decide

lemma Weekday.pairwise_apart_shortName : (all.map shortName).Pairwise Apart := by
  decide

lemma pairwise_apart_periodName (uppercase : Bool) :
    [periodName uppercase false, periodName uppercase true].Pairwise Apart := by
  cases uppercase <;> decide

lemma Month.firstMatch_name (m : Month) (caseSensitive : Bool) (rest : Octets) :
    firstMatch (m.name ++ rest) (all.map name) caseSensitive =
      some ((m.number - 1).toNat, rest) :=
  firstMatch_append pairwise_apart_name (by cases m <;> rfl) caseSensitive rest

lemma Month.firstMatch_shortName (m : Month) (caseSensitive : Bool) (rest : Octets) :
    firstMatch (m.shortName ++ rest) (all.map shortName) caseSensitive =
      some ((m.number - 1).toNat, rest) :=
  firstMatch_append pairwise_apart_shortName (by cases m <;> rfl) caseSensitive rest

lemma Weekday.firstMatch_name (w : Weekday) (caseSensitive : Bool) (rest : Octets) :
    firstMatch (w.name ++ rest) (all.map name) caseSensitive = some (w.index.toNat, rest) :=
  firstMatch_append pairwise_apart_name (by cases w <;> rfl) caseSensitive rest

lemma Weekday.firstMatch_shortName (w : Weekday) (caseSensitive : Bool) (rest : Octets) :
    firstMatch (w.shortName ++ rest) (all.map shortName) caseSensitive =
      some (w.index.toNat, rest) :=
  firstMatch_append pairwise_apart_shortName (by cases w <;> rfl) caseSensitive rest

lemma firstMatch_periodName (uppercase pm caseSensitive : Bool) (rest : Octets) :
    firstMatch (periodName uppercase pm ++ rest)
        [periodName uppercase false, periodName uppercase true] caseSensitive =
      some (if pm then 1 else 0, rest) := by
  refine firstMatch_append (pairwise_apart_periodName uppercase) ?_ caseSensitive rest
  cases pm <;> rfl

end CalendarText
