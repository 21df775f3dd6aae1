/-
Components written and read back, one by one.

Whatever text stands behind a component that was written, and whatever the fields hold, the
component is read back from the front of it: the text behind is left as it is, and the component's
own fields take up what was shown of the value.

* `Component.get_assign_numbers`: the fields after the numbers that a component shows;
* `Component.readComponent_write`: reading a component is inverse to writing it.
-/
import CalendarText.Proofs.Reading.Component
import CalendarText.Proofs.Reading.Leaves
import CalendarText.Reading.Operation

namespace CalendarText

/-- Where no part is absent, every field has a number that belongs into it. -/
lemma Parts.exists_quantity (d : Date) (t : Time) (o : UtcOffset) (f : Field) :
    ∃ n, (⟨some d, some t, some o⟩ : Parts).quantity? f = some n := by
  cases f <;> exact ⟨_, rfl⟩

namespace Component

variable {parts : Parts} {c : Component} {f : Field}

/-- The fields of a component take up what it shows; all others are as they were. -/
lemma get_assign_numbers (p : Fields) (known : ∃ n, parts.quantity? f = some n) :
    (p.assign (c.numbers parts)).get f =
      if f ∈ c.targets then (parts.quantity? f).map c.shown else p.get f := by
  by_cases target : f ∈ c.targets
  · obtain ⟨n, known⟩ := known
    have shows : (parts.quantity? f).map c.shown = some (c.shown n) := by rw [known]; rfl
    have agree : ∀ x ∈ c.numbers parts, x.1 = f → x.2 = c.shown n := by
      rintro ⟨g, m⟩ mem rfl
      exact Option.some.inj ((mem_numbers_iff.mp mem).2.symm.trans shows)
    rw [if_pos target, shows]
    exact Fields.get_assign_eq agree (mem_numbers_iff.mpr ⟨target, shows⟩)
  · rw [if_neg target]
    apply Fields.get_assign_of_notMem
    rintro ⟨g, m⟩ mem rfl
    exact target (mem_numbers_iff.mp mem).1

/-- **Reading a component is inverse to writing it.**  A date, a time and an offset have a text
for every component.  In front of any other text, which must begin with no digit if the component
is a number of varying length and is not full, and on fields that hold anything, that text is read
to its end and no further.  The fields of the component then hold what it shows of the date, the
time or the offset, and all other fields what they held before. -/
theorem readComponent_write (c : Component) (d : Date) (t : Time) (o : UtcOffset)
    (rest : Octets) :
    let parts : Parts := ⟨some d, some t, some o⟩
    ∃ text, c.write? parts = some text ∧
      (c.Delimited text rest → ∀ p : Fields, ∃ q : Fields,
        (Operation.readComponent (text ++ rest) c).run.runOn p = (.ok (.rest rest), q) ∧
        ∀ f, q.get f = if f ∈ c.targets then (parts.quantity? f).map c.shown else p.get f) := by
  intro parts
  -- all parts are there, so whatever the component needs is
  have carried : parts.capabilities.has c.kind.requires = true := by
    cases c.kind.requires <;> rfl
  rw [← isSome_write?, Option.isSome_iff_exists] at carried
  obtain ⟨text, written⟩ := carried
  refine ⟨text, written, ?_⟩
  intro delimited p
  refine ⟨p.assign (c.numbers parts), ?_, ?_⟩
  · rw [Operation.run, FieldReader.runOn_map, FieldReader.runOn_fillIn,
      parse_append written delimited]
    rfl
  · intro f
    exact get_assign_numbers p (Parts.exists_quantity d t o f)

/-- Half an hour west of UTC: the hour is written `-0`, in front of a colon, and its sign is kept
in a field that held the opposite. -/
theorem readComponent_write_halfHourWest :
    let c : Component := .offsetHour { padding := .none }
    let d : Date := ⟨-9999, .january, 1, by decide, by decide⟩
    let west : UtcOffset := ⟨0, -30, 0, by decide, by decide, by decide, by decide⟩
    c.write? ⟨some d, some .midnight, some west⟩ = some (Octets.ofAscii "-0") ∧
      c.Delimited (Octets.ofAscii "-0") (Octets.ofAscii ":30") ∧
      ∃ q, (Operation.readComponent (Octets.ofAscii "-0:30") c).run.runOn
          (Fields.empty.put .minute (some 59)) = (.ok (.rest (Octets.ofAscii ":30")), q) ∧
        q.get .offsetHour = some 0 ∧ q.get .offsetIsNegative = some 1 ∧
        q.get .minute = some 59 := by
  intro c d west
  have shown : c.write? ⟨some d, some .midnight, some west⟩ = some (Octets.ofAscii "-0") := by
    decide
  have delimited : c.Delimited (Octets.ofAscii "-0") (Octets.ofAscii ":30") := by decide
  obtain ⟨text, written, inverse⟩ :=
    readComponent_write c d .midnight west (Octets.ofAscii ":30")
  obtain rfl : Octets.ofAscii "-0" = text := Option.some.inj (shown.symm.trans written)
  obtain ⟨q, read, holds⟩ := inverse delimited (Fields.empty.put .minute (some 59))
  exact ⟨shown, delimited, q, read, holds .offsetHour, holds .offsetIsNegative, holds .minute⟩

end Component

end CalendarText
