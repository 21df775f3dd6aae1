/-
Reading does not depend on what was read before.

Whatever operations have led to the fields, and even if all of them are checked again with every
component, a description takes the same token from a text, or misses the same thing.  The fields of
the token then hold the same, and all others what they held.

* `Rechecked.runOn_format`: what happens on reached fields is settled by the text;
* `Rechecked.format_independent`: two runs of a description, on fields of different histories.
-/
import CalendarText.Proofs.Reading.Layout
import CalendarText.Proofs.Reading.Recheck

namespace CalendarText

open FieldReader

namespace Rechecked

variable {description : Item} {l : Layout} {data : Octets} {p q : Fields}

/-- What happens on reached fields is settled by the text, with or without another check. -/
lemma runOn_format {reading : Except Cause Reading} (known : description.layout = .ok l)
    (reads : l.Reads data reading) (reached : Reached p) :
    (format description data).runOn p = p.outcome reading ∧
      (parseFormat description data).runOn p = p.outcome reading := by
  have whole := reads.runOn_parseFormat known p
  exact ⟨((rechecks_format description data).runOn p reached.valid).trans whole, whole⟩

/-- **Reading does not depend on what the fields hold.**  Take two states, each of which was reached
by some operations, a description that can be read, and a text.  Either the description takes a
token of the text in both states, and leaves the same: then each field for which the token gives a
number holds the same in both, and every other field holds what it held.  Or the same is missed in
both, and no field is changed.  It makes no difference whether all fields are checked again on the
way; and no component is ever missed because of what other fields hold. -/
theorem format_independent (known : description.layout = .ok l) (readable : l.isReadable = true)
    (hp : Reached p) (hq : Reached q) (data : Octets) :
    ((∃ token rest numbers, data = token ++ rest ∧ l.Matches rest token numbers ∧
        ∃ p' q' : Fields, (format description data).runOn p = (.ok rest, p') ∧
          (format description data).runOn q = (.ok rest, q') ∧
          (∀ f ∈ numbers.map Prod.fst, ∃ n, (f, n) ∈ numbers ∧ p'.get f = some n ∧
            q'.get f = some n) ∧
          ∀ f ∉ numbers.map Prod.fst, p'.get f = p.get f ∧ q'.get f = q.get f) ∨
      ∃ cause : Cause, cause.IsMiss ∧
        (∀ token rest numbers, data = token ++ rest → ¬l.Matches rest token numbers) ∧
        (format description data).runOn p = (.error (.ofCause cause), p) ∧
        (format description data).runOn q = (.error (.ofCause cause), q)) ∧
    (parseFormat description data).runOn p = (format description data).runOn p ∧
    ∀ c, (component data c).runOn p = p.outcome (c.parse data) := by
  obtain ⟨reading, reads⟩ := Layout.exists_reads readable data
  obtain ⟨onP, plain⟩ := runOn_format known reads hp
  obtain ⟨onQ, -⟩ := runOn_format known reads hq
  refine ⟨?_, plain.trans onP.symm, fun c => ?_⟩
  · rw [onP, onQ]
    cases reading with
    | ok reading =>
        left
        obtain ⟨numbers, rest⟩ := reading
        obtain ⟨token, same, matched⟩ := (reads.eq_ok_iff numbers rest).mp rfl
        refine ⟨token, rest, numbers, same, matched, _, _, rfl, rfl, ?_, ?_⟩
        · intro f given
          obtain ⟨n, mem, holds⟩ := Fields.exists_get_assign given
          exact ⟨n, mem, holds p, holds q⟩
        · intro f without
          exact ⟨Fields.get_assign_of_notMem_map without, Fields.get_assign_of_notMem_map without⟩
    | error cause =>
        right
        refine ⟨cause, reads.isMiss cause rfl, ?_, rfl, rfl⟩
        intro token rest numbers same matched
        have read := (reads.eq_ok_iff numbers rest).mpr ⟨token, same, matched⟩
        cases read
  · rw [(rechecks_component data c).runOn p hp.valid, runOn_fillIn]

/-- A month and an hour in a compound, read where a day is known that no month has, and where
nothing is.  The first run shows what the other one gives. -/
theorem format_independent_hour :
    let p := Fields.empty.put .day (some 99)
    let description : Item := .compound [.component (.ofKind .month),
      .compound [.literal [47], .component (.ofKind .hour)]]
    let data := Octets.ofAscii "02/17x"
    Reached p ∧ Reached .empty ∧
      (format description data).runOn p =
        (.ok (Octets.ofAscii "x"), (p.put .month (some 2)).put .hour24 (some 17)) ∧
      ∃ q', (format description data).runOn .empty = (.ok (Octets.ofAscii "x"), q') ∧
        q'.get .month = some 2 ∧ q'.get .hour24 = some 17 := by
  intro p description data
  have bounded := Field.Conversion.bounded_standard
  have seen : (operation (.readComponent (Octets.ofAscii "99") (.day .zero))).runOn .empty =
      (.ok (.rest []), p) := by
    rw [(rechecks_operation bounded _).runOn _ Fields.valid_empty]
    rfl
  have reached : Reached p := by
    have step := Reached.empty.step (.readComponent (Octets.ofAscii "99") (.day .zero)) bounded
    rwa [seen] at step
  have known : description.layout = .ok (.items [description]) := rfl
  have first : (format description data).runOn p =
      (.ok (Octets.ofAscii "x"), (p.put .month (some 2)).put .hour24 (some 17)) :=
    (runOn_format known (Layout.reads_items rfl data) reached).1
  obtain ⟨ends, -⟩ := format_independent known rfl reached .empty data
  refine ⟨reached, .empty, first, ?_⟩
  obtain ⟨token, rest, numbers, -, -, p', q', onP, onQ, given, others⟩ | ⟨_, -, -, onP, -⟩ := ends
  · rw [first] at onP
    cases onP
    -- a field that was empty before and is not now has its number from the token
    have fresh (f : Field) (n : Int) (before : p.get f = none)
        (after : ((p.put .month (some 2)).put .hour24 (some 17)).get f = some n) :
        q'.get f = some n := by
      by_cases mem : f ∈ numbers.map Prod.fst
      · obtain ⟨m, -, onFirst, onOther⟩ := given f mem
        rw [onOther, ← onFirst, after]
      · rw [(others f mem).1, before] at after
        cases after
    exact ⟨q', onQ, fresh .month 2 rfl rfl, fresh .hour24 17 rfl rfl⟩
  · rw [first] at onP
    cases onP

end Rechecked

end CalendarText
