/-
The stages of parsing a value.

A text is first matched with the layout, then nothing may be left of it, and then the fields are
resolved.  The first stage that fails is what the failure tells of, and nothing but such a failure
can come out of parsing, however a number was got from the text and whatever is checked on the way.

* `Cause.IsUnresolved`, `ValueKind.resolving_determine`: why fields do not determine a value;
* `ParseEnds`, `parseEnds_parseValue`: the four ways in which parsing a value ends;
* `parseValue_stages`: each end comes exactly at its stage.
-/
import CalendarText.Proofs.Reading.Layout
import CalendarText.Proofs.Reading.Recheck
import CalendarText.Reading.Format

namespace CalendarText

/-! ### Resolving -/

/-- Fields say too little, contradict each other, or name a quantity out of its range. -/
def Cause.IsUnresolved (c : Cause) : Prop :=
  (∃ e, c = .range e) ∨ c = .insufficient ∨ ∃ field, c = .inconsistent field

/-- A computation that fails only where fields do not determine a value. -/
def Resolving {A : Type} (x : Except Cause A) : Prop :=
  ∀ cause, x = .error cause → cause.IsUnresolved

namespace Resolving

variable {A B : Type}

lemma ok (a : A) : Resolving (.ok a) :=
  nofun

lemma error {cause : Cause} (h : cause.IsUnresolved) :
    Resolving (.error cause : Except Cause A) := by
  intro other same
  cases same
  exact h

lemma range (x : Except RangeError A) : Resolving (x.mapError .range) := by
  cases x with
  | ok a => exact ok a
  | error e => exact error (.inl ⟨e, rfl⟩)

lemma bind {x : Except Cause A} {f : A → Except Cause B} (hx : Resolving x)
    (hf : ∀ a, Resolving (f a)) : Resolving (x >>= f) := by
  cases x with
  | ok a => exact hf a
  | error cause => exact error (hx cause rfl)

lemma map {x : Except Cause A} (hx : Resolving x) (f : A → B) : Resolving (x.map f) := by
  cases x with
  | ok a => exact ok (f a)
  | error cause => exact error (hx cause rfl)

/-- What was found is refused only if some field contradicts it. -/
lemma agreeing (a : A) (contradiction : Option Field) :
    Resolving (match contradiction with
      | some f => throw (.inconsistent f.name)
      | none => pure a : Except Cause A) := by
  cases contradiction with
  | none => exact ok a
  | some f => exact error (.inr (.inr ⟨f.name, rfl⟩))

end Resolving

namespace Fields

variable (p : Fields)

lemma resolving_date : Resolving p.date := by
  have named : Resolving p.namedDate := by
    rw [namedDate]
    split
    · exact .range _
    · exact .error (.inr (.inl rfl))
  exact named.bind fun d => .agreeing d _

lemma resolving_time : Resolving p.time := by
  have named (hour : Int) : Resolving (p.namedTime hour) := by
    rw [namedTime]
    split
    · exact .range _
    · split
      · exact .range _
      · exact .error (.inr (.inl rfl))
  rw [time]
  split
  · exact .error (.inr (.inl rfl))
  · exact (named _).bind fun t => .agreeing t _

lemma resolving_offset : Resolving p.offset := by
  rw [offset]
  split
  · exact .error (.inr (.inl rfl))
  · exact .range _

end Fields

namespace ValueKind

/-- Where fields do not determine a value, they say too little, contradict each other, or name a
quantity out of its range. -/
lemma resolving_determine (kind : ValueKind) (p : Fields) : Resolving (kind.determine p) := by
  have date := p.resolving_date
  have time := p.resolving_time
  have offset := p.resolving_offset
  cases kind with
  | date => exact date.map _
  | time => exact time.map _
  | offset => exact offset.map _
  | dateTime => exact date.bind fun d => time.bind fun t => .ok _
  | offsetDateTime => exact date.bind fun d => time.bind fun t => offset.bind fun o => .ok _

/-- The value that is determined is of the kind that was asked for. -/
lemma kind_of_determine {kind : ValueKind} {p : Fields} {v : Value}
    (h : kind.determine p = .ok v) : v.kind = kind := by
  cases kind with
  | date | time | offset =>
      obtain ⟨part, -, rfl⟩ := Outcome.map_eq_ok_iff.mp h
      rfl
  | dateTime =>
      obtain ⟨d, -, rest⟩ := Outcome.bind_eq_ok_iff.mp h
      obtain ⟨t, -, same⟩ := Outcome.bind_eq_ok_iff.mp rest
      cases same
      rfl
  | offsetDateTime =>
      obtain ⟨d, -, rest⟩ := Outcome.bind_eq_ok_iff.mp h
      obtain ⟨t, -, rest⟩ := Outcome.bind_eq_ok_iff.mp rest
      obtain ⟨o, -, same⟩ := Outcome.bind_eq_ok_iff.mp rest
      cases same
      rfl

end ValueKind

/-! ### How parsing ends -/

/-- How parsing a text as a value of a kind ends: something is missed, something is left, the fields
do not determine a value, or they do. -/
inductive ParseEnds (kind : ValueKind) (l : Layout) (text : Octets) : Except Fault Value → Prop
  | missed {cause : Cause} : cause.IsMiss →
    (∀ token rest numbers, text = token ++ rest → ¬l.Matches rest token numbers) →
    ParseEnds kind l text (.error (.failure (.within .parsing (.bare cause))))
  | trailing {token rest : Octets} {numbers : List (Field × Int)} : text = token ++ rest →
    l.Matches rest token numbers → rest ≠ [] →
    ParseEnds kind l text (.error (.failure (.within .parsing (.bare .trailing))))
  | unresolved {numbers : List (Field × Int)} {cause : Cause} : l.Matches [] text numbers →
    kind.resolve (Fields.empty.assign numbers) = .error (.resolving cause) → cause.IsUnresolved →
    ParseEnds kind l text
      (.error (.failure (.within .parsing (.within .resolving (.bare cause)))))
  | value {numbers : List (Field × Int)} {v : Value} : l.Matches [] text numbers →
    kind.resolve (Fields.empty.assign numbers) = .ok v → v.kind = kind →
    ParseEnds kind l text (.ok v)

variable {description : Item} {l : Layout} {text : Octets}

/-- Every parse ends in one of these ways. -/
lemma parseEnds_parseValue (kind : ValueKind) (known : description.layout = .ok l)
    (readable : l.isReadable = true) :
    ParseEnds kind l text (parseValue kind text description) := by
  obtain ⟨reading, reads⟩ := l.exists_reads readable text
  rw [parseValue, reads.runOn_parseFormat known]
  cases reading with
  | error cause =>
      have miss := reads.isMiss cause rfl
      -- a miss is what the layer of parsing stores, so no other layer comes in between
      have wrapped : Fault.wrapped .parsing (.bare cause) =
          .failure (.within .parsing (.bare cause)) := by
        obtain rfl | ⟨name, rfl⟩ := miss <;> rfl
      have away : ∀ token rest numbers, text = token ++ rest → ¬l.Matches rest token numbers := by
        intro token rest numbers same matched
        cases (reads.eq_ok_iff numbers rest).mpr ⟨token, same, matched⟩
      have ends : ParseEnds kind l text _ := .missed miss away
      rwa [← wrapped] at ends
  | ok reading =>
      obtain ⟨numbers, rest⟩ := reading
      obtain ⟨token, same, matched⟩ := (reads.eq_ok_iff numbers rest).mp rfl
      show ParseEnds kind l text (if rest = [] then _ else _)
      split
      · rename_i whole
        subst whole
        obtain rfl : text = token := same.trans (List.append_nil token)
        cases found : kind.determine (Fields.empty.assign numbers) with
        | ok v =>
            have resolved : kind.resolve (Fields.empty.assign numbers) = .ok v := by
              rw [ValueKind.resolve, found]
              rfl
            rw [resolved]
            exact .value matched resolved (ValueKind.kind_of_determine found)
        | error cause =>
            have failed : kind.resolve (Fields.empty.assign numbers) =
                .error (.resolving cause) := by
              rw [ValueKind.resolve, found]
              rfl
            have unresolved := kind.resolving_determine _ cause found
            rw [failed]
            exact .unresolved matched failed unresolved
      · rename_i some
        exact .trailing same matched some

namespace ParseEnds

variable {kind : ValueKind} {result : Except Fault Value}

/-- Something is missed exactly when the layout does not match at the front. -/
lemma missed_iff (ends : ParseEnds kind l text result) :
    (∃ cause : Cause, result = .error (.failure (.within .parsing (.bare cause))) ∧ cause.IsMiss) ↔
      ∀ token rest numbers, text = token ++ rest → ¬l.Matches rest token numbers := by
  constructor
  · rintro ⟨cause, rfl, miss⟩
    cases ends with
    | missed _ away => exact away
    | trailing => obtain same | ⟨name, same⟩ := miss <;> cases same
  · intro away
    cases ends with
    | missed miss _ => exact ⟨_, rfl, miss⟩
    | trailing same matched _ => exact absurd matched (away _ _ _ same)
    | unresolved matched _ _ => exact absurd matched (away _ _ _ (List.append_nil text).symm)
    | value matched _ _ => exact absurd matched (away _ _ _ (List.append_nil text).symm)

/-- A trailing rest is found exactly when the layout matches and something is left. -/
lemma trailing_iff (readable : l.isReadable = true) (ends : ParseEnds kind l text result) :
    result = .error (.failure (.within .parsing (.bare .trailing))) ↔
      ∃ token rest numbers, text = token ++ rest ∧ l.Matches rest token numbers ∧ rest ≠ [] := by
  constructor
  · rintro rfl
    cases ends with
    | missed miss _ => obtain same | ⟨name, same⟩ := miss <;> cases same
    | trailing same matched some => exact ⟨_, _, _, same, matched, some⟩
  · rintro ⟨token, rest, numbers, same, matched, some⟩
    have whole {others : List (Field × Int)} (all : l.Matches [] text others) : rest = [] :=
      (Layout.matches_unique readable same matched (List.append_nil text).symm all).2
    cases ends with
    | missed _ away => exact absurd matched (away _ _ _ same)
    | trailing => rfl
    | unresolved all _ _ => exact absurd (whole all) some
    | value all _ _ => exact absurd (whole all) some

/-- The fields are to blame exactly when the layout matches to the end and they do not resolve. -/
lemma unresolved_iff (readable : l.isReadable = true) (ends : ParseEnds kind l text result) :
    (∃ inner, result = .error (.failure (.within .parsing (.within .resolving inner)))) ↔
      ∃ numbers, l.Matches [] text numbers ∧
        ∀ v, kind.resolve (Fields.empty.assign numbers) ≠ .ok v := by
  have end_eq : text = text ++ [] := (List.append_nil text).symm
  constructor
  · rintro ⟨inner, rfl⟩
    cases ends with
    | unresolved matched failed _ =>
        refine ⟨_, matched, fun v resolved => ?_⟩
        rw [failed] at resolved
        cases resolved
  · rintro ⟨numbers, matched, unresolved⟩
    cases ends with
    | missed _ away => exact absurd matched (away _ _ _ end_eq)
    -- tokens are determined by the text, so a rest and a full match exclude each other
    | trailing same other some =>
        exact absurd (Layout.matches_unique readable same other end_eq matched).2 some
    | unresolved _ _ _ => exact ⟨_, rfl⟩
    | value other resolved _ =>
        obtain ⟨rfl, -⟩ := Layout.matches_unique readable end_eq matched end_eq other
        exact absurd resolved (unresolved _)

/-- A value is found exactly when the layout matches to the end and the fields resolve to it. -/
lemma value_iff (readable : l.isReadable = true) (ends : ParseEnds kind l text result) {v : Value} :
    result = .ok v ↔ ∃ numbers, l.Matches [] text numbers ∧
      kind.resolve (Fields.empty.assign numbers) = .ok v := by
  have end_eq : text = text ++ [] := (List.append_nil text).symm
  constructor
  · rintro rfl
    cases ends with
    | value matched resolved _ => exact ⟨_, matched, resolved⟩
  · rintro ⟨numbers, matched, resolved⟩
    cases ends with
    | missed _ away => exact absurd matched (away _ _ _ end_eq)
    | trailing same other some =>
        exact absurd (Layout.matches_unique readable same other end_eq matched).2 some
    | unresolved other failed _ =>
        -- the two matches are the same, and so are their numbers
        obtain ⟨rfl, -⟩ := Layout.matches_unique readable end_eq matched end_eq other
        rw [resolved] at failed
        cases failed
    | value other found _ =>
        obtain ⟨rfl, -⟩ := Layout.matches_unique readable end_eq matched end_eq other
        rw [found] at resolved
        cases resolved
        rfl

end ParseEnds

/-- **The failure tells the stage.**  Parsing a text as a value of a kind ends with a value of that
kind, or with a failure to parse.  A literal or a component is reported exactly when the layout does
not match at the front of the text; a trailing rest exactly when it does and something is left,
whatever the fields would say; and the fields exactly when the layout matches the whole text and
they do not resolve, because they say too little, contradict each other, or name a quantity out of
its range.  Each number on the way is got in a way that cannot fail, and if all fields are checked
again with every component, nothing else comes to light. -/
theorem parseValue_stages (kind : ValueKind) (text : Octets)
    (known : description.layout = .ok l) (readable : l.isReadable = true) :
    ((∃ v, parseValue kind text description = .ok v ∧ v.kind = kind) ∨
      ∃ inner cause, parseValue kind text description =
          .error (.failure (.within .parsing inner)) ∧
        ((inner = .bare cause ∧ (cause.IsMiss ∨ cause = .trailing)) ∨
          (inner = .within .resolving (.bare cause) ∧ cause.IsUnresolved))) ∧
    ((∃ cause : Cause, parseValue kind text description =
          .error (.failure (.within .parsing (.bare cause))) ∧ cause.IsMiss) ↔
      ∀ token rest numbers, text = token ++ rest → ¬l.Matches rest token numbers) ∧
    (parseValue kind text description =
        .error (.failure (.within .parsing (.bare .trailing))) ↔
      ∃ token rest numbers, text = token ++ rest ∧ l.Matches rest token numbers ∧ rest ≠ []) ∧
    ((∃ inner, parseValue kind text description =
          .error (.failure (.within .parsing (.within .resolving inner)))) ↔
      ∃ numbers, l.Matches [] text numbers ∧
        ∀ v, kind.resolve (Fields.empty.assign numbers) ≠ .ok v) ∧
    (∀ v, parseValue kind text description = .ok v ↔
      ∃ numbers, l.Matches [] text numbers ∧
        kind.resolve (Fields.empty.assign numbers) = .ok v) ∧
    (Rechecked.format description text).runOn .empty = (parseFormat description text).runOn .empty ∧
    ∀ (c : Component) (data rest : Octets) (numbers : List (Field × Int)),
      c.read? data = some (numbers, rest) → ∀ x ∈ numbers, Reading.Sourced data x := by
  have ends : ParseEnds kind l text _ := parseEnds_parseValue kind known readable
  refine ⟨?_, ends.missed_iff, ends.trailing_iff readable, ends.unresolved_iff readable,
    fun v => ends.value_iff readable, ?_, fun c data rest numbers => Component.sourced_of_read?⟩
  · generalize parseValue kind text description = result at ends
    cases ends with
    | missed miss _ => exact .inr ⟨_, _, rfl, .inl ⟨rfl, .inl miss⟩⟩
    | trailing => exact .inr ⟨_, _, rfl, .inl ⟨rfl, .inr rfl⟩⟩
    | unresolved _ _ unresolved => exact .inr ⟨_, _, rfl, .inr ⟨rfl, unresolved⟩⟩
    | value _ _ same => exact .inl ⟨_, rfl, same⟩
  · -- the run begins empty, which is valid, so checking again changes nothing
    exact (Rechecked.rechecks_format description text).runOn .empty Fields.valid_empty

/-- An hour that no day has: as long as an octet is left of the text, that is what the failure
tells of. -/
theorem parseValue_stages_hour24 :
    let description : Item := .compound [.component (.ofKind .hour), .literal [58],
      .component (.ofKind .minute)]
    let l : Layout := .items [description]
    let text := Octets.ofAscii "24:00"
    let longer := Octets.ofAscii "24:00x"
    description.layout = .ok l ∧ l.isReadable = true ∧
      parseValue .time longer description =
        .error (.failure (.within .parsing (.bare .trailing))) ∧
      (∃ token rest numbers, longer = token ++ rest ∧ l.Matches rest token numbers ∧ rest ≠ []) ∧
      parseValue .time text description =
        .error (.failure (.within .parsing (.within .resolving
          (.bare (.range ⟨"hour", 0, 23, 24, false⟩))))) ∧
      ∃ numbers, l.Matches [] text numbers ∧
        ∀ v, ValueKind.time.resolve (Fields.empty.assign numbers) ≠ .ok v := by
  intro description l text longer
  have known : description.layout = .ok l := rfl
  have readable : l.isReadable = true := rfl
  have left : parseValue .time longer description =
      .error (.failure (.within .parsing (.bare .trailing))) := by
    rw [parseValue, (Layout.reads_items rfl longer).runOn_parseFormat known]
    rfl
  have range : parseValue .time text description =
      .error (.failure (.within .parsing (.within .resolving
        (.bare (.range ⟨"hour", 0, 23, 24, false⟩))))) := by
    rw [parseValue, (Layout.reads_items rfl text).runOn_parseFormat known]
    rfl
  obtain ⟨-, -, trailing, -⟩ := parseValue_stages .time longer known readable
  obtain ⟨-, -, -, unresolved, -⟩ := parseValue_stages .time text known readable
  exact ⟨known, readable, left, trailing.mp left, range, unresolved.mp ⟨_, range⟩⟩

end CalendarText
