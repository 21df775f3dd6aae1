/-
Runs of operations on fields.

Whatever an operation reads, it does no more to the fields than to fill in numbers that they can
hold, in the fields of its components.  A failed operation does nothing at all.  So the fields are
valid after every operation of a run, and those that an operation is not about stay as they are.

* `FieldReader.Fills`: an action fills numbers into some of the fields, and does nothing else;
* `Item.fills_parse`, `Rfc3339.fills_parse`: items fill in the fields of their leaves, the internet
  format those of a date, a time and an offset;
* `FieldReader.Atomic`: an action does nothing when it fails;
* `Operation.targets`, `Operation.sound_run`: the fields that an operation is about, and that it
  does no harm to the others, nor to validity;
* `Operation.run_sound`: the same along a run of operations, with any bounded conversion of the
  words and objects that are offered to it.
-/
import CalendarText.Proofs.Reading.Component
import CalendarText.Proofs.Reading.Run
import CalendarText.Reading.Operation

namespace CalendarText

/-! ### The numbers of a component -/

namespace Component

/-- A reading that is made of a token has the fields that it makes. -/
lemma fields_of_map {A : Type} {token : Option A} {make : A → Reading} {fields : List Field}
    {reading : Reading} (h : token.map make = some reading)
    (each : ∀ a, (make a).1.map Prod.fst = fields) : reading.1.map Prod.fst = fields := by
  obtain ⟨a, -, rfl⟩ := Option.map_eq_some_iff.mp h
  exact each a

/-- A component that is read gives a number for each of its fields, and for no other one. -/
lemma fields_of_read? {c : Component} {data : Octets} {reading : Reading}
    (h : c.read? data = some reading) : reading.1.map Prod.fst = c.targets := by
  -- the fields depend on the options alone, whatever the token is
  cases c with
  | day p | ordinal p | minute p | second p | offsetMinute p | offsetSecond p =>
      exact fields_of_map h fun _ => rfl
  | weekNumber o | hour o | period o | subsecond d | offsetHour o =>
      exact fields_of_map h fun _ => rfl
  | year o =>
      obtain ⟨padding, form, isoWeekBased, mandatory⟩ := o
      cases form <;> exact fields_of_map h fun _ => rfl
  | month o =>
      obtain ⟨padding, form, caseSensitive⟩ := o
      cases form with
      | numerical =>
          obtain ⟨numbers, rest⟩ := reading
          obtain ⟨n, -, -, rfl⟩ := taken_of_if h
          rfl
      | long | short => exact fields_of_map h fun _ => rfl
  | weekday o =>
      obtain ⟨form, oneIndexed, caseSensitive⟩ := o
      cases form with
      | long | short => exact fields_of_map h fun _ => rfl
      | sunday | monday =>
          obtain ⟨numbers, rest⟩ := reading
          obtain ⟨n, -, -, rfl⟩ := taken_of_if h
          rfl

/-- The numbers of a component are for its own fields, which can hold them. -/
lemma mem_targets_of_parse {c : Component} {data rest : Octets} {numbers : List (Field × Int)}
    (h : c.parse data = .ok (numbers, rest)) {x : Field × Int} (mem : x ∈ numbers) :
    x.1 ∈ c.targets ∧ x.1.admits x.2 = true := by
  refine ⟨?_, admits_of_parse h mem⟩
  rw [parse] at h
  split at h
  · rename_i read
    split at h
    · cases h
      rw [← fields_of_read? read]
      exact List.mem_map_of_mem mem
    · cases h
  · cases h

end Component

/-! ### What actions fill in -/

namespace FieldReader

/-- However the action ends, all that it has done is to fill numbers into these fields, which can
hold them. -/
def Fills {A : Type} (x : FieldReader A) (fields : List Field) : Prop :=
  ∀ p, ∃ numbers, (x.runOn p).2 = p.assign numbers ∧
    ∀ n ∈ numbers, n.1 ∈ fields ∧ n.1.admits n.2 = true

variable {A B : Type} {fields : List Field}

lemma fills_of_unchanged {x : FieldReader A} (h : ∀ p, (x.runOn p).2 = p) : x.Fills fields := by
  intro p
  exact ⟨[], h p, by simp⟩

lemma fills_pure (a : A) : Fills (pure a : FieldReader A) fields :=
  fills_of_unchanged fun _ => rfl

lemma fills_throw (fault : Fault) : Fills (throw fault : FieldReader A) fields :=
  fills_of_unchanged fun _ => rfl

lemma fills_fillIn {reading : Except Cause Reading}
    (held : ∀ numbers rest, reading = .ok (numbers, rest) →
      ∀ n ∈ numbers, n.1 ∈ fields ∧ n.1.admits n.2 = true) : Fills (fillIn reading) fields := by
  intro p
  rw [runOn_fillIn]
  cases reading with
  | error c => exact ⟨[], rfl, by simp⟩
  | ok reading => exact ⟨reading.1, rfl, held _ _ rfl⟩

lemma Fills.mono {x : FieldReader A} {more : List Field} (h : x.Fills fields)
    (sub : fields ⊆ more) : x.Fills more := by
  intro p
  obtain ⟨numbers, after, held⟩ := h p
  exact ⟨numbers, after, fun n mem => ⟨sub (held n mem).1, (held n mem).2⟩⟩

/-- What a second action fills in comes on top of the first one. -/
lemma Fills.bind {x : FieldReader A} {f : A → FieldReader B} (hx : x.Fills fields)
    (hf : ∀ a, (f a).Fills fields) : (x >>= f).Fills fields := by
  intro p
  obtain ⟨numbers, after, held⟩ := hx p
  rw [runOn_bind]
  generalize x.runOn p = ended at after ⊢
  obtain ⟨result, q⟩ := ended
  obtain rfl : q = p.assign numbers := after
  -- when the first action fails, the second one does not take place
  cases result with
  | error fault => exact ⟨numbers, rfl, held⟩
  | ok a =>
      obtain ⟨others, after, heldOthers⟩ := hf a (p.assign numbers)
      refine ⟨numbers ++ others, by rw [Fields.assign_append, ← after], ?_⟩
      intro n mem
      obtain mem | mem := List.mem_append.mp mem
      · exact held n mem
      · exact heldOthers n mem

lemma Fills.map {x : FieldReader A} (h : x.Fills fields) (f : A → B) : (f <$> x).Fills fields := by
  intro p
  rw [runOn_map]
  exact h p

/-- What is taken back counts as nothing. -/
lemma Fills.transaction {x : FieldReader A} (h : x.Fills fields) :
    (transaction x).Fills fields := by
  intro p
  obtain ⟨numbers, after, held⟩ := h p
  rw [runOn_transaction]
  generalize x.runOn p = ended at after ⊢
  obtain ⟨result, q⟩ := ended
  cases result with
  | error fault => exact ⟨[], rfl, by simp⟩
  | ok a => exact ⟨numbers, after, held⟩

/-- Filling in keeps fields valid. -/
lemma Fills.valid {x : FieldReader A} (h : x.Fills fields) {p : Fields} (valid : p.Valid) :
    (x.runOn p).2.Valid := by
  obtain ⟨numbers, after, held⟩ := h p
  rw [after]
  clear after
  -- one number after the other, each into fields that are valid so far
  induction numbers generalizing p with
  | nil => exact valid
  | cons x numbers ih =>
      obtain ⟨f, n⟩ := x
      exact ih (Fields.valid_put valid (held (f, n) (by simp)).2) fun n hn => held n (by simp [hn])

/-- Fields that are not filled in stay as they are. -/
lemma Fills.get {x : FieldReader A} (h : x.Fills fields) (p : Fields) {f : Field}
    (other : f ∉ fields) : (x.runOn p).2.get f = p.get f := by
  obtain ⟨numbers, after, held⟩ := h p
  rw [after]
  apply Fields.get_assign_of_notMem
  rintro n mem rfl
  exact other (held n mem).1

end FieldReader

open FieldReader

/-! ### Items and the internet format -/

/-- The fields of leaves. -/
def Leaf.targetsOf (leaves : List Leaf) : List Field :=
  leaves.flatMap targets

lemma Leaf.targetsOf_append (a b : List Leaf) :
    targetsOf (a ++ b) = targetsOf a ++ targetsOf b :=
  List.flatMap_append

lemma Component.fills_fillIn (c : Component) (data : Octets) :
    Fills (fillIn (c.parse data)) c.targets :=
  FieldReader.fills_fillIn fun _ _ read _ mem => mem_targets_of_parse read mem

/-- Items in a row fill in the fields of their leaves, once each of them does. -/
lemma Item.fills_parseAll {items : List Item}
    (each : ∀ i ∈ items, ∀ data, Fills (i.parse data) (Leaf.targetsOf i.leaves)) (data : Octets) :
    Fills (parseAll items data) (Leaf.targetsOf (leavesOf items)) := by
  induction items generalizing data with
  | nil => exact fills_pure data
  | cons i items ih =>
      rw [parseAll, leavesOf, Leaf.targetsOf_append]
      have first := each i (by simp) data
      have others := ih fun j hj => each j (by simp [hj])
      exact (first.mono (List.subset_append_left _ _)).bind fun rest =>
        (others rest).mono (List.subset_append_right _ _)

/-- An item fills in the fields of its leaves. -/
lemma Item.fills_parse (i : Item) (data : Octets) :
    Fills (i.parse data) (Leaf.targetsOf i.leaves) := by
  induction i using ind generalizing data with
  | literal t =>
      refine fills_fillIn fun numbers rest read => ?_
      rw [Leaf.parse] at read
      split at read
      · cases read
        simp
      · cases read
  | component c | bare c =>
      rw [parse]
      exact (c.fills_fillIn data).mono (by simp [leaves, Leaf.targetsOf, Leaf.targets])
  -- a compound that fails takes everything back, which fills in nothing
  | compound items ih =>
      rw [parse, leaves]
      exact (fills_parseAll ih data).transaction
  | series sort items => exact fills_throw _
  | stray v => exact fills_throw _

lemma fills_parseItems (items : List Item) (data : Octets) :
    Fills (parseItems items data) (Leaf.targetsOf (Item.leavesOf items)) :=
  (Item.fills_parseAll (fun i _ => i.fills_parse) data).transaction

namespace Rfc3339

/-- The fields of the internet format: those of a date, a time and an offset without seconds. -/
def targets : List Field :=
  [.year, .month, .day, .hour24, .minute, .second, .subsecond, .offsetHour, .offsetIsNegative,
    .offsetMinute]

/-- The internet format fills in the fields of a date, a time and an offset. -/
lemma fills_parse (data : Octets) : Fills (parse data) targets := by
  refine Fills.bind ?_ fun data => Fills.bind ?_ fun data => Fills.bind ?_ fun data =>
    Fills.bind ?_ fun data => ?_
  · rw [parseDate]
    split
    · exact (fills_parseItems dateItems _).mono (by decide)
    · exact fills_throw _
  · match data with
    | [] => exact fills_throw _
    | b :: data =>
        rw [parseSeparator]
        split
        · exact fills_pure data
        · exact fills_throw _
  · exact (fills_parseItems timeItems data).mono (by decide)
  · match data with
    | [] => exact fills_pure []
    | b :: data =>
        rw [parseFraction]
        split
        · exact ((Component.ofKind .subsecond).fills_fillIn data).mono (by decide)
        · exact fills_pure _
  · match data with
    | [] => exact (fills_parseItems offsetItems []).mono (by decide)
    | b :: data =>
        rw [parseZone]
        split
        · refine fills_fillIn fun numbers rest read => ?_
          cases read
          decide
        · exact (fills_parseItems offsetItems _).mono (by decide)

end Rfc3339

/-! ### Layouts -/

/-- The fields of a layout. -/
def Layout.targets : Layout → List Field
  | items members => Leaf.targetsOf (Item.leavesOf members)
  | wellKnown .rfc3339 => Rfc3339.targets
  | wellKnown .abstract => []

lemma Layout.fills_parse (layout : Layout) (data : Octets) :
    Fills (layout.parse data) layout.targets := by
  match layout with
  | items members => exact fills_parseItems members data
  | wellKnown .rfc3339 => exact (Rfc3339.fills_parse data).transaction
  | wellKnown .abstract => exact fills_throw _

/-- A description fills in the fields of its layout. -/
lemma fills_parseFormat {description : Item} {layout : Layout} (data : Octets)
    (known : description.layout = .ok layout) :
    Fills (parseFormat description data) layout.targets := by
  rw [parseFormat, known]
  exact layout.fills_parse data

/-! ### Failures -/

namespace FieldReader

/-- An action that fails leaves the fields as they were. -/
def Atomic {A : Type} (x : FieldReader A) : Prop :=
  ∀ p q fault, x.runOn p = (.error fault, q) → q = p

variable {A B : Type}

lemma atomic_throw (fault : Fault) : Atomic (throw fault : FieldReader A) := by
  intro p q _ failed
  cases failed
  rfl

lemma atomic_transaction (x : FieldReader A) : Atomic (transaction x) :=
  fun _ _ _ => transaction_error

lemma atomic_fillIn (reading : Except Cause Reading) : Atomic (fillIn reading) := by
  intro p q fault failed
  rw [runOn_fillIn] at failed
  cases reading with
  | ok reading => cases failed
  | error c =>
      cases failed
      rfl

lemma Atomic.map {x : FieldReader A} (h : x.Atomic) (f : A → B) : (f <$> x).Atomic := by
  intro p q fault failed
  rw [runOn_map] at failed
  generalize ended : x.runOn p = outcome at failed
  obtain ⟨result, r⟩ := outcome
  cases result with
  | ok a => cases failed
  | error other =>
      cases failed
      exact h p _ _ ended

end FieldReader

lemma Item.atomic_parse (i : Item) (data : Octets) : Atomic (i.parse data) := by
  cases i with
  | literal t => exact atomic_fillIn _
  | component c | bare c => exact atomic_fillIn _
  | compound items => exact atomic_transaction _
  | series sort items | stray v => exact atomic_throw _

lemma atomic_parseFormat (description : Item) (data : Octets) :
    Atomic (parseFormat description data) := by
  rw [parseFormat]
  match description.layout with
  | .error fault => exact atomic_throw fault
  | .ok (.items members) => exact atomic_transaction _
  | .ok (.wellKnown .rfc3339) => exact atomic_transaction _
  | .ok (.wellKnown .abstract) => exact atomic_throw _

/-! ### One operation -/

namespace FieldReader

variable {A : Type} {fields : List Field}

/-- What is asked of an action on fields: that it does nothing when it fails, that it keeps valid
fields valid, and that it leaves all fields alone but these. -/
structure Sound (x : FieldReader A) (fields : List Field) : Prop where
  unchanged : x.Atomic
  valid : ∀ p : Fields, p.Valid → (x.runOn p).2.Valid
  others : ∀ (p : Fields) (f : Field), f ∉ fields → (x.runOn p).2.get f = p.get f

lemma Fills.sound {x : FieldReader A} (h : x.Fills fields) (atomic : x.Atomic) :
    x.Sound fields where
  unchanged := atomic
  valid := fun _ => h.valid
  others := fun p _ => h.get p

lemma sound_throw (fault : Fault) : Sound (throw fault : FieldReader A) fields :=
  (fills_throw fault).sound (atomic_throw fault)

/-- An action that looks at the state first goes on with the state at hand. -/
lemma runOn_get_bind (f : Fields → FieldReader A) (p : Fields) :
    ((get : FieldReader Fields) >>= f).runOn p = (f p).runOn p :=
  rfl

/-- A check that lets a state pass puts it in place; one that does not changes nothing. -/
lemma runOn_replaceBy (next : Fields → Except (List Problem) Fields) (p : Fields) :
    (replaceBy next).runOn p =
      match next p with
      | .ok q => (.ok .done, q)
      | .error problems => (.error (.problems problems), p) := by
  rw [replaceBy, runOn_get_bind]
  cases next p <;> rfl

/-- A checked change is sound when every change that it lets pass is. -/
lemma sound_replaceBy {next : Fields → Except (List Problem) Fields}
    (valid : ∀ p q : Fields, next p = .ok q → p.Valid → q.Valid)
    (others : ∀ p q : Fields, next p = .ok q → ∀ f ∉ fields, q.get f = p.get f) :
    (replaceBy next).Sound fields where
  unchanged p q fault failed := by
    rw [runOn_replaceBy] at failed
    split at failed
    · cases failed
    · cases failed
      rfl
  valid p h := by
    rw [runOn_replaceBy]
    split
    · rename_i passed
      exact valid p _ passed h
    · exact h
  others p f other := by
    rw [runOn_replaceBy]
    split
    · rename_i passed
      exact others p _ passed f other
    · rfl

end FieldReader

namespace Operation

variable {convert : Field.Conversion}

/-- Resolving a value only looks at the fields. -/
lemma runOn_resolve (kind : ValueKind) (p : Fields) :
    (((resolve kind).run convert).runOn p).2 = p := by
  rw [run, runOn_get_bind]
  cases kind.resolve p <;> rfl

/-- The fields that an operation is about: those that it names, or those that its components
give. -/
def targets : Operation → List Field
  | set name _ => (Field.ofName? name).toList
  | change values => values.filterMap fun (name, _) => Field.ofName? name
  | renew _ => Field.all
  | readLiteral _ _ => []
  | readComponent _ c => c.targets
  | readItem _ item => Leaf.targetsOf item.leaves
  | readItems _ items =>
    match items.elements with
    | .ok members => Leaf.targetsOf (Item.leavesOf members)
    | .error _ => []
  | readFormat _ description =>
    match description.layout with
    | .ok layout => layout.targets
    | .error _ => []
  | resolve _ => []

/-- Every operation is sound for its fields. -/
lemma sound_run (bounded : convert.Bounded) (o : Operation) : (o.run convert).Sound o.targets := by
  cases o with
  | set name value =>
      have valid (p q : Fields) (passed : p.assigned name value convert = .ok q) (h : p.Valid) :
          q.Valid := Fields.valid_assigned bounded h passed
      refine sound_replaceBy valid ?_
      intro p q passed f other
      apply Fields.get_assigned passed
      simpa [targets] using other
  | change values =>
      have valid (p q : Fields) (passed : p.changed values convert = .ok q) (h : p.Valid) :
          q.Valid := Fields.valid_changed bounded h passed
      refine sound_replaceBy valid ?_
      intro p q passed f other
      apply Fields.get_changed passed
      intro v mem named
      exact other (List.mem_filterMap.mpr ⟨v, mem, named⟩)
  | renew values =>
      have valid (p q : Fields) (passed : Fields.renewed values convert = .ok q) (_ : p.Valid) :
          q.Valid := Fields.valid_changed bounded Fields.valid_empty passed
      refine sound_replaceBy valid ?_
      intro p q passed f other
      -- what begins anew leaves no field alone
      exact absurd f.mem_all other
  | readLiteral input text =>
      have reads := (Item.literal text).fills_parse input
      exact (reads.map _).sound ((atomic_fillIn _).map _)
  | readComponent input c => exact ((c.fills_fillIn input).map _).sound ((atomic_fillIn _).map _)
  | readItem input item =>
      exact ((item.fills_parse input).map _).sound ((item.atomic_parse input).map _)
  -- items that are no row are refused before anything is read
  | readItems input items =>
      rw [run, targets]
      cases items.elements with
      | ok members =>
          exact ((fills_parseItems members input).map _).sound ((atomic_transaction _).map _)
      | error m => exact sound_throw _
  | readFormat input description =>
      have atomic := (atomic_parseFormat description input).map Outcome.rest
      rw [targets]
      cases known : description.layout with
      | ok layout => exact ((fills_parseFormat input known).map _).sound atomic
      | error fault =>
          rw [run, parseFormat, known]
          exact ((fills_throw fault).map _).sound ((atomic_throw fault).map _)
  | resolve kind =>
      refine (fills_of_unchanged (runOn_resolve kind)).sound fun p q fault failed => ?_
      have same : (((resolve kind).run convert).runOn p).2 = p := runOn_resolve kind p
      rw [failed] at same
      exact same

/-! ### Runs -/

/-- The state after the last operation of a run, or the first state when there is none. -/
def final (p : Fields) (operations : List Operation) (convert : Field.Conversion := .standard) :
    Fields :=
  (states p operations convert).getLastD p

lemma final_cons (p : Fields) (o : Operation) (operations : List Operation) :
    final p (o :: operations) convert = final ((o.run convert).runOn p).2 operations convert :=
  List.getLastD_cons ..

/-- One more operation goes on from the state that the run ended in. -/
lemma final_snoc (p : Fields) (operations : List Operation) (o : Operation) :
    final p (operations ++ [o]) convert =
      ((o.run convert).runOn (final p operations convert)).2 := by
  induction operations generalizing p with
  | nil => rfl
  | cons first operations ih => rw [List.cons_append, final_cons, final_cons, ih]

/-- The fields stay valid in a run. -/
lemma valid_of_mem_states (bounded : convert.Bounded) {p q : Fields} (h : p.Valid)
    {operations : List Operation} (mem : q ∈ states p operations convert) : q.Valid := by
  -- one operation after the other, each from a state that is valid already
  induction operations generalizing p with
  | nil => cases mem
  | cons o operations ih =>
      have step : ((o.run convert).runOn p).2.Valid := (o.sound_run bounded).valid p h
      rw [states] at mem
      cases mem with
      | head => exact step
      | tail _ mem => exact ih step mem

/-- Fields that begin empty are valid after every operation of a run, whatever words and objects
stand for, as long as a conversion lets nothing pass that its field cannot have.  Each operation,
from wherever the run before it has led, changes nothing when it fails, and otherwise no field but
its own. -/
theorem run_sound (bounded : convert.Bounded) (operations : List Operation) :
    (∀ q ∈ states .empty operations convert, q.Valid) ∧
      ∀ (o : Operation) (result : Except Fault Outcome) (before after : Fields),
        final .empty operations convert = before →
        (o.run convert).runOn before = (result, after) →
        final .empty (operations ++ [o]) convert = after ∧
          (∀ fault, result = .error fault → after = before) ∧
          ∀ f, f ∉ o.targets → after.get f = before.get f := by
  refine ⟨fun q mem => valid_of_mem_states bounded Fields.valid_empty mem, ?_⟩
  rintro o result before after rfl step
  -- the run before the operation is a run itself, so its last state is the one before
  have reached : ((o.run convert).runOn (final .empty operations convert)).2 = after := by rw [step]
  have sound := o.sound_run bounded
  refine ⟨(final_snoc .empty operations o).trans reached, ?_, ?_⟩
  · rintro fault rfl
    exact sound.unchanged _ _ fault step
  · intro f other
    rw [← reached]
    exact sound.others _ f other

/-- A year and half of a day, given as words. -/
lemma changes_words :
    Fields.changes [("year", .word "2021"), ("hour_12_is_pm", .word "Yes")] =
      .ok [(.year, some 2021), (.hour12IsPm, some 1)] := by
  have small : "Yes".toLower = "yes" := by
    change String.map Char.toLower "Yes" = "yes"
    rw [← String.toList_inj, String.toList_map]
    decide
  have flag : Offered.toFlag (.word "Yes") = .ok true := by
    rw [Offered.toFlag, small]
    rfl
  have year : Fields.change .unknownField "year" (.word "2021") = .ok (.year, some 2021) := rfl
  have half : Fields.change .unknownField "hour_12_is_pm" (.word "Yes") =
      .ok (.hour12IsPm, some 1) := by
    have named : Field.ofName? "hour_12_is_pm" = some .hour12IsPm := rfl
    have number : Field.hour12IsPm.numberOf "Yes" = .ok 1 := by
      rw [Field.numberOf, flag]
      rfl
    rw [Fields.change, named]
    dsimp only
    rw [Field.check, Field.Conversion.standard, number]
    rfl
  simp only [Fields.changes, List.map_cons, year, half]
  rfl

/-- A year and half of the day are given as words, and a day is read.  Then another day and a
minute are read in front of a text that is missing: the numbers of the second reading do not reach
the fields. -/
theorem run_sound_missingText :
    let operations := [change [("year", .word "2021"), ("hour_12_is_pm", .word "Yes")],
      readComponent (Octets.ofAscii "31") (.day .zero)]
    let o := readItems (Octets.ofAscii "01-59x") (.series .list [.component (.day .zero),
      .literal [45], .compound [.component (.minute .zero), .literal [33]]])
    let p := ((Fields.empty.put .year (some 2021)).put .hour12IsPm (some 1)).put .day (some 31)
    Field.Conversion.standard.Bounded ∧ p.Valid ∧ final .empty operations = p ∧
      o.run.runOn p = (.error (.ofCause .literal), p) ∧ final .empty (operations ++ [o]) = p := by
  intro operations o p
  let members : List Item := [.component (.day .zero), .literal [45],
    .compound [.component (.minute .zero), .literal [33]]]
  -- the day and the hyphen match, and so does the minute, but not the mark behind it
  have misses : (parseItems members (Octets.ofAscii "01-59x")).runOn p =
      (.error (.ofCause .literal), p) := by
    rw [runOn_parseItems rfl]
    rfl
  have step : o.run.runOn p = (.error (.ofCause .literal), p) :=
    calc o.run.runOn p
      _ = (Outcome.rest <$> parseItems members (Octets.ofAscii "01-59x")).runOn p := rfl
      _ = (.error (.ofCause .literal), p) := by
        rw [runOn_map, misses]
        rfl
  have begun : (change [("year", .word "2021"), ("hour_12_is_pm", .word "Yes")]).run.runOn .empty =
      (.ok .done, (Fields.empty.put .year (some 2021)).put .hour12IsPm (some 1)) := by
    rw [run, runOn_replaceBy, Fields.changed, changes_words]
    rfl
  have reached : final .empty operations = p := by
    rw [final_cons, begun]
    rfl
  have visited : p ∈ states .empty operations := by
    rw [states, begun]
    exact List.mem_cons_of_mem _ (List.mem_singleton_self p)
  obtain ⟨valid, sound⟩ := run_sound Field.Conversion.bounded_standard operations
  exact ⟨Field.Conversion.bounded_standard, valid p visited, reached, step,
    (sound o _ p p reached step).1⟩

end Operation

end CalendarText
