/-
Formatting a value, and parsing it back.

A text is read back token by token when none of its numbers runs into a digit behind it, and a
value is found again when its description shows all of it.

* `SelfDelimiting`: no number of varying length is followed by a digit that it could take;
* `Complete`: what leaves show of the parts of a value determines these parts;
* `Leaf.parseAll_of_writeAll?`: leaves that are written are read back as the numbers that they
  show;
* `parse_format`: a value is parsed back from its text, by every description that is
  self-delimiting and complete for it.
-/
import CalendarText.Proofs.Fields.Clock
import CalendarText.Proofs.Reading.Component
import CalendarText.Proofs.Reading.Leaves
import CalendarText.Proofs.Writing.Leaves
import CalendarText.Reading.Format

namespace CalendarText

namespace Leaf

/-- One of the leaves gives the field. -/
def Gives (leaves : List Leaf) (f : Field) : Prop :=
  ∃ l ∈ leaves, f ∈ l.targets

instance (leaves : List Leaf) (f : Field) : Decidable (Gives leaves f) :=
  inferInstanceAs (Decidable (∃ l ∈ leaves, f ∈ l.targets))

end Leaf

/-- No number of varying length that leaves show of a value is followed by a digit, unless it has
all the digits that it can have. -/
def SelfDelimiting (parts : Parts) : List Leaf → Prop
  | [] => True
  | .literal _ :: leaves => SelfDelimiting parts leaves
  | .component c :: leaves =>
    (∀ text ∈ c.write? parts, ∀ rest ∈ Leaf.writeAll? parts leaves, c.Delimited text rest) ∧
      SelfDelimiting parts leaves

instance SelfDelimiting.decidable (parts : Parts) :
    (leaves : List Leaf) → Decidable (SelfDelimiting parts leaves)
  | [] => .isTrue trivial
  | .literal _ :: leaves => decidable parts leaves
  | .component _ :: leaves => @instDecidableAnd _ _ inferInstance (decidable parts leaves)

/-- What leaves show of the parts of a value determines these parts: the date by one of the sets
that name a date, the time by the hour of either clock and all that is not zero behind it, the
offset by its hours and all that is not zero behind them. -/
structure Complete (parts : Parts) (leaves : List Leaf) : Prop where
  date : parts.date.isSome = true → ∃ s : DateSet, ∀ f ∈ s.fields, Leaf.Gives leaves f
  hour : parts.time.isSome = true →
    Leaf.Gives leaves .hour24 ∨ (Leaf.Gives leaves .hour12 ∧ Leaf.Gives leaves .hour12IsPm)
  /-- only an hour of the clock of twelve may stand alone -/
  minute : parts.time.isSome = true → Leaf.Gives leaves .minute ∨
    (¬Leaf.Gives leaves .hour24 ∧ ¬Leaf.Gives leaves .second ∧ ¬Leaf.Gives leaves .subsecond)
  minutes : ∀ t, parts.time = some t → Leaf.Gives leaves .minute ∨ t.minute = 0
  seconds : ∀ t, parts.time = some t → Leaf.Gives leaves .second ∨ t.second = 0
  /-- of several fractions, the last one counts -/
  fraction : ∀ t, parts.time = some t →
    (¬Leaf.Gives leaves .subsecond ∧ t.nanosecond = 0) ∨
      ∃ before d after, leaves = before ++ .component (.subsecond d) :: after ∧
        ¬Leaf.Gives after .subsecond ∧ d.shown t.nanosecond = t.nanosecond
  offsetHour : parts.offset.isSome = true → Leaf.Gives leaves .offsetHour
  offsetMinutes : ∀ o, parts.offset = some o → Leaf.Gives leaves .offsetMinute ∨ o.minutes = 0
  offsetSeconds : ∀ o, parts.offset = some o → Leaf.Gives leaves .offsetSecond ∨ o.seconds = 0

/-! ### Reading what was written -/

/-- The numbers that a leaf shows of the parts of a value. -/
def Leaf.numbers (parts : Parts) : Leaf → List (Field × Int)
  | literal _ => []
  | component c => c.numbers parts

/-- A written leaf is read back as the numbers that it shows. -/
lemma Leaf.parse_append {parts : Parts} {l : Leaf} {text rest : Octets}
    (written : l.write? parts = some text)
    (delimited : ∀ c, l = component c → c.Delimited text rest) :
    l.parse (text ++ rest) = .ok (l.numbers parts, rest) := by
  cases l with
  | literal t =>
      obtain rfl : t = text := Option.some.inj written
      rw [parse, Octets.behind?_append]
      rfl
  | component c => exact Component.parse_append written (delimited c rfl)

/-- Leaves that are written are read back as the numbers that they show. -/
lemma Leaf.parseAll_of_writeAll? {parts : Parts} {leaves : List Leaf} {text : Octets}
    (written : writeAll? parts leaves = some text) (delimited : SelfDelimiting parts leaves) :
    parseAll leaves text = .ok (leaves.flatMap (numbers parts), []) := by
  induction leaves generalizing text with
  | nil =>
      obtain rfl : [] = text := Option.some.inj written
      rfl
  | cons l leaves ih =>
      -- what stands behind the text of a leaf is what the later leaves write
      obtain ⟨first, rest, hfirst, hrest, rfl⟩ := writeAll?_cons_eq_some_iff.mp written
      have split : (∀ c, l = component c → c.Delimited first rest) ∧
          SelfDelimiting parts leaves := by
        cases l with
        | literal t => exact ⟨fun _ h => (nomatch h), delimited⟩
        | component c =>
            obtain ⟨front, tail⟩ := delimited
            refine ⟨?_, tail⟩
            intro d same
            obtain rfl := component.inj same
            exact front first hfirst rest hrest
      rw [parseAll, parse_append hfirst split.1]
      simp only [ih hrest split.2, Except.map, List.flatMap_cons]

/-- Only fractions of a second are cut off. -/
lemma Component.shown_eq_self {c : Component} {f : Field} (target : f ∈ c.targets)
    (whole : f ≠ .subsecond) (n : Int) : c.shown n = n := by
  cases c with
  | subsecond d => exact absurd (List.mem_singleton.mp target) whole
  | _ => rfl

/-- The numbers that a leaf shows are for the fields that it gives. -/
lemma Leaf.mem_targets_of_mem_numbers {parts : Parts} {l : Leaf} {x : Field × Int}
    (mem : x ∈ l.numbers parts) : x.1 ∈ l.targets := by
  cases l with
  | literal t => simp [numbers] at mem
  | component c => exact (Component.mem_numbers_iff.mp mem).1

/-- A leaf shows what belongs into a field that it gives, if it is no fraction of a second. -/
lemma Leaf.mem_numbers_iff {parts : Parts} {l : Leaf} {f : Field} (target : f ∈ l.targets)
    (whole : f ≠ .subsecond) {n : Int} :
    (f, n) ∈ l.numbers parts ↔ parts.quantity? f = some n := by
  cases l with
  | literal t => simp [targets] at target
  | component c =>
      have same : c.shown = id := funext (c.shown_eq_self target whole)
      rw [numbers, Component.mem_numbers_iff, same, Option.map_id_apply]
      exact and_iff_right target

/-! ### The fields after reading -/

/-- The fields after leaves that show the parts of a value were read. -/
def Fields.showing (parts : Parts) (leaves : List Leaf) : Fields :=
  empty.assign (leaves.flatMap (Leaf.numbers parts))

section Showing

variable {parts : Parts} {leaves : List Leaf} {f : Field} {n : Int}

/-- A field that is given holds what belongs into it, if it is no fraction of a second. -/
lemma Fields.get_showing_of_gives (gives : Leaf.Gives leaves f) (whole : f ≠ .subsecond)
    (known : parts.quantity? f = some n) : (showing parts leaves).get f = some n := by
  -- all leaves that give the field show the same number, so it does not matter which is last
  have agree : ∀ x ∈ leaves.flatMap (Leaf.numbers parts), x.1 = f → x.2 = n := by
    rintro ⟨g, m⟩ mem rfl
    obtain ⟨l, -, mem⟩ := List.mem_flatMap.mp mem
    have target := Leaf.mem_targets_of_mem_numbers mem
    rw [Leaf.mem_numbers_iff target whole, known] at mem
    exact (Option.some.inj mem).symm
  obtain ⟨l, mem, target⟩ := gives
  refine get_assign_eq agree (List.mem_flatMap.mpr ⟨l, mem, ?_⟩)
  exact (Leaf.mem_numbers_iff target whole).mpr known

/-- A field that is not given is as it was before. -/
lemma Fields.get_assign_of_not_gives (without : ¬Leaf.Gives leaves f) (p : Fields) :
    (p.assign (leaves.flatMap (Leaf.numbers parts))).get f = p.get f := by
  apply get_assign_of_notMem
  intro x mem same
  obtain ⟨l, hl, mem⟩ := List.mem_flatMap.mp mem
  exact without ⟨l, hl, same ▸ Leaf.mem_targets_of_mem_numbers mem⟩

lemma Fields.get_showing_of_not_gives (without : ¬Leaf.Gives leaves f) :
    (showing parts leaves).get f = empty.get f :=
  get_assign_of_not_gives without empty

/-- A field that is filled in and was empty at the beginning holds what belongs into it. -/
lemma Fields.eq_of_get_showing (known : parts.quantity? f = some n) (whole : f ≠ .subsecond)
    (blank : empty.get f = none) {m : Int} (holds : (showing parts leaves).get f = some m) :
    m = n := by
  by_cases gives : Leaf.Gives leaves f
  · rw [get_showing_of_gives gives whole known] at holds
    exact (Option.some.inj holds).symm
  · rw [get_showing_of_not_gives gives, blank] at holds
    exact nomatch holds

/-- A field that is not given, or holds what belongs into it, counts as that if it is zero where
it is not given. -/
lemma Fields.getD_showing (known : parts.quantity? f = some n) (whole : f ≠ .subsecond)
    (blank : empty.get f = none) (given : Leaf.Gives leaves f ∨ n = 0) :
    ((showing parts leaves).get f).getD 0 = n := by
  by_cases gives : Leaf.Gives leaves f
  · rw [get_showing_of_gives gives whole known]
    rfl
  · rw [get_showing_of_not_gives gives, blank]
    exact (given.resolve_left gives).symm

/-- The last fraction counts. -/
lemma Fields.get_showing_subsecond {before after : List Leaf} {d : SubsecondDigits}
    (last : ¬Leaf.Gives after .subsecond) (known : parts.quantity? .subsecond = some n) :
    (showing parts (before ++ .component (.subsecond d) :: after)).get .subsecond =
      some (d.shown n) := by
  have shows : (Leaf.component (.subsecond d)).numbers parts = [(.subsecond, d.shown n)] :=
    Component.numbers_single rfl known
  rw [showing, List.flatMap_append, List.flatMap_cons, shows, assign_append, assign_append,
    get_assign_of_not_gives last, assign_cons, assign_nil, get_put, if_pos rfl]

end Showing

/-! ### Each part is found again -/

/-- A date quantity belongs into its field, which is empty at the beginning. -/
lemma Parts.quantity?_of_mem {parts : Parts} {d : Date} (date : parts.date = some d)
    {q : Field × Int} (mem : q ∈ d.quantities) :
    parts.quantity? q.1 = some q.2 ∧ q.1 ≠ .subsecond ∧ Fields.empty.get q.1 = none := by
  have all : ∀ q ∈ d.quantities,
      parts.quantity? q.1 = some q.2 ∧ q.1 ≠ .subsecond ∧ Fields.empty.get q.1 = none := by
    simp [Date.quantities, Parts.quantity?, date, Fields.empty, Field.optional]
  exact all q mem

/-- The fields of a date set are date fields. -/
lemma DateSet.exists_quantity (s : DateSet) (d : Date) {f : Field} (mem : f ∈ s.fields) :
    ∃ n, (f, n) ∈ d.quantities := by
  have all : ∀ f ∈ s.fields, f ∈ d.quantities.map Prod.fst := by
    cases s <;> simp [DateSet.fields, Date.quantities]
  obtain ⟨⟨g, n⟩, h, rfl⟩ := List.mem_map.mp (all f mem)
  exact ⟨n, h⟩

/-- The sign of an offset comes with its hours. -/
lemma Leaf.offsetIsNegative_mem_targets (l : Leaf) (hours : .offsetHour ∈ l.targets) :
    .offsetIsNegative ∈ l.targets := by
  cases l with
  | literal t => simp [targets] at hours
  | component c =>
      rw [targets] at hours ⊢
      cases c with
      | offsetHour o => simp [Component.targets]
      | weekNumber o =>
          obtain ⟨padding, rule⟩ := o
          cases rule <;> simp [Component.targets, Component.weekField] at hours
      | year o =>
          obtain ⟨padding, form, isoWeekBased, mandatory⟩ := o
          cases form <;> cases isoWeekBased <;> simp [Component.targets] at hours
      | hour o =>
          obtain ⟨padding, twelveHour⟩ := o
          cases twelveHour <;> simp [Component.targets] at hours
      | _ => simp [Component.targets] at hours

section Parts

variable {parts : Parts} {leaves : List Leaf}

/-- The date is found again. -/
lemma Fields.date_showing {d : Date} (complete : Complete parts leaves)
    (date : parts.date = some d) : (showing parts leaves).date = .ok d := by
  obtain ⟨s, gives⟩ := complete.date (by rw [date]; rfl)
  rw [date_eq_ok_iff, describes_iff]
  -- one set is whole, and whatever else is filled in agrees with the date
  refine ⟨⟨s, ?_⟩, ?_⟩
  · intro f mem
    obtain ⟨n, quantity⟩ := s.exists_quantity d mem
    obtain ⟨known, whole, -⟩ := Parts.quantity?_of_mem date quantity
    rw [get_showing_of_gives (gives f mem) whole known]
    rfl
  · intro q mem n holds
    obtain ⟨known, whole, blank⟩ := Parts.quantity?_of_mem date mem
    exact eq_of_get_showing known whole blank holds

/-- The time is found again. -/
lemma Fields.time_showing {t : Time} (complete : Complete parts leaves)
    (time : parts.time = some t) : (showing parts leaves).time = .ok t := by
  have present : parts.time.isSome = true := by rw [time]; rfl
  have hour24 : parts.quantity? .hour24 = some t.hour := by rw [Parts.quantity?, time]; rfl
  have hour12 : parts.quantity? .hour12 = some t.hour12 := by rw [Parts.quantity?, time]; rfl
  have isPm : parts.quantity? .hour12IsPm = some (if t.isPm then 1 else 0) := by
    rw [Parts.quantity?, time]; rfl
  have minute : parts.quantity? .minute = some t.minute := by rw [Parts.quantity?, time]; rfl
  have second : parts.quantity? .second = some t.second := by rw [Parts.quantity?, time]; rfl
  have fraction : parts.quantity? .subsecond = some t.nanosecond := by
    rw [Parts.quantity?, time]; rfl
  refine time_of_describes ?_ ?_ ⟨?_, ?_, ?_, ?_, ?_, ?_⟩
  · obtain h | ⟨h, half⟩ := complete.hour present
    · left
      rw [get_showing_of_gives h (by decide) hour24]
      rfl
    · right
      rw [get_showing_of_gives h (by decide) hour12,
        get_showing_of_gives half (by decide) isPm]
      exact ⟨rfl, rfl⟩
  · obtain h | ⟨noHour, noSecond, noFraction⟩ := complete.minute present
    · left
      rw [get_showing_of_gives h (by decide) minute]
      rfl
    · right
      rw [get_showing_of_not_gives noHour, get_showing_of_not_gives noSecond,
        get_showing_of_not_gives noFraction]
      exact ⟨rfl, rfl, rfl⟩
  · exact fun n => eq_of_get_showing hour24 (by decide) rfl
  · exact fun n => eq_of_get_showing hour12 (by decide) rfl
  · exact fun n => eq_of_get_showing isPm (by decide) rfl
  · exact getD_showing minute (by decide) rfl (complete.minutes t time)
  · exact getD_showing second (by decide) rfl (complete.seconds t time)
  · obtain ⟨without, zero⟩ | ⟨before, d, after, rfl, last, whole⟩ := complete.fraction t time
    · rw [get_showing_of_not_gives without]
      exact zero.symm
    · rw [get_showing_subsecond last fraction, whole]
      rfl

/-- The offset is found again. -/
lemma Fields.offset_showing {o : UtcOffset} (complete : Complete parts leaves)
    (offset : parts.offset = some o) : (showing parts leaves).offset = .ok o := by
  have gives := complete.offsetHour (by rw [offset]; rfl)
  have hours : parts.quantity? .offsetHour = some o.hours := by
    rw [Parts.quantity?, offset]; rfl
  have isNegative : parts.quantity? .offsetIsNegative = some (if o.isNegative then 1 else 0) := by
    rw [Parts.quantity?, offset]; rfl
  have minutes : parts.quantity? .offsetMinute = some (o.minutes.natAbs : Int) := by
    rw [Parts.quantity?, offset]; rfl
  have seconds : parts.quantity? .offsetSecond = some (o.seconds.natAbs : Int) := by
    rw [Parts.quantity?, offset]; rfl
  -- the sign is written with the hours, even where they are zero
  have givesSign : Leaf.Gives leaves .offsetIsNegative := by
    obtain ⟨l, mem, target⟩ := gives
    exact ⟨l, mem, l.offsetIsNegative_mem_targets target⟩
  refine offset_of_describes ⟨?_, ?_, ?_, ?_⟩
  · exact get_showing_of_gives gives (by decide) hours
  · exact get_showing_of_gives givesSign (by decide) isNegative
  · rw [getD_showing minutes (by decide) rfl ?_, Int.natAbs_natCast]
    exact (complete.offsetMinutes o offset).imp_right fun zero => by rw [zero]; rfl
  · rw [getD_showing seconds (by decide) rfl ?_, Int.natAbs_natCast]
    exact (complete.offsetSeconds o offset).imp_right fun zero => by rw [zero]; rfl

end Parts

/-- A value is resolved from fields that determine each of its parts. -/
lemma Value.resolve_eq_ok {v : Value} {p : Fields}
    (date : ∀ d, v.parts.date = some d → p.date = .ok d)
    (time : ∀ t, v.parts.time = some t → p.time = .ok t)
    (offset : ∀ o, v.parts.offset = some o → p.offset = .ok o) :
    v.kind.resolve p = .ok v := by
  cases v with
  | date d => rw [ValueKind.resolve, kind, ValueKind.determine, date d rfl]; rfl
  | time t => rw [ValueKind.resolve, kind, ValueKind.determine, time t rfl]; rfl
  | offset o => rw [ValueKind.resolve, kind, ValueKind.determine, offset o rfl]; rfl
  | dateTime t =>
      rw [ValueKind.resolve, kind, ValueKind.determine, date t.date rfl, time t.time rfl]; rfl
  | offsetDateTime t =>
      rw [ValueKind.resolve, kind, ValueKind.determine, date t.date rfl, time t.time rfl,
        offset t.offset rfl]
      rfl

/-- **A value is parsed back from its text.**  Whatever the description is built of, it takes a
value to a text and back if it needs no more than the value carries, is self-delimiting for it and
shows it completely. -/
theorem parseValue_format {v : Value} {description : Item} {members : List Item}
    (layout : description.layout = .ok (.items members))
    (trees : Item.areTrees members = true)
    (carried : (Item.capabilitiesOf members).subset v.kind.capabilities = true)
    (delimited : SelfDelimiting v.parts (Item.leavesOf members))
    (complete : Complete v.parts (Item.leavesOf members)) :
    ∃ text, format (some v) description = .ok text ∧
      parseValue v.kind text description = .ok v := by
  obtain ⟨text, written⟩ := exists_writeAll? trees carried
  refine ⟨text, format_eq_ok layout trees carried written, ?_⟩
  -- read into blank fields, the text leaves what the leaves show of the value
  have readable := Item.areReadable_of_areTrees trees
  have read : (parseFormat description text).runOn .empty =
      (.ok [], Fields.showing v.parts (Item.leavesOf members)) := by
    rw [parseFormat, layout]
    show (parseItems members text).runOn .empty = _
    rw [runOn_parseItems readable, Leaf.parseAll_of_writeAll? written delimited]
    rfl
  have resolved : v.kind.resolve (Fields.showing v.parts (Item.leavesOf members)) = .ok v :=
    Value.resolve_eq_ok (fun _ => Fields.date_showing complete)
      (fun _ => Fields.time_showing complete) (fun _ => Fields.offset_showing complete)
  rw [parseValue, read]
  show (v.kind.resolve (Fields.showing v.parts (Item.leavesOf members))).mapError _ = _
  rw [resolved]
  rfl

/-- The first day of the calendar, at a quarter of a second after five past one, half an hour west
of UTC: by its ISO week, on the clock of twelve, with a fraction that is cut off before it is
shown in full, and with an hour that runs into the space of the minute. -/
theorem parseValue_format_firstDay :
    let v : Value := .offsetDateTime
      ⟨⟨-9999, .january, 1, by decide, by decide⟩,
        ⟨13, 5, 0, 250000000, by decide, by decide, by decide, by decide⟩,
        ⟨0, -30, 0, by decide, by decide, by decide, by decide⟩⟩
    let description : Item := .compound
      [.component (.year { isoWeekBased := true }), .literal (Octets.ofAscii "-W"),
        .component (.weekNumber { padding := .none }),
        .compound [.literal [195], .component (.weekday { caseSensitive := false })],
        .component (.hour { padding := .none, twelveHour := true }), .component (.minute .space),
        .component (.period { uppercase := false }), .component (.subsecond (.exactly 0)),
        .compound [], .literal [47], .component (.subsecond .oneOrMore),
        .component (.offsetHour { padding := .none, signMandatory := true }), .literal [58],
        .component (.offsetMinute .zero)]
    description.layout = .ok (.items [description]) ∧
      Item.areTrees [description] = true ∧
      (Item.capabilitiesOf [description]).subset v.kind.capabilities = true ∧
      SelfDelimiting v.parts (Item.leavesOf [description]) ∧
      Complete v.parts (Item.leavesOf [description]) ∧
      ∃ text, format (some v) description = .ok text ∧
        parseValue v.kind text description = .ok v := by
  intro v description
  have delimited : SelfDelimiting v.parts (Item.leavesOf [description]) := by decide
  have complete : Complete v.parts (Item.leavesOf [description]) := by
    refine ⟨fun _ => ⟨.isoWeek, by decide⟩, fun _ => .inr (by decide), fun _ => .inl (by decide),
      fun _ _ => .inl (by decide), fun t same => .inr ?_, fun t same => .inr ?_,
      fun _ => by decide, fun _ _ => .inl (by decide), fun o same => .inr ?_⟩
    · obtain rfl := Option.some.inj same
      rfl
    · obtain rfl := Option.some.inj same
      exact ⟨(Item.leavesOf [description]).take 10, .oneOrMore,
        (Item.leavesOf [description]).drop 11, rfl, by decide, rfl⟩
    · obtain rfl := Option.some.inj same
      rfl
  exact ⟨rfl, rfl, rfl, delimited, complete,
    parseValue_format rfl rfl rfl delimited complete⟩

end CalendarText
