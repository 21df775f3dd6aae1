/-
Readers that check the whole state again.

A reader may trust nothing that it finds.  Then it puts all fields to the check once more, together
with the numbers that it has just read, and changes the state field by field, each change with a
check of its own; and what may fail later is done on a copy, from which all fields are taken over
at the end.  On fields that are valid, such a reader does what a reader does that only looks at its
own numbers.  As every operation keeps fields valid, nobody can tell the two from each other.

* `Fields.revised`, `Fields.revised_eq_changed`: a change with a check of all fields, and that those
  which were valid raise no problem;
* `Rechecked.commit`, `Rechecked.onCopy`: fields taken over from a state, and actions on a copy;
* `Rechecked.component` to `Rechecked.operation`: the readers, and all operations on fields;
* `Rechecks`: on valid fields one action does what another one does, and they stay valid;
* `Rechecked.Reached`, `Rechecked.Reached.valid`: the states that operations lead to are valid.
-/
import CalendarText.Proofs.Reading.Operation
import CalendarText.Proofs.Reading.Token

namespace CalendarText

open FieldReader

/-! ### Contents by name -/

/-- What a field has, as a value that is offered for it. -/
def Field.offer (f : Field) : Option Int → Offered
  | none => .null
  | some n => if f.meaning = .flag then .flag (n = 1) else .integer n

/-- No field has a private name. -/
lemma Field.isPrivate_name (f : Field) : Fields.isPrivate f.name = false := by
  rw [Fields.isPrivate, ← Bool.not_eq_true, String.startsWith_string_iff]
  cases f <;> decide

lemma Field.checkNumber_eq {f : Field} {n : Int} (h : f.admits n = true) :
    f.checkNumber n = .ok n := by
  rw [checkNumber, if_pos h]

/-- What a field can have passes its check, without any conversion. -/
lemma Field.check_offer {f : Field} {content : Option Int} {convert : Field.Conversion}
    (h : f.allows content = true) : f.check (f.offer content) convert = .ok content := by
  cases content with
  | none => exact if_pos h
  | some n =>
      have admitted : f.admits n = true := h
      rw [offer]
      split
      · rename_i flag
        -- a flag holds 0 or 1, each of which stands for one truth value
        have bounds : f.least = 0 ∧ f.greatest = 1 := by
          cases f <;> first | exact ⟨rfl, rfl⟩ | cases flag
        have bit : n = 0 ∨ n = 1 := by
          rw [admits, bounds.1, bounds.2, Bool.and_eq_true, decide_eq_true_eq,
            decide_eq_true_eq] at admitted
          omega
        obtain rfl | rfl := bit
        · exact congrArg (Except.map some) (checkNumber_eq admitted)
        · exact congrArg (Except.map some) (checkNumber_eq admitted)
      · rw [check, checkNumber_eq admitted]
        rfl

namespace Fields

variable {p q : Fields} {convert : Field.Conversion}

/-- All contents by name. -/
def contents (p : Fields) : List (String × Offered) :=
  Field.all.map fun f => (f.name, f.offer (p.get f))

/-- A state that is checked as a whole, with named values in place of what there was. -/
def revised (p : Fields) (values : List (String × Offered))
    (convert : Field.Conversion := .standard) : Except (List Problem) Fields :=
  renewed ((p.contents.filter fun v => v.1 ∉ values.map Prod.fst) ++ values) convert

/-- The state with some fields as they are in another one. -/
def copied (p source : Fields) (fields : List Field) : Fields :=
  p.apply (fields.map fun f => (f, source.get f))

lemma get_copied (p source : Fields) (fields : List Field) (g : Field) :
    (p.copied source fields).get g = if g ∈ fields then source.get g else p.get g := by
  induction fields generalizing p with
  | nil => rfl
  | cons f fields ih =>
      have step : (p.copied source (f :: fields)).get g =
          ((p.put f (source.get f)).copied source fields).get g := rfl
      rw [step, ih, get_put]
      by_cases here : g = f
      · subst here
        simp
      · simp [here]

/-- Where all fields are copied, nothing of the first state is left. -/
lemma copied_all (p source : Fields) : p.copied source Field.all = source := by
  ext1 g
  rw [get_copied, if_pos g.mem_all]

/-- Of several changes of one field the last one stands. -/
lemma get_apply (p : Fields) (changes : List (Field × Option Int)) (f : Field) :
    (p.apply changes).get f = (changes.reverse.lookup f).getD (p.get f) := by
  induction changes generalizing p with
  | nil => rfl
  | cons c changes ih =>
      obtain ⟨g, content⟩ := c
      have step : (p.apply ((g, content) :: changes)).get f =
          ((p.put g content).apply changes).get f := rfl
      rw [step, ih, get_put, List.reverse_cons, List.lookup_append]
      cases changes.reverse.lookup f with
      -- a later change of the same field hides this one
      | some later => rfl
      | none =>
          by_cases here : f = g
          · subst here
            simp
          · have other : (f == g) = false := by simpa using here
            simp [here, List.lookup_cons, other]

/-- What a field can have is a change of that field. -/
lemma change_offer {unknown : Problem.Nature} {f : Field} {content : Option Int}
    (h : f.allows content = true) :
    change unknown f.name (f.offer content) convert = .ok (f, content) := by
  rw [change, Field.ofName?_name]
  dsimp only
  rw [Field.check_offer h]

/-- A named value that raises no problem comes on top of the changes that the others make. -/
lemma changes_cons {v : String × Offered} {c : Field × Option Int}
    (made : change .unknownField v.1 v.2 convert = .ok c) (values : List (String × Offered)) :
    changes (v :: values) convert = (changes values convert).map (c :: ·) := by
  obtain ⟨name, value⟩ := v
  simp only [changes, List.map_cons, made, List.filterMap_cons, Except.toOption]
  split <;> rfl

/-- The contents of valid fields raise no problem. -/
lemma changes_contents (valid : p.Valid) (fields : List Field) (values : List (String × Offered)) :
    changes (fields.map (fun f => (f.name, f.offer (p.get f))) ++ values) convert =
      (changes values convert).map (fields.map (fun f => (f, p.get f)) ++ ·) := by
  have made (f : Field) :
      change .unknownField f.name (f.offer (p.get f)) convert = .ok (f, p.get f) :=
    change_offer (valid f)
  induction fields with
  | nil =>
      rw [List.map_nil, List.nil_append]
      cases changes values convert <;> rfl
  | cons f fields ih =>
      rw [List.map_cons, List.cons_append, changes_cons (made f), ih]
      cases changes values convert <;> rfl

/-- Where there are no problems, each of the named values makes a change. -/
lemma exists_change {values : List (String × Offered)} {cs : List (Field × Option Int)}
    (made : changes values convert = .ok cs) {v : String × Offered} (mem : v ∈ values) :
    ∃ c ∈ cs, change .unknownField v.1 v.2 convert = .ok c := by
  simp only [changes] at made
  split at made
  · rename_i noProblem
    cases made
    have each := List.filterMap_eq_nil_iff.mp (List.isEmpty_iff.mp noProblem)
    have own : change .unknownField v.1 v.2 convert ∈
        values.map fun v => change .unknownField v.1 v.2 convert := List.mem_map_of_mem mem
    cases change : change .unknownField v.1 v.2 convert with
    | error problem => exact absurd (each _ own) (by simp [change])
    | ok c => exact ⟨c, List.mem_filterMap.mpr ⟨_, own, by simp [change, Except.toOption]⟩, rfl⟩
  · cases made

/-- A field that no change is about has a name that none of the values has. -/
lemma notMem_names {values : List (String × Offered)} {cs : List (Field × Option Int)}
    (made : changes values convert = .ok cs) {f : Field} (without : cs.reverse.lookup f = none) :
    f.name ∉ values.map Prod.fst := by
  intro named
  obtain ⟨v, mem, name⟩ := List.mem_map.mp named
  obtain ⟨c, here, change⟩ := exists_change made mem
  have own := ofName?_of_change change
  rw [name, Field.ofName?_name, Option.some.injEq] at own
  have other := List.lookup_eq_none_iff.mp without c (List.mem_reverse.mpr here)
  simp [own] at other

/-- On valid fields, checking all of them anew is the same as checking what is changed. -/
lemma revised_eq_changed (valid : p.Valid) (values : List (String × Offered)) :
    p.revised values convert = p.changed values convert := by
  -- every field is changed anew: to what it was, or to what the values make of it
  let kept := Field.all.filter fun f => f.name ∉ values.map Prod.fst
  have contents : (p.contents.filter fun v => v.1 ∉ values.map Prod.fst) =
      kept.map fun f => (f.name, f.offer (p.get f)) := by
    rw [Fields.contents, List.filter_map]
    rfl
  rw [revised, renewed, changed, changed, contents, changes_contents valid]
  cases made : changes values convert with
  | error problems => rfl
  | ok cs =>
      refine congrArg Except.ok (ext fun f => ?_)
      have steps : empty.apply (kept.map (fun f => (f, p.get f)) ++ cs) =
          (empty.copied p kept).apply cs := List.foldl_append
      rw [steps, get_apply, get_apply]
      cases later : cs.reverse.lookup f with
      | some content => rfl
      | none =>
          have here : f ∈ kept :=
            List.mem_filter.mpr ⟨f.mem_all, decide_eq_true (notMem_names made later)⟩
          rw [get_copied, if_pos here]

/-- Numbers that their fields can hold are changed to as they are filled in. -/
lemma changed_offer {numbers : List (Field × Int)}
    (admitted : ∀ x ∈ numbers, x.1.admits x.2 = true) :
    p.changed (numbers.map fun (f, n) => (f.name, f.offer (some n))) = .ok (p.assign numbers) := by
  have made : changes (numbers.map fun (f, n) => (f.name, f.offer (some n))) =
      .ok (numbers.map fun (f, n) => (f, some n)) := by
    induction numbers with
    | nil => rfl
    | cons x numbers ih =>
        obtain ⟨f, n⟩ := x
        have first : change .unknownField f.name (f.offer (some n)) = .ok (f, some n) :=
          change_offer (admitted (f, n) (by simp))
        rw [List.map_cons, changes_cons first, ih fun x mem => admitted x (by simp [mem])]
        rfl
  rw [changed, made]
  exact congrArg Except.ok (List.foldl_map ..)

/-- A number that its field cannot hold is no change. -/
lemma admits_of_change_offer {f : Field} {n : Int} {c : Field × Option Int}
    (number : f.meaning = .number)
    (made : change .unknownField f.name (f.offer (some n)) = .ok c) : f.admits n = true := by
  have plain : f.offer (some n) = .integer n := by
    rw [Field.offer, number]
    exact if_neg nofun
  rw [change, Field.ofName?_name, plain] at made
  dsimp only at made
  split at made
  · rename_i passed
    obtain ⟨m, checked, -⟩ := Outcome.map_eq_ok_iff.mp passed
    rw [Field.checkNumber] at checked
    split at checked
    · assumption
    · split at checked <;> cases checked
  · cases made

/-- A field for which there are no numbers keeps what it holds. -/
lemma get_assign_of_notMem_map {p : Fields} {numbers : List (Field × Int)} {f : Field}
    (without : f ∉ numbers.map Prod.fst) : (p.assign numbers).get f = p.get f := by
  apply get_assign_of_notMem
  rintro x mem rfl
  exact without (List.mem_map_of_mem mem)

/-- A field for which there are numbers holds one of them once they are filled in, wherever that
is. -/
lemma exists_get_assign {numbers : List (Field × Int)} {f : Field}
    (given : f ∈ numbers.map Prod.fst) :
    ∃ n, (f, n) ∈ numbers ∧ ∀ p : Fields, (p.assign numbers).get f = some n := by
  induction numbers with
  | nil => cases given
  | cons x numbers ih =>
      obtain ⟨g, m⟩ := x
      -- the last number for the field stands, so the search goes to the end first
      by_cases later : f ∈ numbers.map Prod.fst
      · obtain ⟨n, mem, holds⟩ := ih later
        exact ⟨n, by simp [mem], fun p => holds (p.put g (some m))⟩
      · obtain rfl : f = g := by
          obtain first | other := List.mem_cons.mp given
          · exact first
          · exact absurd other later
        refine ⟨m, by simp, fun p => ?_⟩
        rw [assign_cons, get_assign_of_notMem_map later, get_put, if_pos rfl]

/-- The fields of some numbers, taken over from any state in which these are filled in. -/
lemma copied_assign (p q : Fields) (numbers : List (Field × Int)) :
    p.copied (q.assign numbers) (numbers.map Prod.fst) = p.assign numbers := by
  ext1 f
  rw [get_copied]
  split
  · rename_i given
    obtain ⟨n, -, holds⟩ := exists_get_assign given
    rw [holds q, holds p]
  · rename_i without
    rw [get_assign_of_notMem_map without]

end Fields

/-! ### Readers -/

namespace Rechecked

/-- Some fields changed by name, one after the other, to what they are in another state. -/
def commit (source : Fields) : List Field → FieldReader Unit
  | [] => pure ()
  | f :: fields => do
    let _ ← replaceBy fun p => p.assigned f.name (f.offer (source.get f))
    commit source fields

/-- An action on a copy of the state, from which all fields are taken over if it succeeds. -/
def onCopy {A : Type} (x : FieldReader A) : FieldReader A := do
  match x.runOn (← get) with
  | (.error fault, _) => throw fault
  | (.ok a, copy) =>
    commit copy Field.all
    return a

/-- A component at the front of a text, whose numbers are checked together with all fields. -/
def component (data : Octets) (c : Component) : FieldReader Octets :=
  match c.read? data with
  | none => fail (.component c.kind.displayName)
  | some (numbers, rest) => do
    match (← get).revised (numbers.map fun (f, n) => (f.name, f.offer (some n))) with
    | .error _ => fail (.component c.kind.displayName)
    | .ok updated =>
      commit updated (numbers.map Prod.fst)
      return rest

mutual

/-- An item at the front of a text. -/
def item : Item → Octets → FieldReader Octets
  | .literal text, data => fillIn ((Leaf.literal text).parse data)
  | .component c, data | .bare c, data => component data c
  | .compound items, data => onCopy (row items data)
  | .series sort _, _ => throw (.misuse (.notReadable (Item.series sort []).sortName))
  | .stray v, _ => throw (.misuse (.notReadable v.sortName))

/-- Items one after the other. -/
def row : List Item → Octets → FieldReader Octets
  | [], data => pure data
  | i :: items, data => do
    let rest ← item i data
    row items rest

end

/-- Items one after the other, all of them or none. -/
def items (members : List Item) (data : Octets) : FieldReader Octets :=
  onCopy (row members data)

/-- The date of the internet format. -/
def date (data : Octets) : FieldReader Octets :=
  if (readSign data).1 = none then items Rfc3339.dateItems data
  else fail (.component Kind.year.displayName)

/-- The fraction of the internet format. -/
def fraction : Octets → FieldReader Octets
  | b :: rest => if b = 46 then component rest (.ofKind .subsecond) else pure (b :: rest)
  | [] => pure []

/-- The zone of the internet format. -/
def zone : Octets → FieldReader Octets
  | b :: rest =>
    if b = 90 ∨ b = 122 then do
      commit (Fields.empty.assign Rfc3339.zuluFields) (Rfc3339.zuluFields.map Prod.fst)
      return rest
    else items Rfc3339.offsetItems (b :: rest)
  | [] => items Rfc3339.offsetItems []

/-- The internet format. -/
def rfc3339 (data : Octets) : FieldReader Octets := do
  let data ← date data
  let data ← Rfc3339.parseSeparator data
  let data ← items Rfc3339.timeItems data
  let data ← fraction data
  zone data

/-- A layout at the front of a text. -/
def layout (l : Layout) (data : Octets) : FieldReader Octets :=
  match l with
  | .items members => items members data
  | .wellKnown .rfc3339 => onCopy (rfc3339 data)
  | .wellKnown .abstract => throw (.misuse .notImplemented)

/-- The layout of a description at the front of a text. -/
def format (description : Item) (data : Octets) : FieldReader Octets :=
  match description.layout with
  | .ok l => layout l data
  | .error fault => throw fault

/-- What an operation does when it checks the whole state again.  Those that neither change many
fields at once nor read any are as they are.  A reader offers nothing that needs a conversion. -/
def operation (o : Operation) (convert : Field.Conversion := .standard) : FieldReader Outcome :=
  match o with
  | .change values => replaceBy fun p => p.revised values convert
  | .readComponent input c => Outcome.rest <$> component input c
  | .readItem input i => Outcome.rest <$> item i input
  | .readItems input sequence =>
    match sequence.elements with
    | .ok members => Outcome.rest <$> items members input
    | .error m => throw (.misuse m)
  | .readFormat input description => Outcome.rest <$> format description input
  | o => o.run convert

/-- The states that operations lead to, from the one in which nothing is known.  Words and objects
may be converted in any way that respects the fields. -/
inductive Reached : Fields → Prop
  | empty : Reached .empty
  | step {p : Fields} (o : Operation) {convert : Field.Conversion} (bounded : convert.Bounded) :
      Reached p → Reached ((operation o convert).runOn p).2

end Rechecked

/-! ### What the readers amount to -/

namespace FieldReader

/-- On valid fields one action does what another one does, and they stay valid. -/
structure Rechecks {A : Type} (x y : FieldReader A) : Prop where
  runOn : ∀ p : Fields, p.Valid → x.runOn p = y.runOn p
  valid : ∀ p : Fields, p.Valid → (y.runOn p).2.Valid

variable {A B : Type}

lemma rechecks_of_steps {x y : FieldReader A}
    (steps : ∀ p : Fields, p.Valid → x.runOn p = y.runOn p ∧ (y.runOn p).2.Valid) :
    Rechecks x y :=
  ⟨fun p valid => (steps p valid).1, fun p valid => (steps p valid).2⟩

lemma rechecks_of_fills {x : FieldReader A} {fields : List Field} (h : x.Fills fields) :
    Rechecks x x where
  runOn _ _ := rfl
  valid _ := h.valid

lemma rechecks_pure (a : A) : Rechecks (pure a : FieldReader A) (pure a) :=
  rechecks_of_fills (fills_pure a : Fills _ [])

lemma rechecks_throw (fault : Fault) : Rechecks (throw fault : FieldReader A) (throw fault) :=
  rechecks_of_fills (fills_throw fault : Fills _ [])

lemma Rechecks.bind {x y : FieldReader A} {f g : A → FieldReader B} (first : Rechecks x y)
    (next : ∀ a, Rechecks (f a) (g a)) : Rechecks (x >>= f) (y >>= g) := by
  refine rechecks_of_steps fun p valid => ?_
  have after := first.valid p valid
  rw [runOn_bind, runOn_bind, first.runOn p valid]
  generalize y.runOn p = ended at after ⊢
  obtain ⟨result, q⟩ := ended
  cases result with
  | error fault => exact ⟨rfl, after⟩
  | ok a => exact ⟨(next a).runOn q after, (next a).valid q after⟩

lemma Rechecks.map {x y : FieldReader A} (h : Rechecks x y) (f : A → B) :
    Rechecks (f <$> x) (f <$> y) where
  runOn p valid := by rw [runOn_map, runOn_map, h.runOn p valid]
  valid p valid := by
    rw [runOn_map]
    exact h.valid p valid

/-- From valid fields others are taken over, and nothing fails. -/
lemma runOn_commit {source : Fields} (valid : source.Valid) (fields : List Field) (p : Fields) :
    (Rechecked.commit source fields).runOn p = (.ok (), p.copied source fields) := by
  induction fields generalizing p with
  | nil => rfl
  | cons f fields ih =>
      have passed : p.assigned f.name (f.offer (source.get f)) = .ok (p.put f (source.get f)) := by
        rw [Fields.assigned, Field.isPrivate_name, if_neg Bool.false_ne_true,
          Fields.change_offer (valid f)]
      rw [Rechecked.commit, runOn_bind, runOn_replaceBy, passed]
      exact ih (p.put f (source.get f))

/-- What happens on a copy is a transaction. -/
lemma Rechecks.onCopy {x y : FieldReader A} (h : Rechecks x y) :
    Rechecks (Rechecked.onCopy x) (transaction y) := by
  refine rechecks_of_steps fun p valid => ?_
  have after := h.valid p valid
  rw [Rechecked.onCopy, runOn_get_bind, h.runOn p valid, runOn_transaction]
  generalize y.runOn p = ended at after ⊢
  obtain ⟨result, copy⟩ := ended
  cases result with
  | error fault => exact ⟨rfl, valid⟩
  | ok a =>
      refine ⟨?_, after⟩
      dsimp only
      rw [runOn_bind, runOn_commit after, Fields.copied_all]
      rfl

end FieldReader

namespace Rechecked

/-- A component is not rejected because of anything that the fields hold. -/
lemma rechecks_component (data : Octets) (c : Component) :
    Rechecks (component data c) (fillIn (c.parse data)) where
  valid _ := (c.fills_fillIn data).valid
  runOn p valid := by
    rw [runOn_fillIn, component]
    cases read : c.read? data with
    | none =>
        rw [Component.parse, read]
        rfl
    | some reading =>
        obtain ⟨numbers, rest⟩ := reading
        dsimp only
        rw [runOn_get_bind, Fields.revised_eq_changed valid]
        by_cases all : (numbers.all fun (f, n) => f.admits n) = true
        · have parsed : c.parse data = .ok (numbers, rest) := by
            rw [Component.parse, read]
            exact if_pos all
          have validAfter : (p.assign numbers).Valid := by
            have after := (c.fills_fillIn data).valid valid
            rwa [parsed] at after
          rw [parsed, Fields.changed_offer (List.all_eq_true.mp all)]
          dsimp only
          rw [runOn_bind, runOn_commit validAfter, Fields.copied_assign]
          rfl
        · -- a number out of bounds is found by the plain reader, and by the check of all fields too
          have parsed : c.parse data = .error (.component c.kind.displayName) := by
            rw [Component.parse, read]
            exact if_neg all
          rw [parsed]
          cases checked : p.changed (numbers.map fun (f, n) => (f.name, f.offer (some n))) with
          | error problems => rfl
          | ok q =>
              obtain ⟨cs, made, -⟩ := Fields.changed_eq_ok_iff.mp checked
              refine absurd (List.all_eq_true.mpr fun x mem => ?_) all
              obtain ⟨_, -, change⟩ := Fields.exists_change made (List.mem_map_of_mem mem)
              by_cases number : x.1.meaning = .number
              · exact Fields.admits_of_change_offer number change
              · exact Component.admits_of_read? read mem number

/-- Items in a row are read as if nothing were checked again, once each of them is. -/
lemma rechecks_row {members : List Item}
    (each : ∀ i ∈ members, ∀ data, Rechecks (item i data) (i.parse data)) (data : Octets) :
    Rechecks (row members data) (Item.parseAll members data) := by
  induction members generalizing data with
  | nil => exact rechecks_pure data
  | cons i members ih =>
      rw [row, Item.parseAll]
      exact (each i (by simp) data).bind (ih fun j hj => each j (by simp [hj]))

lemma rechecks_item (i : Item) (data : Octets) : Rechecks (item i data) (i.parse data) := by
  induction i using Item.ind generalizing data with
  | literal t =>
      rw [item, Item.parse]
      exact rechecks_of_fills ((Item.literal t).fills_parse data)
  | component c | bare c =>
      rw [item, Item.parse]
      exact rechecks_component data c
  | compound members ih =>
      rw [item, Item.parse]
      exact (rechecks_row ih data).onCopy
  | series sort members => exact rechecks_throw _
  | stray v => exact rechecks_throw _

lemma rechecks_items (members : List Item) (data : Octets) :
    Rechecks (items members data) (parseItems members data) :=
  (rechecks_row (fun i _ => rechecks_item i) data).onCopy

/-- The letter for UTC fills in what it changes field by field. -/
lemma rechecks_zulu (rest : Octets) :
    Rechecks (do
      commit (Fields.empty.assign Rfc3339.zuluFields) (Rfc3339.zuluFields.map Prod.fst)
      return rest) (fillIn (.ok (Rfc3339.zuluFields, rest))) := by
  have fills :
      Fills (fillIn (.ok (Rfc3339.zuluFields, rest))) (Rfc3339.zuluFields.map Prod.fst) := by
    refine fills_fillIn fun numbers rest read => ?_
    cases read
    decide
  have source : (Fields.empty.assign Rfc3339.zuluFields).Valid := fills.valid Fields.valid_empty
  refine ⟨fun p _ => ?_, fun _ => fills.valid⟩
  rw [runOn_bind, runOn_commit source, Fields.copied_assign]
  rfl

lemma rechecks_rfc3339 (data : Octets) : Rechecks (rfc3339 data) (Rfc3339.parse data) := by
  -- part by part: date, separator, time, fraction and zone
  refine Rechecks.bind ?_ fun data => Rechecks.bind ?_ fun data => Rechecks.bind ?_ fun data =>
    Rechecks.bind ?_ fun data => ?_
  · rw [date, Rfc3339.parseDate]
    split
    · exact rechecks_items _ _
    · exact rechecks_throw _
  · cases data with
    | nil => exact rechecks_throw _
    | cons b data =>
        rw [Rfc3339.parseSeparator]
        split
        · exact rechecks_pure data
        · exact rechecks_throw _
  · exact rechecks_items _ _
  · cases data with
    | nil => exact rechecks_pure []
    | cons b data =>
        rw [fraction, Rfc3339.parseFraction]
        split
        · exact rechecks_component data _
        · exact rechecks_pure _
  · cases data with
    | nil => exact rechecks_items _ _
    | cons b data =>
        rw [zone, Rfc3339.parseZone]
        split
        · exact rechecks_zulu data
        · exact rechecks_items _ _

lemma rechecks_layout (l : Layout) (data : Octets) : Rechecks (layout l data) (l.parse data) := by
  match l with
  | .items members => exact rechecks_items members data
  | .wellKnown .rfc3339 => exact (rechecks_rfc3339 data).onCopy
  | .wellKnown .abstract => exact rechecks_throw _

lemma rechecks_format (description : Item) (data : Octets) :
    Rechecks (format description data) (parseFormat description data) := by
  rw [format, parseFormat]
  cases description.layout with
  | ok l => exact rechecks_layout l data
  | error fault => exact rechecks_throw fault

/-- On valid fields, every operation does the same whether or not it checks all fields again. -/
theorem rechecks_operation {convert : Field.Conversion} (bounded : convert.Bounded)
    (o : Operation) : Rechecks (operation o convert) (o.run convert) := by
  have sound := (o.sound_run bounded).valid
  -- only the readers and a change of many fields do anything else than before
  cases o with
  | set | renew | readLiteral | resolve => exact ⟨fun _ _ => rfl, sound⟩
  | change values =>
      refine ⟨fun p valid => ?_, sound⟩
      rw [operation, Operation.run, runOn_replaceBy, runOn_replaceBy,
        Fields.revised_eq_changed valid]
  | readComponent input c => exact (rechecks_component input c).map _
  | readItem input i => exact (rechecks_item i input).map _
  | readItems input sequence =>
      rw [operation, Operation.run]
      cases sequence.elements with
      | ok members => exact (rechecks_items members input).map _
      | error m => exact rechecks_throw _
  | readFormat input description => exact (rechecks_format description input).map _

/-- Operations lead to valid fields. -/
theorem Reached.valid {p : Fields} (reached : Reached p) : p.Valid := by
  induction reached with
  | empty => exact Fields.valid_empty
  | step o bounded _ ih =>
      rw [(rechecks_operation bounded o).runOn _ ih]
      exact (rechecks_operation bounded o).valid _ ih

end Rechecked

end CalendarText
