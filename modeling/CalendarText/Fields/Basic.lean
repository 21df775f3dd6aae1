/-
The state that parsing fills in: a number, or nothing, in each field.

* `Fields.Valid`: every field holds a number within its bounds, or is empty where it may be;
* `Fields.changed`, `Fields.renewed`: many fields changed at once, with all problems reported;
* `Fields.valid_changed`, `Fields.valid_put`: changes keep the state valid;
* `Fields.get_changed`, `Fields.get_assigned`: changes by name leave all other fields alone.
-/
import CalendarText.Fields.Field

namespace CalendarText

/-- The contents of all fields. -/
structure Fields where
  get : Field → Option Int

namespace Fields

@[ext]
theorem ext {p q : Fields} (h : ∀ f, p.get f = q.get f) : p = q := by
  cases p
  cases q
  congr
  exact funext h

/-- The state at the beginning: nothing is known, and an offset is not negative. -/
def empty : Fields :=
  ⟨fun f => if f.optional then none else some 0⟩

/-- The state with one field filled in, or emptied. -/
def put (p : Fields) (f : Field) (content : Option Int) : Fields :=
  ⟨fun g => if g = f then content else p.get g⟩

/-- The state with numbers filled in, one after the other. -/
def assign (p : Fields) (numbers : List (Field × Int)) : Fields :=
  numbers.foldl (fun p (f, n) => p.put f (some n)) p

/-- The content of every field is one that it can have. -/
def Valid (p : Fields) : Prop :=
  ∀ f : Field, f.allows (p.get f) = true

/-! ### Changes by name -/

/-- What a named value puts into which field. -/
def change (unknown : Problem.Nature) (name : String) (value : Offered)
    (convert : Field.Conversion := .standard) : Except Problem (Field × Option Int) :=
  match Field.ofName? name with
  | none => .error ⟨name, unknown⟩
  | some f =>
    match f.check value convert with
    | .ok content => .ok (f, content)
    | .error nature => .error ⟨name, nature⟩

/-- The changes that named values make, or all problems with them. -/
def changes (values : List (String × Offered)) (convert : Field.Conversion := .standard) :
    Except (List Problem) (List (Field × Option Int)) :=
  let results := values.map fun (name, value) => change .unknownField name value convert
  let problems := results.filterMap fun r =>
    match r with
    | .error p => some p
    | .ok _ => none
  if problems.isEmpty then .ok (results.filterMap Except.toOption)
  else .error (Problem.sort problems)

/-- The state after changes. -/
def apply (p : Fields) (changes : List (Field × Option Int)) : Fields :=
  changes.foldl (fun p (f, content) => p.put f content) p

/-- The state with named values in place of what it had. -/
def changed (p : Fields) (values : List (String × Offered))
    (convert : Field.Conversion := .standard) : Except (List Problem) Fields :=
  (changes values convert).map p.apply

/-- A new state with named values. -/
def renewed (values : List (String × Offered)) (convert : Field.Conversion := .standard) :
    Except (List Problem) Fields :=
  empty.changed values convert

/-- Whether a name is private to whoever holds the state.  Such a name is no field, and a value
under it is none of the state's concern. -/
def isPrivate (name : String) : Bool :=
  name.startsWith "_"

/-- The state with one named value in place of what it had. -/
def assigned (p : Fields) (name : String) (value : Offered)
    (convert : Field.Conversion := .standard) : Except (List Problem) Fields :=
  if isPrivate name then .ok p
  else
    match change .unknownTarget name value convert with
    | .ok (f, content) => .ok (p.put f content)
    | .error problem => .error [problem]

/-! ### First facts -/

@[simp]
theorem get_put (p : Fields) (f g : Field) (content : Option Int) :
    (p.put f content).get g = if g = f then content else p.get g :=
  rfl

@[simp]
theorem assign_nil (p : Fields) : p.assign [] = p :=
  rfl

@[simp]
theorem assign_cons (p : Fields) (f : Field) (n : Int) (numbers : List (Field × Int)) :
    p.assign ((f, n) :: numbers) = (p.put f (some n)).assign numbers :=
  rfl

theorem assign_append (p : Fields) (a b : List (Field × Int)) :
    p.assign (a ++ b) = (p.assign a).assign b := by
  simp [assign, List.foldl_append]

theorem valid_empty : empty.Valid := by
  intro f
  cases f <;> decide

theorem valid_put {p : Fields} (h : p.Valid) {f : Field} {content : Option Int}
    (ok : f.allows content = true) : (p.put f content).Valid := by
  intro g
  by_cases hg : g = f
  · subst hg
    simpa using ok
  · simpa [hg] using h g

variable {convert : Field.Conversion}

/-- What a named value puts into a field is valid there. -/
theorem valid_of_change (bounded : convert.Bounded) {unknown : Problem.Nature} {name : String}
    {value : Offered} {f : Field} {content : Option Int}
    (h : change unknown name value convert = .ok (f, content)) : f.allows content = true := by
  rw [change] at h
  split at h
  · cases h
  · split at h
    · rename_i hc
      cases h
      exact Field.allows_of_check bounded hc
    · cases h

/-- What a named value changes is the field of that name. -/
theorem ofName?_of_change {unknown : Problem.Nature} {name : String} {value : Offered}
    {f : Field} {content : Option Int} (h : change unknown name value convert = .ok (f, content)) :
    Field.ofName? name = some f := by
  rw [change] at h
  split at h
  · cases h
  · rename_i known
    split at h
    · cases h
      exact known
    · cases h

/-- Each change is made by one of the named values. -/
theorem mem_of_changes {values : List (String × Offered)} {cs : List (Field × Option Int)}
    (h : changes values convert = .ok cs) {c : Field × Option Int} (mem : c ∈ cs) :
    ∃ v ∈ values, change .unknownField v.1 v.2 convert = .ok c := by
  simp only [changes] at h
  split at h
  · cases h
    obtain ⟨r, hr, toC⟩ := List.mem_filterMap.mp mem
    obtain ⟨v, hv, rfl⟩ := List.mem_map.mp hr
    refine ⟨v, hv, ?_⟩
    cases made : change .unknownField v.1 v.2 convert with
    | error e =>
      rw [made] at toC
      cases toC
    | ok d =>
      rw [made] at toC
      cases toC
      rfl
  · cases h

theorem valid_apply {p : Fields} (h : p.Valid) {cs : List (Field × Option Int)}
    (held : ∀ c ∈ cs, c.1.allows c.2 = true) : (p.apply cs).Valid := by
  induction cs generalizing p with
  | nil => exact h
  | cons c cs ih => exact ih (valid_put h (held c (by simp))) fun d hd => held d (by simp [hd])

/-- Fields for which there is no change stay as they are. -/
theorem get_apply_of_notMem {p : Fields} {cs : List (Field × Option Int)} {f : Field}
    (without : ∀ c ∈ cs, c.1 ≠ f) : (p.apply cs).get f = p.get f := by
  induction cs generalizing p with
  | nil => rfl
  | cons c cs ih =>
    have step : ((p.put c.1 c.2).apply cs).get f = (p.put c.1 c.2).get f :=
      ih fun d hd => without d (by simp [hd])
    exact step.trans (if_neg (without c (by simp)).symm)

/-- Changes by name are the changes that their values make, put together. -/
theorem changed_eq_ok_iff {p q : Fields} {values : List (String × Offered)} :
    p.changed values convert = .ok q ↔ ∃ cs, changes values convert = .ok cs ∧ p.apply cs = q := by
  rw [changed]
  cases changes values convert <;> simp [Except.map]

/-- Changes by name keep a state valid. -/
theorem valid_changed (bounded : convert.Bounded) {p q : Fields} (h : p.Valid)
    {values : List (String × Offered)} (hq : p.changed values convert = .ok q) : q.Valid := by
  obtain ⟨cs, made, rfl⟩ := changed_eq_ok_iff.mp hq
  refine valid_apply h fun c mem => ?_
  obtain ⟨v, -, change⟩ := mem_of_changes made mem
  exact valid_of_change bounded change

/-- A change by name keeps a state valid. -/
theorem valid_assigned (bounded : convert.Bounded) {p q : Fields} (h : p.Valid) {name : String}
    {value : Offered} (hq : p.assigned name value convert = .ok q) : q.Valid := by
  rw [assigned] at hq
  split at hq
  · cases hq
    exact h
  · split at hq
    · rename_i f content hc
      cases hq
      exact valid_put h (valid_of_change bounded hc)
    · cases hq

/-- Changes by name leave fields of other names alone. -/
theorem get_changed {p q : Fields} {values : List (String × Offered)}
    (hq : p.changed values convert = .ok q) {f : Field}
    (other : ∀ v ∈ values, Field.ofName? v.1 ≠ some f) : q.get f = p.get f := by
  obtain ⟨cs, made, rfl⟩ := changed_eq_ok_iff.mp hq
  apply get_apply_of_notMem
  rintro c mem rfl
  obtain ⟨v, hv, change⟩ := mem_of_changes made mem
  exact other v hv (ofName?_of_change change)

/-- A change by name leaves fields of other names alone. -/
theorem get_assigned {p q : Fields} {name : String} {value : Offered}
    (hq : p.assigned name value convert = .ok q) {f : Field}
    (other : Field.ofName? name ≠ some f) : q.get f = p.get f := by
  rw [assigned] at hq
  split at hq
  · cases hq
    rfl
  · split at hq
    · rename_i g content change
      cases hq
      refine if_neg ?_
      rintro rfl
      exact other (ofName?_of_change change)
    · cases hq

end Fields

end CalendarText
