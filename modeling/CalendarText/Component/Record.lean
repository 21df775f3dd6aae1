/-
Components built from names: a kind by its name, and options by their fields.

`Component.build` looks up the kind, then builds the options, then checks that the options are
those of the kind; the first of the three that fails is reported.  `Component.fields` is the way
back.
-/
import CalendarText.Component.Basic
import CalendarText.Problem
import CalendarText.Text.Quoted

namespace CalendarText

/-- Why a component could not be built from names. -/
inductive Component.BuildError where
  /-- no kind has this name -/
  | unknownKind (name : String)
  /-- the options have problems -/
  | problems (found : List Problem)
  /-- the options are those of another kind -/
  | wrongOptions (kind given : Kind)
  deriving DecidableEq, Repr

/-- The sentence that reports the error, if it is reported by a sentence. -/
def Component.BuildError.message : Component.BuildError → String
  | unknownKind name => s!"{Quoted.encode name} is not a valid ComponentKind"
  | problems _ => ""
  | wrongOptions kind given =>
    s!"{kind.name} takes {kind.optionsName} modifiers, got {given.optionsName}"

/-- The modifier that a field value of a record stands for. -/
def Kind.modifierOf (k : Kind) (field : String) (value : Offered) : Except Problem Modifier :=
  match k.vocabulary.filter fun m => m.field = field with
  | [] => .error ⟨field, .unknownField⟩
  | option :: options =>
    let choose (s : Setting) : Except Problem Modifier :=
      match (option :: options).find? fun m => m.setting = s with
      | some m => .ok m
      | none => .error ⟨field, .notMember⟩
    match option.setting, value with
    | .flag _, v =>
      match v.toFlag with
      | .ok b => choose (.flag b)
      | .error nature => .error ⟨field, nature⟩
    | .word _, .word s => choose (.word s)
    | .word _, _ => .error ⟨field, .notMember⟩

namespace Component

/-- The component of a kind with these options.  All problems with the options are found. -/
def ofFields (k : Kind) (fields : List (String × Offered)) : Except (List Problem) Component :=
  let results := fields.map fun (field, value) => k.modifierOf field value
  let problems := results.filterMap fun r =>
    match r with
    | .error p => some p
    | .ok _ => none
  let modifiers := results.filterMap Except.toOption
  if problems.isEmpty then .ok (ofModifiers k modifiers) else .error (Problem.sort problems)

/-- The component with this name of a kind and these options.  `record` names the options that
are built, when they are not to be those of the kind itself. -/
def build (name : String) (record : Option Kind) (fields : List (String × Offered)) :
    Except BuildError Component := do
  match Kind.ofName? name with
  | none => throw (.unknownKind name)
  | some kind =>
    let given := record.getD kind
    let c ← (ofFields given fields).mapError .problems
    if given = kind then return c else throw (.wrongOptions kind given)

/-- All options of a component, by the fields of its record. -/
def fields (c : Component) : List (String × Setting) :=
  c.modifiers.map fun m => (m.field, m.setting)

end Component

end CalendarText
