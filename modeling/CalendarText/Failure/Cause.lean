/-
The causes of failure, each with its details, its sentence, and its place among the sorts of
cause.

Two sorts have others beneath them: a flaw of a description, and a mismatch between an input and
a description.  The most general sort has all beneath it that arise here.
-/
import CalendarText.Calendar.Range
import CalendarText.Description.Error

namespace CalendarText

/-- What went wrong. -/
inductive Cause where
  /-- no more is known than the text says -/
  | general (text : String)
  /-- a quantity is out of its range -/
  | range (e : RangeError)
  /-- a conversion overflows its target -/
  | conversion
  /-- an offset is needed and cannot be assumed -/
  | indeterminateOffset
  /-- an error is of another kind than asked for -/
  | differentVariant
  /-- a description does not compile -/
  | description (e : DescriptionError)
  /-- a value lacks a part that a component needs -/
  | insufficientType
  /-- a quantity cannot be expressed in a format -/
  | unformattable (component : String)
  /-- an input does not match; no more is known than the text says -/
  | mismatch (text : String)
  /-- an input does not match literal text -/
  | literal
  /-- an input does not begin with a component -/
  | component (name : String)
  /-- something is left of an input -/
  | trailing
  /-- the fields do not determine a value -/
  | insufficient
  /-- a field contradicts the others -/
  | inconsistent (field : String)
  /-- the output device failed -/
  | device (text : String)
  /-- an error that does not arise here -/
  | foreign (text : String)
  deriving DecidableEq, Repr

/-- The sentence that reports the cause. -/
def Cause.message : Cause → String
  | general text | mismatch text | device text | foreign text => text
  | range e => e.message
  | conversion => "Source value is out of range for the target type"
  | indeterminateOffset => "The system's UTC offset could not be determined"
  | differentVariant => "value was of a different variant than required"
  | description e => e.message
  | insufficientType =>
    "The type being formatted does not contain sufficient information to format a component."
  | unformattable quantity =>
    s!"The {quantity} component cannot be formatted into the requested format."
  | literal => "a character literal was not valid"
  | component name => s!"the '{name}' component could not be parsed"
  | trailing => "unexpected trailing characters; the end of input was expected"
  | insufficient =>
    "the `Parsed` struct did not include enough information to construct the type"
  | inconsistent field =>
    s!"the `{field}` component is inconsistent with the other parsed components"

/-- The sorts of cause. -/
inductive CauseSort where
  | general
  | range
  | conversion
  | indeterminateOffset
  | differentVariant
  | description
  | unclosed
  | unknownComponent
  | unknownModifier
  | missingName
  | insufficientType
  | unformattable
  | mismatch
  | literal
  | component
  | trailing
  | insufficient
  | inconsistent
  | device
  | foreign
  deriving DecidableEq, Repr

/-- The sort of a cause. -/
def Cause.sort : Cause → CauseSort
  | general _ => .general
  | range _ => .range
  | conversion => .conversion
  | indeterminateOffset => .indeterminateOffset
  | differentVariant => .differentVariant
  | description e =>
    match e.flaw with
    | .general => .description
    | .unclosed => .unclosed
    | .unknownComponent _ => .unknownComponent
    | .unknownModifier _ => .unknownModifier
    | .missingName => .missingName
  | insufficientType => .insufficientType
  | unformattable _ => .unformattable
  | mismatch _ => .mismatch
  | literal => .literal
  | component _ => .component
  | trailing => .trailing
  | insufficient => .insufficient
  | inconsistent _ => .inconsistent
  | device _ => .device
  | foreign _ => .foreign

namespace CauseSort

/-- All sorts. -/
def all : List CauseSort :=
  [general, range, conversion, indeterminateOffset, differentVariant, description, unclosed,
    unknownComponent, unknownModifier, missingName, insufficientType, unformattable, mismatch,
    literal, component, trailing, insufficient, inconsistent, device, foreign]

/-- The name of a sort.  The most general one is named by the application. -/
def label (application : String) : CauseSort → String
  | general => application ++ "Error"
  | range => "ComponentRange"
  | conversion => "ConversionRange"
  | indeterminateOffset => "IndeterminateOffset"
  | differentVariant => "DifferentVariant"
  | description => "InvalidFormatDescription"
  | unclosed => "UnclosedOpeningBracket"
  | unknownComponent => "InvalidComponentName"
  | unknownModifier => "InvalidModifier"
  | missingName => "MissingComponentName"
  | insufficientType => "InsufficientTypeInformation"
  | unformattable => "InvalidFormatComponent"
  | mismatch => "ParseFromDescription"
  | literal => "InvalidLiteral"
  | component => "InvalidComponent"
  | trailing => "UnexpectedTrailingCharacters"
  | insufficient => "InsufficientInformation"
  | inconsistent => "InconsistentInformation"
  | device => "OSError"
  | foreign => "ValueError"

/-- Whether a cause of sort `s` is also of sort `t`. -/
def isA (s t : CauseSort) : Bool :=
  s = t ||
    match t with
    | general => s ≠ device && s ≠ foreign
    | description => s ∈ [unclosed, unknownComponent, unknownModifier, missingName]
    | mismatch => s ∈ [literal, component]
    | _ => false

/-- Whether causes of this sort are errors of value.  The general sort says too little for
that, another kind of error is no matter of value, and neither is a device. -/
def isValueError (s : CauseSort) : Bool :=
  s ≠ general && s ≠ differentVariant && s ≠ device

@[simp]
theorem isA_refl (s : CauseSort) : s.isA s = true := by
  simp [isA]

end CauseSort

end CalendarText
