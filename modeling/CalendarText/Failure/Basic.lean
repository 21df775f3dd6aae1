/-
Failures: a cause, wrapped in layers that say during what it arose.

A layer does not take every failure.  `wrap` admits what the layer stores as it is, takes off
layers that it absorbs, puts a missing layer in between, and refuses the rest.

* `Failure.message`: a failure is reported by the sentence of its cause;
* `Failure.wrap`: a failure within a layer;
* `Failure.cause_wrap`: wrapping keeps the cause.
-/
import CalendarText.Failure.Cause

namespace CalendarText

/-- During what a failure arose. -/
inductive Layer where
  /-- a value was built from fields -/
  | resolving
  /-- a value was written -/
  | formatting
  /-- a text was read -/
  | parsing
  /-- anything -/
  | any
  deriving DecidableEq, Repr

/-- The name of the layer. -/
def Layer.label : Layer → String
  | resolving => "TryFromParsed"
  | formatting => "Format"
  | parsing => "Parse"
  | any => "Error"

/-- A cause, possibly within layers. -/
inductive Failure where
  | bare (c : Cause)
  | within (layer : Layer) (inner : Failure)
  deriving DecidableEq, Repr

/-- What a failure is, outermost: a layer, or a cause of some sort. -/
inductive FailureSort where
  | cause (sort : CauseSort)
  | layer (l : Layer)
  deriving DecidableEq, Repr

/-- The name of the sort. -/
def FailureSort.label (application : String) : FailureSort → String
  | cause s => s.label application
  | layer l => l.label

namespace Failure

/-- What the failure is, outermost. -/
def sort : Failure → FailureSort
  | bare c => .cause c.sort
  | within l _ => .layer l

/-- Whether the failure is of a sort.  Every layer is of the most general sort of cause. -/
def isA : Failure → FailureSort → Bool
  | bare c, .cause s => c.sort.isA s
  | bare _, .layer _ => false
  | within _ _, .cause s => s = .general
  | within l _, .layer m => l = m

/-- The cause beneath all layers. -/
def cause : Failure → Cause
  | bare c => c
  | within _ inner => inner.cause

/-- The number of layers. -/
def depth : Failure → Nat
  | bare _ => 0
  | within _ inner => inner.depth + 1

/-- The sentence that reports the failure. -/
def message (f : Failure) : String :=
  f.cause.message

/-- Whether the failure is an error of value. -/
def isValueError : Failure → Bool
  | bare c => c.sort.isValueError
  | within l _ => l ≠ .any

end Failure

/-! ### Layers -/

namespace Layer

/-- The sorts that a layer stores as they are. -/
def stores : Layer → List FailureSort
  | resolving => [.cause .range, .cause .insufficient, .cause .inconsistent]
  | formatting => [.cause .insufficientType, .cause .unformattable, .cause .device]
  | parsing => [.layer resolving, .cause .mismatch, .cause .trailing, .cause .description]
  | any =>
    [.cause .conversion, .cause .range, .cause .indeterminateOffset, .layer formatting,
      .cause .mismatch, .cause .trailing, .layer resolving, .cause .description,
      .cause .differentVariant]

/-- The layers that a layer absorbs: in their place it stores what they hold. -/
def absorbs : Layer → List Layer
  | resolving | formatting => []
  | parsing => [parsing]
  | any => [parsing, any]

/-- The sorts that a layer stores within another layer. -/
def inserts : Layer → List (CauseSort × Layer)
  | resolving | formatting => []
  | parsing => [(.range, resolving), (.insufficient, resolving), (.inconsistent, resolving)]
  | any =>
    [(.insufficient, resolving), (.inconsistent, resolving), (.insufficientType, formatting),
      (.unformattable, formatting), (.device, formatting)]

/-- The sorts that are the whole story within a layer, with nothing further beneath. -/
def complete : Layer → List CauseSort
  | resolving => [.insufficient, .inconsistent]
  | formatting => [.insufficientType, .unformattable]
  | parsing | any => [.trailing]

/-- Whether a layer stores a failure as it is. -/
def takes (l : Layer) (f : Failure) : Bool :=
  l.stores.any fun s => f.isA s

end Layer

/-- A failure that a layer does not take. -/
structure Misfit where
  layer : Layer
  sort : FailureSort
  deriving DecidableEq, Repr

/-- The sentence that reports the misfit. -/
def Misfit.message (application : String) (m : Misfit) : String :=
  s!"{m.layer.label} cannot hold {m.sort.label application}"

namespace Failure

/-- The failure without the outer layers that `l` absorbs. -/
def strip (l : Layer) : Failure → Failure
  | bare c => bare c
  | within m inner => if m ∈ l.absorbs then strip l inner else within m inner

/-- The failure within a layer. -/
def wrap (l : Layer) (f : Failure) : Except Misfit Failure :=
  let f := strip l f
  if l.takes f then .ok (within l f)
  else
    match l.inserts.find? fun (s, _) => f.isA (.cause s) with
    | some (_, m) => .ok (within l (within m f))
    | none => .error ⟨l, f.sort⟩

/-- Whether something further lies beneath the outermost layer. -/
def hasDeeperCause : Failure → Bool
  | bare _ => false
  | within l inner => !l.complete.any fun s => inner.isA (.cause s)

@[simp]
theorem cause_strip (l : Layer) (f : Failure) : (strip l f).cause = f.cause := by
  induction f with
  | bare c => rfl
  | within m inner ih =>
    by_cases h : m ∈ l.absorbs
    · simpa [strip, h, cause] using ih
    · simp [strip, h]

/-- Wrapping keeps the cause. -/
theorem cause_wrap {l : Layer} {f g : Failure} (h : wrap l f = .ok g) : g.cause = f.cause := by
  rw [wrap] at h
  dsimp only at h
  split at h
  · cases h
    simp [cause]
  · split at h
    · cases h
      simp [cause]
    · cases h

/-- Nothing that a layer absorbs is left outermost. -/
theorem strip_eq_within {l m : Layer} {f inner : Failure} (h : strip l f = within m inner) :
    m ∉ l.absorbs := by
  induction f with
  | bare c => cases h
  | within k g ih =>
    by_cases hk : k ∈ l.absorbs
    · exact ih (by simpa [strip, hk] using h)
    · rw [strip, if_neg hk] at h
      cases h
      exact hk

end Failure

end CalendarText
