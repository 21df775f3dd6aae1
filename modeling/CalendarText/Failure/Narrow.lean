/-
Narrowing: finding a failure of a wanted sort beneath the layers of another.

The layers are gone through from the outside.  The first failure of the wanted sort is found in
its place; a layer that was absorbed on the way in is built anew around what is stored there.
-/
import CalendarText.Failure.Basic

namespace CalendarText.Failure

/-- A failure of the wanted sort. -/
inductive Found where
  /-- it stands beneath this many layers -/
  | stored (depth : Nat) (f : Failure)
  /-- it is built anew -/
  | rebuilt (f : Failure)
  deriving DecidableEq, Repr

/-- What is found one layer further down, seen from here. -/
def Found.below : Found → Found
  | stored depth f => stored (depth + 1) f
  | rebuilt f => rebuilt f

/-- The layer built anew around `inner`, when it was absorbed into the layer `outer`. -/
def rebuild (wanted : FailureSort) (outer : Layer) (inner : Failure) : Option Failure :=
  match wanted with
  | .cause _ => none
  | .layer l => if l ∈ outer.absorbs && l.takes inner then some (within l inner) else none

/-- The first failure of a sort beneath the layers of another. -/
def find? (wanted : FailureSort) : Failure → Option Found
  | bare c => if (bare c).isA wanted then some (.stored 0 (bare c)) else none
  | within l inner =>
    if (within l inner).isA wanted then some (.stored 0 (within l inner))
    else
      match rebuild wanted l inner with
      | some f => some (.rebuilt f)
      | none => (find? wanted inner).map Found.below

/-- A failure narrowed to a sort, or the failure to do so. -/
def narrow (wanted : FailureSort) (f : Failure) : Except Failure Found :=
  match f.find? wanted with
  | some found => .ok found
  | none => .error (bare .differentVariant)

/-- The device error that a failure to write carries directly. -/
def deviceError (f : Failure) : Except Failure Failure :=
  match f with
  | within .formatting (bare (.device text)) => .ok (bare (.device text))
  | _ => .error (bare .differentVariant)

end CalendarText.Failure
