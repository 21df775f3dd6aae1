/-
Tokens other than numbers: signs and names.

`firstMatch` picks the longest of several names that stands at the front of a text, and the first
one among names that are equally long.
-/
import CalendarText.Text.Octets

namespace CalendarText

/-- A sign in front of a number. -/
inductive Sign where
  | plus
  | minus
  deriving DecidableEq, Repr

/-- The octet of a sign. -/
def Sign.octet : Sign → UInt8
  | plus => 43
  | minus => 45

/-- The number with the sign in front of it, if there is one. -/
def Sign.apply (sign : Option Sign) (n : Nat) : Int :=
  if sign = some .minus then -n else n

/-- A sign at the front of a text, and what follows it. -/
def readSign : Octets → Option Sign × Octets
  | [] => (none, [])
  | b :: rest =>
    if b = 43 then (some .plus, rest)
    else if b = 45 then (some .minus, rest)
    else (none, b :: rest)

/-- What follows a name at the front of a text.  Where case does not matter, capital and small
ASCII letters are alike. -/
def behindName? (caseSensitive : Bool) (name data : Octets) : Option Octets :=
  if caseSensitive then Octets.behind? name data
  else
    (Octets.behind? (Octets.foldCase name) (Octets.foldCase data)).map fun _ =>
      data.drop name.length

/-- The better of two matches, of which the first stands earlier in the list. -/
def longerMatch (a b : Option (Nat × Nat × Octets)) : Option (Nat × Nat × Octets) :=
  match a, b with
  | some (i, m, r), some (j, n, s) => if m < n then some (j, n, s) else some (i, m, r)
  | some x, none => some x
  | none, b => b

/-- The best match among names numbered from `index`: its number, its length, and what follows
it. -/
def bestMatch (caseSensitive : Bool) (data : Octets) :
    (index : Nat) → List Octets → Option (Nat × Nat × Octets)
  | _, [] => none
  | index, name :: names =>
    longerMatch
      ((behindName? caseSensitive name data).map fun rest => (index, name.length, rest))
      (bestMatch caseSensitive data (index + 1) names)

/-- The number of the longest name at the front of a text, and what follows that name. -/
def firstMatch (data : Octets) (names : List Octets) (caseSensitive : Bool) :
    Option (Nat × Octets) :=
  (bestMatch caseSensitive data 0 names).map fun (i, _, rest) => (i, rest)

/-- A name is found at the front exactly when the text begins with it. -/
theorem behindName?_sensitive {name data rest : Octets} :
    behindName? true name data = some rest ↔ data = name ++ rest := by
  simp [behindName?, Octets.behind?_eq_some_iff]

end CalendarText
