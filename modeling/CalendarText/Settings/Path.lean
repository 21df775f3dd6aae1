/-
Paths to settings files, as text and as rows of names.

Names that change nothing (`.` and the empty one) are left out, so the two ways to write a file with
and without them are one path.  The name `..` is kept, because where it leads is known to the disk
alone: it leads nowhere from what is no directory.
-/
namespace CalendarText

/-- Where a path begins. -/
inductive Path.Start where
  /-- in the working directory -/
  | here
  /-- at the root -/
  | root
  /-- at the root, written with two slashes -/
  | doubleRoot
  deriving DecidableEq, Repr

/-- A path: where it begins, and the names that it goes through. -/
structure Path where
  start : Path.Start
  names : List String
  deriving DecidableEq, Repr

namespace Path

/-- How the text of a path begins. -/
def Start.text : Start → String
  | here => ""
  | root => "/"
  | doubleRoot => "//"

/-- The beginning that a text denotes.  Two slashes are kept apart from one, and more than two count
as one. -/
def Start.ofText (text : String) : Start :=
  match text.toList with
  | '/' :: '/' :: '/' :: _ => root
  | '/' :: '/' :: _ => doubleRoot
  | '/' :: _ => root
  | _ => here

/-- The path that a text denotes. -/
def ofText (text : String) : Path :=
  ⟨.ofText text, (text.splitOn "/").filter fun name => name ≠ "" ∧ name ≠ "."⟩

/-- The path as text.  The working directory itself is a point. -/
def text (p : Path) : String :=
  let whole := p.start.text ++ "/".intercalate p.names
  if whole = "" then "." else whole

/-- The last name. -/
def name (p : Path) : String :=
  p.names.getLast?.getD ""

/-- The name of the directory that holds the one at hand. -/
def upward : String := ".."

/-- The most octets that a name can have. -/
def longestName : Nat := 255

/-- The most octets that a path can have. -/
def longestText : Nat := 4095

/-- Whether a name, taken by itself, is too long to stand on a disk. -/
def isLongName (name : String) : Bool :=
  longestName < name.utf8ByteSize

/-- Whether the path as a whole is too long. -/
def isLong (p : Path) : Bool :=
  longestText < p.text.utf8ByteSize

/-- Whether the text holds a null character, which no file has in its path. -/
def hasNull (p : Path) : Bool :=
  p.text.toList.contains '\x00'

end Path

end CalendarText
