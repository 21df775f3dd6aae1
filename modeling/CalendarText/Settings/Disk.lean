/-
Settings files on disk.

A path is followed name by name.  Every name but the last must lead to a directory, and a path that
leads through anything else leads to nothing.

* `Disk.find`: what stands at the end of a path;
* `Disk.write`: a file written, with the directories on the way to it.
-/
import CalendarText.Settings.Datum
import CalendarText.Settings.Path

namespace CalendarText

/-! ### Places -/

/-- A directory from which places are counted. -/
inductive Place.Origin where
  | root
  /-- so many levels above the working directory -/
  | above (levels : Nat)
  deriving DecidableEq, Repr

/-- A place in the tree of directories, by the names that lead down to it.  What the directories
above the working directory are called is not known, so a place has one form only as long as no
path goes down to the working directory from the root. -/
structure Place where
  origin : Place.Origin
  names : List String
  deriving DecidableEq, Repr

namespace Place

/-- The working directory. -/
def here : Place :=
  ⟨.above 0, []⟩

/-- The root. -/
def root : Place :=
  ⟨.root, []⟩

/-- The place one name further down. -/
def child (p : Place) (name : String) : Place :=
  ⟨p.origin, p.names ++ [name]⟩

/-- The place one level further up.  Nothing is above the root. -/
def parent (p : Place) : Place :=
  match p.names, p.origin with
  | [], .root => root
  | [], .above levels => ⟨.above (levels + 1), []⟩
  | _ :: _, origin => ⟨origin, p.names.dropLast⟩

/-- The place to which a name leads. -/
def step (p : Place) (name : String) : Place :=
  if name = Path.upward then p.parent else p.child name

end Place

/-- The place where a path begins. -/
def Path.Start.place : Path.Start → Place
  | here => .here
  | root | doubleRoot => .root

/-! ### Disks -/

/-- What a settings file holds. -/
inductive FileContent where
  | table (entries : Datum.Table)
  /-- text that is no table -/
  | invalid
  deriving Repr

/-- The directories that stand at the root of every system. -/
def Place.standard : List Place :=
  ["bin", "boot", "dev", "etc", "lib", "media", "mnt", "opt", "proc", "run", "sbin", "srv", "sys",
    "tmp", "usr", "var"].map root.child

/-- The files and directories of a disk.  The places from which others are counted are directories
as well, and are not listed. -/
structure Disk where
  files : List (Place × FileContent) := []
  directories : List Place := Place.standard

/-- What stands at the end of a path. -/
inductive Disk.Finding where
  | nothing
  | directory
  | file (place : Place) (content : FileContent)
  /-- the path cannot be followed, because a name on it is too long -/
  | longName

namespace Disk

/-- What some names lead to from a directory. -/
def follow (d : Disk) : Place → List String → Finding
  | _, [] => .directory
  | place, name :: rest =>
    if name = Path.upward then d.follow place.parent rest
    else if Path.isLongName name then .longName
    else
      match d.files.lookup (place.child name) with
      | some content => if rest = [] then .file (place.child name) content else .nothing
      | none =>
        if place.child name ∈ d.directories then d.follow (place.child name) rest else .nothing

/-- What stands at the end of a path. -/
def find (d : Disk) (p : Path) : Finding :=
  if p.hasNull then .nothing
  else if p.isLong then .longName
  else d.follow p.start.place p.names

/-- The disk with a file written at the end of some names, in place of what stood there, and with
the directories on the way to it made. -/
def writeFrom (d : Disk) (content : FileContent) : Place → List String → Disk
  | _, [] => d
  | place, [name] =>
    { d with
      files := (place.step name, content) :: d.files.filter fun f => f.1 ≠ place.step name }
  | place, name :: rest =>
    writeFrom { d with directories := place.step name :: d.directories } content (place.step name)
      rest

/-- The disk with a file written, and with the directories on the way to it made. -/
def write (d : Disk) (p : Path) (content : FileContent) : Disk :=
  d.writeFrom content p.start.place p.names

/-- The disk with a file removed, if one stands there. -/
def remove (d : Disk) (p : Path) : Disk :=
  match d.find p with
  | .file place _ => { d with files := d.files.filter fun f => f.1 ≠ place }
  | _ => d

end Disk

end CalendarText
