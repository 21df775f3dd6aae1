/-
Settings loaded from files and from the environment, which overrides the files.

An application keeps its settings in a file of its own, or in a section of the project file.  The
first of the two that configures anything is used.
-/
import CalendarText.Settings.Basic
import CalendarText.Settings.Disk
import CalendarText.Text.Quoted

namespace CalendarText

/-- Why settings could not be loaded. -/
inductive LoadError where
  /-- a file is no table -/
  | invalidFile
  /-- a directory stands where a file is needed -/
  | directory (path : Path)
  /-- a name on the way to a file is too long -/
  | longName (path : Path)
  /-- the cache size is infinite -/
  | endlessCache
  deriving DecidableEq, Repr

/-- The sentence that reports the error, if it is reported by a sentence. -/
def LoadError.message : LoadError → String
  | invalidFile => ""
  | directory path => s!"[Errno 21] Is a directory: {Quoted.encode path.text}"
  | longName path => s!"[Errno 36] File name too long: {Quoted.encode path.text}"
  | endlessCache => "cannot convert float infinity to integer"

/-- The name under which an application keeps its settings, in small letters. -/
structure Application where
  name : String
  deriving DecidableEq, Repr

namespace Application

/-- The settings file of the application. -/
def file (app : Application) : Path :=
  ⟨.here, [app.name ++ ".toml"]⟩

/-- The name of the project file. -/
def projectFileName : String := "pyproject.toml"

/-- The project file of the working directory. -/
def projectFile : Path :=
  ⟨.here, [projectFileName]⟩

/-- How the environment variables of the application begin. -/
def variableBeginning (app : Application) : String :=
  app.name.toUpper ++ "_"

/-- The section of a table that configures the application.  In a project file it stands among the
tools; elsewhere it may stand for itself, or the whole table configures the application. -/
def section? (app : Application) (fileName : String) (table : Datum.Table) : Option Datum.Table :=
  if fileName = projectFileName then do
    let tools ← (Datum.get? table "tool").bind Datum.entries?
    (Datum.get? tools app.name).bind Datum.entries?
  else
    match (Datum.get? table app.name).bind Datum.entries? with
    | some entries => some entries
    | none => some table

/-- What the first of some files that configures anything says.  Files that do not exist are
passed over. -/
def configuration (app : Application) (disk : Disk) :
    List Path → Except LoadError Datum.Table
  | [] => .ok []
  | path :: paths =>
    match disk.find path with
    | .nothing => app.configuration disk paths
    | .directory => .error (.directory path)
    | .longName => .error (.longName path)
    | .file _ .invalid => .error .invalidFile
    | .file _ (.table table) =>
      match app.section? path.name table with
      | some (entry :: entries) => .ok (entry :: entries)
      | _ => app.configuration disk paths

/-- The settings of files: of the given one, or else of those of the application. -/
def settingsOfFiles (app : Application) (disk : Disk) (path : Option Path) :
    Except LoadError Settings := do
  let paths := match path with
    | some path => [path]
    | none => [app.file, projectFile]
  let table ← app.configuration disk paths
  (({} : Settings).apply table).mapError fun _ => .endlessCache

/-- The settings of files and environment. -/
def load (app : Application) (disk : Disk) (environment : List (String × String))
    (path : Option Path) : Except LoadError Settings := do
  let s ← app.settingsOfFiles disk path
  (s.ofEnvironment environment app.variableBeginning).mapError fun _ => .endlessCache

end Application

end CalendarText
