/-
A session of an application: its disk and environment, the settings once they are loaded, and the
cache of compiled descriptions.

Settings are loaded when they are first needed and kept until they are forgotten.  The cache is
made when it is first used, with the size that the settings then have, and kept until it is
cleared, whatever becomes of the settings in the meantime.
-/
import CalendarText.Cache.Recent
import CalendarText.Description.Compile
import CalendarText.Settings.Load

namespace CalendarText

/-- A description as it is known to the cache, where text and octets are kept apart. -/
inductive DescriptionKey where
  | text (data : Octets)
  | octets (data : Octets)
  deriving DecidableEq, Repr

/-- The octets of the description. -/
def DescriptionKey.data : DescriptionKey → Octets
  | text data | octets data => data

/-- Why an environment variable could not be set. -/
inductive VariableError where
  /-- its name or its value holds a null character -/
  | nullCharacter
  /-- its name holds the sign that ends names -/
  | illegalName
  /-- it has no name -/
  | noName
  deriving DecidableEq, Repr

/-- The sentence that reports the error. -/
def VariableError.message : VariableError → String
  | nullCharacter => "embedded null byte"
  | illegalName => "illegal environment variable name"
  | noName => "[Errno 22] Invalid argument"

/-- Whether an environment variable of this name can have this value. -/
def checkVariable (name value : String) : Except VariableError Unit :=
  if name.toList.contains '\x00' || value.toList.contains '\x00' then .error .nullCharacter
  else if name.toList.contains '=' then .error .illegalName
  else if name = "" then .error .noName
  else .ok ()

/-- A compiled description, with the number under which it was made.  Equal numbers tell that it
is one and the same. -/
structure Compiled where
  serial : Nat
  leaves : List Leaf
  deriving DecidableEq, Repr

/-- Why an operation of a session has no result. -/
inductive SessionError where
  | load (e : LoadError)
  /-- the cache size exceeds what can be counted -/
  | hugeCache
  /-- the log knows no level of this name -/
  | unknownLevel (name : String)
  | description (e : DescriptionError)
  deriving DecidableEq, Repr

/-- The sentence that reports the error. -/
def SessionError.message : SessionError → String
  | load e => e.message
  | hugeCache => "cannot fit 'int' into an index-sized integer"
  | unknownLevel name => s!"Unknown level: {Quoted.encode name}"
  | description e => e.message

/-- The state of a session. -/
structure Session where
  application : Application
  disk : Disk := {}
  environment : List (String × String) := []
  settings : Option Settings := none
  cache : Option (Recent DescriptionKey Compiled) := none
  /-- the number of compiled descriptions that were made -/
  made : Nat := 0
  /-- the number of the description without leaves, of which there is only one -/
  blank : Option Nat := none

namespace Session

/-- An environment variable removed, if it is set. -/
def removeVariable (s : Session) (name : String) : Session :=
  { s with environment := s.environment.filter fun v => v.1 ≠ name }

/-- An environment variable set, or removed. -/
def setVariable (s : Session) (name : String) (value : Option String) :
    Except VariableError Session :=
  match value with
  | none => .ok (s.removeVariable name)
  | some value => do
    checkVariable name value
    let s := s.removeVariable name
    return { s with environment := (name, value) :: s.environment }

/-- Environment variables set or removed one after the other, up to the first that cannot be. -/
def setVariables (s : Session) :
    List (String × Option String) → Except VariableError Unit × Session
  | [] => (.ok (), s)
  | (name, value) :: rest =>
    match s.setVariable name value with
    | .ok s => s.setVariables rest
    | .error e => (.error e, s)

/-- A file written, or removed. -/
def setFile (s : Session) (path : Path) (content : Option FileContent) : Session :=
  { s with disk := match content with
      | some content => s.disk.write path content
      | none => s.disk.remove path }

/-- The settings, loaded now if they were not loaded before. -/
def loadedSettings (s : Session) : Except SessionError Settings × Session :=
  match s.settings with
  | some settings => (.ok settings, s)
  | none =>
    match s.application.load s.disk s.environment none with
    | .ok settings => (.ok settings, { s with settings := some settings })
    | .error e => (.error (.load e), s)

/-- The settings forgotten. -/
def forgetSettings (s : Session) : Session :=
  { s with settings := none }

/-- The number of the level that settings choose. -/
def levelOf (settings : Settings) : Except SessionError Nat :=
  match Level.number? settings.level with
  | some n => .ok n
  | none => .error (.unknownLevel settings.level)

/-- The number of the level that the given settings choose, or those of the session. -/
def levelNumber (s : Session) (given : Option Settings) : Except SessionError Nat × Session :=
  match given with
  | some settings => (levelOf settings, s)
  | none =>
    match s.loadedSettings with
    | (.ok settings, s) => (levelOf settings, s)
    | (.error e, s) => (.error e, s)

/-- The largest number of entries that can be counted. -/
def largestCache : Int := 9223372036854775807

/-- The cache, made now if there is none. -/
def openCache (s : Session) : Except SessionError (Recent DescriptionKey Compiled) × Session :=
  match s.cache with
  | some cache => (.ok cache, s)
  | none =>
    match s.loadedSettings with
    | (.error e, s) => (.error e, s)
    | (.ok settings, s) =>
      if largestCache < settings.cacheSize then (.error .hugeCache, s)
      else
        let cache : Recent DescriptionKey Compiled := { capacity := settings.cacheSize.toNat }
        (.ok cache, { s with cache := some cache })

/-- The cache dropped. -/
def clearCache (s : Session) : Session :=
  { s with cache := none }

/-- A description compiled afresh, with the number that it then has. -/
def compile (s : Session) (data : Octets) : Except SessionError Compiled :=
  match Description.compile data with
  | .error e => .error (.description e)
  | .ok [] => .ok ⟨s.blank.getD s.made, []⟩
  | .ok leaves => .ok ⟨s.made, leaves⟩

/-- The session after a compiled description was handed out: a number that was used is not used
again. -/
def handOut (s : Session) (c : Compiled) : Session :=
  { s with
    made := max s.made (c.serial + 1)
    blank := if c.leaves = [] then some c.serial else s.blank }

/-- A description compiled through the cache. -/
def cached (s : Session) (key : DescriptionKey) : Except SessionError Compiled × Session :=
  match s.openCache with
  | (.error e, s) => (.error e, s)
  | (.ok cache, s) =>
    match cache.fetch key (s.compile key.data) with
    | (.ok c, cache) => (.ok c, { s.handOut c with cache := some cache })
    | (.error e, cache) => (.error e, { s with cache := some cache })

end Session

end CalendarText
