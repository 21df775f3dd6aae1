/-
The settings, and how loosely written values change them.

* `Settings.apply`: a table of values applied to settings; what cannot be used leaves a setting as
  it is, and an infinite cache size is the only error;
* `Settings.ofEnvironment`: the same with values from the environment.
-/
import CalendarText.Settings.Datum
import CalendarText.Settings.Level

namespace CalendarText

/-- The settings of the library. -/
structure Settings where
  /-- the number of compiled descriptions that are kept -/
  cacheSize : Int := 128
  /-- the level of logging -/
  level : String := "WARNING"
  deriving DecidableEq, Repr

/-- A cache size without end. -/
structure EndlessCache where
  deriving DecidableEq, Repr

namespace Settings

/-- The key of the cache size. -/
def cacheSizeKey : String := "description_cache_size"

/-- The key of the level. -/
def levelKey : String := "log_level"

/-- The cache size changed by a value.  A size that cannot be read stays; none is negative. -/
def applyCacheSize (s : Settings) (value : Datum) : Except EndlessCache Settings :=
  match value.toInteger with
  | .ok n => .ok { s with cacheSize := max n 0 }
  | .error .other => .ok { s with cacheSize := max s.cacheSize 0 }
  | .error .infinite => .error {}

/-- The level changed by a value.  What names no level changes nothing. -/
def applyLevel (s : Settings) (value : Datum) : Settings :=
  match value with
  | .text name =>
    match Level.choose? name with
    | some level => { s with level := level }
    | none => s
  | _ => s

/-- Settings changed by a table.  Other keys than the two known ones are passed over. -/
def apply (s : Settings) (table : Datum.Table) : Except EndlessCache Settings := do
  let s ←
    match Datum.get? table cacheSizeKey with
    | some value => s.applyCacheSize value
    | none => pure s
  return match Datum.get? table levelKey with
    | some value => s.applyLevel value
    | none => s

/-- Settings changed by any value; only a table changes anything. -/
def applyDatum (s : Settings) (value : Datum) : Except EndlessCache Settings :=
  match value with
  | .table entries => s.apply entries
  | _ => .ok s

/-- The entries that the environment gives for the settings: variables with this beginning and
the key in capital letters.  An empty variable counts as none. -/
def environmentTable (environment : List (String × String)) (beginning : String) : Datum.Table :=
  [(cacheSizeKey, "DESCRIPTION_CACHE_SIZE"), (levelKey, "LOG_LEVEL")].filterMap fun (key, ending) =>
    match environment.lookup (beginning ++ ending) with
    | some value => if value = "" then none else some (key, .text value)
    | none => none

/-- Settings changed by the environment. -/
def ofEnvironment (s : Settings) (environment : List (String × String)) (beginning : String) :
    Except EndlessCache Settings :=
  s.apply (environmentTable environment beginning)

/-- A value other than an infinite one never makes the cache size negative. -/
theorem cacheSize_nonneg {s t : Settings} {value : Datum} (h : s.applyCacheSize value = .ok t) :
    0 ≤ t.cacheSize := by
  rw [applyCacheSize] at h
  split at h
  · cases h
    exact Int.le_max_right _ _
  · cases h
    exact Int.le_max_right _ _
  · cases h

end Settings

end CalendarText
