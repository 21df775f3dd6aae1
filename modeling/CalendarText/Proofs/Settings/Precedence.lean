/-
Which source a setting is taken from.

The environment comes before the files, and the files come before the defaults.  Each setting is
looked for by itself, and what cannot be used is passed over.

* `Datum.IsSize`, `Datum.IsLevel`: the values that can be used;
* `Datum.FirstUsable`: the first of some sources that can be used, or else a default;
* `Application.selected`: the table of the files that counts;
* `Settings.apply_takenFrom`: a table put over settings is one more source on top;
* `Application.load_takes_first_usable`: loading takes each setting from the first source that can
  be used.
-/
import CalendarText.Proofs.Outcome
import CalendarText.Settings.Load

namespace CalendarText

/-! ### Values that can be used -/

namespace Datum

/-- A value can be used as a cache size if it stands for an integer.  What is below zero counts as
zero. -/
def IsSize (value : Datum) (size : Int) : Prop :=
  ∃ n, value.toInteger = .ok n ∧ size = max n 0

/-- A value can be used as a level if it is text that names one of the five, without the blanks
around it and in capital letters. -/
def IsLevel (value : Datum) (level : String) : Prop :=
  ∃ name, value = .text name ∧ level ∈ Level.choices ∧
    level = String.ofList ((Blank.trim Blank.aroundWord name.toList).map Level.capital)

/-- What is taken from the first of some sources that holds a usable value, or else by default. -/
inductive FirstUsable {A : Type} (usable : Datum → A → Prop) (default : A) : List Datum → A → Prop
  | otherwise : FirstUsable usable default [] default
  | used {value : Datum} {below : List Datum} {a : A} : usable value a →
    FirstUsable usable default (value :: below) a
  | passed {value : Datum} {below : List Datum} {a : A} : (∀ b, ¬usable value b) →
    FirstUsable usable default below a → FirstUsable usable default (value :: below) a

/-- Only an infinite floating-point number is endless. -/
lemma eq_infinite_of_toInteger {value : Datum} (h : value.toInteger = .error .infinite) :
    ∃ negative, value = .float (.infinite negative) := by
  cases value with
  | float x =>
      cases x with
      | infinite negative => exact ⟨negative, rfl⟩
      | finite significand exponent => cases h
      | nan => cases h
  | text s =>
      rw [toInteger] at h
      split at h <;> cases h
  | _ => cases h

lemma IsSize.unique {value : Datum} {m n : Int} (hm : value.IsSize m) (hn : value.IsSize n) :
    m = n := by
  obtain ⟨k, hk, rfl⟩ := hm
  obtain ⟨l, hl, rfl⟩ := hn
  rw [hk] at hl
  cases hl
  rfl

lemma IsLevel.unique {value : Datum} {k l : String} (hk : value.IsLevel k) (hl : value.IsLevel l) :
    k = l := by
  obtain ⟨name, rfl, -, rfl⟩ := hk
  obtain ⟨other, same, -, rfl⟩ := hl
  cases same
  rfl

/-- The level that a text names is the one that is chosen. -/
lemma choose?_eq_some_iff {name level : String} :
    Level.choose? name = some level ↔ (Datum.text name).IsLevel level := by
  rw [Level.choose?, IsLevel]
  constructor
  · intro h
    split at h
    · rename_i mem
      cases h
      exact ⟨name, rfl, mem, rfl⟩
    · cases h
  · rintro ⟨other, same, mem, rfl⟩
    cases same
    exact if_pos mem

namespace FirstUsable

variable {A : Type} {usable : Datum → A → Prop} {default a : A} {sources : List Datum}

/-- What holds of the default and of all that can be used holds of what is taken. -/
lemma holds {P : A → Prop} (h : FirstUsable usable default sources a) (atDefault : P default)
    (ofUsable : ∀ value b, usable value b → P b) : P a := by
  induction h with
  | otherwise => exact atDefault
  | used use => exact ofUsable _ _ use
  | passed _ _ ih => exact ih

/-- What cannot be used hides nothing that stands below it. -/
lemma eq_of_unusable_above {above below : List Datum} {value : Datum} {b : A}
    (h : FirstUsable usable default (above ++ value :: below) a)
    (unique : ∀ {value b c}, usable value b → usable value c → b = c)
    (unusable : ∀ u ∈ above, ∀ c, ¬usable u c) (use : usable value b) : a = b := by
  -- each source above is passed over, since none of them can be used
  induction above with
  | nil =>
      cases h with
      | used other => exact unique other use
      | passed unusable _ => exact absurd use (unusable b)
  | cons u above ih =>
      cases h with
      | used other => exact absurd other (unusable u (by simp) a)
      | passed _ h => exact ih h fun v mem => unusable v (by simp [mem])

end FirstUsable

end Datum

/-! ### Tables put over settings -/

namespace Settings

/-- Both settings are taken from the first of their sources that can be used. -/
structure TakenFrom (sizes levels : List Datum) (s : Settings) : Prop where
  cacheSize : Datum.FirstUsable Datum.IsSize 128 sizes s.cacheSize
  level : Datum.FirstUsable Datum.IsLevel "WARNING" levels s.level

variable {s t : Settings} {sizes levels : List Datum} {value : Datum} {table : Datum.Table}

lemma takenFrom_nil : TakenFrom [] [] {} :=
  ⟨.otherwise, .otherwise⟩

lemma TakenFrom.cacheSize_nonneg (h : s.TakenFrom sizes levels) : 0 ≤ s.cacheSize := by
  refine h.cacheSize.holds (by decide) ?_
  rintro value n ⟨m, -, rfl⟩
  exact Int.le_max_right m 0

lemma TakenFrom.level_mem (h : s.TakenFrom sizes levels) : s.level ∈ Level.choices := by
  refine h.level.holds (by decide) ?_
  rintro value level ⟨name, -, mem, -⟩
  exact mem

/-- A cache size that is not endless is one more source on top. -/
lemma applyCacheSize_takenFrom (h : s.TakenFrom sizes levels)
    (ends : value.toInteger ≠ .error .infinite) :
    ∃ t, s.applyCacheSize value = .ok t ∧ t.TakenFrom (value :: sizes) levels := by
  rw [applyCacheSize]
  cases read : value.toInteger with
  | ok n => exact ⟨_, rfl, .used ⟨n, read, rfl⟩, h.level⟩
  | error e =>
      cases e with
      | infinite => exact absurd read ends
      | other =>
          -- what is kept is not negative already, so that raising it to zero changes nothing
          have kept : max s.cacheSize 0 = s.cacheSize := Int.max_eq_left h.cacheSize_nonneg
          refine ⟨_, rfl, ?_, h.level⟩
          rw [kept]
          refine .passed ?_ h.cacheSize
          rintro n ⟨m, same, -⟩
          cases read.symm.trans same

/-- A level is one more source on top. -/
lemma applyLevel_takenFrom (h : s.TakenFrom sizes levels) (value : Datum) :
    (s.applyLevel value).TakenFrom sizes (value :: levels) := by
  have unnamed (noText : ∀ name, value ≠ .text name) : s.TakenFrom sizes (value :: levels) := by
    refine ⟨h.cacheSize, .passed ?_ h.level⟩
    rintro level ⟨name, same, -⟩
    exact noText name same
  cases value with
  | text name =>
      rw [applyLevel]
      cases chosen : Level.choose? name with
      | some level => exact ⟨h.cacheSize, .used (Datum.choose?_eq_some_iff.mp chosen)⟩
      | none =>
          refine ⟨h.cacheSize, .passed ?_ h.level⟩
          intro level named
          cases chosen.symm.trans (Datum.choose?_eq_some_iff.mpr named)
  | _ => exact unnamed nofun

/-- A table is put over settings key by key. -/
lemma apply_eq (s : Settings) (table : Datum.Table) :
    s.apply table =
      (match Datum.get? table cacheSizeKey with
        | some value => s.applyCacheSize value
        | none => .ok s).map fun (t : Settings) =>
          match Datum.get? table levelKey with
          | some value => t.applyLevel value
          | none => t := by
  rw [apply]
  cases Datum.get? table cacheSizeKey with
  | none => rfl
  | some value =>
      dsimp only
      cases s.applyCacheSize value <;> rfl

/-- A table put over settings is one more source on top, for each setting by itself. -/
lemma apply_takenFrom (h : s.TakenFrom sizes levels)
    (ends : ∀ value, Datum.get? table cacheSizeKey = some value →
      value.toInteger ≠ .error .infinite) :
    ∃ t, s.apply table = .ok t ∧
      t.TakenFrom ((Datum.get? table cacheSizeKey).toList ++ sizes)
        ((Datum.get? table levelKey).toList ++ levels) := by
  -- the cache size first, since the level leaves it alone
  have sized : ∃ t, (match Datum.get? table cacheSizeKey with
        | some value => s.applyCacheSize value
        | none => .ok s) = .ok t ∧
      t.TakenFrom ((Datum.get? table cacheSizeKey).toList ++ sizes) levels := by
    cases found : Datum.get? table cacheSizeKey with
    | none => exact ⟨s, rfl, h⟩
    | some value => exact applyCacheSize_takenFrom h (ends value found)
  obtain ⟨t, same, taken⟩ := sized
  rw [apply_eq, same]
  cases Datum.get? table levelKey with
  | none => exact ⟨t, rfl, taken⟩
  | some value => exact ⟨_, rfl, applyLevel_takenFrom taken value⟩

lemma cacheSize_applyLevel (s : Settings) (value : Datum) :
    (s.applyLevel value).cacheSize = s.cacheSize := by
  cases value with
  | text name =>
      rw [applyLevel]
      cases Level.choose? name <;> rfl
  | _ => rfl

/-- However a table changes settings, the cache size stays at zero or above. -/
lemma cacheSize_nonneg_of_apply (h : s.apply table = .ok t) (nonneg : 0 ≤ s.cacheSize) :
    0 ≤ t.cacheSize := by
  rw [apply_eq] at h
  obtain ⟨u, sized, rfl⟩ := Outcome.map_eq_ok_iff.mp h
  have kept : 0 ≤ u.cacheSize := by
    split at sized
    · exact cacheSize_nonneg sized
    · cases sized
      exact nonneg
  split
  · rw [cacheSize_applyLevel]
    exact kept
  · exact kept

/-! ### Variables as a table -/

/-- The value of an environment variable.  An empty variable counts as none. -/
def variableValue? (environment : List (String × String)) (name : String) : Option Datum :=
  match environment.lookup name with
  | some value => if value = "" then none else some (.text value)
  | none => none

lemma toInteger_variableValue? {environment : List (String × String)} {name : String}
    (found : variableValue? environment name = some value) :
    value.toInteger ≠ .error .infinite := by
  rw [variableValue?] at found
  split at found
  · split at found
    · cases found
    · cases found
      rw [Datum.toInteger]
      split <;> exact nofun
  · cases found

/-- Each key of the table of the environment holds the variable of its name. -/
lemma get?_environmentTable (environment : List (String × String)) (beginning : String) :
    Datum.get? (environmentTable environment beginning) cacheSizeKey =
        variableValue? environment (beginning ++ "DESCRIPTION_CACHE_SIZE") ∧
      Datum.get? (environmentTable environment beginning) levelKey =
        variableValue? environment (beginning ++ "LOG_LEVEL") := by
  -- the table is made of the two variables that are set, each under its own key
  have entries : environmentTable environment beginning =
      [(cacheSizeKey, "DESCRIPTION_CACHE_SIZE"), (levelKey, "LOG_LEVEL")].filterMap fun entry =>
        (variableValue? environment (beginning ++ entry.2)).map (entry.1, ·) := by
    rw [environmentTable]
    congr 1
    funext ⟨key, ending⟩
    dsimp only
    rw [variableValue?]
    cases environment.lookup (beginning ++ ending) with
    | none => rfl
    | some value =>
        dsimp only
        split <;> rfl
  rw [entries, List.filterMap_cons, List.filterMap_cons, List.filterMap_nil]
  cases variableValue? environment (beginning ++ "DESCRIPTION_CACHE_SIZE") <;>
    cases variableValue? environment (beginning ++ "LOG_LEVEL") <;> exact ⟨rfl, rfl⟩

end Settings

/-! ### The table of the files -/

/-- What a path leads to: nothing, or a file with a table. -/
inductive Disk.Holds (disk : Disk) (path : Path) : Option Datum.Table → Prop
  | absent : disk.find path = .nothing → Holds disk path none
  | present {place : Place} {table : Datum.Table} : disk.find path = .file place (.table table) →
    Holds disk path (some table)

/-- A short name in the working directory leads to the file that stands there. -/
lemma Disk.find_here {disk : Disk} {name : String} {content : FileContent}
    (plain : (⟨.here, [name]⟩ : Path).hasNull = false ∧ (⟨.here, [name]⟩ : Path).isLong = false ∧
      name ≠ Path.upward ∧ Path.isLongName name = false)
    (found : disk.files.lookup (Place.here.child name) = some content) :
    disk.find ⟨.here, [name]⟩ = .file (Place.here.child name) content := by
  obtain ⟨hasNull, isLong, down, short⟩ := plain
  rw [Disk.find, hasNull, isLong]
  change disk.follow Place.here [name] = _
  rw [Disk.follow, if_neg down, if_neg (by simp [short]), found]
  rfl

namespace Application

variable (app : Application)

/-- The table under the name of the application, or else the whole table. -/
def ownTable (table : Datum.Table) : Datum.Table :=
  match Datum.get? table app.name with
  | some (.table entries) => entries
  | _ => table

/-- The table of the application among the tools, or else an empty one. -/
def toolTable (table : Datum.Table) : Datum.Table :=
  match Datum.get? table "tool" with
  | some (.table tools) =>
    match Datum.get? tools app.name with
    | some (.table entries) => entries
    | _ => []
  | _ => []

/-- The table that counts: that of the application's own file, or that of the project file where
there is no own file or its table is empty. -/
def selected (own project : Option Datum.Table) : Datum.Table :=
  match own.map app.ownTable with
  | some (entry :: entries) => entry :: entries
  | _ => (project.map app.toolTable).getD []

/-- The values that a setting has, first in the environment and then in a table. -/
def sources (environment : List (String × String)) (table : Datum.Table) (key ending : String) :
    List Datum :=
  (Settings.variableValue? environment (app.variableBeginning ++ ending)).toList ++
    (Datum.get? table key).toList

variable {app} {disk : Disk} {own project : Option Datum.Table}

lemma section?_own {fileName : String} (other : fileName ≠ projectFileName) (table : Datum.Table) :
    app.section? fileName table = some (app.ownTable table) := by
  rw [section?, if_neg other, ownTable]
  cases Datum.get? table app.name with
  | none => rfl
  | some value => cases value <;> rfl

lemma section?_project (table : Datum.Table) :
    (app.section? projectFileName table).getD [] = app.toolTable table := by
  rw [section?, if_pos rfl, toolTable]
  cases Datum.get? table "tool" with
  | none => rfl
  | some tools =>
      cases tools with
      | table tools =>
          change ((Datum.get? tools app.name).bind Datum.entries?).getD [] = _
          dsimp only
          cases Datum.get? tools app.name with
          | none => rfl
          | some value => cases value <;> rfl
      | _ => rfl

/-- The project file says what its table of the application holds. -/
lemma configuration_project (hProject : disk.Holds projectFile project) :
    app.configuration disk [projectFile] = .ok ((project.map app.toolTable).getD []) := by
  rw [configuration]
  cases hProject with
  | absent found =>
      rw [found]
      rfl
  | @present place table found =>
      -- a table that is empty counts like one that is not there
      have section_eq := @section?_project app table
      rw [found]
      change (match app.section? projectFileName table with
        | some (entry :: entries) => Except.ok (entry :: entries)
        | _ => .ok []) = .ok (app.toolTable table)
      rw [← section_eq]
      match app.section? projectFileName table with
      | none => rfl
      | some [] => rfl
      | some (entry :: entries) => rfl

/-- The files say what the table that counts holds. -/
lemma configuration_eq (apart : app.file ≠ projectFile) (hOwn : disk.Holds app.file own)
    (hProject : disk.Holds projectFile project) :
    app.configuration disk [app.file, projectFile] = .ok (app.selected own project) := by
  -- the own file is not read as a project file, whatever the application is called
  have other : app.file.name ≠ projectFileName := by
    intro same
    have names : app.name ++ ".toml" = projectFileName := same
    exact apart (by rw [file, names, projectFile])
  rw [configuration, configuration_project hProject]
  cases hOwn with
  | absent found =>
      rw [found]
      rfl
  | @present place table found =>
      rw [found]
      dsimp only
      rw [section?_own other, selected, Option.map_some]
      cases app.ownTable table <;> rfl

/-- The files give the settings of the table that counts. -/
lemma settingsOfFiles_takenFrom (apart : app.file ≠ projectFile) (hOwn : disk.Holds app.file own)
    (hProject : disk.Holds projectFile project)
    (ends : ∀ negative, Datum.get? (app.selected own project) Settings.cacheSizeKey ≠
      some (.float (.infinite negative))) :
    ∃ s, app.settingsOfFiles disk none = .ok s ∧
      s.TakenFrom (Datum.get? (app.selected own project) Settings.cacheSizeKey).toList
        (Datum.get? (app.selected own project) Settings.levelKey).toList := by
  -- only an endless number stops the loading, any other value is used or passed over
  have finite (value : Datum)
      (found : Datum.get? (app.selected own project) Settings.cacheSizeKey = some value) :
      value.toInteger ≠ .error .infinite := by
    intro endless
    obtain ⟨negative, rfl⟩ := Datum.eq_infinite_of_toInteger endless
    exact ends negative found
  obtain ⟨s, same, taken⟩ := Settings.apply_takenFrom Settings.takenFrom_nil finite
  rw [List.append_nil, List.append_nil] at taken
  refine ⟨s, ?_, taken⟩
  rw [settingsOfFiles]
  rw [configuration_eq apart hOwn hProject]
  change (Settings.apply {} (app.selected own project)).mapError _ = _
  rw [same]
  rfl

/-- The environment is one more source on top of the settings of the files. -/
lemma ofEnvironment_takenFrom {s : Settings} {table : Datum.Table}
    (environment : List (String × String))
    (h : s.TakenFrom (Datum.get? table Settings.cacheSizeKey).toList
      (Datum.get? table Settings.levelKey).toList) :
    ∃ t, s.ofEnvironment environment app.variableBeginning = .ok t ∧
      t.TakenFrom (app.sources environment table Settings.cacheSizeKey "DESCRIPTION_CACHE_SIZE")
        (app.sources environment table Settings.levelKey "LOG_LEVEL") := by
  obtain ⟨size, level⟩ := Settings.get?_environmentTable environment app.variableBeginning
  rw [Settings.ofEnvironment, sources, sources, ← size, ← level]
  refine Settings.apply_takenFrom h fun value found => ?_
  rw [size] at found
  exact Settings.toInteger_variableValue? found

/-- However settings are loaded, their cache size is not negative. -/
lemma cacheSize_nonneg_of_load {environment : List (String × String)} {path : Option Path}
    {s : Settings} (h : app.load disk environment path = .ok s) : 0 ≤ s.cacheSize := by
  rw [load] at h
  obtain ⟨files, ofFiles, ofEnvironment⟩ := Outcome.bind_eq_ok_iff.mp h
  unfold settingsOfFiles at ofFiles
  obtain ⟨table, -, applied⟩ := Outcome.bind_eq_ok_iff.mp ofFiles
  have nonneg : 0 ≤ files.cacheSize :=
    Settings.cacheSize_nonneg_of_apply (Outcome.mapError_eq_ok_iff.mp applied) (by decide)
  exact Settings.cacheSize_nonneg_of_apply (Outcome.mapError_eq_ok_iff.mp ofEnvironment) nonneg

/-- **Each setting is taken from the first source that can be used.**  If the two files are absent
or hold a table, and the table of them that counts has no endless cache size, then settings are
loaded: each of the two from the environment, or else from that table, or else by default, and what
cannot be used never hides what can be used below it.  The cache size is never negative, and the
level is a known one. -/
theorem load_takes_first_usable {environment : List (String × String)}
    (apart : app.file ≠ projectFile) (hOwn : disk.Holds app.file own)
    (hProject : disk.Holds projectFile project)
    (ends : ∀ negative, Datum.get? (app.selected own project) Settings.cacheSizeKey ≠
      some (.float (.infinite negative))) :
    let sizes := app.sources environment (app.selected own project) Settings.cacheSizeKey
      "DESCRIPTION_CACHE_SIZE"
    let levels := app.sources environment (app.selected own project) Settings.levelKey "LOG_LEVEL"
    ∃ s, app.load disk environment none = .ok s ∧
      Datum.FirstUsable Datum.IsSize 128 sizes s.cacheSize ∧
      Datum.FirstUsable Datum.IsLevel "WARNING" levels s.level ∧
      (∀ above value below size, sizes = above ++ value :: below →
        (∀ u ∈ above, ∀ n, ¬u.IsSize n) → value.IsSize size → s.cacheSize = size) ∧
      (∀ above value below level, levels = above ++ value :: below →
        (∀ u ∈ above, ∀ l, ¬u.IsLevel l) → value.IsLevel level → s.level = level) ∧
      0 ≤ s.cacheSize ∧ s.level ∈ Level.choices := by
  intro sizes levels
  -- the files are put over the defaults, and the environment over what they give
  obtain ⟨files, ofFiles, takenFiles⟩ := settingsOfFiles_takenFrom apart hOwn hProject ends
  obtain ⟨s, ofEnvironment, taken⟩ := ofEnvironment_takenFrom environment takenFiles
  have loaded : app.load disk environment none = .ok s := by
    rw [load, ofFiles]
    change (files.ofEnvironment environment app.variableBeginning).mapError _ = _
    rw [ofEnvironment]
    rfl
  refine ⟨s, loaded, taken.cacheSize, taken.level, ?_, ?_, taken.cacheSize_nonneg, taken.level_mem⟩
  · intro above value below size split unusable use
    have first : Datum.FirstUsable Datum.IsSize 128 (above ++ value :: below) s.cacheSize :=
      split ▸ taken.cacheSize
    exact first.eq_of_unusable_above Datum.IsSize.unique unusable use
  · intro above value below level split unusable use
    have first : Datum.FirstUsable Datum.IsLevel "WARNING" (above ++ value :: below) s.level :=
      split ▸ taken.level
    exact first.eq_of_unusable_above Datum.IsLevel.unique unusable use

lemma variableBeginning_tempus : (⟨"tempus"⟩ : Application).variableBeginning = "TEMPUS_" := by
  have upper : "tempus".toUpper = "TEMPUS" := by
    refine String.toList_injective ?_
    rw [String.toUpper, String.toList_map]
    decide
  rw [variableBeginning, upper]
  rfl

/-- An empty table in the application's own file leaves the settings to the project file.  The
variable of the cache size is no number and that of the level is empty, so neither hides what the
project file says. -/
theorem load_takes_projectFile :
    let app : Application := ⟨"tempus"⟩
    let own : Datum.Table := [("tempus", .table []), ("log_level", .text "ERROR")]
    let tool : Datum.Table :=
      [("description_cache_size", .integer (-3)), ("log_level", .text " info")]
    let project : Datum.Table := [("tool", .table [("tempus", .table tool)])]
    let disk : Disk := { files := [(Place.here.child "tempus.toml", .table own),
      (Place.here.child "pyproject.toml", .table project)] }
    let environment := [("TEMPUS_DESCRIPTION_CACHE_SIZE", "lots"), ("TEMPUS_LOG_LEVEL", "")]
    app.file ≠ projectFile ∧ disk.Holds app.file (some own) ∧
      disk.Holds projectFile (some project) ∧ app.selected (some own) (some project) = tool ∧
      ∃ s, app.load disk environment none = .ok s ∧ s.cacheSize = 0 ∧ s.level = "INFO" := by
  intro app own tool project disk environment
  have apart : app.file ≠ projectFile := by decide
  have hOwn : disk.Holds app.file (some own) := .present (Disk.find_here (by decide) rfl)
  have hProject : disk.Holds projectFile (some project) :=
    .present (Disk.find_here (by decide) rfl)
  have counts : app.selected (some own) (some project) = tool := rfl
  have ends (negative : Bool) : Datum.get? (app.selected (some own) (some project))
      Settings.cacheSizeKey ≠ some (.float (.infinite negative)) := by
    rw [counts]
    exact nofun
  obtain ⟨s, loaded, -, -, size, level, -⟩ : ∃ s, app.load disk environment none = .ok s ∧ _ :=
    load_takes_first_usable apart hOwn hProject ends
  have sizes : app.sources environment tool Settings.cacheSizeKey "DESCRIPTION_CACHE_SIZE" =
      [.text "lots"] ++ .integer (-3) :: [] := by
    rw [sources, variableBeginning_tempus]
    rfl
  have levels : app.sources environment tool Settings.levelKey "LOG_LEVEL" =
      [] ++ .text " info" :: [] := by
    rw [sources, variableBeginning_tempus]
    rfl
  refine ⟨apart, hOwn, hProject, counts, s, loaded, ?_, ?_⟩
  · refine size _ _ _ 0 sizes ?_ ⟨-3, rfl, rfl⟩
    rintro u mem n ⟨m, read, -⟩
    obtain rfl := List.mem_singleton.mp mem
    have unread : (Datum.text "lots").toInteger = .error .other := rfl
    cases unread.symm.trans read
  · exact level _ _ _ "INFO" levels (by simp) ⟨" info", rfl, by decide, by decide⟩

end Application

end CalendarText
