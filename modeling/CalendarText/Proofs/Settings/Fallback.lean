/-
What becomes of settings whose values cannot be used.

A value that is no cache size or no level leaves the setting as it was, whatever it is instead, and
other keys are passed over.  One value alone is neither used nor passed over: an infinite cache size
is refused, and where the files give one, no settings are loaded.

* `Settings.HasEndlessSize`: a table with an infinite cache size;
* `Settings.FallsBack`: how settings come out of a table that is put over them;
* `Settings.fallsBack_of_apply`: all settings that come out of a table do so;
* `Settings.exists_apply`: settings come out of every table but one with an infinite cache size;
* `Application.WellFormed`: files that are absent or hold a table;
* `Application.exists_load`: such files are loaded unless the table of them that counts has an
  infinite cache size;
* `Session.malformed_falls_back`: all of this, up to the settings of a session;
* `Session.endless_escapes`: an infinite cache size in the file of an application.
-/
import CalendarText.Proofs.Settings.Precedence
import CalendarText.Session

namespace CalendarText

/-! ### A table put over settings -/

namespace Settings

variable {s t : Settings} {value : Datum} {table other : Datum.Table}

/-- The cache size in a table is infinite. -/
def HasEndlessSize (table : Datum.Table) : Prop :=
  ∃ negative, Datum.get? table cacheSizeKey = some (.float (.infinite negative))

/-- How settings come out of a table that is put over them, each by its own key. -/
structure FallsBack (s : Settings) (table : Datum.Table) (t : Settings) : Prop where
  size_of_absent : Datum.get? table cacheSizeKey = none → t.cacheSize = s.cacheSize
  size_of_integer {value : Datum} {n : Int} : Datum.get? table cacheSizeKey = some value →
    value.toInteger = .ok n → t.cacheSize = max n 0
  size_of_malformed {value : Datum} : Datum.get? table cacheSizeKey = some value →
    (∀ n, value.toInteger ≠ .ok n) → t.cacheSize = max s.cacheSize 0
  level_of_named {value : Datum} {level : String} : Datum.get? table levelKey = some value →
    value.IsLevel level → t.level = level
  level_of_malformed : (∀ value, Datum.get? table levelKey = some value →
    ∀ level, ¬value.IsLevel level) → t.level = s.level

lemma level_applyCacheSize (h : s.applyCacheSize value = .ok t) : t.level = s.level := by
  rw [applyCacheSize] at h
  split at h <;> cases h <;> rfl

lemma cacheSize_of_integer {n : Int} (h : s.applyCacheSize value = .ok t)
    (read : value.toInteger = .ok n) : t.cacheSize = max n 0 := by
  rw [applyCacheSize, read] at h
  cases h
  rfl

lemma cacheSize_of_malformed (h : s.applyCacheSize value = .ok t)
    (malformed : ∀ n, value.toInteger ≠ .ok n) : t.cacheSize = max s.cacheSize 0 := by
  rw [applyCacheSize] at h
  split at h
  · exact absurd ‹_› (malformed _)
  · cases h
    rfl
  · cases h

lemma level_applyLevel {level : String} (named : value.IsLevel level) :
    (s.applyLevel value).level = level := by
  obtain ⟨name, rfl, -⟩ := id named
  rw [applyLevel, Datum.choose?_eq_some_iff.mpr named]

lemma applyLevel_of_malformed (malformed : ∀ level, ¬value.IsLevel level) :
    s.applyLevel value = s := by
  cases value with
  | text name =>
      rw [applyLevel]
      cases chosen : Level.choose? name with
      | none => rfl
      | some level => exact absurd (Datum.choose?_eq_some_iff.mp chosen) (malformed level)
  | _ => rfl

/-- Settings that come out of a table fall back where its values cannot be used. -/
lemma fallsBack_of_apply (h : s.apply table = .ok t) : s.FallsBack table t := by
  rw [apply_eq] at h
  obtain ⟨sized, hSized, hLevel⟩ := Outcome.map_eq_ok_iff.mp h
  -- either key leaves the setting of the other one alone
  have sameLevel : sized.level = s.level := by
    split at hSized
    · exact level_applyCacheSize hSized
    · cases hSized
      rfl
  have sameSize : t.cacheSize = sized.cacheSize := by
    rw [← hLevel]
    split
    · exact cacheSize_applyLevel ..
    · rfl
  constructor
  case size_of_absent =>
    intro absent
    rw [absent] at hSized
    cases hSized
    exact sameSize
  case size_of_integer =>
    intro value n found read
    rw [found] at hSized
    exact sameSize.trans (cacheSize_of_integer hSized read)
  case size_of_malformed =>
    intro value found malformed
    rw [found] at hSized
    exact sameSize.trans (cacheSize_of_malformed hSized malformed)
  case level_of_named =>
    intro value level found named
    rw [← hLevel, found]
    exact level_applyLevel named
  case level_of_malformed =>
    intro malformed
    rw [← hLevel]
    split
    · rename_i value found
      rw [applyLevel_of_malformed (malformed value found)]
      exact sameLevel
    · exact sameLevel

/-- An infinite cache size is refused. -/
lemma apply_of_hasEndlessSize (endless : HasEndlessSize table) (s : Settings) :
    s.apply table = .error {} := by
  obtain ⟨negative, found⟩ := endless
  rw [apply_eq, found]
  rfl

/-- Any other table can be put over settings. -/
lemma exists_apply (ends : ¬HasEndlessSize table) (s : Settings) :
    ∃ t, s.apply table = .ok t ∧ s.FallsBack table t := by
  suffices ∃ t, s.apply table = .ok t by
    obtain ⟨t, h⟩ := this
    exact ⟨t, h, fallsBack_of_apply h⟩
  rw [apply_eq]
  -- only the size can stop a table, and of all values of it only the infinite one does
  cases found : Datum.get? table cacheSizeKey with
  | none => exact ⟨_, rfl⟩
  | some value =>
      dsimp only
      rw [applyCacheSize]
      cases read : value.toInteger with
      | ok n => exact ⟨_, rfl⟩
      | error e =>
          cases e with
          | other => exact ⟨_, rfl⟩
          | infinite =>
              obtain ⟨negative, rfl⟩ := Datum.eq_infinite_of_toInteger read
              exact absurd ⟨negative, found⟩ ends

/-- Nothing but the values of the two keys counts. -/
lemma apply_congr (size : Datum.get? table cacheSizeKey = Datum.get? other cacheSizeKey)
    (level : Datum.get? table levelKey = Datum.get? other levelKey) (s : Settings) :
    s.apply table = s.apply other := by
  rw [apply_eq, apply_eq, size, level]

/-- Variables are text, and no text is infinite. -/
lemma not_hasEndlessSize_environmentTable (environment : List (String × String))
    (beginning : String) : ¬HasEndlessSize (environmentTable environment beginning) := by
  rintro ⟨negative, found⟩
  rw [(get?_environmentTable environment beginning).1] at found
  exact toInteger_variableValue? found rfl

end Settings

/-! ### Files that hold tables -/

namespace Application

/-- The files in which settings are looked for: the given one, or else those of the application. -/
def searched (app : Application) : Option Path → List Path
  | some path => [path]
  | none => [app.file, projectFile]

/-- Each of these files is absent or holds a table. -/
def WellFormed (app : Application) (disk : Disk) (path : Option Path) : Prop :=
  ∀ p ∈ app.searched path, ∃ table, disk.Holds p table

variable {app : Application} {disk : Disk} {path : Option Path} {table : Datum.Table}

lemma wellFormed_none {own project : Option Datum.Table} (hOwn : disk.Holds app.file own)
    (hProject : disk.Holds projectFile project) : app.WellFormed disk none := by
  intro p mem
  obtain rfl | mem := List.mem_cons.mp mem
  · exact ⟨own, hOwn⟩
  · obtain rfl := List.mem_singleton.mp mem
    exact ⟨project, hProject⟩

/-- Some files of which each is absent or holds a table say what the settings are. -/
lemma exists_configuration {paths : List Path} (wellFormed : ∀ p ∈ paths, ∃ t, disk.Holds p t) :
    ∃ table, app.configuration disk paths = .ok table := by
  -- the first file that says something counts, and no file that is absent stops the search
  induction paths with
  | nil => exact ⟨[], rfl⟩
  | cons p paths ih =>
      obtain ⟨rest, same⟩ := ih fun q mem => wellFormed q (List.mem_cons_of_mem p mem)
      obtain ⟨held, holds⟩ := wellFormed p List.mem_cons_self
      rw [configuration]
      cases holds with
      | absent found =>
          rw [found]
          exact ⟨rest, same⟩
      | present found =>
          rw [found]
          dsimp only
          split
          · exact ⟨_, rfl⟩
          · exact ⟨rest, same⟩

lemma settingsOfFiles_eq (counts : app.configuration disk (app.searched path) = .ok table) :
    app.settingsOfFiles disk path =
      (({} : Settings).apply table).mapError fun _ => .endlessCache := by
  cases path <;> exact congrArg (· >>= _) counts

/-- No settings are loaded where the table that counts has an infinite cache size. -/
lemma load_of_hasEndlessSize (counts : app.configuration disk (app.searched path) = .ok table)
    (endless : Settings.HasEndlessSize table) (environment : List (String × String)) :
    app.load disk environment path = .error .endlessCache := by
  rw [load, settingsOfFiles_eq counts, Settings.apply_of_hasEndlessSize endless]
  rfl

/-- Where it has none, settings are loaded, whatever the environment says. -/
lemma exists_load (counts : app.configuration disk (app.searched path) = .ok table)
    (ends : ¬Settings.HasEndlessSize table) (environment : List (String × String)) :
    ∃ s t, app.load disk environment path = .ok t ∧ Settings.FallsBack {} table s ∧
      s.FallsBack (Settings.environmentTable environment app.variableBeginning) t := by
  obtain ⟨s, ofFiles, fallsBackFiles⟩ := Settings.exists_apply ends {}
  -- variables are text, so the environment never refuses what the files have given
  obtain ⟨t, ofEnvironment, fallsBack⟩ := Settings.exists_apply
    (Settings.not_hasEndlessSize_environmentTable environment app.variableBeginning) s
  refine ⟨s, t, ?_, fallsBackFiles, fallsBack⟩
  rw [load, settingsOfFiles_eq counts, ofFiles]
  change (s.apply _).mapError _ = _
  rw [ofEnvironment]
  rfl

end Application

/-! ### The settings of a session -/

namespace Session

variable {s : Session} {settings : Settings} {e : LoadError}

lemma loadedSettings_of_some (h : s.settings = some settings) :
    s.loadedSettings = (.ok settings, s) := by
  rw [loadedSettings, h]

lemma loadedSettings_of_load (h : s.settings = none)
    (loaded : s.application.load s.disk s.environment none = .ok settings) :
    s.loadedSettings = (.ok settings, { s with settings := some settings }) := by
  rw [loadedSettings, h, loaded]

lemma loadedSettings_of_error (h : s.settings = none)
    (refused : s.application.load s.disk s.environment none = .error e) :
    s.loadedSettings = (.error (.load e), s) := by
  rw [loadedSettings, h, refused]

/-- **Malformed values fall back, and an infinite cache size alone is refused.**  A table without an
infinite cache size can be put over any settings: what stands for an integer is the cache size,
raised to zero, and what does not leaves the cache size that there was, raised to zero; a text that
names a level is the level, and anything else leaves the level that there was; other keys count for
nothing.  So where each of the files is absent or holds a table, and the table of them that counts
has no infinite cache size, settings are loaded, whatever the environment says, and a session has
its settings.  An infinite cache size is refused by all three, unless the session has its settings
already. -/
theorem malformed_falls_back (base : Settings) (table : Datum.Table) (session : Session)
    (path : Option Path) :
    (¬Settings.HasEndlessSize table →
      ∃ t, base.apply table = .ok t ∧ base.FallsBack table t) ∧
    (Settings.HasEndlessSize table → base.apply table = .error {}) ∧
    (∀ other, Datum.get? other Settings.cacheSizeKey = Datum.get? table Settings.cacheSizeKey →
      Datum.get? other Settings.levelKey = Datum.get? table Settings.levelKey →
        base.apply other = base.apply table) ∧
    (session.application.WellFormed session.disk path →
      ∃ found, session.application.configuration session.disk
          (session.application.searched path) = .ok found ∧
        (¬Settings.HasEndlessSize found →
          ∃ s t, session.application.load session.disk session.environment path = .ok t ∧
            Settings.FallsBack {} found s ∧
            s.FallsBack (Settings.environmentTable session.environment
              session.application.variableBeginning) t) ∧
        (Settings.HasEndlessSize found →
          session.application.load session.disk session.environment path =
            .error .endlessCache)) ∧
    (∀ settings, session.settings = some settings →
      session.loadedSettings = (.ok settings, session)) ∧
    (session.settings = none → session.application.WellFormed session.disk none →
      ∃ found, session.application.configuration session.disk
          (session.application.searched none) = .ok found ∧
        (¬Settings.HasEndlessSize found →
          ∃ s t, session.loadedSettings = (.ok t, { session with settings := some t }) ∧
            Settings.FallsBack {} found s ∧
            s.FallsBack (Settings.environmentTable session.environment
              session.application.variableBeginning) t) ∧
        (Settings.HasEndlessSize found →
          session.loadedSettings = (.error (.load .endlessCache), session))) := by
  refine ⟨fun ends => ?_, fun endless => ?_, ?_, ?_, ?_, ?_⟩
  · exact Settings.exists_apply ends base
  · exact Settings.apply_of_hasEndlessSize endless base
  · intro other size level
    exact Settings.apply_congr size level base
  · intro wellFormed
    obtain ⟨found, counts⟩ := Application.exists_configuration wellFormed
    refine ⟨found, counts, fun ends => ?_, fun endless => ?_⟩
    · exact Application.exists_load counts ends session.environment
    · exact Application.load_of_hasEndlessSize counts endless session.environment
  · intro settings loaded
    exact loadedSettings_of_some loaded
  · intro unloaded wellFormed
    obtain ⟨found, counts⟩ := Application.exists_configuration wellFormed
    refine ⟨found, counts, fun ends => ?_, fun endless => ?_⟩
    · obtain ⟨s, t, loaded, falls⟩ :=
        Application.exists_load counts ends session.environment
      exact ⟨s, t, loadedSettings_of_load unloaded loaded, falls⟩
    · exact loadedSettings_of_error unloaded
        (Application.load_of_hasEndlessSize counts endless session.environment)

/-- A cache size that is no number, a level that is no text and an unknown key change nothing but a
cache size that is below zero, and neither does a variable that is no number. -/
theorem malformed_falls_back_tempus :
    let own : Datum.Table := [("description_cache_size", .float .nan), ("log_level", .integer 10),
      ("colour", .null)]
    let base : Settings := { cacheSize := -3, level := "INFO" }
    let session : Session :=
      { application := ⟨"tempus"⟩
        disk := { files := [(Place.here.child "tempus.toml", .table own),
          (Place.here.child "pyproject.toml", .table [("tool", .table [])])] }
        environment := [("TEMPUS_DESCRIPTION_CACHE_SIZE", "lots")] }
    ¬Settings.HasEndlessSize own ∧
      (∃ t, base.apply own = .ok t ∧ t.cacheSize = 0 ∧ t.level = "INFO") ∧
      session.application.WellFormed session.disk none ∧
      ∃ t, session.loadedSettings = (.ok t, { session with settings := some t }) ∧
        t.cacheSize = 128 ∧ t.level = "WARNING" := by
  intro own base session
  have ends : ¬Settings.HasEndlessSize own := nofun
  have noLevel : ∀ value, Datum.get? own Settings.levelKey = some value →
      ∀ level, ¬value.IsLevel level := by
    rintro value ⟨⟩ level ⟨name, ⟨⟩, -⟩
  have hOwn : session.disk.Holds session.application.file (some own) :=
    .present (Disk.find_here (by decide) rfl)
  have hProject : session.disk.Holds Application.projectFile (some _) :=
    .present (Disk.find_here (by decide) rfl)
  have wellFormed := Application.wellFormed_none hOwn hProject
  obtain ⟨applies, -, -, -, -, unloaded⟩ := malformed_falls_back base own session none
  obtain ⟨u, applied, falls⟩ := applies ends
  obtain ⟨table, counts, loads, -⟩ := unloaded rfl wellFormed
  obtain rfl : own = table :=
    Except.ok.inj ((Application.configuration_eq (by decide) hOwn hProject).symm.trans counts)
  obtain ⟨s, t, loaded, ofFiles, ofEnvironment⟩ := loads ends
  obtain ⟨size, level⟩ :=
    Settings.get?_environmentTable session.environment session.application.variableBeginning
  rw [Application.variableBeginning_tempus] at size level ofEnvironment
  refine ⟨ends, ⟨u, applied, ?_, falls.level_of_malformed noLevel⟩, wellFormed, t, loaded, ?_, ?_⟩
  · rw [falls.size_of_malformed rfl nofun]
    decide
  · rw [ofEnvironment.size_of_malformed size nofun, ofFiles.size_of_malformed rfl nofun]
    decide
  · rw [ofEnvironment.level_of_malformed ?_, ofFiles.level_of_malformed noLevel]
    rw [level]
    rintro value ⟨⟩

/-- The file of an application may well hold an infinite cache size.  Its table cannot be put over
the defaults, no settings are loaded, and a session stays without. -/
theorem endless_escapes :
    let own : Datum.Table := [("description_cache_size", .float (.infinite false))]
    let session : Session :=
      { application := ⟨"tempus"⟩
        disk := { files := [(Place.here.child "tempus.toml", .table own),
          (Place.here.child "pyproject.toml", .table [])] } }
    (¬∃ t, Settings.apply {} own = .ok t) ∧ session.application.WellFormed session.disk none ∧
      (¬∃ t, session.application.load session.disk session.environment none = .ok t) ∧
      session.loadedSettings = (.error (.load .endlessCache), session) := by
  intro own session
  have endless : Settings.HasEndlessSize own := ⟨false, rfl⟩
  have refused : Settings.apply {} own = .error {} := Settings.apply_of_hasEndlessSize endless {}
  have hOwn : session.disk.Holds session.application.file (some own) :=
    .present (Disk.find_here (by decide) rfl)
  have hProject : session.disk.Holds Application.projectFile (some []) :=
    .present (Disk.find_here (by decide) rfl)
  have counts : session.application.configuration session.disk
      (session.application.searched none) = .ok own :=
    Application.configuration_eq (by decide) hOwn hProject
  have fails := Application.load_of_hasEndlessSize counts endless session.environment
  refine ⟨?_, Application.wellFormed_none hOwn hProject, ?_, loadedSettings_of_error rfl fails⟩
  · rintro ⟨t, loaded⟩
    cases refused.symm.trans loaded
  · rintro ⟨t, loaded⟩
    cases fails.symm.trans loaded

end Session

end CalendarText
