/-
The cache of a session does not show in what it answers.

Whatever happens to a session, in whatever order, a description compiled through the cache is the
description compiled, and the cache keeps no more than the size that the settings had when it was
made.  What is lost of the settings, or loaded anew, or changed in the files and the environment
meanwhile, does not reach a cache that is in use.

* `Session.Event`, `Session.run`: all that can happen to a session, one thing after the other;
* `Session.inForce`: the size in force, read off the history without a look at the cache;
* `Session.Sound`: the invariant, every entry is what its key compiles to and the capacity is the
  size in force;
* `Session.Sound.after`, `Session.Sound.run`: one event keeps it, and so does a run;
* `Session.cached_transparent`: a run answers as if there were no cache, within the size in force;
* `Session.cached_hugeCache`: a size that cannot be counted makes no cache at all.
-/
import CalendarText.Proofs.Settings.Precedence
import CalendarText.Session

namespace CalendarText.Session

/-! ### What happens to a session -/

/-- What can happen to a session. -/
inductive Event where
  /-- a description is compiled through the cache -/
  | call (key : DescriptionKey)
  /-- the cache is dropped -/
  | clear
  /-- the settings are asked for -/
  | consult
  /-- the settings are forgotten -/
  | forget
  /-- an environment variable is set or removed, if it can be -/
  | vary (name : String) (value : Option String)
  /-- a file is written or removed -/
  | store (path : Path) (content : Option FileContent)

/-- The session after an event. -/
def after (s : Session) : Event → Session
  | .call key => (s.cached key).2
  | .clear => s.clearCache
  | .consult => s.loadedSettings.2
  | .forget => s.forgetSettings
  | .vary name value =>
    match s.setVariable name value with
    | .ok t => t
    | .error _ => s
  | .store path content => s.setFile path content

/-- The session after events. -/
def run (s : Session) : List Event → Session
  | [] => s
  | event :: events => (s.after event).run events

/-- The size for a call: the one in force, or else the one that the settings give now. -/
def sizeFor (s : Session) : Option Int → Except SessionError Int
  | some n => .ok n
  | none =>
    match s.loadedSettings.1 with
    | .error e => .error e
    | .ok settings =>
      if largestCache < settings.cacheSize then .error .hugeCache else .ok settings.cacheSize

/-- The size in force after an event.  A call puts a size in force if there is none, and nothing but
dropping the cache ends that. -/
def forceAfter (s : Session) (force : Option Int) : Event → Option Int
  | .call _ => (s.sizeFor force).toOption
  | .clear => none
  | .consult | .forget | .vary _ _ | .store _ _ => force

/-- The size in force after events. -/
def inForce (s : Session) (force : Option Int) : List Event → Option Int
  | [] => force
  | event :: events => (s.after event).inForce (s.forceAfter force event) events

/-- The entries that the cache keeps. -/
def retained (s : Session) : List (DescriptionKey × Compiled) :=
  match s.cache with
  | some cache => cache.entries
  | none => []

lemma inForce_append (s : Session) (force : Option Int) (events more : List Event) :
    s.inForce force (events ++ more) = (s.run events).inForce (s.inForce force events) more := by
  induction events generalizing s force with
  | nil => rfl
  | cons event events ih => exact ih (s.after event) (s.forceAfter force event)

/-- A size in force stays in force until the cache is dropped. -/
lemma inForce_of_notMem_clear (s : Session) (n : Int) {events : List Event}
    (h : Event.clear ∉ events) : s.inForce (some n) events = some n := by
  induction events generalizing s with
  | nil => rfl
  | cons event events ih =>
      have kept : s.forceAfter (some n) event = some n := by
        cases event with
        | clear => exact absurd List.mem_cons_self h
        | _ => rfl
      rw [inForce, kept]
      exact ih (s.after event) fun mem => h (List.mem_cons_of_mem event mem)

lemma sizeFor_of_loaded {s : Session} {settings : Settings}
    (loaded : s.loadedSettings.1 = .ok settings) (countable : settings.cacheSize ≤ largestCache) :
    s.sizeFor none = .ok settings.cacheSize := by
  rw [sizeFor, loaded]
  exact if_neg (Int.not_lt.mpr countable)

/-- The first call that finds usable settings puts their size in force, until the cache is
dropped. -/
lemma inForce_of_first_call {s : Session} {before rest : List Event} {key : DescriptionKey}
    {settings : Settings} (h : Event.clear ∉ rest) (none_before : s.inForce none before = none)
    (loaded : (s.run before).loadedSettings.1 = .ok settings)
    (countable : settings.cacheSize ≤ largestCache) :
    s.inForce none (before ++ .call key :: rest) = some settings.cacheSize := by
  have size : (s.run before).forceAfter none (.call key) = some settings.cacheSize := by
    rw [forceAfter, sizeFor_of_loaded loaded countable]
    rfl
  -- the call is the first thing behind `before`, and what follows leaves its size in force
  rw [inForce_append, none_before, inForce, size]
  exact inForce_of_notMem_clear _ _ h

/-! ### The invariant -/

/-- An entry is right if its key compiles to the leaves that it keeps.  The number under which they
were made is not part of that: compiled afresh they would get another one. -/
def RightEntry (entry : DescriptionKey × Compiled) : Prop :=
  Description.compile entry.1.data = .ok entry.2.leaves

/-- A cache of a size, in which every entry is right. -/
structure RightCache (cache : Recent DescriptionKey Compiled) (size : Int) : Prop where
  nonneg : 0 ≤ size
  capacity : cache.capacity = size.toNat
  length_le : cache.entries.length ≤ cache.capacity
  right : ∀ entry ∈ cache.entries, RightEntry entry

/-- There is a cache when a size is in force, and it is right; and no settings are loaded that have
a negative cache size. -/
structure Sound (s : Session) (force : Option Int) : Prop where
  cache : Option.Rel RightCache s.cache force
  settings : ∀ settings, s.settings = some settings → 0 ≤ settings.cacheSize

variable {s : Session} {force : Option Int} {key : DescriptionKey} {size : Int}

lemma Sound.closed (h : s.Sound none) : s.cache = none := by
  have rel := h.cache
  generalize s.cache = opened at rel
  cases rel
  rfl

lemma Sound.exists_cache (h : s.Sound (some size)) :
    ∃ cache, s.cache = some cache ∧ RightCache cache size := by
  have rel := h.cache
  generalize s.cache = opened at rel
  cases rel with
  | some right => exact ⟨_, rfl, right⟩

/-- Asking for the settings loads them at most, and changes nothing else. -/
lemma loadedSettings_cases (s : Session) :
    (∃ settings, (s.settings = some settings ∨ s.application.load s.disk s.environment none =
        .ok settings) ∧ s.loadedSettings = (.ok settings, { s with settings := some settings })) ∨
      ∃ e, s.loadedSettings = (.error e, s) := by
  rw [loadedSettings]
  cases kept : s.settings with
  | some settings =>
      refine .inl ⟨settings, .inl rfl, congrArg (Prod.mk _) ?_⟩
      rw [← kept]
  | none =>
      dsimp only
      cases s.application.load s.disk s.environment none with
      | ok settings => exact .inl ⟨settings, .inr rfl, rfl⟩
      | error e => exact .inr ⟨.load e, rfl⟩

lemma Sound.nonneg (h : s.Sound force) {settings : Settings}
    (loaded : s.loadedSettings.1 = .ok settings) : 0 ≤ settings.cacheSize := by
  obtain ⟨found, source, same⟩ | ⟨e, same⟩ := s.loadedSettings_cases <;> rw [same] at loaded <;>
    cases loaded
  rcases source with kept | load
  · exact h.settings settings kept
  · exact Application.cacheSize_nonneg_of_load load

lemma Sound.loadedSettings (h : s.Sound force) : s.loadedSettings.2.Sound force := by
  obtain ⟨settings, -, same⟩ | ⟨e, same⟩ := s.loadedSettings_cases
  · have nonneg := h.nonneg (by rw [same])
    rw [same]
    refine ⟨h.cache, ?_⟩
    intro found loaded
    cases loaded
    exact nonneg
  · rw [same]
    exact h

/-- A new cache is right. -/
lemma rightCache_empty (nonneg : 0 ≤ size) : RightCache { capacity := size.toNat } size :=
  ⟨nonneg, rfl, Nat.zero_le _, nofun⟩

/-- A right cache stays right with a right entry in front. -/
lemma RightCache.touch {cache : Recent DescriptionKey Compiled} (h : RightCache cache size)
    {c : Compiled} (right : RightEntry (key, c)) : RightCache (cache.touch key c) size :=
  ⟨h.nonneg, h.capacity, cache.length_touch_le key c, Recent.forall_touch h.right right⟩

/-- A closed cache is opened with the size for a call, if there is one. -/
lemma openCache_of_closed (closed : s.cache = none) :
    s.openCache = match s.sizeFor none with
      | .ok n => (.ok { capacity := n.toNat },
          { s.loadedSettings.2 with cache := some { capacity := n.toNat } })
      | .error e => (.error e, s.loadedSettings.2) := by
  rw [openCache, closed, sizeFor]
  obtain ⟨settings, -, same⟩ | ⟨e, same⟩ := s.loadedSettings_cases
  · rw [same]
    dsimp only
    split <;> rfl
  · rw [same]

lemma Sound.nonneg_of_sizeFor (h : s.Sound none) (hSize : s.sizeFor none = .ok size) :
    0 ≤ size := by
  rw [sizeFor] at hSize
  split at hSize
  · cases hSize
  · rename_i settings loaded
    split at hSize <;> cases hSize
    exact h.nonneg loaded

/-- Where there is a size for a call, there is a cache of that size once it is opened. -/
lemma Sound.exists_openCache (h : s.Sound force) (hSize : s.sizeFor force = .ok size) :
    ∃ cache t, s.openCache = (.ok cache, t) ∧ RightCache cache size ∧ t.Sound (some size) := by
  cases force with
  | some n =>
      cases hSize
      obtain ⟨cache, opened, right⟩ := h.exists_cache
      exact ⟨cache, s, by rw [openCache, opened], right, h⟩
  | none =>
      -- no size was in force, so there was no cache, and the new one is empty
      have right := rightCache_empty (h.nonneg_of_sizeFor hSize)
      have opening := openCache_of_closed h.closed
      rw [hSize] at opening
      exact ⟨_, _, opening, right, .some right, h.loadedSettings.settings⟩

/-- Where there is no size for a call, the cache stays closed, and that is how the call ends. -/
lemma Sound.openCache_eq_error {e : SessionError} (h : s.Sound force)
    (hSize : s.sizeFor force = .error e) : s.openCache = (.error e, s.loadedSettings.2) := by
  cases force with
  | some n => cases hSize
  | none => rw [openCache_of_closed h.closed, hSize]

/-- Compiling afresh gives the leaves of the description. -/
lemma compile_leaves (s : Session) (data : Octets) :
    (s.compile data).map Compiled.leaves = (Description.compile data).mapError .description := by
  rw [Session.compile]
  split <;> rename_i compiled <;> rw [compiled] <;> rfl

lemma rightEntry_of_compile {c : Compiled} (h : s.compile key.data = .ok c) :
    RightEntry (key, c) := by
  have leaves := s.compile_leaves key.data
  rw [h] at leaves
  exact Outcome.mapError_eq_ok_iff.mp leaves.symm

/-! ### Calls -/

/-- A call for which there is a size answers with what is compiled, and the invariant holds with
that size in force. -/
lemma Sound.cached (h : s.Sound force) (hSize : s.sizeFor force = .ok size) (key : DescriptionKey) :
    (s.cached key).1.map Compiled.leaves =
        (Description.compile key.data).mapError .description ∧
      (s.cached key).2.Sound (some size) := by
  obtain ⟨cache, t, opening, right, sound⟩ := h.exists_openCache hSize
  rw [Session.cached, opening]
  dsimp only
  obtain ⟨c, fetched, source⟩ | ⟨e, fetched, failed⟩ :=
    cache.fetch_cases key (t.compile key.data) <;> rw [fetched] <;> dsimp only
  · -- what was stored and what is made now agree in the leaves, though not in their numbers
    have entry : RightEntry (key, c) := by
      rcases source with stored | made
      · exact right.right _ stored
      · exact rightEntry_of_compile made
    refine ⟨?_, .some (right.touch entry), sound.settings⟩
    exact congrArg (Except.mapError SessionError.description) entry.symm
  · refine ⟨?_, .some right, sound.settings⟩
    rw [← t.compile_leaves, failed]

/-- A call for which there is no size fails for that reason, and loads the settings at most. -/
lemma Sound.cached_eq_error {e : SessionError} (h : s.Sound force)
    (hSize : s.sizeFor force = .error e) (key : DescriptionKey) :
    s.cached key = (.error e, s.loadedSettings.2) := by
  rw [Session.cached, h.openCache_eq_error hSize]

/-! ### Runs -/

/-- Setting a variable leaves the cache and the settings alone. -/
lemma setVariable_keeps {name : String} {value : Option String} {t : Session}
    (h : s.setVariable name value = .ok t) : t.cache = s.cache ∧ t.settings = s.settings := by
  cases value with
  | none =>
      cases h
      exact ⟨rfl, rfl⟩
  | some value =>
      obtain ⟨u, -, same⟩ := Outcome.bind_eq_ok_iff.mp h
      cases same
      exact ⟨rfl, rfl⟩

/-- What leaves the cache and the settings alone keeps the invariant. -/
lemma Sound.congr {t : Session} (h : s.Sound force) (cache : t.cache = s.cache)
    (settings : t.settings = s.settings) : t.Sound force :=
  ⟨cache ▸ h.cache, settings ▸ h.settings⟩

/-- Every event keeps the invariant, with the size that is then in force. -/
theorem Sound.after (h : s.Sound force) (event : Event) :
    (s.after event).Sound (s.forceAfter force event) := by
  cases event with
  | call key =>
      rw [Session.after, forceAfter]
      cases hSize : s.sizeFor force with
      | ok size => exact (h.cached hSize key).2
      | error e =>
          -- with a size in force a call cannot end this way, so none was, and none is
          have sound : s.Sound none := by
            cases force with
            | none => exact h
            | some n => cases hSize
          rw [h.cached_eq_error hSize key]
          exact sound.loadedSettings
  | clear => exact ⟨.none, h.settings⟩
  | consult => exact h.loadedSettings
  | forget => exact ⟨h.cache, nofun⟩
  | vary name value =>
      rw [Session.after, forceAfter]
      split
      · rename_i t set
        obtain ⟨cache, settings⟩ := setVariable_keeps set
        exact h.congr cache settings
      · exact h
  | store path content => exact h.congr rfl rfl

/-- The invariant holds all along a run. -/
theorem Sound.run (h : s.Sound force) (events : List Event) :
    (s.run events).Sound (s.inForce force events) := by
  induction events generalizing s force with
  | nil => exact h
  | cons event events ih => exact ih (h.after event)

/-- No more entries are kept than the size in force. -/
lemma Sound.length_retained_le (h : s.Sound force) : (s.retained.length : Int) ≤ force.getD 0 := by
  rw [retained]
  cases force with
  | none =>
      rw [h.closed]
      exact Int.le_refl 0
  | some size =>
      obtain ⟨cache, opened, right⟩ := h.exists_cache
      have nonneg := right.nonneg
      have capacity := right.capacity
      have length_le := right.length_le
      rw [opened]
      change (cache.entries.length : Int) ≤ size
      omega

lemma Sound.rightEntry (h : s.Sound force) {entry : DescriptionKey × Compiled}
    (mem : entry ∈ s.retained) : RightEntry entry := by
  rw [retained] at mem
  cases force with
  | none =>
      rw [h.closed] at mem
      cases mem
  | some size =>
      obtain ⟨cache, opened, right⟩ := h.exists_cache
      rw [opened] at mem
      exact right.right entry mem

/-- There is a size for a call if one is in force, or the settings load with a size that can be
counted. -/
lemma exists_sizeFor (usable : force.isSome ∨ ∃ settings, s.loadedSettings.1 = .ok settings ∧
    settings.cacheSize ≤ largestCache) : ∃ size, s.sizeFor force = .ok size := by
  cases force with
  | some size => exact ⟨size, rfl⟩
  | none =>
      obtain inForce | ⟨settings, loaded, countable⟩ := usable
      · cases inForce
      · exact ⟨_, sizeFor_of_loaded loaded countable⟩

lemma sound_start (app : Application) (disk : Disk) (environment : List (String × String)) :
    Sound { application := app, disk := disk, environment := environment } none :=
  ⟨.none, nofun⟩

/-- **The cache does not show.**  After any events, a call answers with what is compiled, if a size
is in force or the settings load and their size can be counted; otherwise it fails because of the
settings.  A size comes into force by the first call that finds settings with a size that can be
counted, and stays in force until the cache is dropped.  No more entries are kept than the size in
force, none where that is zero or there is none, and every entry is what its key compiles to. -/
theorem cached_transparent (app : Application) (disk : Disk)
    (environment : List (String × String)) (events : List Event) (key : DescriptionKey) :
    let start : Session := { application := app, disk := disk, environment := environment }
    let s := start.run events
    let force := start.inForce none events
    (force.isSome ∨ (∃ settings, s.loadedSettings.1 = .ok settings ∧
        settings.cacheSize ≤ largestCache) →
      (s.cached key).1.map Compiled.leaves =
        (Description.compile key.data).mapError .description) ∧
      (force = none → ∀ settings, s.loadedSettings.1 = .ok settings →
        largestCache < settings.cacheSize → (s.cached key).1 = .error .hugeCache) ∧
      (force = none → ∀ e, s.loadedSettings.1 = .error e → (s.cached key).1 = .error e) ∧
      (∀ before first rest settings, events = before ++ .call first :: rest → .clear ∉ rest →
        start.inForce none before = none →
        (start.run before).loadedSettings.1 = .ok settings → settings.cacheSize ≤ largestCache →
        force = some settings.cacheSize) ∧
      (∀ size, force = some size → (s.retained.length : Int) ≤ size) ∧
      (force = none ∨ force = some 0 → s.retained = []) ∧
      ∀ entry ∈ s.retained, Description.compile entry.1.data = .ok entry.2.leaves := by
  intro start s force
  have sound : s.Sound force := (sound_start app disk environment).run events
  have length_le := sound.length_retained_le
  refine ⟨?_, ?_, ?_, ?_, ?_, ?_, fun entry mem => sound.rightEntry mem⟩
  · intro usable
    obtain ⟨size, hSize⟩ := exists_sizeFor usable
    exact (sound.cached hSize key).1
  · intro closed settings loaded huge
    -- with no size in force the call takes that of the settings, for which there is no cache
    have hSize : s.sizeFor force = .error .hugeCache := by
      rw [closed, sizeFor, loaded]
      exact if_pos huge
    rw [sound.cached_eq_error hSize]
  · intro closed e failed
    have hSize : s.sizeFor force = .error e := by
      rw [closed, sizeFor, failed]
    rw [sound.cached_eq_error hSize]
  · rintro before first rest settings same noClear closed loaded countable
    change start.inForce none events = _
    rw [same]
    exact inForce_of_first_call noClear closed loaded countable
  · intro size inForce
    rw [inForce] at length_le
    exact length_le
  · intro small
    have empty : force.getD 0 = 0 := by
      rcases small with none | zero
      · rw [none]
        rfl
      · rw [zero]
        rfl
    rw [empty] at length_le
    exact List.length_eq_zero_iff.mp (by omega)

/-- Where there are no files, and nothing but the cache size in the environment, the settings load
with that size. -/
lemma loadedSettings_of_variable {value : String} {n : Int}
    (read : (Datum.text value).toInteger = .ok n) (given : value ≠ "") :
    let start : Session := { application := ⟨"tempus"⟩
                             environment := [("TEMPUS_DESCRIPTION_CACHE_SIZE", value)] }
    start.loadedSettings.1 = .ok { cacheSize := max n 0 } := by
  intro start
  have sizes : Settings.variableValue? start.environment ("TEMPUS_" ++ "DESCRIPTION_CACHE_SIZE") =
      some (.text value) := if_neg given
  have levels : Settings.variableValue? start.environment ("TEMPUS_" ++ "LOG_LEVEL") = none := rfl
  have loaded : start.application.load start.disk start.environment none =
      .ok { cacheSize := max n 0 } := by
    have noFiles : start.application.settingsOfFiles start.disk none = .ok {} := by
      change (⟨"tempus"⟩ : Application).settingsOfFiles {} none = .ok {}
      rfl
    rw [Application.load, noFiles, Application.variableBeginning_tempus]
    change (Settings.ofEnvironment {} start.environment "TEMPUS_").mapError _ = _
    rw [Settings.ofEnvironment]
    obtain ⟨size, level⟩ := Settings.get?_environmentTable start.environment "TEMPUS_"
    rw [Settings.apply_eq, size, level, sizes, levels]
    dsimp only
    rw [Settings.applyCacheSize, read]
    rfl
  rw [loadedSettings]
  dsimp only [start] at loaded ⊢
  rw [loaded]

/-- A size of one stays in force although the settings are forgotten and the variable says zero by
now.  The first description fell out of the cache, and is compiled again. -/
theorem cached_transparent_resized :
    let day : DescriptionKey := .text (Octets.ofAscii "[day]")
    let other : DescriptionKey := .octets (Octets.ofAscii "Y")
    let start : Session := { application := ⟨"tempus"⟩
                             environment := [("TEMPUS_DESCRIPTION_CACHE_SIZE", "1")] }
    let rest : List Event :=
      [.vary "TEMPUS_DESCRIPTION_CACHE_SIZE" (some "0"), .forget, .call other]
    let s := start.run (.call day :: rest)
    start.inForce none (.call day :: rest) = some 1 ∧ (s.retained.length : Int) ≤ 1 ∧
      (s.cached day).1.map Compiled.leaves = .ok [.component (.day .zero)] := by
  intro day other start rest s
  have read : (Datum.text "1").toInteger = .ok 1 := rfl
  have loaded : start.loadedSettings.1 = .ok { cacheSize := 1 } :=
    loadedSettings_of_variable read (by decide)
  obtain ⟨answers, -, -, first, bound, -, -⟩ := cached_transparent ⟨"tempus"⟩ {}
    [("TEMPUS_DESCRIPTION_CACHE_SIZE", "1")] (.call day :: rest) day
  have inForce : start.inForce none (.call day :: rest) = some 1 :=
    first [] day rest { cacheSize := 1 } rfl (by simp [rest]) rfl loaded (by decide)
  exact ⟨inForce, bound 1 inForce, answers (.inl (Option.isSome_of_eq_some inForce))⟩

/-- A size that cannot be counted makes no cache: the settings load and the description compiles,
but not through the cache. -/
theorem cached_hugeCache :
    let start : Session :=
      { application := ⟨"tempus"⟩
        environment := [("TEMPUS_DESCRIPTION_CACHE_SIZE", "9223372036854775808")] }
    let key : DescriptionKey := .text (Octets.ofAscii "[day]")
    start.loadedSettings.1 = .ok { cacheSize := 9223372036854775808 } ∧
      Description.compile key.data = .ok [.component (.day .zero)] ∧
      (start.cached key).1 = .error .hugeCache := by
  intro start key
  have read : (Datum.text "9223372036854775808").toInteger = .ok 9223372036854775808 := rfl
  have loaded : start.loadedSettings.1 = .ok { cacheSize := 9223372036854775808 } :=
    loadedSettings_of_variable read (by decide)
  have size : start.sizeFor none = .error .hugeCache := by
    rw [sizeFor, loaded]
    rfl
  refine ⟨loaded, rfl, ?_⟩
  rw [(sound_start _ _ _).cached_eq_error size]

end CalendarText.Session
