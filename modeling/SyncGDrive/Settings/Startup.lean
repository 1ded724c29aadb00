import SyncGDrive.Settings.File

/-! From the configuration file to the head of the main loop: everything on the way that the
settings can make fail. What the outside answers on that way is taken to be favourable.
-/

namespace SyncGDrive

-----------------------------------------------------------------------------------------
-- The runtime
-----------------------------------------------------------------------------------------

/-- The clocks, in seconds, and what their types can hold. -/
structure Clock where
  monotonic : Nat
  lastInstant : Nat
  wall : Int
  firstTime : Int

/-- `Semaphore::MAX_PERMITS`, which bounds the channels too. -/
def maxPermits : Nat := 2 ^ 61 - 1

/-- `tokio::time::interval_at`, one period from now. -/
def intervalAt (clock : Clock) (period : Nat) : Outcome Unit := do
  Outcome.expect (clock.monotonic + period ≤ clock.lastInstant)
  Outcome.expect (0 < period)

-----------------------------------------------------------------------------------------
-- Start-up
-----------------------------------------------------------------------------------------

/-- `cleanup_old_logs`, as far as its argument matters. -/
def cleanupOldLogs (clock : Clock) (maxDays : Nat) : Outcome Unit := do
  let hours ← Outcome.mul maxDays 24
  let seconds ← Outcome.mul hours 3600
  Outcome.expect (clock.firstTime ≤ clock.wall - seconds)

/-- `mpsc::channel`. -/
def channel (capacity : Nat) : Outcome Unit :=
  Outcome.expect (0 < capacity ∧ capacity ≤ maxPermits)

/-- `BandwidthLimiter::new`: the limit in bytes per second. -/
def limitBps (limitKbps : Nat) : Outcome Nat := Outcome.mul limitKbps 1024

/-- The period of the rescans, in seconds. -/
def rescanSecs (rescanIntervalMin : Nat) : Nat :=
  max (min (rescanIntervalMin * 60) (2 ^ 64 - 1)) 60

/-- `Semaphore::new` and the timers of `run_with_provider`. -/
def timers (clock : Clock) (settings : Settings) : Outcome Unit := do
  Outcome.expect (max settings.maxWorkers 1 ≤ maxPermits)
  intervalAt clock settings.advanced.healthCheckIntervalSecs
  intervalAt clock (rescanSecs settings.rescanIntervalMin)

/-- `run_with_provider` up to its loop. -/
def enterLoop (fromPatterns : List String → Except Error IgnoreMatcher) (clock : Clock)
    (settings : Settings)
    : Outcome Unit := do
  let primary ←
    Outcome.ofExcept (orError "Aucun dossier n'est configuré!" settings.getPrimaryPair)
  let _ ← Outcome.ofExcept (fromPatterns primary.ignorePatterns)
  timers clock settings

/-- `main` with settings that have passed the validation. -/
def startUp (fromPatterns : List String → Except Error IgnoreMatcher) (clock : Clock)
    (settings : Settings)
    : Outcome Unit := do
  let _ ← Outcome.ofExcept (orError "Pas de dossier configuré" settings.getPrimaryPair)
  cleanupOldLogs clock settings.advanced.logRetentionDays
  channel settings.advanced.engineChannelCapacity
  let _ ← limitBps settings.advanced.uploadLimitKbps
  enterLoop fromPatterns clock settings

-----------------------------------------------------------------------------------------
-- What the settings must allow
-----------------------------------------------------------------------------------------

/-- The timers of the engine have periods, and their first instants are in range. -/
structure Timely (clock : Clock) (settings : Settings) : Prop where
  workers : max settings.maxWorkers 1 ≤ maxPermits
  health : 0 < settings.advanced.healthCheckIntervalSecs
  firstCheck
    : clock.monotonic + settings.advanced.healthCheckIntervalSecs ≤ clock.lastInstant
  firstRescan : clock.monotonic + rescanSecs settings.rescanIntervalMin ≤ clock.lastInstant

/-- There is an active pair, the patterns of the first one compile, and every computation on
the settings is in range.
-/
structure Runnable (fromPatterns : List String → Except Error IgnoreMatcher) (clock : Clock)
    (settings : Settings)
    : Prop where
  configured
    : ∃ primary, settings.getPrimaryPair = some primary
        ∧ ∃ ignore, fromPatterns primary.ignorePatterns = .ok ignore
  capacity : settings.advanced.engineChannelCapacity ≤ maxPermits
  retention : settings.advanced.logRetentionDays * 24 * 3600 < 2 ^ 64
  cutoff : clock.firstTime ≤ clock.wall - (settings.advanced.logRetentionDays * 24 * 3600 : Nat)
  limit : settings.advanced.uploadLimitKbps * 1024 < 2 ^ 64
  timely : Timely clock settings

variable {fromPatterns : List String → Except Error IgnoreMatcher} {clock : Clock}
  {settings : Settings}

theorem intervalAt_eq_done {period : Nat}
    : intervalAt clock period = .done ()
      ↔ clock.monotonic + period ≤ clock.lastInstant ∧ 0 < period := by
  simp only [intervalAt, Outcome.bind_eq_done, Outcome.expect_eq_done, Unique.exists_iff,
    PUnit.default_eq_unit]

theorem rescanSecs_pos (rescanIntervalMin : Nat) : 0 < rescanSecs rescanIntervalMin := by
  unfold rescanSecs
  omega

theorem timers_eq_done : timers clock settings = .done () ↔ Timely clock settings := by
  simp only [timers, Outcome.bind_eq_done, Outcome.expect_eq_done, intervalAt_eq_done,
    Unique.exists_iff, PUnit.default_eq_unit]
  constructor
  · rintro ⟨workers, ⟨firstCheck, health⟩, firstRescan, -⟩
    exact ⟨workers, health, firstCheck, firstRescan⟩
  · rintro ⟨workers, health, firstCheck, firstRescan⟩
    exact ⟨workers, ⟨firstCheck, health⟩, firstRescan, rescanSecs_pos _⟩

theorem cleanupOldLogs_eq_done {maxDays : Nat}
    : cleanupOldLogs clock maxDays = .done ()
      ↔ maxDays * 24 * 3600 < 2 ^ 64
        ∧ clock.firstTime ≤ clock.wall - (maxDays * 24 * 3600 : Nat) := by
  simp only [cleanupOldLogs, Outcome.bind_eq_done, Outcome.mul_eq_done, Outcome.expect_eq_done]
  constructor
  · rintro ⟨hours, ⟨-, rfl⟩, seconds, ⟨fits, rfl⟩, cutoff⟩
    exact ⟨fits, cutoff⟩
  · rintro ⟨fits, cutoff⟩
    exact ⟨_, ⟨by omega, rfl⟩, _, ⟨fits, rfl⟩, cutoff⟩

theorem enterLoop_eq_done
    : enterLoop fromPatterns clock settings = .done ()
      ↔ (∃ primary, settings.getPrimaryPair = some primary
          ∧ ∃ ignore, fromPatterns primary.ignorePatterns = .ok ignore)
        ∧ Timely clock settings := by
  simp only [enterLoop, Outcome.bind_eq_done, Outcome.ofExcept_eq_done, timers_eq_done]
  cases settings.getPrimaryPair with
  | none => simp [orError]
  | some primary =>
      simp only [orError, Except.ok.injEq, Option.some.injEq, exists_eq_left']
      exact ⟨fun ⟨ignore, compiled, timely⟩ => ⟨⟨ignore, compiled⟩, timely⟩,
        fun ⟨⟨ignore, compiled⟩, timely⟩ => ⟨ignore, compiled, timely⟩⟩

/-- Settings that have been validated reach the main loop exactly when they are runnable. -/
theorem startUp_eq_done (capacity : 0 < settings.advanced.engineChannelCapacity)
    : startUp fromPatterns clock settings = .done () ↔ Runnable fromPatterns clock settings := by
  simp only [startUp, Outcome.bind_eq_done, Outcome.ofExcept_eq_done, cleanupOldLogs_eq_done,
    channel, Outcome.expect_eq_done, limitBps, Outcome.mul_eq_done, enterLoop_eq_done,
    Unique.exists_iff, PUnit.default_eq_unit]
  constructor
  · rintro ⟨-, -, ⟨retention, cutoff⟩, ⟨-, bounded⟩, -, ⟨limit, -⟩, configured, timely⟩
    exact ⟨configured, bounded, retention, cutoff, limit, timely⟩
  · rintro ⟨⟨primary, found, compiles⟩, bounded, retention, cutoff, limit, timely⟩
    exact ⟨primary, by rw [found]; rfl, ⟨retention, cutoff⟩, ⟨capacity, bounded⟩, _,
      ⟨limit, rfl⟩, ⟨primary, found, compiles⟩, timely⟩

/-- The validation asks for a channel that holds something. -/
theorem capacity_of_valid {cwd : Path} {disk : Disk}
    (valid : settings.validate cwd disk = .ok ())
    : 0 < settings.advanced.engineChannelCapacity := by
  by_contra empty
  have zero : settings.advanced.engineChannelCapacity = 0 := by omega
  have refused : settings.advanced.validate
      = .error (.invalidAdvanced "engine_channel_capacity doit être > 0") := by
    simp [AdvancedSettings.validate, zero]
  simp [Settings.validate, refused, bind, Except.bind] at valid

-----------------------------------------------------------------------------------------
-- Loading
-----------------------------------------------------------------------------------------

/-- The prefix takes two bytes. -/
theorem two_le_utf8ByteSize {path : String} (starts : "~/".toList <+: path.toList)
    : 2 ≤ path.utf8ByteSize := by
  obtain ⟨rest, split⟩ := starts
  have whole : path = "~/" ++ String.ofList rest := by
    simp only [← String.toList_inj, String.toList_append, ← split, String.toList_ofList]
  rw [whole, String.utf8ByteSize_append]
  exact Nat.le_add_right 2 _

/-- The expansion gives a path, except for a lone `~`. -/
theorem expandTilde_done {home : Option String} {path : String} (long : path ≠ "~")
    : ∃ expanded, expandTilde home path = .done expanded := by
  unfold expandTilde
  by_cases starts : "~/".toList.isPrefixOf path.toList = true
  · have bytes := two_le_utf8ByteSize (List.isPrefixOf_iff_prefix.mp starts)
    rw [if_pos (.inl starts), if_neg (by omega)]
    exact ⟨_, rfl⟩
  · rw [if_neg (not_or.mpr ⟨starts, long⟩)]
    exact ⟨_, rfl⟩

theorem expandTilde_lone (home : Option String) : expandTilde home "~" = .panicked := by
  unfold expandTilde
  rw [if_pos (.inr rfl), if_pos (by decide)]

/-- So it is with a pair, which never fails otherwise. -/
theorem PairSettings.expandTilde_cases (home : Option String) (pair : PairSettings)
    : pair.localPath ≠ "~" ∧ (∃ expanded, pair.expandTilde home = .done expanded)
      ∨ pair.localPath = "~" ∧ pair.expandTilde home = .panicked := by
  by_cases lone : pair.localPath = "~"
  · exact .inr ⟨lone, by simp [PairSettings.expandTilde, lone, expandTilde_lone]⟩
  · obtain ⟨expanded, done⟩ := @expandTilde_done home _ lone
    exact .inl ⟨lone, _, by simp only [PairSettings.expandTilde, done]; rfl⟩

theorem expandTildes_safe {home : Option String}
    : (settings.expandTildes home).Safe ↔ ∀ pair ∈ settings.syncPairs, pair.localPath ≠ "~" := by
  have never (pair : PairSettings) (error : Error) : pair.expandTilde home ≠ .failed error := by
    rcases pair.expandTilde_cases home with ⟨-, expanded, done⟩ | ⟨-, panics⟩
    · simp [done]
    · simp [panics]
  have each (pair : PairSettings) : (pair.expandTilde home).Safe ↔ pair.localPath ≠ "~" := by
    rcases pair.expandTilde_cases home with ⟨long, expanded, done⟩ | ⟨lone, panics⟩
    · simp [done, long, Outcome.Safe]
    · simp [panics, lone, Outcome.Safe]
  simp only [← each, ← Outcome.mapM_safe (fun pair _ => never pair), Settings.expandTildes]
  cases settings.syncPairs.mapM (PairSettings.expandTilde home) <;> simp [Outcome.Safe]

/-- Loading ends with a value or an error unless it comes to expand a lone `~`. -/
theorem loadFromPath_safe {toml : String → Except Error Toml} {home : Option String}
    {saved : Except Error Unit} {raw : String}
    : (loadFromPath toml home saved raw).Safe
      ↔ ∀ settings migrated,
          parseAndMigrate toml raw = .ok (settings, migrated)
          → (migrated = true → saved = .ok ())
          → ∀ pair ∈ settings.syncPairs, pair.localPath ≠ "~" := by
  unfold loadFromPath
  cases parsed : parseAndMigrate toml raw with
  | error error => simp [Outcome.ofExcept, Outcome.Safe]
  | ok read =>
      obtain ⟨settings, migrated⟩ := read
      have same
          : (∀ settings' migrated',
              Except.ok (settings, migrated) = (.ok (settings', migrated') : Except Error _)
              → (migrated' = true → saved = .ok ())
              → ∀ pair ∈ settings'.syncPairs, pair.localPath ≠ "~")
            ↔ ((migrated = true → saved = .ok ()) → (settings.expandTildes home).Safe) := by
        rw [expandTildes_safe]
        constructor
        · exact fun all => all settings migrated rfl
        · rintro one _ _ ⟨⟩
          exact one
      rw [same]
      cases migrated with
      | false => simp [Outcome.ofExcept]
      | true => cases saved <;> simp [Outcome.ofExcept, Outcome.Safe]

-----------------------------------------------------------------------------------------
-- Accepted configurations
-----------------------------------------------------------------------------------------

/-- A file loads without a panic, and if its settings pass the validation, the program reaches
its main loop with them.
-/
structure AcceptedRuns (toml : String → Except Error Toml) (home : Option String)
    (saved : Except Error Unit) (fromPatterns : List String → Except Error IgnoreMatcher)
    (clock : Clock) (cwd : Path) (disk : Disk) (raw : String)
    : Prop where
  loads : (loadFromPath toml home saved raw).Safe
  runs
    : ∀ settings,
        loadFromPath toml home saved raw = .done settings
        → settings.validate cwd disk = .ok ()
        → startUp fromPatterns clock settings = .done ()

/-- That is so exactly when no pair to expand is a lone `~`, and valid settings are runnable.
-/
theorem accepted_runs_iff (toml : String → Except Error Toml) (home : Option String)
    (saved : Except Error Unit) (fromPatterns : List String → Except Error IgnoreMatcher)
    (clock : Clock) (cwd : Path) (disk : Disk) (raw : String)
    : AcceptedRuns toml home saved fromPatterns clock cwd disk raw
      ↔ (∀ settings migrated,
            parseAndMigrate toml raw = .ok (settings, migrated)
            → (migrated = true → saved = .ok ())
            → ∀ pair ∈ settings.syncPairs, pair.localPath ≠ "~")
        ∧ ∀ settings,
            loadFromPath toml home saved raw = .done settings
            → settings.validate cwd disk = .ok ()
            → Runnable fromPatterns clock settings := by
  rw [← @loadFromPath_safe _ home]
  constructor
  · rintro ⟨loads, runs⟩
    exact ⟨loads, fun settings loaded valid =>
      (startUp_eq_done (capacity_of_valid valid)).mp (runs settings loaded valid)⟩
  · rintro ⟨loads, runnable⟩
    exact ⟨loads, fun settings loaded valid =>
      (startUp_eq_done (capacity_of_valid valid)).mpr (runnable settings loaded valid)⟩

/-- A file that asks for no time between two health checks. -/
def restless : String :=
  "[advanced]\nhealth_check_interval_secs = 0\n\n"
    ++ "[[sync_pairs]]\nname = \"Sauvegarde\"\nlocal_path = \"/backup\"\n"

/-- Its table. -/
def restlessTable : Toml :=
  .table
    [("advanced", .table [("health_check_interval_secs", .integer 0)]),
      ("sync_pairs",
        .array [.table [("name", .string "Sauvegarde"), ("local_path", .string "/backup")]])]

/-- That file is accepted, and the engine panics. -/
theorem restless_panics
    : ¬ AcceptedRuns
        (fun raw => if raw = restless then .ok restlessTable else .error (.msg "expected `=`"))
        (some "/home/user") (.ok ()) (fun _ => .ok .nothing)
        { monotonic := 1000, lastInstant := 2 ^ 63 - 1, wall := 1700000000, firstTime := -2 ^ 63 }
        [.utf8 "home", .utf8 "user"] (.backup .empty (fun _ => .special)) restless := by
  intro accepted
  let settings : Settings :=
    { advanced := { healthCheckIntervalSecs := 0 }
      syncPairs := [{ name := "Sauvegarde", localPath := "/backup" }] }
  have started := accepted.runs settings rfl (by decide +kernel)
  exact absurd ((startUp_eq_done (by decide)).mp started).timely.health (Nat.lt_irrefl 0)

end SyncGDrive
