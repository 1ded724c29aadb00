import SyncGDrive.Loop.Plain
import SyncGDrive.Loop.Provenance
import SyncGDrive.Loop.Reconfigure

/-! Simulations. The flag reaches every scan and every worker of the engine that it was given
to; the engine that a first configuration starts is not given it.
-/

namespace SyncGDrive

open Program

-----------------------------------------------------------------------------------------
-- Calls that change the remote
-----------------------------------------------------------------------------------------

/-- `upload`, `mkdir`, `delete` and `rename`. -/
def ProviderCall.mutates : ProviderCall → Bool
  | .listRemote _ => false
  | .mkdir .. | .upload .. | .delete _ | .rename .. => true

/-- The calls among these that an operation makes. -/
def Op.mutations : Op → List ProviderCall
  | .provider call => if call.mutates then [call] else []
  | _ => []

def Label.mutations : Label → List ProviderCall
  | .main op | .worker _ op | .dispatcher _ op => op.mutations
  | _ => []

/-- An operation that leaves the remote alone. -/
def Op.Harmless (op : Op) : Prop := op.mutations = []

theorem Op.OfFlush.harmless {op : Op} (flushes : op.OfFlush) : op.Harmless := by
  cases flushes <;> rfl

theorem Op.OfDispatcher.harmless {op : Op} (dispatches : op.OfDispatcher) : op.Harmless := by
  cases dispatches <;> rfl

theorem Op.Looks.harmless {op : Op} (looks : op.Looks) : op.Harmless := by
  cases looks <;> rfl

-----------------------------------------------------------------------------------------
-- Scans and workers
-----------------------------------------------------------------------------------------

section Programs

variable {ctx : EngineContext} {ignore : IgnoreMatcher}

/-- A simulated scan makes up the folders, and sends nothing. -/
theorem harmless_scan (dry : ctx.dryRun = true) : Uses Op.Harmless (scan ctx ignore) := by
  refine Uses.bind uses_propagate (fun primary => ?_)
  refine Uses.bind (uses_listRemote.mono ?_) (fun index => ?_)
  · rintro op (looks | rfl)
    · exact looks.harmless
    · rfl
  refine Uses.bind (uses_fillCache.mono ?_) (fun _ => ?_)
  · rintro op ⟨key, id, parent, rfl⟩
    rfl
  refine Uses.bind (uses_takeInventory.mono (fun _ => Op.Looks.harmless)) (fun inventory => ?_)
  refine Uses.bind (uses_createFolders.mono ?_) (fun _ => uses_reconcile.mono ?_)
  · rintro op (looks | ⟨key, id, parent, rfl⟩ | ⟨real, -⟩)
    · exact looks.harmless
    · rfl
    · cases dry.symm.trans real
  · rintro op (looks | entry | task)
    · exact looks.harmless
    · rfl
    · rfl

theorem harmless_handle (dry : ctx.dryRun = true) (task : Task)
    : Uses Op.Harmless (handle ctx ignore task) := by
  rw [handle.eq_def, if_pos dry]
  exact uses_pure

end Programs

-----------------------------------------------------------------------------------------
-- The engine in a simulation
-----------------------------------------------------------------------------------------

namespace SyncEngine

variable {host : Host} {e e' : SyncEngine} {label : Label}

/-- The flag is set wherever a program is begun, and what has been begun is harmless. -/
structure Simulates (e : SyncEngine) : Prop where
  flag : e.ctx.dryRun = true
  workers : ∀ worker ∈ e.workers, worker.ctx.dryRun = true
  confined : Confined Op.Harmless e
  programs : Programs e

theorem Simulates.step (simulates : Simulates e) (step : Step host e label e') : Simulates e' where
  flag := step.ctx_eq ▸ simulates.flag
  workers := by
    intro worker member
    cases step.worker_from member with
    | same earlier => exact simulates.workers worker earlier
    | spawned stage ctx =>
        rw [ctx]
        exact simulates.flag
    | begun earlier spawned become =>
        subst become
        exact (simulates.workers _ earlier :)
    | worked earlier handling become =>
        subst become
        exact (simulates.workers _ earlier :)
  confined :=
    simulates.confined.step step (fun _ => harmless_scan simulates.flag)
      (fun worker member _ => harmless_handle (simulates.workers worker member) worker.task)
  programs := simulates.programs.step step

theorem simulates_launch (host : Host) (w : World) (cfg : AppConfig)
    : Simulates (launch host w cfg true) := by
  have harmless (ignore : IgnoreMatcher) : Uses Op.Harmless (SyncGDrive.scan ⟨cfg, true⟩ ignore) :=
    harmless_scan rfl
  refine ⟨?_, ?_, ⟨?_, ?_⟩, programs_launch host w cfg true⟩
  all_goals
    unfold launch
    split
    · simp [fail]
    · split
      · simp [fail]
      · simp [await, tell, harmless]

/-- A simulation changes nothing on the remote. -/
theorem Simulates.mutations (simulates : Simulates e) (step : Step host e label e')
    : label.mutations = [] := by
  obtain ⟨main, workers, dispatchers⟩ := simulates.confined.requests simulates.programs step
  cases label with
  | main op =>
      rcases main op rfl with harmless | flushes
      · exact harmless
      · exact flushes.harmless
  | worker index op => exact workers index op rfl
  | dispatcher index op => exact (dispatchers index op rfl).harmless
  | _ => rfl

end SyncEngine

-----------------------------------------------------------------------------------------
-- The engine task
-----------------------------------------------------------------------------------------

/-- What the task does: outside of the main loop, then in it. -/
inductive TaskLabel
  | edited
  | applied (settings : Settings)
  | ignored
  | stopped
  | engine (label : Label)

/-- `run_unconfigured` waits, and ends with the engine that it starts, or without one. -/
inductive EngineTask.Step (host : Host) (cwd : Path) : EngineTask → TaskLabel → EngineTask → Prop
  | edited {w : World} (disk : Disk)
    : Step host cwd (.unconfigured w) .edited (.unconfigured { w with disk })
  | applied {w : World} (settings : Settings)
    : Step host cwd (.unconfigured w) (.applied settings) (applyUnconfigured host cwd settings w)
  | ignored {w : World} : Step host cwd (.unconfigured w) .ignored (.unconfigured w)
  | stopped {w : World}
    : Step host cwd (.unconfigured w) .stopped (.returned (.ok ()))
  | engine {e e' : SyncEngine} {label : Label} (step : SyncEngine.Step host e label e')
    : Step host cwd (.running e) (.engine label) (.running e')

/-- `main`, with the settings it has loaded: the task that it starts. -/
def EngineTask.start (host : Host) (cwd : Path) (settings : Settings) (dryRun : Bool) (w : World)
    : EngineTask :=
  let w := w.report (.status (.starting 0))
  match settings.validate cwd w.disk with
  | .error error => .unconfigured (w.report (.status (.unconfigured error.display)))
  | .ok () =>
      match settings.getPrimaryPair with
      | none => .returned (.error (.msg "Pas de dossier configuré"))
      | some _ => .running (SyncEngine.launch host w (settings.toAppConfig cwd) dryRun)

/-- All calls so far that change the remote. -/
def mutations : Watch EngineTask TaskLabel (List ProviderCall)
  | calls, _, .engine label, _ => calls ++ label.mutations
  | calls, _, _, _ => calls

/-- The calls and tasks that runs of the program reach. -/
abbrev TaskRuns (host : Host) (cwd : Path)
    (allowed : Discipline EngineTask TaskLabel (List ProviderCall)) (start : EngineTask)
    (calls : List ProviderCall) (task : EngineTask)
    : Prop :=
  Observed (EngineTask.Step host cwd) mutations allowed [] start calls task

/-- No configuration starts an engine later. -/
def StartsNoEngine (cwd : Path) : Discipline EngineTask TaskLabel (List ProviderCall) :=
  fun _ task label _ =>
    ∀ w settings,
      task = .unconfigured w → label = .applied settings
      → settings.getPrimaryPair = none ∨ ∃ error, settings.validate cwd w.disk = .error error

-----------------------------------------------------------------------------------------
-- Dry runs
-----------------------------------------------------------------------------------------

/-- The engine, once there is one, simulates. -/
def EngineTask.Dry : EngineTask → Prop
  | .running e => e.Simulates
  | _ => True

variable {host : Host} {cwd : Path} {task task' : EngineTask} {label : TaskLabel}
  {calls : List ProviderCall}

theorem EngineTask.dry_start (host : Host) (cwd : Path) (settings : Settings) (w : World)
    : (EngineTask.start host cwd settings true w).Dry := by
  unfold EngineTask.start
  simp only
  split
  · trivial
  · split
    · trivial
    · exact SyncEngine.simulates_launch host _ _

theorem EngineTask.Dry.step (dry : task.Dry) (step : EngineTask.Step host cwd task label task')
    (fine : StartsNoEngine cwd calls task label task')
    : task'.Dry := by
  cases step with
  | edited | ignored | stopped => trivial
  | @applied w settings =>
      unfold applyUnconfigured
      rcases fine w settings rfl rfl with pairless | ⟨error, invalid⟩
      · simp only [pairless]
        trivial
      · split
        · trivial
        · simp only [invalid]
          trivial
  | engine step => exact SyncEngine.Simulates.step dry step

theorem EngineTask.Dry.mutations (dry : task.Dry) (step : EngineTask.Step host cwd task label task')
    : SyncGDrive.mutations calls task label task' = calls := by
  cases step with
  | edited | ignored | stopped | applied => rfl
  | @engine e e' label step =>
      have none := SyncEngine.Simulates.mutations dry step
      change calls ++ label.mutations = calls
      rw [none, List.append_nil]

/-- An engine that runs in the task runs on there. -/
theorem TaskRuns.engine {allowed : Discipline EngineTask TaskLabel (List ProviderCall)}
    {start : EngineTask} {e e' : SyncEngine} {calls' : List ProviderCall}
    (run : TaskRuns host cwd allowed start calls (.running e))
    (engine
      : SyncEngine.Runs host (fun calls _ label _ => calls ++ label.mutations) anyStep calls e
          calls' e')
    (fine : ∀ calls e label e', allowed calls (.running e) (.engine label) (.running e'))
    : TaskRuns host cwd allowed start calls' (.running e') := by
  induction engine with
  | start => exact run
  | step _ moved _ ih => exact ih.step (.engine moved) (fine _ _ _ _)

/-- A dry run makes no call that changes the remote, unless it starts without a valid
configuration and gets one later.
-/
theorem dry_run_mutates_nothing {settings : Settings} {w : World}
    (run
      : TaskRuns host cwd (StartsNoEngine cwd) (EngineTask.start host cwd settings true w) calls
          task)
    : calls = [] := by
  have kept : calls = [] ∧ task.Dry :=
    run.invariant (fun calls task => calls = [] ∧ task.Dry)
      ⟨rfl, EngineTask.dry_start host cwd settings w⟩
      (by
        rintro _ task label task' ⟨rfl, dry⟩ step fine
        exact ⟨dry.mutations step, dry.step step fine⟩)
  exact kept.1

-----------------------------------------------------------------------------------------
-- Two runs with the flag
-----------------------------------------------------------------------------------------

/-- The root holds one directory, `photos`. -/
def photosDisk : Disk :=
  .backup (.single (.utf8 "photos") (by decide)) (fun _ => .dir .empty (fun _ => .special))

/-- Settings that save `/backup`. -/
def backupSettings : Settings :=
  { syncPairs := [{ name := "Sauvegarde", localPath := "/backup", remoteFolderId := "root" }] }

theorem backupSettings_valid : backupSettings.validate [] photosDisk = .ok () := by
  decide +kernel

theorem backupSettings_toAppConfig : backupSettings.toAppConfig [] = backupConfig := by
  decide +kernel

/-- What a scan has reported when it turns to the folders. -/
def World.listed (w : World) : World :=
  (w.report (.status (.scanProgress .remoteListing 0 0 "listing remote…"))).report
    (.status (.scanProgress .localListing 0 0 "inventaire local…"))

/-- A scan of that root comes to its folder. -/
theorem scan_surveys_photos (dryRun : Bool) {faults : Fault → Prop} {w last : World}
    {rest : Eff Unit} (disk : w.disk = photosDisk) (running : w.shutdown = false)
    (tail
      : Reaches ((Environment.plain faults).among Op.Harmless)
          (do
            createFolders ⟨backupConfig, dryRun⟩ backupPair [[.utf8 "backup", .utf8 "photos"]]
            reconcile ⟨backupConfig, dryRun⟩ backupPair .nothing ⟨[], []⟩ [])
          w.listed rest last)
    : Reaches ((Environment.plain faults).among Op.Harmless) (scan ⟨backupConfig, dryRun⟩ .nothing)
        w rest last := by
  have walk
      : w.disk.walkDir backupPair.localPath IgnoreMatcher.nothing.keeps
        = [⟨[.utf8 "backup"], .dir⟩, ⟨[.utf8 "backup", .utf8 "photos"], .dir⟩] := by
    rw [disk]
    rfl
  refine reaches_among () _ rfl rfl ?_
  refine reaches_among (.ok ⟨[], []⟩) _ ⟨_, ⟨rfl, rfl⟩, rfl⟩ rfl ?_
  refine reaches_among () _ rfl rfl ?_
  refine reaches_among _ _ ⟨walk.symm, rfl⟩ rfl ?_
  refine reaches_among false _ ⟨.inl rfl, running.symm⟩ rfl ?_
  refine reaches_among false _ ⟨.inl rfl, running.symm⟩ rfl ?_
  exact tail

/-- What passes the validation starts an engine on that directory. -/
theorem launches (host : Host) (dryRun : Bool) (w : World) (disk : w.disk = photosDisk)
    : (EngineTask.start host [] backupSettings dryRun w
        = .running (SyncEngine.launch host (w.report (.status (.starting 0))) backupConfig dryRun))
      ∧ applyUnconfigured host [] backupSettings w
        = .running (SyncEngine.launch host w backupConfig false) := by
  have valid := backupSettings_valid
  rw [← disk] at valid
  constructor
  · simp only [EngineTask.start, World.report, valid, backupSettings_toAppConfig]
    rfl
  · simp only [applyUnconfigured, valid, backupSettings_toAppConfig]
    rfl

/-- The simulated scan makes the folder up, and calls nothing. -/
theorem photos_simulated
    : ∃ e,
        TaskRuns (.plain (fun _ => False)) [] (StartsNoEngine [])
            (.start (.plain (fun _ => False)) [] backupSettings true { disk := photosDisk }) []
            (.running e)
        ∧ e.world.pathCache.lookup "photos" = some ⟨"dry_run_dir_photos", "root"⟩
        ∧ ([] : List ProviderCall) = [] := by
  let host : Host := .plain (fun _ => False)
  let w : World := { disk := photosDisk }
  let e := SyncEngine.launch host (w.report (.status (.starting 0))) backupConfig true
  let entered := e.world.listed.report (.status (.scanProgress .directories 1 1 "photos"))
  let madeUp := "dry_run_dir_" ++ "photos".map (fun c => if c = '/' then '_' else c)
  let last : World := { entered with pathCache := entered.pathCache.insert "photos" madeUp "root" }
  have path
      : Reaches (host.env.among Op.Harmless) (scan ⟨backupConfig, true⟩ .nothing) e.world
          (reconcile ⟨backupConfig, true⟩ backupPair .nothing ⟨[], []⟩ []) last := by
    refine scan_surveys_photos true rfl rfl ?_
    refine reaches_among false _ ⟨.inl rfl, rfl⟩ rfl ?_
    refine reaches_among () _ rfl rfl ?_
    refine reaches_among none _ ⟨rfl, rfl⟩ rfl ?_
    refine reaches_among none _ ⟨rfl, rfl⟩ rfl ?_
    exact reaches_among () last rfl rfl .refl
  have launched
      : TaskRuns host [] (StartsNoEngine []) (.start host [] backupSettings true w) []
          (.running e) := by
    have start := (launches host true w rfl).1
    rw [← start]
    exact .start
  have scanned := launched.engine
    (SyncEngine.runs_scan_among path .start rfl id (Nat.zero_le _) (fun calls e op e' harmless => by
      change calls ++ op.mutations = calls
      rw [harmless, List.append_nil]) (fun _ _ _ _ _ => trivial))
    (fun _ _ _ _ _ _ same => by cases same)
  exact ⟨_, scanned, by decide +kernel, dry_run_mutates_nothing scanned⟩

/-- Without a valid configuration at first, the folder is created. -/
theorem photos_created
    : ¬ ∀ host cwd settings w calls task,
          TaskRuns host cwd anyStep (.start host cwd settings true w) calls task → calls = [] := by
  intro never
  let host : Host := .plain (fun _ => False)
  let w : World := { disk := photosDisk }
  let w' :=
    (w.report (.status (.starting 0))).report
      (.status (.unconfigured ConfigError.noPairsConfigured.display))
  let e := SyncEngine.launch host w' backupConfig false
  have waiting : TaskRuns host [] anyStep (.start host [] {} true w) [] (.unconfigured w') := .start
  have applied := waiting.step (.applied backupSettings) trivial
  rw [(launches host true _ rfl).2] at applied
  let entered := e.world.listed.report (.status (.scanProgress .directories 1 1 "photos"))
  obtain ⟨next, path⟩
      : ∃ next,
          Reaches (host.env.among Op.Harmless) (scan ⟨backupConfig, false⟩ .nothing) e.world
            (.call (Op.provider (.mkdir "root" "photos")) next) entered := by
    apply Exists.intro
    refine scan_surveys_photos false rfl rfl ?_
    refine reaches_among false _ ⟨.inl rfl, rfl⟩ rfl ?_
    refine reaches_among () _ rfl rfl ?_
    refine reaches_among none _ ⟨rfl, rfl⟩ rfl ?_
    refine reaches_among none _ ⟨rfl, rfl⟩ rfl ?_
    refine reaches_among false _ ⟨.inl rfl, rfl⟩ rfl ?_
    exact .refl
  have engine :=
    SyncEngine.runs_scan_among path
      (@Observed.start _ _ _ _ (fun calls _ label _ => calls ++ label.mutations) anyStep [] e)
      rfl id (Nat.zero_le _) (fun calls e op e' harmless => by
        change calls ++ op.mutations = calls
        rw [harmless, List.append_nil]) (fun _ _ _ _ _ => trivial)
  have created := engine.step (.main (.scan rfl ⟨⟨_, ⟨rfl, rfl⟩, rfl⟩, trivial⟩)) trivial
  have mutated := never _ _ _ _ _ _ (TaskRuns.engine applied created (fun _ _ _ _ => trivial))
  cases mutated

end SyncGDrive
