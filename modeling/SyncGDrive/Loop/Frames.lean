import SyncGDrive.Data.Concat
import SyncGDrive.Engine.Footprints
import SyncGDrive.Loop.Step

/-! What the steps of the engine leave alone: only the main task changes the variables of the
main loop, and every program keeps to its operations.
-/

namespace SyncGDrive

open Program

/-- An awaited program keeps to its operations. -/
def Mode.Sound : Mode → Prop
  | .scanning _ rest => Uses Op.OfScan rest
  | .flushing rest => Uses Op.OfFlush rest
  | _ => True

namespace SyncEngine

-----------------------------------------------------------------------------------------
-- The variables of the main loop
-----------------------------------------------------------------------------------------

/-- Equal in the locals of the main loop and in the connectivity flag. -/
structure SameControl (e e' : SyncEngine) : Prop where
  cfg : e'.cfg = e.cfg
  ctx : e'.ctx = e.ctx
  currentLocalRoot : e'.currentLocalRoot = e.currentLocalRoot
  paused : e'.paused = e.paused
  rescanOnResume : e'.rescanOnResume = e.rescanOnResume
  mode : e'.mode = e.mode
  offline : e'.world.offline = e.world.offline

variable {host : Host} {e e' : SyncEngine} {label : Label}

@[simp] theorem tell_world_offline (e : SyncEngine) (status : EngineStatus)
    : (e.tell status).world.offline = e.world.offline := rfl

theorem sameControl_retire (e : SyncEngine) (index : Nat) : e.SameControl (e.retire index) := by
  simp only [retire]
  split <;> exact ⟨rfl, rfl, rfl, rfl, rfl, rfl, rfl⟩

theorem sameControl_handled (e : SyncEngine) (index : Nat) (result : Except Error Unit)
    : e.SameControl (e.handled index result) := by
  cases result with
  | ok _ => exact sameControl_retire e index
  | error error =>
      simp only [handled]
      split
      · have same := sameControl_retire (e.tell (.error error.display)) index
        exact ⟨same.cfg, same.ctx, same.currentLocalRoot, same.paused, same.rescanOnResume,
          same.mode, same.offline⟩
      · exact sameControl_retire e index

/-- A worker that does not panic leaves the variables of the main loop alone. -/
theorem WorkerStep.sameControl (step : WorkerStep host e label e')
    (other : ∀ index, label ≠ .panicked index)
    : e.SameControl e' := by
  cases step with
  | spared => exact sameControl_retire e _
  | begun => exact ⟨rfl, rfl, rfl, rfl, rfl, rfl, rfl⟩
  | @panicked index => exact absurd rfl (other index)
  | worked found handling served =>
      exact ⟨rfl, rfl, rfl, rfl, rfl, rfl, (host.env.sem_keeps served.1).offline⟩
  | handled => exact sameControl_handled e _ _

/-- The worker that ends in a panic takes the engine with it. -/
theorem WorkerStep.control (step : WorkerStep host e label e')
    : e.SameControl e' ∨ e' = { e with mode := .ended .panicked } := by
  by_cases panics : ∃ index, label = .panicked index
  · obtain ⟨index, rfl⟩ := panics
    cases step
    exact .inr rfl
  · exact .inl (step.sameControl (fun index same => panics ⟨index, same⟩))

theorem DispatcherStep.control (step : DispatcherStep host e label e') : e.SameControl e' := by
  cases step with
  | taken | ticked | left => exact ⟨rfl, rfl, rfl, rfl, rfl, rfl, rfl⟩
  | worked found busy served =>
      exact ⟨rfl, rfl, rfl, rfl, rfl, rfl, (host.env.sem_keeps served.1).offline⟩

theorem OutsideStep.control (step : OutsideStep e label e') : e.SameControl e' := by
  cases step with
  | published =>
      simp only [publish]
      split <;> exact ⟨rfl, rfl, rfl, rfl, rfl, rfl, rfl⟩
  | _ => exact ⟨rfl, rfl, rfl, rfl, rfl, rfl, rfl⟩

/-- The main task holds the receiver as long as it takes steps. -/
theorem MainStep.receiving (step : MainStep host e label e') : e.Receiving := by
  cases step with
  | stopped mode => rcases mode with mode | ⟨task, mode⟩ <;> simp [Receiving, mode]
  | _ => simp_all [Receiving]

/-- Who changes the variables of the main loop. -/
theorem Step.control (step : Step host e label e')
    : MainStep host e label e' ∨ e.SameControl e' ∨ e'.mode = .ended .panicked := by
  cases step with
  | main step => exact .inl step
  | worker alive step =>
      rcases step.control with same | rfl
      · exact .inr (.inl same)
      · exact .inr (.inr rfl)
  | dispatcher alive step => exact .inr (.inl step.control)
  | outside step => exact .inr (.inl step.control)

-----------------------------------------------------------------------------------------
-- The programs in flight
-----------------------------------------------------------------------------------------

/-- Every program in flight keeps to its operations. -/
structure Programs (e : SyncEngine) : Prop where
  mode : e.mode.Sound
  worker
    : ∀ worker ∈ e.workers, ∀ rest, worker.stage = .handling rest → Uses Op.OfWorker rest
  dispatcher : ∀ dispatcher ∈ e.dispatchers, Uses Op.OfDispatcher dispatcher.busy

/-- The main task may turn to a sound mode. -/
theorem Programs.turn (programs : Programs e) (mode : e'.mode.Sound)
    (workers : e'.workers = e.workers) (dispatchers : e'.dispatchers = e.dispatchers)
    : Programs e' :=
  ⟨mode, workers ▸ programs.worker, dispatchers ▸ programs.dispatcher⟩

theorem Programs.afterScan (programs : Programs e) (site : ScanSite)
    : Programs (e.afterScan site) := by
  cases site with
  | initial =>
      simp only [SyncEngine.afterScan]
      split <;> exact programs.turn trivial rfl rfl
  | _ => exact programs.turn trivial rfl rfl

theorem Programs.leave (programs : Programs e) (site : ScanSite) : Programs (e.leave site) := by
  cases site <;> exact programs.turn trivial rfl rfl

theorem Programs.rescan (programs : Programs e) (site : ScanSite)
    : Programs (e.rescan host site) := by
  unfold SyncEngine.rescan
  split
  · exact programs.turn uses_scan rfl rfl
  · exact programs.turn trivial rfl rfl

/-- A new dispatcher has nothing to do yet. -/
theorem Programs.spawnDispatcher (programs : Programs e) : Programs e.spawnDispatcher := by
  exact ⟨programs.mode, programs.worker,
    List.forall_mem_concat.mpr ⟨programs.dispatcher, uses_pure⟩⟩

theorem Programs.stopWatcher (programs : Programs e) : Programs e.stopWatcher := by
  refine ⟨programs.mode, programs.worker, ?_⟩
  intro dispatcher member
  obtain ⟨before, found, rfl⟩ := List.mem_map.mp member
  exact programs.dispatcher before found

theorem Programs.reload (programs : Programs e) (answers : ReloadAnswers) (missing : String)
    (cfg : AppConfig)
    : Programs (e.reload answers missing cfg).1 := by
  unfold SyncEngine.reload
  split
  · exact programs
  · split
    · exact programs.turn programs.mode rfl rfl
    · rename_i primary _ _
      have stopped : Programs (SyncEngine.stopWatcher
          { e with cfg, currentLocalRoot := primary.localPath }) :=
        (programs.turn programs.mode rfl rfl : Programs
          { e with cfg, currentLocalRoot := primary.localPath }).stopWatcher
      simp only [changeRoot]
      split
      · exact stopped
      · split
        · exact stopped.turn stopped.mode rfl rfl
        · split
          · exact stopped.turn stopped.mode rfl rfl
          · refine Programs.spawnDispatcher ?_
            exact stopped.turn stopped.mode rfl rfl

theorem Programs.tell (programs : Programs e) (status : EngineStatus)
    : Programs (e.tell status) := programs.turn programs.mode rfl rfl

theorem Programs.scanned (programs : Programs e) (site : ScanSite) (result : Except Error Unit)
    : Programs (e.scanned site result) := by
  cases result with
  | ok value =>
      simp only [SyncEngine.scanned]
      split
      · exact (programs.tell .idle).afterScan site
      · exact programs.afterScan site
  | error error =>
      have offline : Programs { e with world := { e.world with offline := true } } :=
        programs.turn programs.mode rfl rfl
      have cancelled : Programs e.cancel := programs.turn programs.mode rfl rfl
      simp only [SyncEngine.scanned]
      split
      · split
        · exact programs.turn trivial rfl rfl
        · exact (offline.tell _).afterScan .initial
      · split
        · exact cancelled.leave site
        · exact (programs.tell _).afterScan site

theorem Programs.commandScanning (programs : Programs e) (site : ScanSite) (cmd : EngineCommand)
    : Programs (e.commandScanning site cmd) := by
  have interrupts (status : EngineStatus) : Programs (e.interrupt site status) := by
    have paused : Programs { e with paused := true, rescanOnResume := true } :=
      programs.turn programs.mode rfl rfl
    exact (paused.tell status).afterScan site
  have cancelled : Programs e.cancel := programs.turn programs.mode rfl rfl
  cases cmd with
  | pause | openSettings => exact interrupts _
  | openHelp =>
      simp only [SyncEngine.commandScanning]
      split
      · exact interrupts _
      · exact programs
  | shutdown => exact cancelled.leave site
  | forceScan | applyConfig _ | resume => exact programs

theorem Programs.commandPaused (programs : Programs e) (answers : ReloadAnswers)
    (cmd : EngineCommand)
    : Programs (e.commandPaused host answers cmd) := by
  cases cmd with
  | resume =>
      have resumed : Programs { e with paused := false, rescanOnResume := false } :=
        programs.turn programs.mode rfl rfl
      simp only [SyncEngine.commandPaused]
      split
      · exact resumed.rescan .resumed
      · exact programs.turn programs.mode rfl rfl
  | applyConfig cfg =>
      have reloaded := programs.reload answers "Aucun dossier n'est configuré!" cfg
      simp only [SyncEngine.commandPaused]
      split
      · rename_i reloads
        rw [reloads] at reloaded
        exact reloaded.turn trivial rfl rfl
      · rename_i reloads
        rw [reloads] at reloaded
        exact reloaded.turn reloaded.mode rfl rfl
  | shutdown => exact programs.turn trivial rfl rfl
  | openSettings | openHelp => exact programs.tell _
  | pause | forceScan => exact programs

theorem Programs.commandRunning (programs : Programs e) (answers : ReloadAnswers)
    (cmd : EngineCommand)
    : Programs (e.commandRunning host answers cmd) := by
  cases cmd with
  | forceScan =>
      simp only [SyncEngine.commandRunning]
      split
      · exact programs
      · exact programs.rescan .forced
  | applyConfig cfg =>
      have reloaded := programs.reload answers "Pas de dossier" cfg
      simp only [SyncEngine.commandRunning]
      split
      · rename_i reloads
        rw [reloads] at reloaded
        exact reloaded.turn trivial rfl rfl
      · rename_i reloads
        rw [reloads] at reloaded
        split
        · split
          · exact reloaded.turn uses_scan rfl rfl
          · exact reloaded.turn trivial rfl rfl
        · exact reloaded.tell .idle
  | shutdown => exact programs.turn trivial rfl rfl
  | pause | openHelp | openSettings => exact programs.turn programs.mode rfl rfl
  | resume => exact programs

theorem Programs.checked (programs : Programs e) (answer : Except Error HealthStatus)
    : Programs (e.checked answer) := by
  unfold SyncEngine.checked
  split <;> split <;> exact programs.turn trivial rfl rfl

theorem Programs.startWatching (programs : Programs e) (answer : Except Error Unit)
    : Programs (e.startWatching answer) := by
  unfold SyncEngine.startWatching
  split
  · exact programs.turn trivial rfl rfl
  · rename_i primary _
    have turned : Programs { e with currentLocalRoot := primary.localPath, mode := .selecting } :=
      programs.turn trivial rfl rfl
    split
    · exact programs.turn trivial rfl rfl
    · exact turned.spawnDispatcher

/-- A new worker has no program yet. -/
theorem Programs.spawn (programs : Programs e) (task : Task) : Programs (e.spawn task) := by
  unfold SyncEngine.spawn
  split
  · exact programs.turn trivial rfl rfl
  · refine ⟨trivial, List.forall_mem_concat.mpr ⟨programs.worker, ?_⟩, programs.dispatcher⟩
    rintro rest ⟨⟩

/-- The steps of the main task, one case for each. -/
theorem Programs.main (programs : Programs e) (step : MainStep host e label e')
    : Programs e' := by
  have sound := programs.mode
  cases step with
  | @scan site op next answer after mode served =>
      rw [mode] at sound
      exact programs.turn (sound.2 answer) rfl rfl
  | @flush op next answer after mode served =>
      rw [mode] at sound
      exact programs.turn (sound.2 answer) rfl rfl
  | scanned mode => exact programs.scanned _ _
  | interrupted mode listens biased => exact programs.commandScanning _ _
  | left mode requested => exact programs.leave _
  | watching mode started => exact programs.startWatching _
  | paused mode paused running possible => exact programs.commandPaused _ _
  | command mode resumed running possible => exact programs.commandRunning _ _
  | health mode => exact programs.checked _
  | reconnected mode => exact programs.turn uses_flushQueue rfl rfl
  | rescanTick mode resumed running enabled =>
      unfold SyncEngine.rescanTick
      split
      · exact programs
      · exact programs.rescan .periodic
  | spawned mode permit => exact programs.spawn _
  | flushed | stopped | healthTick | received => exact programs.turn trivial rfl rfl

theorem Programs.retire (programs : Programs e) (index : Nat) : Programs (e.retire index) := by
  have fewer
      : Programs
          { e with world := e.world.report .doneFile, workers := e.workers.eraseIdx index } :=
    ⟨programs.mode, fun worker member => programs.worker worker (List.mem_of_mem_eraseIdx member),
      programs.dispatcher⟩
  simp only [SyncEngine.retire]
  split
  · exact fewer.tell .idle
  · exact fewer

theorem Programs.workers (programs : Programs e) (step : WorkerStep host e label e')
    : Programs e' := by
  have advance (index : Nat) (advanced : Worker) (world : World)
      (fine : ∀ rest, advanced.stage = .handling rest → Uses Op.OfWorker rest)
      : Programs { e with world, workers := e.workers.set index advanced } := by
    refine ⟨programs.mode, ?_, programs.dispatcher⟩
    intro worker member
    rcases List.mem_or_eq_of_mem_set member with earlier | rfl
    · exact programs.worker worker earlier
    · exact fine
  cases step with
  | spared => exact programs.retire _
  | begun found spawned running compiled =>
      refine advance _ _ e.world ?_
      rintro rest ⟨⟩
      exact uses_handle
  | panicked => exact programs.turn trivial rfl rfl
  | @worked index worker op next answer after found handling served =>
      refine advance _ _ after ?_
      rintro rest ⟨⟩
      exact (programs.worker worker (List.mem_of_getElem? found) _ handling).2 answer
  | @handled index worker result found handling =>
      cases result with
      | ok value => exact programs.retire _
      | error error =>
          simp only [SyncEngine.handled]
          split
          · exact (programs.tell _).retire _
          · exact programs.retire _

theorem Programs.dispatchers (programs : Programs e) (step : DispatcherStep host e label e')
    : Programs e' := by
  have advance (index : Nat) (advanced : Dispatcher) (world : World)
      (fine : Uses Op.OfDispatcher advanced.busy)
      : Programs { e with world, dispatchers := e.dispatchers.set index advanced } := by
    refine ⟨programs.mode, programs.worker, ?_⟩
    intro dispatcher member
    rcases List.mem_or_eq_of_mem_set member with earlier | rfl
    · exact programs.dispatcher dispatcher earlier
    · exact fine
  cases step with
  | taken found idle running waiting => exact advance _ _ e.world uses_dispatchEvent
  | ticked found idle running order => exact advance _ _ e.world uses_dispatchAll
  | @worked index dispatcher op next answer after found busy served =>
      have uses := programs.dispatcher dispatcher (List.mem_of_getElem? found)
      rw [busy] at uses
      exact advance _ _ after (uses.2 answer)
  | left found idle finished => exact advance _ _ e.world uses_pure

theorem Programs.outside (programs : Programs e) (step : OutsideStep e label e') : Programs e' := by
  cases step with
  | @observed index dispatcher event found watched =>
      refine ⟨programs.mode, programs.worker, ?_⟩
      intro other member
      rcases List.mem_or_eq_of_mem_set member with earlier | rfl
      · exact programs.dispatcher other earlier
      · have uses := programs.dispatcher dispatcher (List.mem_of_getElem? found)
        unfold Dispatcher.observe
        split <;> exact uses
  | published running watching =>
      simp only [SyncEngine.publish]
      split
      · exact programs.tell _
      · exact programs
  | edited | later | cancelled => exact programs.turn programs.mode rfl rfl

/-- Every step keeps the programs to their operations. -/
theorem Programs.step (programs : Programs e) (step : Step host e label e') : Programs e' := by
  cases step with
  | main step => exact programs.main step
  | worker alive step => exact programs.workers step
  | dispatcher alive step => exact programs.dispatchers step
  | outside step => exact programs.outside step

theorem programs_launch (host : Host) (w : World) (cfg : AppConfig) (dryRun : Bool)
    : Programs (launch host w cfg dryRun) := by
  simp only [launch]
  split
  · exact ⟨trivial, by simp [fail], by simp [fail]⟩
  · split
    · exact ⟨trivial, by simp [fail], by simp [fail]⟩
    · exact ⟨uses_scan, by simp [await, SyncEngine.tell], by simp [await, SyncEngine.tell]⟩

-----------------------------------------------------------------------------------------
-- What the main task shares with the others
-----------------------------------------------------------------------------------------

/-- Equal in the configuration, in what has been spawned and in the stores: the phase, the
flags, the tracker and the statuses may differ.
-/
structure SameStores (e e' : SyncEngine) : Prop where
  cfg : e'.cfg = e.cfg
  ctx : e'.ctx = e.ctx
  currentLocalRoot : e'.currentLocalRoot = e.currentLocalRoot
  workers : e'.workers = e.workers
  dispatchers : e'.dispatchers = e.dispatchers
  now : e'.now = e.now
  disk : e'.world.disk = e.world.disk
  db : e'.world.db = e.world.db
  pathCache : e'.world.pathCache = e.world.pathCache
  remote : e'.world.remote = e.world.remote
  tasks : e'.world.tasks = e.world.tasks

theorem SameStores.refl (e : SyncEngine) : e.SameStores e :=
  ⟨rfl, rfl, rfl, rfl, rfl, rfl, rfl, rfl, rfl, rfl, rfl⟩

theorem SameStores.trans {e'' : SyncEngine} (first : e.SameStores e') (second : e'.SameStores e'')
    : e.SameStores e'' :=
  ⟨second.cfg.trans first.cfg, second.ctx.trans first.ctx,
    second.currentLocalRoot.trans first.currentLocalRoot, second.workers.trans first.workers,
    second.dispatchers.trans first.dispatchers, second.now.trans first.now,
    second.disk.trans first.disk, second.db.trans first.db,
    second.pathCache.trans first.pathCache, second.remote.trans first.remote,
    second.tasks.trans first.tasks⟩

theorem sameStores_tell (e : SyncEngine) (status : EngineStatus) : e.SameStores (e.tell status) :=
  ⟨rfl, rfl, rfl, rfl, rfl, rfl, rfl, rfl, rfl, rfl, rfl⟩

theorem sameStores_finish (e : SyncEngine) : e.SameStores e.finish :=
  ⟨rfl, rfl, rfl, rfl, rfl, rfl, rfl, rfl, rfl, rfl, rfl⟩

theorem sameStores_fail (e : SyncEngine) (error : Error) : e.SameStores (e.fail error) :=
  ⟨rfl, rfl, rfl, rfl, rfl, rfl, rfl, rfl, rfl, rfl, rfl⟩

theorem sameStores_afterScan (e : SyncEngine) (site : ScanSite)
    : e.SameStores (e.afterScan site) := by
  cases site with
  | initial =>
      simp only [SyncEngine.afterScan]
      split <;> exact ⟨rfl, rfl, rfl, rfl, rfl, rfl, rfl, rfl, rfl, rfl, rfl⟩
  | _ => exact ⟨rfl, rfl, rfl, rfl, rfl, rfl, rfl, rfl, rfl, rfl, rfl⟩

theorem sameStores_leave (e : SyncEngine) (site : ScanSite) : e.SameStores (e.leave site) := by
  cases site <;> exact ⟨rfl, rfl, rfl, rfl, rfl, rfl, rfl, rfl, rfl, rfl, rfl⟩

theorem sameStores_rescan (e : SyncEngine) (site : ScanSite)
    : e.SameStores (e.rescan host site) := by
  unfold SyncEngine.rescan
  split <;> exact ⟨rfl, rfl, rfl, rfl, rfl, rfl, rfl, rfl, rfl, rfl, rfl⟩

theorem sameStores_scanned (e : SyncEngine) (site : ScanSite) (result : Except Error Unit)
    : e.SameStores (e.scanned site result) := by
  have cancelled : e.SameStores e.cancel :=
    ⟨rfl, rfl, rfl, rfl, rfl, rfl, rfl, rfl, rfl, rfl, rfl⟩
  have offline : e.SameStores { e with world := { e.world with offline := true } } :=
    ⟨rfl, rfl, rfl, rfl, rfl, rfl, rfl, rfl, rfl, rfl, rfl⟩
  cases result with
  | ok value =>
      simp only [SyncEngine.scanned]
      split
      · exact (sameStores_tell e _).trans (sameStores_afterScan _ site)
      · exact sameStores_afterScan e site
  | error error =>
      simp only [SyncEngine.scanned]
      split
      · split
        · exact sameStores_finish e
        · exact (offline.trans (sameStores_tell _ _)).trans (sameStores_afterScan _ _)
      · split
        · exact cancelled.trans (sameStores_leave _ site)
        · exact (sameStores_tell e _).trans (sameStores_afterScan _ site)

theorem sameStores_commandScanning (e : SyncEngine) (site : ScanSite) (cmd : EngineCommand)
    : e.SameStores (e.commandScanning site cmd) := by
  have cancelled : e.SameStores e.cancel :=
    ⟨rfl, rfl, rfl, rfl, rfl, rfl, rfl, rfl, rfl, rfl, rfl⟩
  have paused : e.SameStores { e with paused := true, rescanOnResume := true } :=
    ⟨rfl, rfl, rfl, rfl, rfl, rfl, rfl, rfl, rfl, rfl, rfl⟩
  have interrupts (status : EngineStatus) : e.SameStores (e.interrupt site status) :=
    (paused.trans (sameStores_tell _ _)).trans (sameStores_afterScan _ site)
  cases cmd with
  | pause | openSettings => exact interrupts _
  | openHelp =>
      simp only [SyncEngine.commandScanning]
      split
      · exact interrupts _
      · exact .refl e
  | shutdown => exact cancelled.trans (sameStores_leave _ site)
  | forceScan | applyConfig _ | resume => exact .refl e

/-- Of the commands of a paused engine only a new configuration touches what is shared. -/
theorem sameStores_commandPaused (e : SyncEngine) (answers : ReloadAnswers) {cmd : EngineCommand}
    (other : ∀ cfg, cmd ≠ .applyConfig cfg)
    : e.SameStores (e.commandPaused host answers cmd) := by
  have resumed : e.SameStores { e with paused := false, rescanOnResume := false } :=
    ⟨rfl, rfl, rfl, rfl, rfl, rfl, rfl, rfl, rfl, rfl, rfl⟩
  cases cmd with
  | resume =>
      simp only [SyncEngine.commandPaused]
      split
      · exact resumed.trans (sameStores_rescan _ _)
      · exact ⟨rfl, rfl, rfl, rfl, rfl, rfl, rfl, rfl, rfl, rfl, rfl⟩
  | applyConfig cfg => exact absurd rfl (other cfg)
  | _ => exact ⟨rfl, rfl, rfl, rfl, rfl, rfl, rfl, rfl, rfl, rfl, rfl⟩

theorem sameStores_commandRunning (e : SyncEngine) (answers : ReloadAnswers) {cmd : EngineCommand}
    (other : ∀ cfg, cmd ≠ .applyConfig cfg)
    : e.SameStores (e.commandRunning host answers cmd) := by
  cases cmd with
  | forceScan =>
      simp only [SyncEngine.commandRunning]
      split
      · exact .refl e
      · exact sameStores_rescan _ _
  | applyConfig cfg => exact absurd rfl (other cfg)
  | _ => exact ⟨rfl, rfl, rfl, rfl, rfl, rfl, rfl, rfl, rfl, rfl, rfl⟩

/-- A new configuration touches what is shared only by the reload. -/
theorem sameStores_applyConfig (e : SyncEngine) (answers : ReloadAnswers) (cfg : AppConfig)
    : (e.reload answers "Aucun dossier n'est configuré!" cfg).1.SameStores
        (e.commandPaused host answers (.applyConfig cfg))
      ∧ (e.reload answers "Pas de dossier" cfg).1.SameStores
        (e.commandRunning host answers (.applyConfig cfg)) := by
  constructor
  · simp only [SyncEngine.commandPaused]
    split
    · rename_i reloads
      rw [reloads]
      exact sameStores_fail _ _
    · rename_i reloads
      rw [reloads]
      exact ⟨rfl, rfl, rfl, rfl, rfl, rfl, rfl, rfl, rfl, rfl, rfl⟩
  · simp only [SyncEngine.commandRunning]
    split
    · rename_i reloads
      rw [reloads]
      exact sameStores_fail _ _
    · rename_i reloads
      rw [reloads]
      split
      · split <;> exact ⟨rfl, rfl, rfl, rfl, rfl, rfl, rfl, rfl, rfl, rfl, rfl⟩
      · exact sameStores_tell _ _

theorem sameStores_checked (e : SyncEngine) (answer : Except Error HealthStatus)
    : e.SameStores (e.checked answer) := by
  unfold SyncEngine.checked
  split <;> split <;> exact ⟨rfl, rfl, rfl, rfl, rfl, rfl, rfl, rfl, rfl, rfl, rfl⟩

/-- The steps of the main task that touch what it shares with the others, one case for each;
whatever other step it takes leaves that alone.
-/
inductive Touches (host : Host) : SyncEngine → Label → SyncEngine → Prop
  | none {e e' : SyncEngine} {label : Label} (same : e.SameStores e') (quiet : label.quiet = true)
    : Touches host e label e'
  | worked {e e' : SyncEngine} {op : Op} {answer : op.Answer} {after : World}
    (awaits
      : (∃ site next, e.mode = .scanning site (.call op next)
          ∧ e' = { e with world := after, mode := .scanning site (next answer) })
        ∨ ∃ next, e.mode = .flushing (.call op next)
          ∧ e' = { e with world := after, mode := .flushing (next answer) })
    (served : e.Serves host op answer after)
    : Touches host e (.main op) e'
  | reloaded {e e' : SyncEngine} {cfg : AppConfig} {answers : ReloadAnswers} {missing : String}
    (mode : e.mode = .selecting) (same : (e.reload answers missing cfg).1.SameStores e')
    (possible
      : ∀ primary, cfg.getPrimaryPair = some primary → answers.Possible host primary.localPath)
    : Touches host e (.command (.applyConfig cfg)) e'
  | watching {e : SyncEngine} {primary : SyncPair} (mode : e.mode = .starting)
    (configured : e.cfg.getPrimaryPair = some primary)
    : Touches host e (.watching (.ok ()))
        (spawnDispatcher { e with currentLocalRoot := primary.localPath, mode := .selecting })
  | received {e : SyncEngine} {task : Task} {rest : List Task} (mode : e.mode = .selecting)
    (waiting : e.world.tasks = task :: rest)
    : Touches host e (.received task)
        { e with world := { e.world with tasks := rest }, mode := .acquiring task }
  | spawned {e : SyncEngine} {task : Task} {primary : SyncPair} (mode : e.mode = .acquiring task)
    (configured : e.cfg.getPrimaryPair = some primary)
    : Touches host e (.spawned task)
        { e with
          mode := .selecting
          workers := e.workers
            ++ [⟨task, ⟨e.cfg, e.ctx.dryRun⟩, primary.ignorePatterns, .spawned⟩] }
  | unconfigured {e : SyncEngine} {task : Task} (mode : e.mode = .acquiring task)
    (missing : e.cfg.getPrimaryPair = none)
    : Touches host e (.spawned task) (e.fail (.msg "Aucun dossier"))

/-- Every step of the main task is one of these. -/
theorem MainStep.touches (step : MainStep host e label e') : Touches host e label e' := by
  cases step with
  | @scan site op next answer after mode served =>
      exact .worked (.inl ⟨site, next, mode, rfl⟩) served
  | @flush op next answer after mode served => exact .worked (.inr ⟨next, mode, rfl⟩) served
  | scanned mode => exact .none (sameStores_scanned _ _ _) rfl
  | interrupted mode listens biased => exact .none (sameStores_commandScanning _ _ _) rfl
  | left mode requested => exact .none (sameStores_leave _ _) rfl
  | stopped mode requested => exact .none (sameStores_finish _) rfl
  | @watching answer mode started =>
      unfold SyncEngine.startWatching
      split
      · exact .none (sameStores_fail _ _) rfl
      · rename_i configured
        cases answer with
        | error error => exact .none (sameStores_fail _ _) rfl
        | ok value => exact .watching mode configured
  | @paused cmd answers mode paused running possible =>
      by_cases applies : ∃ cfg, cmd = .applyConfig cfg
      · obtain ⟨cfg, rfl⟩ := applies
        exact .reloaded mode (sameStores_applyConfig e answers cfg).1 (fun _ => possible _ _ rfl)
      · exact .none (sameStores_commandPaused _ _ (fun cfg same => applies ⟨cfg, same⟩)) rfl
  | @command cmd answers mode resumed running possible =>
      by_cases applies : ∃ cfg, cmd = .applyConfig cfg
      · obtain ⟨cfg, rfl⟩ := applies
        exact .reloaded mode (sameStores_applyConfig e answers cfg).2 (fun _ => possible _ _ rfl)
      · exact .none (sameStores_commandRunning _ _ (fun cfg same => applies ⟨cfg, same⟩)) rfl
  | health mode => exact .none (sameStores_checked _ _) rfl
  | rescanTick mode resumed running enabled =>
      unfold SyncEngine.rescanTick
      split
      · exact .none (.refl _) rfl
      · exact .none (sameStores_rescan _ _) rfl
  | received mode resumed running waiting => exact .received mode waiting
  | spawned mode permit =>
      unfold SyncEngine.spawn
      split
      · rename_i missing
        exact .unconfigured mode missing
      · rename_i configured
        exact .spawned mode configured
  | flushed | healthTick | reconnected =>
      exact .none ⟨rfl, rfl, rfl, rfl, rfl, rfl, rfl, rfl, rfl, rfl, rfl⟩ rfl

-----------------------------------------------------------------------------------------
-- The dispatchers
-----------------------------------------------------------------------------------------

/-- What the main task does to the dispatchers: it stops their watcher or not, and spawns
some that have nothing to do yet.
-/
structure Respawns (e e' : SyncEngine) (stopped : Bool) (added : List Dispatcher) : Prop where
  dispatchers
    : e'.dispatchers
      = (if stopped then e.stopWatcher.dispatchers else e.dispatchers) ++ added
  fresh
    : ∀ dispatcher ∈ added,
        dispatcher.watched = true ∧ dispatcher.overflow = false ∧ dispatcher.inbox = []
        ∧ dispatcher.pending = ∅ ∧ dispatcher.busy = pure true

theorem Respawns.of_same (same : e'.dispatchers = e.dispatchers) : Respawns e e' false [] :=
  ⟨by simp [same], by simp⟩

theorem respawns_reload (e : SyncEngine) (answers : ReloadAnswers) (missing : String)
    (cfg : AppConfig)
    : ∃ stopped added, Respawns e (e.reload answers missing cfg).1 stopped added := by
  unfold SyncEngine.reload
  split
  · exact ⟨false, [], .of_same rfl⟩
  · split
    · exact ⟨false, [], .of_same rfl⟩
    · simp only [changeRoot]
      split
      · exact ⟨true, [], ⟨(List.append_nil _).symm, by simp⟩⟩
      · split
        · exact ⟨true, [], ⟨(List.append_nil _).symm, by simp⟩⟩
        · split
          · exact ⟨true, [], ⟨(List.append_nil _).symm, by simp⟩⟩
          · exact ⟨true, _, ⟨rfl, by simp⟩⟩

/-- The main task leaves the dispatchers alone, stops their watcher, or spawns new ones. -/
theorem MainStep.respawns (step : MainStep host e label e')
    : ∃ stopped added, Respawns e e' stopped added := by
  cases step.touches with
  | none same => exact ⟨false, [], .of_same same.dispatchers⟩
  | worked awaits served =>
      rcases awaits with ⟨site, next, -, rfl⟩ | ⟨next, -, rfl⟩ <;> exact ⟨false, [], .of_same rfl⟩
  | @reloaded _ cfg answers missing mode same possible =>
      obtain ⟨stopped, added, respawns⟩ := respawns_reload e answers missing cfg
      exact ⟨stopped, added, same.dispatchers.trans respawns.dispatchers, respawns.fresh⟩
  | watching mode configured => exact ⟨false, _, ⟨rfl, by simp⟩⟩
  | received mode waiting => exact ⟨false, [], .of_same rfl⟩
  | spawned | unconfigured => exact ⟨false, [], .of_same rfl⟩

/-- Workers leave the dispatchers alone. -/
theorem WorkerStep.dispatchers (step : WorkerStep host e label e')
    : e'.dispatchers = e.dispatchers := by
  have retires (e : SyncEngine) (index : Nat) : (e.retire index).dispatchers = e.dispatchers := by
    simp only [SyncEngine.retire]
    split <;> rfl
  cases step with
  | spared => exact retires _ _
  | @handled index worker result found handling =>
      cases result with
      | ok value => exact retires _ _
      | error error =>
          simp only [SyncEngine.handled]
          split <;> exact retires _ _
  | _ => rfl

end SyncEngine

end SyncGDrive
