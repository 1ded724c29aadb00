import SyncGDrive.Loop.Pairs
import SyncGDrive.Settings.Startup

/-! New configurations, from the wait for a first one to the main loop: when one that cannot be
applied leaves everything as it is, and none ends the engine.
-/

namespace SyncGDrive

open Program

-----------------------------------------------------------------------------------------
-- The wait for a configuration
-----------------------------------------------------------------------------------------

/-- The spawned task: `run_unconfigured`, then the engine it becomes. -/
inductive EngineTask
  | unconfigured (w : World)
  | running (e : SyncEngine)
  | returned (result : Except Error Unit)

/-- `run_unconfigured` receives a configuration. -/
def applyUnconfigured (host : Host) (cwd : Path) (settings : Settings) (w : World) : EngineTask :=
  match settings.getPrimaryPair with
  | none => .returned (.error (.msg "Aucun dossier n'est configuré!"))
  | some _ =>
      match settings.validate cwd w.disk with
      | .error error => .unconfigured (w.report (.status (.unconfigured error.display)))
      | .ok () => .running (SyncEngine.launch host w (settings.toAppConfig cwd) false)

-----------------------------------------------------------------------------------------
-- What is asked of a new configuration
-----------------------------------------------------------------------------------------

/-- There is an active pair whose patterns compile, and its directory can be watched unless it
is the one that already is.
-/
def Applicable (host : Host) (watched : Option Path) (cfg : AppConfig) : Prop :=
  ∃ primary,
    cfg.getPrimaryPair = some primary
    ∧ (∃ ignore, host.fromPatterns primary.ignorePatterns = .ok ignore)
    ∧ (watched ≠ some primary.localPath → host.watch primary.localPath (.ok ()))

namespace SyncEngine

/-- The configuration in force, the watcher and the index are those from before. -/
structure InForce (e e' : SyncEngine) : Prop where
  cfg : e'.cfg = e.cfg
  root : e'.currentLocalRoot = e.currentLocalRoot
  dispatchers : e'.dispatchers = e.dispatchers
  fileIndex : e'.world.db.fileIndex = e.world.db.fileIndex

/-- The engine still listens after a new configuration, with one that serves it if it had such
a one before, and a configuration that cannot be applied changes nothing.
-/
structure Reconfigured (host : Host) (cfg : AppConfig) (e e' : SyncEngine) : Prop where
  listens : e'.Receiving
  serves
    : (∃ ignore, ignoreOf host e.cfg = .ok ignore) → ∃ ignore, ignoreOf host e'.cfg = .ok ignore
  kept : ¬ Applicable host (some e.currentLocalRoot) cfg → InForce e e'

/-- An engine in its loop takes the configuration over: there is an active pair, a change of
root succeeds, and the patterns compile unless nothing changes at all.
-/
structure TakesOver (host : Host) (e : SyncEngine) (cfg : AppConfig) (primary : SyncPair)
    : Prop where
  configured : cfg.getPrimaryPair = some primary
  moves
    : primary.localPath ≠ e.currentLocalRoot
      → ¬ host.env.faults .database ∧ ∀ answer, host.watch primary.localPath answer
        → answer = .ok ()
  compiles
    : (∃ ignore, host.fromPatterns primary.ignorePatterns = .ok ignore)
      ∨ cfg = e.cfg ∧ primary.localPath = e.currentLocalRoot

end SyncEngine

/-- The engine reaches its main loop: it listens, its watcher starts, and so do its timers. -/
structure EntersLoop (host : Host) (clock : Clock) (settings : Settings) (e : SyncEngine)
    : Prop where
  listens : e.Receiving
  watches
    : ∀ e' answer e'',
        SyncEngine.Reachable host e e' → SyncEngine.Step host e' (.watching answer) e''
        → e''.Receiving
  timed : timers clock settings = .done ()

/-- The task has not returned, and waits on, with a status, unless the configuration can be
applied.
-/
def EngineTask.Configured (host : Host) (clock : Clock) (cwd : Path) (settings : Settings)
    (w : World)
    : EngineTask → Prop
  | .unconfigured w' => ∃ reason, w' = w.report (.status (.unconfigured reason))
  | .running e =>
      Applicable host none (settings.toAppConfig cwd) ∧ EntersLoop host clock settings e
  | .returned _ => False

-----------------------------------------------------------------------------------------
-- Before the main loop
-----------------------------------------------------------------------------------------

/-- The watcher has not been asked to start yet. -/
def Phase.booting : Phase → Bool
  | .scanning .initial | .starting => true
  | _ => false

/-- Nothing leads back there. -/
theorem Control.Step.booting {c c' : Control} {label : Label} (step : c.Step label c')
    (after : c'.phase.booting = true)
    : c.phase.booting = true := by
  cases step with
  | @scanned site result phase fine =>
      cases site <;> simp_all [Phase.booting, ScanSite.next]
  | @interrupted site cmd phase interrupts =>
      cases site <;> simp_all [Phase.booting, ScanSite.next]
  | ends ended => simp [ended, Phase.booting] at after
  | _ => simp_all [Phase.booting]

/-- The engine has returned an error, or a panic has ended it. -/
def Mode.Failed : Mode → Prop
  | .ended (.returned (.error _)) | .ended .panicked => True
  | _ => False

namespace SyncEngine

variable {host : Host} {e e' : SyncEngine} {answers : ReloadAnswers} {missing : String}
  {cfg : AppConfig} {primary : SyncPair} {label : Label}

-----------------------------------------------------------------------------------------
-- The reload
-----------------------------------------------------------------------------------------

/-- The answers to a change of root are all favourable. -/
def ReloadAnswers.Fine (answers : ReloadAnswers) : Prop :=
  answers.clear = .ok () ∧ answers.clearDirs = .ok () ∧ answers.watch = .ok ()

theorem reload_none (none : cfg.getPrimaryPair = none)
    : e.reload answers missing cfg = (e, .error (.msg missing)) := by
  simp only [reload, none]

theorem reload_same (configured : cfg.getPrimaryPair = some primary)
    (same : primary.localPath = e.currentLocalRoot)
    : e.reload answers missing cfg = ({ e with cfg }, .ok false) := by
  simp only [reload, configured, same, if_true]

/-- With favourable answers the root changes. -/
theorem reload_fine (configured : cfg.getPrimaryPair = some primary)
    (differs : primary.localPath ≠ e.currentLocalRoot) (fine : answers.Fine)
    : e.reload answers missing cfg
      = ((changeRoot { e with cfg } {} primary.localPath).1, .ok true) := by
  obtain ⟨clear, clearDirs, watch⟩ := fine
  simp only [reload, configured, differs, if_false, changeRoot, clear, clearDirs, watch]
  rfl

/-- With an answer that is not, the change of root fails. -/
theorem reload_fails (configured : cfg.getPrimaryPair = some primary)
    (differs : primary.localPath ≠ e.currentLocalRoot) (refused : ¬ answers.Fine)
    : ∃ after error, e.reload answers missing cfg = (after, .error error) := by
  simp only [reload, configured, differs, if_false, changeRoot]
  cases clear : answers.clear with
  | error error => exact ⟨_, _, rfl⟩
  | ok value =>
      cases clearDirs : answers.clearDirs with
      | error error => exact ⟨_, _, rfl⟩
      | ok value =>
          cases watch : answers.watch with
          | error error => exact ⟨_, _, rfl⟩
          | ok value => exact absurd ⟨clear, clearDirs, watch⟩ refused

/-- A reload that takes over succeeds, and only one that can be applied changes anything. -/
theorem TakesOver.reload (takes : TakesOver host e cfg primary)
    (possible : answers.Possible host primary.localPath)
    : ∃ after changed,
        (∀ missing, e.reload answers missing cfg = (after, .ok changed))
        ∧ after.cfg = cfg ∧ after.mode = e.mode
        ∧ (changed = true → ∃ ignore, ignoreOf host cfg = .ok ignore)
        ∧ (¬ Applicable host (some e.currentLocalRoot) cfg → InForce e after) := by
  have configured := takes.configured
  by_cases same : primary.localPath = e.currentLocalRoot
  · refine ⟨{ e with cfg }, false, fun _ => reload_same configured same, rfl, rfl, nofun, ?_⟩
    intro refused
    rcases takes.compiles with compiles | ⟨unchanged, -⟩
    · exact absurd ⟨primary, configured, compiles, by simp [same]⟩ refused
    · exact ⟨unchanged, rfl, rfl, rfl⟩
  · obtain ⟨reliable, watches⟩ := takes.moves same
    have compiles := takes.compiles.resolve_right (fun unchanged => same unchanged.2)
    have fine : answers.Fine :=
      ⟨possible.clear.resolve_right reliable, possible.clearDirs.resolve_right reliable,
        watches _ possible.watch⟩
    refine ⟨_, true, fun _ => reload_fine configured same fine, rfl, rfl, fun _ => ?_, ?_⟩
    · simpa only [ignoreOf, configured] using compiles
    · intro refused
      exact absurd ⟨primary, configured, compiles, fun _ => fine.2.2 ▸ possible.watch⟩ refused

-----------------------------------------------------------------------------------------
-- Engines in their loop
-----------------------------------------------------------------------------------------

theorem InForce.of_same {e'' : SyncEngine} (kept : InForce e e') (same : e'.SameStores e'')
    : InForce e e'' :=
  ⟨same.cfg.trans kept.cfg, same.currentLocalRoot.trans kept.root,
    same.dispatchers.trans kept.dispatchers, same.db ▸ kept.fileIndex⟩

/-- The new configuration serves if the old one does. -/
theorem TakesOver.serves (takes : TakesOver host e cfg primary)
    (served : ∃ ignore, ignoreOf host e.cfg = .ok ignore)
    : ∃ ignore, ignoreOf host cfg = .ok ignore := by
  rcases takes.compiles with compiles | ⟨unchanged, -⟩
  · simpa only [ignoreOf, takes.configured] using compiles
  · rwa [unchanged]

/-- An engine that takes the configuration over listens on. -/
theorem reconfigured_of_takesOver
    (takes
      : e.mode = .selecting → e.world.shutdown = false → ∃ primary, TakesOver host e cfg primary)
    (step : MainStep host e (.command (.applyConfig cfg)) e')
    : Reconfigured host cfg e e' := by
  cases step with
  | interrupted mode listens biased =>
      exact ⟨by simp [Receiving, commandScanning, mode], id, fun _ => ⟨rfl, rfl, rfl, rfl⟩⟩
  | @paused cmd answers mode paused running possible =>
      obtain ⟨primary, takes⟩ := takes mode running
      obtain ⟨after, changed, reloads, inForce, mode', compiles, kept⟩ :=
        takes.reload (possible _ _ rfl takes.configured)
      have same := (@sameStores_applyConfig host e answers cfg).1
      rw [reloads] at same
      refine ⟨?_, fun served => ?_, fun refused => (kept refused).of_same same⟩
      · simp [commandPaused, reloads, Receiving, mode', mode]
      · rw [same.cfg, inForce]
        exact takes.serves served
  | @command cmd answers mode resumed running possible =>
      obtain ⟨primary, takes⟩ := takes mode running
      obtain ⟨after, changed, reloads, inForce, mode', compiles, kept⟩ :=
        takes.reload (possible _ _ rfl takes.configured)
      have same := (@sameStores_applyConfig host e answers cfg).2
      rw [reloads] at same
      refine ⟨?_, fun served => ?_, fun refused => (kept refused).of_same same⟩
      · simp only [commandRunning, reloads]
        split
        · rename_i scans
          obtain ⟨ignore, compiled⟩ := compiles (Bool.and_eq_true_iff.mp scans).1
          simp [inForce, compiled, await, Receiving]
        · simp [tell, Receiving, mode', mode]
      · rw [same.cfg, inForce]
        exact takes.serves served

/-- An idle engine receives the configuration, with any answers that may come. -/
theorem applies (mode : e.mode = .selecting) (running : e.world.shutdown = false)
    (possible
      : ∀ primary, cfg.getPrimaryPair = some primary → answers.Possible host primary.localPath)
    : ∃ e' missing,
        Step host e (.command (.applyConfig cfg)) e'
        ∧ (e.reload answers missing cfg).1.SameStores e'
        ∧ ∀ after error, e.reload answers missing cfg = (after, .error error) → ¬ e'.Receiving := by
  have same := @sameStores_applyConfig host e answers cfg
  cases pauses : e.paused with
  | true =>
      refine ⟨_, _, .main (.paused mode pauses running ?_), same.1, fun after error failed => ?_⟩
      · rintro _ primary ⟨⟩ configured
        exact possible primary configured
      · simp [commandPaused, failed, fail, Receiving]
  | false =>
      refine ⟨_, _, .main (.command mode pauses running ?_), same.2, fun after error failed => ?_⟩
      · rintro _ primary ⟨⟩ configured
        exact possible primary configured
      · simp [commandRunning, failed, fail, Receiving]

/-- What it takes for every such step to be harmless. -/
theorem takesOver_of_reconfigured (answered : ∀ path, ∃ answer, host.watch path answer)
    (mode : e.mode = .selecting) (running : e.world.shutdown = false)
    (fine : ∀ e', Step host e (.command (.applyConfig cfg)) e' → Reconfigured host cfg e e')
    : ∃ primary, TakesOver host e cfg primary := by
  cases configured : cfg.getPrimaryPair with
  | none =>
      obtain ⟨e', missing, step, -, stops⟩ :=
        @applies host e {} cfg mode running (by simp [configured])
      exact absurd (fine e' step).listens (stops _ _ (reload_none configured))
  | some primary =>
      obtain ⟨answer, watched⟩ := answered primary.localPath
      -- Whatever may be answered must be favourable, or the engine returns.
      have succeeds (answers : ReloadAnswers) (possible : answers.Possible host primary.localPath)
          (differs : primary.localPath ≠ e.currentLocalRoot)
          : answers.Fine := by
        obtain ⟨e', missing, step, -, stops⟩ :=
          @applies host e answers cfg mode running (fun other found => by
            rwa [Option.some.inj (found.symm.trans configured)])
        by_contra refused
        obtain ⟨after, error, failed⟩ :=
          @reload_fails e answers missing cfg primary configured differs refused
        exact stops _ _ failed (fine e' step).listens
      refine ⟨primary, configured, fun differs => ⟨fun faulty => ?_, fun answer watched => ?_⟩, ?_⟩
      · have clear := (succeeds ⟨.error (.msg "database is locked"), .ok (), answer⟩
          ⟨.inr faulty, .inl rfl, watched⟩ differs).1
        cases clear
      · exact (succeeds ⟨.ok (), .ok (), answer⟩ ⟨.inl rfl, .inl rfl, watched⟩ differs).2.2
      · by_cases compiles : ∃ ignore, host.fromPatterns primary.ignorePatterns = .ok ignore
        · exact .inl compiles
        · have possible : ReloadAnswers.Possible host ⟨.ok (), .ok (), answer⟩ primary.localPath :=
            ⟨.inl rfl, .inl rfl, watched⟩
          obtain ⟨e', missing, step, same, -⟩ :=
            @applies host e _ cfg mode running (fun other found => by
              rwa [Option.some.inj (found.symm.trans configured)])
          have kept := (fine e' step).kept (fun ⟨other, found, compiled, _⟩ => compiles (by
            rwa [Option.some.inj (found.symm.trans configured)] at compiled))
          by_cases here : primary.localPath = e.currentLocalRoot
          · rw [reload_same configured here] at same
            exact .inr ⟨same.cfg.symm.trans kept.cfg, here⟩
          · rw [reload_fine configured here (succeeds _ possible here)] at same
            exact absurd (same.currentLocalRoot.symm.trans kept.root) here

-----------------------------------------------------------------------------------------
-- Engines on the way to it
-----------------------------------------------------------------------------------------

theorem receiving_of_booting (booting : e.control.phase.booting = true) : e.Receiving := by
  cases mode : e.mode with
  | ended ending => simp [control, mode, Mode.phase, Phase.booting] at booting
  | _ => simp [Receiving, mode]

/-- Until then the configuration stays. -/
theorem Step.cfg_of_booting (step : Step host e label e')
    (after : e'.control.phase.booting = true)
    : e.control.phase.booting = true ∧ e'.cfg = e.cfg := by
  rcases step.control with main | same | ended
  · have before := main.control_step.booting after
    refine ⟨before, ?_⟩
    by_cases applies : ∃ new, label = .command (.applyConfig new)
    · obtain ⟨new, rfl⟩ := applies
      rcases main.reloaded (receiving_of_booting after) with ⟨-, rfl⟩ | ⟨mode, -⟩
      · rfl
      · simp [phase_of_mode mode, Mode.phase, Phase.booting] at before
    · exact (main.employs (fun new same => applies ⟨new, same⟩)).1
  · exact ⟨same.control ▸ after, same.cfg⟩
  · rw [phase_of_mode ended] at after
    cases after

theorem cfg_of_booting {w : World} {dryRun : Bool}
    (run : Reachable host (launch host w cfg dryRun) e) (booting : e.control.phase.booting = true)
    : e.cfg = cfg := by
  refine run.invariant (fun _ e => e.control.phase.booting = true → e.cfg = cfg) ?_ ?_ booting
  · intro _
    simp only [launch]
    split
    · rfl
    · split <;> rfl
  · intro _ e label e' same step _ booting
    obtain ⟨before, kept⟩ := step.cfg_of_booting booting
    exact kept.trans (same before)

/-- An engine with a configuration that serves enters its loop if its watcher starts. -/
theorem entersLoop_launch {clock : Clock} {settings : Settings} {w : World} {dryRun : Bool}
    {ignore : IgnoreMatcher} (configured : cfg.getPrimaryPair = some primary)
    (compiled : host.fromPatterns primary.ignorePatterns = .ok ignore)
    : EntersLoop host clock settings (launch host w cfg dryRun)
      ↔ (∀ answer, host.watch primary.localPath answer → answer = .ok ())
        ∧ Timely clock settings := by
  let start := launch host w cfg dryRun
  have launched
      : start.mode = .scanning .initial (scan ⟨cfg, dryRun⟩ ignore) ∧ start.cfg = cfg
        ∧ start.world.shutdown = false := by
    simp only [start, launch, configured, compiled]
    exact ⟨rfl, rfl, rfl⟩
  obtain ⟨mode, inForce, running⟩ := launched
  constructor
  · rintro ⟨-, watches, timed⟩
    refine ⟨fun answer watched => ?_, timers_eq_done.mp timed⟩
    -- A pause during the initial scan leads to the watcher at once.
    have paused : Reachable host start (start.commandScanning .initial .pause) := by
      refine .step .start (.main (.interrupted mode ?_ (fun _ => running))) trivial
      intro isShutdown
      cases isShutdown
    have named : (start.commandScanning .initial .pause).cfg.getPrimaryPair = some primary := by
      rw [← configured, ← inForce]
      rfl
    have listens := watches _ answer _ paused (.main (.watching rfl (fun other found => by
      rwa [Option.some.inj (found.symm.trans named)])))
    cases answer with
    | ok value => rfl
    | error error => simp [startWatching, named, fail, Receiving] at listens
  · rintro ⟨answered, timely⟩
    refine ⟨by simp [Receiving, start, mode], ?_, timers_eq_done.mpr timely⟩
    intro e answer e' run step
    have main : MainStep host e (.watching answer) e' := by
      cases step with
      | main step => exact step
      | worker alive step => cases step
      | dispatcher alive step => cases step
      | outside step => cases step
    cases main with
    | watching mode started =>
        have same := cfg_of_booting run (by rw [phase_of_mode mode]; rfl)
        rw [← same] at configured
        rw [answered answer (started primary configured)]
        simp [startWatching, configured, spawnDispatcher, Receiving]

-----------------------------------------------------------------------------------------
-- Engines that never fail
-----------------------------------------------------------------------------------------

/-- Some patterns are in force, and they compile. -/
def Served (host : Host) (e : SyncEngine) : Prop := ∃ ignore, ignoreOf host e.cfg = .ok ignore

theorem Served.configured (served : Served host e)
    : ∃ primary ignore,
        e.cfg.getPrimaryPair = some primary
        ∧ host.fromPatterns primary.ignorePatterns = .ok ignore := by
  obtain ⟨ignore, compiled⟩ := served
  unfold ignoreOf at compiled
  split at compiled
  · rename_i primary configured
    exact ⟨primary, ignore, configured, compiled⟩
  · cases compiled

@[simp] theorem failed_afterScan (e : SyncEngine) (site : ScanSite)
    : ¬ (e.afterScan site).mode.Failed := by
  cases site <;> exact id

theorem failed_leave (e : SyncEngine) (site : ScanSite) : ¬ (e.leave site).mode.Failed := by
  cases site <;> exact id

theorem failed_rescan {site : ScanSite} (served : Served host e)
    : ¬ (rescan host e site).mode.Failed := by
  obtain ⟨ignore, compiled⟩ := served
  simp only [rescan, compiled]
  exact id

theorem failed_scanned (e : SyncEngine) (site : ScanSite) (result : Except Error Unit)
    : ¬ (e.scanned site result).mode.Failed := by
  unfold scanned
  split
  · split <;> exact failed_afterScan _ _
  · split
    · split
      · exact id
      · exact failed_afterScan _ _
    · split
      · exact failed_leave _ _
      · exact failed_afterScan _ _

/-- A main task with patterns that compile fails only over a new configuration, or at the
start of its watcher.
-/
theorem MainStep.fails (step : MainStep host e label e') (served : Served host e)
    (failed : e'.mode.Failed)
    : (∃ cfg, label = .command (.applyConfig cfg)) ∨ ∃ error, label = .watching (.error error) := by
  cases step with
  | scan | flush | flushed | left | stopped | healthTick | reconnected | received =>
      first | exact absurd failed id | exact absurd failed (failed_leave _ _)
  | scanned => exact absurd failed (failed_scanned _ _ _)
  | @interrupted site rest cmd mode listens biased =>
      cases cmd with
      | pause | openSettings => exact absurd failed (failed_afterScan _ _)
      | shutdown => exact absurd failed (failed_leave _ _)
      | openHelp =>
          simp only [commandScanning] at failed
          split at failed
          · exact absurd failed (failed_afterScan _ _)
          · rw [mode] at failed
            exact absurd failed id
      | _ =>
          simp only [commandScanning, mode] at failed
          exact absurd failed id
  | @watching answer mode started =>
      obtain ⟨primary, ignore, configured, -⟩ := served.configured
      cases answer with
      | error error => exact .inr ⟨error, rfl⟩
      | ok value =>
          simp only [startWatching, configured] at failed
          exact absurd failed id
  | @paused cmd answers mode paused running possible =>
      cases cmd with
      | applyConfig cfg => exact .inl ⟨cfg, rfl⟩
      | resume =>
          simp only [commandPaused] at failed
          split at failed
          · exact absurd failed (failed_rescan served)
          · simp only [tell, mode] at failed
            exact absurd failed id
      | shutdown => exact absurd failed id
      | _ =>
          simp only [commandPaused, tell, mode] at failed
          exact absurd failed id
  | @command cmd answers mode resumed running possible =>
      cases cmd with
      | applyConfig cfg => exact .inl ⟨cfg, rfl⟩
      | forceScan =>
          simp only [commandRunning] at failed
          split at failed
          · rw [mode] at failed
            exact absurd failed id
          · exact absurd failed (failed_rescan served)
      | shutdown => exact absurd failed id
      | _ =>
          simp only [commandRunning, tell, mode] at failed
          exact absurd failed id
  | @health answer mode =>
      unfold checked at failed
      split at failed <;> split at failed <;> exact absurd failed id
  | rescanTick mode resumed running enabled =>
      unfold SyncEngine.rescanTick at failed
      split at failed
      · rw [mode] at failed
        exact absurd failed id
      · exact absurd failed (failed_rescan served)
  | spawned mode permit =>
      obtain ⟨primary, ignore, configured, -⟩ := served.configured
      simp only [spawn, configured] at failed
      exact absurd failed id

/-- Patterns that compile are in force, and in the hands of the workers to begin. -/
structure Sound (host : Host) (e : SyncEngine) : Prop where
  served : Served host e
  workers
    : ∀ worker ∈ e.workers,
        worker.stage = .spawned → ∃ ignore, host.fromPatterns worker.patterns = .ok ignore
  alive : ¬ e.mode.Failed

theorem failed_of_receiving (receiving : e.Receiving) : ¬ e.mode.Failed := by
  intro failed
  cases mode : e.mode with
  | ended ending => simp [Receiving, mode] at receiving
  | _ => simp [Mode.Failed, mode] at failed

/-- Every new configuration is taken over, and the first watcher starts. -/
def Configures (host : Host) : Discipline SyncEngine Label Unit := fun _ e label _ =>
  (∀ cfg,
    label = .command (.applyConfig cfg) → e.mode = .selecting → e.world.shutdown = false
    → ∃ primary, TakesOver host e cfg primary)
  ∧ ∀ error, label ≠ .watching (.error error)

theorem Sound.of_same (sound : Sound host e) (same : e.SameControl e')
    (workers : ∀ worker ∈ e'.workers, worker.stage = .spawned → worker ∈ e.workers)
    : Sound host e' := by
  refine ⟨?_, fun worker member waits => ?_, same.mode ▸ sound.alive⟩
  · rw [Served, same.cfg]
    exact sound.served
  · exact sound.workers worker (workers worker member waits) waits

theorem Sound.main (sound : Sound host e) (step : MainStep host e label e')
    (configures : Configures host () e label e')
    : Sound host e' := by
  obtain ⟨takes, watches⟩ := configures
  by_cases applies : ∃ new, label = .command (.applyConfig new)
  · obtain ⟨new, rfl⟩ := applies
    have fine := reconfigured_of_takesOver (takes new rfl) step
    refine ⟨fine.serves sound.served, ?_, failed_of_receiving fine.listens⟩
    rcases step.reloaded fine.listens with ⟨-, rfl⟩ | ⟨-, reloaded⟩
    · exact sound.workers
    · rw [reloaded.workers]
      exact sound.workers
  · obtain ⟨cfg, -, workers⟩ := step.employs (fun new same => applies ⟨new, same⟩)
    refine ⟨?_, fun worker member waits => ?_, fun failed => ?_⟩
    · rw [Served, cfg]
      exact sound.served
    · rcases workers worker member with earlier | ⟨-, primary, configured, patterns⟩
      · exact sound.workers worker earlier waits
      · obtain ⟨other, ignore, found, compiled⟩ := sound.served.configured
        rw [patterns, Option.some.inj (configured.symm.trans found)]
        exact ⟨ignore, compiled⟩
    · rcases step.fails sound.served failed with new | ⟨error, refused⟩
      · exact applies new
      · exact watches error refused

/-- A worker whose patterns compile does not panic. -/
theorem Sound.worker (sound : Sound host e) (step : WorkerStep host e label e')
    : Sound host e' := by
  by_cases panics : ∃ index, label = .panicked index
  · obtain ⟨index, rfl⟩ := panics
    cases step with
    | panicked found spawned running refused =>
        obtain ⟨ignore, compiled⟩ := sound.workers _ (List.mem_of_getElem? found) spawned
        cases compiled.symm.trans refused
  · exact sound.of_same (step.sameControl (fun index same => panics ⟨index, same⟩))
      (fun worker => step.spawned)

theorem Sound.step (sound : Sound host e) (step : Step host e label e')
    (configures : Configures host () e label e')
    : Sound host e' := by
  cases step with
  | main step => exact sound.main step configures
  | worker alive step => exact sound.worker step
  | dispatcher alive step =>
      exact sound.of_same step.control (fun worker member _ => step.workers ▸ member)
  | outside step => exact sound.of_same step.control (fun worker member _ => step.workers ▸ member)

theorem sound_launch {w : World} {dryRun : Bool}
    (served : ∃ ignore, ignoreOf host cfg = .ok ignore)
    : Sound host (launch host w cfg dryRun) := by
  have serves := served
  obtain ⟨ignore, compiled⟩ := serves
  unfold ignoreOf at compiled
  split at compiled
  · rename_i primary configured
    simp only [launch, configured, compiled]
    refine ⟨served, ?_, id⟩
    intro worker spawned
    exact absurd spawned List.not_mem_nil
  · cases compiled

/-- Such an engine never fails, in no run. -/
theorem never_fails {w : World} {dryRun : Bool}
    (served : ∃ ignore, ignoreOf host cfg = .ok ignore)
    (run : Runs host unwatched (Configures host) () (launch host w cfg dryRun) () e)
    : ¬ e.mode.Failed :=
  (run.invariant (fun _ => Sound host) (sound_launch served)
    (fun _ _ _ _ sound step configures => sound.step step configures)).alive

-----------------------------------------------------------------------------------------
-- New configurations
-----------------------------------------------------------------------------------------

end SyncEngine

open SyncEngine

/-- What it takes for a first configuration to be harmless. -/
theorem configured_iff {host : Host} {clock : Clock} {cwd : Path} {w : World}
    {settings : Settings} (answered : ∀ path, ∃ answer, host.watch path answer)
    : (applyUnconfigured host cwd settings w).Configured host clock cwd settings w
      ↔ ∃ primary,
          settings.getPrimaryPair = some primary
          ∧ ((∃ error, settings.validate cwd w.disk = .error error)
            ∨ (∃ ignore, host.fromPatterns primary.ignorePatterns = .ok ignore)
              ∧ (∀ answer, host.watch (cwd.resolve primary.localPath) answer → answer = .ok ())
              ∧ Timely clock settings) := by
  cases found : settings.getPrimaryPair with
  | none => simp [applyUnconfigured, found, EngineTask.Configured]
  | some primary =>
      have configured := settings.toAppConfig_primary cwd
      rw [found, Option.map_some] at configured
      cases checked : settings.validate cwd w.disk with
      | error error =>
          simp only [applyUnconfigured, found, checked, EngineTask.Configured]
          exact ⟨fun _ => ⟨primary, rfl, .inl ⟨error, rfl⟩⟩, fun _ => ⟨_, rfl⟩⟩
      | ok value =>
          simp only [applyUnconfigured, found, checked, EngineTask.Configured,
            Option.some.injEq, exists_eq_left', reduceCtorEq, exists_false, false_or]
          constructor
          · rintro ⟨⟨other, found', ⟨ignore, compiled⟩, -⟩, enters⟩
            rw [configured] at found'
            cases found'
            exact ⟨⟨ignore, compiled⟩, (entersLoop_launch configured compiled).mp enters⟩
          · rintro ⟨⟨ignore, compiled⟩, watches, timely⟩
            obtain ⟨answer, watched⟩ := answered (cwd.resolve primary.localPath)
            refine ⟨⟨_, configured, ⟨ignore, compiled⟩, fun _ => ?_⟩,
              (entersLoop_launch configured compiled).mpr ⟨watches, timely⟩⟩
            exact watches answer watched ▸ watched

/-- No new configuration ends the engine task, and one that cannot be applied leaves everything
in force, exactly when in the main loop it is taken over, and while none is in force there is an
active pair and what passes the validation reaches the main loop. An engine that takes over all
it receives never fails later. `Watcher::start` always answers.
-/
theorem reconfigures_iff (host : Host) (clock : Clock) (cwd : Path)
    (answered : ∀ path, ∃ answer, host.watch path answer)
    : (∀ e cfg,
          (∀ e', Step host e (.command (.applyConfig cfg)) e' → Reconfigured host cfg e e')
          ↔ (e.mode = .selecting → e.world.shutdown = false
              → ∃ primary, TakesOver host e cfg primary))
      ∧ (∀ w settings,
          w.shutdown = false
          → ((applyUnconfigured host cwd settings w).Configured host clock cwd settings w
            ↔ ∃ primary,
                settings.getPrimaryPair = some primary
                ∧ ((∃ error, settings.validate cwd w.disk = .error error)
                  ∨ (∃ ignore, host.fromPatterns primary.ignorePatterns = .ok ignore)
                    ∧ (∀ answer, host.watch (cwd.resolve primary.localPath) answer
                      → answer = .ok ())
                    ∧ Timely clock settings)))
      ∧ ∀ w cfg dryRun e,
          (∃ ignore, ignoreOf host cfg = .ok ignore)
          → Runs host unwatched (Configures host) () (launch host w cfg dryRun) () e
          → ¬ e.mode.Failed := by
  refine ⟨fun e cfg => ⟨?_, ?_⟩, fun w settings _ => configured_iff answered,
    fun _ _ _ _ served run => never_fails served run⟩
  · intro fine mode running
    exact takesOver_of_reconfigured answered mode running fine
  · intro takes e' step
    exact reconfigured_of_takesOver takes step.main_of_command

/-- A started engine moves to another directory. -/
theorem moves_to_other_root
    : let host : Host := .plain (fun _ => False)
      let documents : AppConfig := { syncPairs := [{ localPath := [.utf8 "documents"] }] }
      ∀ e',
        Step host (started (fun _ => False) { disk := emptyDisk })
            (.command (.applyConfig documents)) e'
        → Reconfigured host documents (started (fun _ => False) { disk := emptyDisk }) e' := by
  intro host documents
  refine ((reconfigures_iff host ⟨1000, 2 ^ 63 - 1, 0, 0⟩ [] (fun _ => ⟨.ok (), rfl⟩)).1 _ _).mpr ?_
  intro _ _
  exact ⟨_, rfl, fun _ => ⟨id, fun answer watched => watched⟩, .inl ⟨_, rfl⟩⟩

/-- A started engine receives a configuration without an active pair, and returns. -/
theorem pairless_returns
    : ¬ ∀ e e',
        Reachable (.plain (fun _ => False))
          (launch (.plain (fun _ => False)) { disk := emptyDisk } backupConfig false) e
        → Step (.plain (fun _ => False)) e (.command (.applyConfig {})) e'
        → Reconfigured (.plain (fun _ => False)) {} e e' := by
  intro reconfigured
  have run := @runs_started Unit (fun _ => False) unwatched anyStep () { disk := emptyDisk } rfl rfl
    id (fun _ _ _ _ _ => rfl) (fun _ _ _ _ => rfl) (fun _ _ _ _ _ => trivial)
    (fun _ _ _ _ => trivial)
  have received := Step.main (@MainStep.command (.plain (fun _ => False))
    (started (fun _ => False) { disk := emptyDisk }) (.applyConfig {}) {} rfl rfl rfl
    (by rintro _ primary ⟨⟩ ⟨⟩))
  exact (reconfigured _ _ run received).listens

end SyncGDrive
