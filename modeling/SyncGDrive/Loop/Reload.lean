import SyncGDrive.Loop.Plain

/-! Hot reload: which configuration the scans and the workers use. The configuration in force
and the context of the scans are separate copies, and only the first one is ever replaced.
-/

namespace SyncGDrive

open Program

-----------------------------------------------------------------------------------------
-- What a scan reads of its configuration
-----------------------------------------------------------------------------------------

/-- The configurations agree in what a scan reads of them besides the patterns. -/
structure SameScans (cfg cfg' : AppConfig) : Prop where
  pair
    : cfg.getPrimaryPair.map (fun pair => (pair.localPath, pair.remoteFolderId))
      = cfg'.getPrimaryPair.map (fun pair => (pair.localPath, pair.remoteFolderId))
  retries : cfg.retry = cfg'.retry

theorem SameScans.refl (cfg : AppConfig) : SameScans cfg cfg := ⟨rfl, rfl⟩

/-- The control points at which a scan is awaited. -/
def Mode.Scanning (mode : Mode) : Prop := ∃ site rest, mode = .scanning site rest

namespace SyncEngine

/-- The step starts a scan, provided that the patterns compile. -/
def StartsScan (e : SyncEngine) : Label → Prop
  | .command .resume =>
      e.mode = .selecting ∧ e.paused = true ∧ e.rescanOnResume = true ∧ e.world.offline = false
  | .command .forceScan => e.mode = .selecting ∧ e.paused = false ∧ e.world.offline = false
  | .command (.applyConfig cfg) =>
      e.mode = .selecting ∧ e.paused = false ∧ e.changesRoot cfg = true ∧ e.world.offline = false
  | .rescanTick => e.world.offline = false
  | _ => False

variable {host : Host} {e e' : SyncEngine} {label : Label} {site : ScanSite} {rest : Eff Unit}

theorem afterScan_rests (e : SyncEngine) (site : ScanSite)
    : ¬ (e.afterScan site).mode.Scanning := by
  rintro ⟨other, rest, mode⟩
  cases site <;> cases mode

theorem leave_rests (e : SyncEngine) (site : ScanSite) : ¬ (e.leave site).mode.Scanning := by
  rintro ⟨other, rest, mode⟩
  cases site <;> cases mode

/-- What a rescan awaits, if it awaits anything. -/
theorem rescan_awaits {started : ScanSite}
    (mode : (e.rescan host started).mode = .scanning site rest)
    : ∃ ignore, ignoreOf host e.cfg = .ok ignore ∧ rest = scan e.ctx ignore := by
  unfold rescan at mode
  split at mode
  · rename_i ignore compiled
    cases mode
    exact ⟨ignore, compiled, rfl⟩
  · cases mode

/-- A reload leaves the phase, the context of the scans, the workers and the connectivity alone. -/
theorem reload_keeps (e : SyncEngine) (answers : ReloadAnswers) (missing : String)
    (cfg : AppConfig)
    : (e.reload answers missing cfg).1.mode = e.mode
      ∧ (e.reload answers missing cfg).1.ctx = e.ctx
      ∧ (e.reload answers missing cfg).1.workers = e.workers
      ∧ (e.reload answers missing cfg).1.world.offline = e.world.offline := by
  unfold reload
  split
  · exact ⟨rfl, rfl, rfl, rfl⟩
  · split
    · exact ⟨rfl, rfl, rfl, rfl⟩
    · simp only [changeRoot]
      split
      · exact ⟨rfl, rfl, rfl, rfl⟩
      · split
        · exact ⟨rfl, rfl, rfl, rfl⟩
        · split <;> exact ⟨rfl, rfl, rfl, rfl⟩

/-- A reload that succeeds puts the new configuration in force. -/
theorem reload_applies {answers : ReloadAnswers} {missing : String} {cfg : AppConfig}
    {changed : Bool} (reloads : e.reload answers missing cfg = (e', .ok changed))
    : e'.cfg = cfg ∧ changed = e.changesRoot cfg ∧ cfg.getPrimaryPair ≠ none := by
  unfold reload at reloads
  split at reloads
  · cases reloads
  · rename_i primary configured
    split at reloads
    · rename_i same
      cases reloads
      exact ⟨rfl, by simp [changesRoot, configured, same], by simp [configured]⟩
    · rename_i other
      simp only [changeRoot] at reloads
      split at reloads
      · cases reloads
      · split at reloads
        · cases reloads
        · split at reloads
          · cases reloads
          · cases reloads
            exact ⟨rfl, by simp [changesRoot, configured, other], by simp [configured]⟩

/-- What a step of the engine awaits is a scan with the patterns of the configuration in
force, in the context of the scans.
-/
def Awaits (host : Host) (e e' : SyncEngine) (rest : Eff Unit) : Prop :=
  ∃ ignore, ignoreOf host e'.cfg = .ok ignore ∧ rest = scan e.ctx ignore

theorem awaits_rescan {started : ScanSite}
    (mode : (e.rescan host started).mode = .scanning site rest)
    : Awaits host e (e.rescan host started) rest := by
  obtain ⟨ignore, compiled, awaited⟩ := rescan_awaits mode
  refine ⟨ignore, ?_, awaited⟩
  rw [(sameStores_rescan e started).cfg]
  exact compiled

/-- The commands of a paused engine that start a scan. -/
theorem commandPaused_starts {answers : ReloadAnswers} {cmd : EngineCommand}
    (here : e.mode = .selecting) (paused : e.paused = true)
    (mode : (e.commandPaused host answers cmd).mode = .scanning site rest)
    : e.StartsScan (.command cmd) ∧ Awaits host e (e.commandPaused host answers cmd) rest := by
  cases cmd with
  | resume =>
      simp only [commandPaused] at mode ⊢
      split at mode
      · rename_i owed
        rw [if_pos owed]
        simp only [Bool.and_eq_true, Bool.not_eq_true'] at owed
        exact ⟨⟨here, paused, owed.1, owed.2⟩, awaits_rescan mode⟩
      · exact absurd (here.symm.trans mode) (by rintro ⟨⟩)
  | applyConfig cfg =>
      have kept := (reload_keeps e answers "Aucun dossier n'est configuré!" cfg).1
      simp only [commandPaused] at mode
      split at mode
      · cases mode
      · rename_i reloads
        rw [reloads] at kept
        exact absurd ((kept.trans here).symm.trans mode) (by rintro ⟨⟩)
  | shutdown => cases mode
  | _ => exact absurd (here.symm.trans mode) (by rintro ⟨⟩)

/-- The commands of a running engine that start a scan. -/
theorem commandRunning_starts {answers : ReloadAnswers} {cmd : EngineCommand}
    (here : e.mode = .selecting) (resumed : e.paused = false)
    (mode : (e.commandRunning host answers cmd).mode = .scanning site rest)
    : e.StartsScan (.command cmd) ∧ Awaits host e (e.commandRunning host answers cmd) rest := by
  cases cmd with
  | forceScan =>
      simp only [commandRunning] at mode ⊢
      split at mode
      · exact absurd (here.symm.trans mode) (by rintro ⟨⟩)
      · rename_i online
        rw [if_neg online]
        exact ⟨⟨here, resumed, by simpa using online⟩, awaits_rescan mode⟩
  | applyConfig cfg =>
      have kept := reload_keeps e answers "Pas de dossier" cfg
      simp only [commandRunning] at mode ⊢
      split at mode
      · cases mode
      · rename_i reached changed reloads
        rw [reloads] at kept
        obtain ⟨phase, context, -, offline⟩ := kept
        split at mode
        · rename_i awaited
          rw [if_pos awaited]
          simp only [Bool.and_eq_true, Bool.not_eq_true'] at awaited
          obtain ⟨-, rfl, -⟩ := reload_applies reloads
          split at mode
          · rename_i ignore compiled
            cases mode
            refine ⟨⟨here, resumed, awaited.1, offline.symm.trans awaited.2⟩, ignore, compiled, ?_⟩
            exact congrArg (scan · ignore) context
          · cases mode
        · exact absurd ((phase.trans here).symm.trans mode) (by rintro ⟨⟩)
  | shutdown => cases mode
  | _ => exact absurd (here.symm.trans mode) (by rintro ⟨⟩)

/-- A step after which a scan is awaited that was not before. -/
theorem MainStep.starts (step : MainStep host e label e') (idle : ¬ e.mode.Scanning)
    (mode : e'.mode = .scanning site rest)
    : e.StartsScan label ∧ Awaits host e e' rest := by
  cases step with
  | scan busy | scanned busy | interrupted busy | left busy => exact absurd ⟨_, _, busy⟩ idle
  | watching =>
      unfold startWatching at mode
      split at mode
      · cases mode
      · split at mode <;> cases mode
  | paused here paused running possible => exact commandPaused_starts here paused mode
  | command here resumed running possible => exact commandRunning_starts here resumed mode
  | health =>
      unfold checked at mode
      split at mode <;> split at mode <;> cases mode
  | rescanTick here resumed running enabled =>
      unfold SyncEngine.rescanTick at mode ⊢
      split at mode
      · exact absurd (here.symm.trans mode) (by rintro ⟨⟩)
      · rename_i online
        rw [if_neg online]
        exact ⟨Bool.eq_false_iff.mpr online, awaits_rescan mode⟩
  | spawned =>
      unfold spawn at mode
      split at mode <;> cases mode
  | _ => cases mode

/-- Only the main task turns to a scan. -/
theorem Step.starts (step : Step host e label e') (idle : ¬ e.mode.Scanning)
    (mode : e'.mode = .scanning site rest)
    : e.StartsScan label ∧ Awaits host e e' rest := by
  rcases step.control with step | same | ended
  · exact step.starts idle mode
  · exact absurd ⟨_, _, same.mode.symm.trans mode⟩ idle
  · exact absurd (ended.symm.trans mode) (by rintro ⟨⟩)

-----------------------------------------------------------------------------------------
-- The configuration that counts
-----------------------------------------------------------------------------------------

/-- The configuration received last. -/
def received : Watch SyncEngine Label AppConfig := fun cfg _ label _ =>
  match label with
  | .command (.applyConfig cfg) => cfg
  | _ => cfg

/-- A new configuration comes while no scan is awaited and no worker is about to begin, and a
scan starts only while the context of the scans has the pair and the retry settings of the
configuration received last.
-/
structure ReloadsSafely (host : Host) (cfg : AppConfig) (e : SyncEngine) (label : Label)
    (e' : SyncEngine)
    : Prop where
  listens : ∀ new, label = .command (.applyConfig new) → e.mode.Scanning → new = e.cfg
  begun
    : ∀ new, label = .command (.applyConfig new)
        → ∀ worker ∈ e.workers, worker.stage = .spawned → worker.ctx.cfg = new
  scans
    : e.StartsScan label → (∃ ignore, ignoreOf host (received cfg e label e') = .ok ignore)
        → SameScans e.ctx.cfg (received cfg e label e')

/-- What holds between the steps of such a run: the last configuration is in force, and the
workers that are about to begin have it.
-/
structure UpToDate (cfg : AppConfig) (e : SyncEngine) : Prop where
  inForce : e.Receiving → e.cfg = cfg
  workers
    : ∀ worker ∈ e.workers, worker.stage = .spawned
        → worker.ctx = ⟨cfg, e.ctx.dryRun⟩
          ∧ ∃ primary, cfg.getPrimaryPair = some primary ∧ worker.patterns = primary.ignorePatterns

/-- A new configuration is put in force, if it is not discarded. -/
theorem MainStep.applies {new : AppConfig}
    (step : MainStep host e (.command (.applyConfig new)) e')
    : e.mode.Scanning ∧ e' = e
      ∨ (e'.Receiving → e'.cfg = new ∧ new.getPrimaryPair ≠ none)
        ∧ e'.workers = e.workers ∧ e'.ctx = e.ctx := by
  cases step with
  | interrupted mode listens biased => exact .inl ⟨⟨_, _, mode⟩, rfl⟩
  | @paused cmd answers mode paused running possible =>
      obtain ⟨-, context, workers, -⟩ := reload_keeps e answers "Aucun dossier n'est configuré!" new
      refine .inr ?_
      simp only [commandPaused]
      split
      · rename_i reloads
        rw [reloads] at context workers
        exact ⟨fun receiving => absurd receiving id, workers, context⟩
      · rename_i reloads
        rw [reloads] at context workers
        obtain ⟨inForce, -, configured⟩ := reload_applies reloads
        exact ⟨fun _ => ⟨inForce, configured⟩, workers, context⟩
  | @command cmd answers mode resumed running possible =>
      obtain ⟨-, context, workers, -⟩ := reload_keeps e answers "Pas de dossier" new
      refine .inr ?_
      simp only [commandRunning]
      split
      · rename_i reloads
        rw [reloads] at context workers
        exact ⟨fun receiving => absurd receiving id, workers, context⟩
      · rename_i reloads
        rw [reloads] at context workers
        obtain ⟨inForce, -, configured⟩ := reload_applies reloads
        split
        · split
          · exact ⟨fun _ => ⟨inForce, configured⟩, workers, context⟩
          · exact ⟨fun receiving => absurd receiving id, workers, context⟩
        · exact ⟨fun _ => ⟨inForce, configured⟩, workers, context⟩

/-- Nothing is put in force under any other label, and a new worker takes what is in force. -/
theorem MainStep.employs (step : MainStep host e label e')
    (other : ∀ new, label ≠ .command (.applyConfig new))
    : e'.cfg = e.cfg ∧ e'.ctx = e.ctx
      ∧ ∀ worker ∈ e'.workers,
          worker ∈ e.workers
          ∨ worker.ctx = ⟨e.cfg, e.ctx.dryRun⟩
            ∧ ∃ primary,
                e.cfg.getPrimaryPair = some primary ∧ worker.patterns = primary.ignorePatterns := by
  cases step.touches with
  | none same => exact ⟨same.cfg, same.ctx, fun worker member => .inl (same.workers ▸ member)⟩
  | worked awaits served =>
      rcases awaits with ⟨site, next, -, rfl⟩ | ⟨next, -, rfl⟩ <;>
        exact ⟨rfl, rfl, fun worker => .inl⟩
  | reloaded => exact absurd rfl (other _)
  | watching | received | unconfigured => exact ⟨rfl, rfl, fun worker => .inl⟩
  | spawned mode configured =>
      refine ⟨rfl, rfl, ?_⟩
      intro worker member
      rcases List.mem_append.mp member with earlier | last
      · exact .inl earlier
      · rw [List.mem_singleton.mp last]
        exact .inr ⟨rfl, _, configured, rfl⟩

/-- A worker that is still to begin was so before. -/
theorem WorkerStep.spawned (step : WorkerStep host e label e') {worker : Worker}
    (member : worker ∈ e'.workers) (waits : worker.stage = .spawned)
    : worker ∈ e.workers := by
  have retires {e : SyncEngine} {index : Nat} (member : worker ∈ (e.retire index).workers)
      : worker ∈ e.workers := by
    simp only [retire] at member
    split at member <;> exact List.mem_of_mem_eraseIdx member
  cases step with
  | spared => exact retires member
  | panicked => exact member
  | begun | worked =>
      rcases List.mem_or_eq_of_mem_set member with earlier | rfl
      · exact earlier
      · cases waits
  | @handled index before result found handling =>
      cases result with
      | ok value => exact retires member
      | error error =>
          simp only [SyncEngine.handled] at member
          split at member
          · have earlier := retires member
            exact earlier
          · exact retires member

theorem DispatcherStep.workers (step : DispatcherStep host e label e')
    : e'.workers = e.workers := by
  cases step <;> rfl

theorem OutsideStep.workers (step : OutsideStep e label e') : e'.workers = e.workers := by
  cases step with
  | published =>
      simp only [publish]
      split <;> rfl
  | _ => rfl

/-- What the steps that are not of the main task leave alone. -/
theorem Step.others (step : Step host e label e')
    : MainStep host e label e'
      ∨ e'.ctx = e.ctx ∧ (e'.Receiving → e.Receiving ∧ e'.cfg = e.cfg)
        ∧ ∀ worker ∈ e'.workers, worker.stage = .spawned → worker ∈ e.workers := by
  have keeps (same : e.SameControl e') : e'.Receiving → e.Receiving ∧ e'.cfg = e.cfg := by
    intro receiving
    rw [Receiving, same.mode] at receiving
    exact ⟨receiving, same.cfg⟩
  cases step with
  | main step => exact .inl step
  | worker alive step =>
      rcases step.control with same | rfl
      · exact .inr ⟨same.ctx, keeps same, fun worker => step.spawned⟩
      · exact .inr ⟨rfl, fun receiving => absurd receiving id, fun worker => step.spawned⟩
  | dispatcher alive step =>
      exact .inr
        ⟨step.control.ctx, keeps step.control, fun worker member _ => step.workers ▸ member⟩
  | outside step =>
      exact .inr
        ⟨step.control.ctx, keeps step.control, fun worker member _ => step.workers ▸ member⟩

/-- The steps that are not of the main task receive no configuration. -/
theorem Step.main_of_command {cmd : EngineCommand} (step : Step host e (.command cmd) e')
    : MainStep host e (.command cmd) e' := by
  cases step with
  | main step => exact step
  | worker alive step => cases step
  | dispatcher alive step => cases step
  | outside step => cases step

/-- A running engine has a pair to save. -/
def Configured (e : SyncEngine) : Prop := e.Receiving → e.cfg.getPrimaryPair ≠ none

theorem Configured.step (configured : Configured e) (step : Step host e label e')
    : Configured e' := by
  intro receiving
  by_cases applies : ∃ new, label = .command (.applyConfig new)
  · obtain ⟨new, rfl⟩ := applies
    rcases step.main_of_command.applies with ⟨scanning, rfl⟩ | ⟨inForce, -, -⟩
    · exact configured receiving
    · rw [(inForce receiving).1]
      exact (inForce receiving).2
  · rcases step.others with step | ⟨-, others, -⟩
    · rw [(step.employs (fun new same => applies ⟨new, same⟩)).1]
      exact configured step.receiving
    · rw [(others receiving).2]
      exact configured (others receiving).1

theorem configured_launch (host : Host) (w : World) (cfg : AppConfig) (dryRun : Bool)
    : Configured (launch host w cfg dryRun) := by
  unfold Configured
  simp only [launch]
  split
  · exact fun receiving => absurd receiving id
  · rename_i configured
    split
    · exact fun receiving => absurd receiving id
    · intro _ none
      exact absurd (configured.symm.trans none) (by simp)

/-- A step of the discipline keeps the engine up to date. -/
theorem UpToDate.step {cfg : AppConfig} (upToDate : UpToDate cfg e)
    (step : Step host e label e') (safe : ReloadsSafely host cfg e label e')
    : UpToDate (received cfg e label e') e' ∧ e'.ctx = e.ctx := by
  by_cases applies : ∃ new, label = .command (.applyConfig new)
  · obtain ⟨new, rfl⟩ := applies
    -- the workers that are about to begin have the new configuration already
    have waiting (worker : Worker) (member : worker ∈ e.workers) (waits : worker.stage = .spawned)
        : worker.ctx = ⟨new, e.ctx.dryRun⟩
          ∧ ∃ primary,
              new.getPrimaryPair = some primary
              ∧ worker.patterns = primary.ignorePatterns := by
      obtain ⟨context, primary, configured, patterns⟩ := upToDate.workers worker member waits
      have same : cfg = new := by
        rw [← safe.begun new rfl worker member waits, context]
      subst same
      exact ⟨context, primary, configured, patterns⟩
    rcases step.main_of_command.applies with ⟨scanning, rfl⟩ | ⟨inForce, workers, context⟩
    · exact ⟨⟨fun _ => (safe.listens new rfl scanning).symm, waiting⟩, rfl⟩
    · refine ⟨⟨fun receiving => (inForce receiving).1, ?_⟩, context⟩
      rw [workers, context]
      exact waiting
  · have unseen : received cfg e label e' = cfg := by
      unfold received
      split
      · exact absurd ⟨_, rfl⟩ applies
      · rfl
    have other : ∀ new, label ≠ .command (.applyConfig new) := fun new same => applies ⟨new, same⟩
    rw [unseen]
    rcases step.others with step | ⟨context, receiving, workers⟩
    · obtain ⟨inForce, context, workers⟩ := step.employs other
      have current := upToDate.inForce step.receiving
      refine ⟨⟨fun _ => inForce.trans current, ?_⟩, context⟩
      intro worker member waits
      rw [context]
      rcases workers worker member with earlier | employed
      · exact upToDate.workers worker earlier waits
      · rw [current] at employed
        exact employed
    · refine ⟨⟨?_, ?_⟩, context⟩
      · intro still
        obtain ⟨before, same⟩ := receiving still
        exact same.trans (upToDate.inForce before)
      · intro worker member waits
        rw [context]
        exact upToDate.workers worker (workers worker member waits) waits

end SyncEngine

-----------------------------------------------------------------------------------------
-- A configuration that the scans ignore
-----------------------------------------------------------------------------------------

/-- The same directory, saved to another remote folder. -/
def movedConfig : AppConfig := { syncPairs := [{ backupPair with remoteFolderId := "other" }] }

/-- Another directory, saved to the same remote folder. -/
def relocatedConfig : AppConfig :=
  { syncPairs := [{ backupPair with localPath := [.utf8 "elsewhere"] }] }

namespace SyncEngine

end SyncEngine

end SyncGDrive
