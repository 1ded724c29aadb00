import SyncGDrive.Loop.Plain

/-! What the tray shows: the last status that was sent, and the command it offers on it. -/

namespace SyncGDrive

open Program

-----------------------------------------------------------------------------------------
-- Statuses
-----------------------------------------------------------------------------------------

/-- The statuses of a suspended engine. -/
def EngineStatus.suspended : EngineStatus → Bool
  | .paused | .settings | .help => true
  | _ => false

/-- The statuses of a scan or a transfer, as the menu of the tray has them. -/
def EngineStatus.isActive : EngineStatus → Bool
  | .scanProgress .. | .syncProgress _ | .syncing _ => true
  | _ => false

/-- The statuses on which the menu offers to resume. -/
def EngineStatus.isPaused : EngineStatus → Bool
  | .paused | .settings => true
  | _ => false

/-- The command that the menu of the tray offers. -/
def EngineStatus.offered (status : EngineStatus) : EngineCommand :=
  if status.isPaused then .resume else if status.isActive then .pause else .forceScan

/-- The statuses that an operation sends. -/
def Op.statuses : Op → List EngineStatus
  | .report (.status status) => [status]
  | _ => []

/-- Only a report sends a status. -/
theorem Environment.sem_statuses {env : Environment} {op : Op} {w after : World}
    {answer : op.Answer} (served : env.sem op w answer after)
    : after.statuses = w.statuses ++ op.statuses := by
  cases op with
  | report report =>
      have stepped : after = w.report report := served
      subst stepped
      cases report <;> simp [World.report, Op.statuses]
  | provider call =>
      obtain ⟨remote, -, rfl⟩ := served
      simp [Op.statuses]
  | renameRow source target =>
      simp only [Environment.sem] at served
      split at served <;> rcases served with ⟨-, rfl⟩ | ⟨-, -, rfl⟩ <;> simp [Op.statuses]
  | allPaths =>
      obtain ⟨paths, -, ⟨-, rfl⟩ | ⟨-, -, rfl⟩⟩ := served <;> simp [Op.statuses]
  | isCancelled | sleep _ =>
      obtain ⟨rfl | ⟨-, rfl⟩, -⟩ := served <;> simp [Op.statuses]
  | get _ | upsert _ | deleteRow _ | getOfflineTasks | removeOfflineTask _
  | pushOfflineTask _ _ _ | send _ =>
      rcases served with ⟨-, rfl⟩ | ⟨-, -, rfl⟩ <;> simp [Op.statuses]
  | walkDir _ _ | lookup _ | isOffline =>
      obtain ⟨-, rfl⟩ := served
      simp [Op.statuses]
  | metadata _ | md5 _ =>
      obtain ⟨rfl, -⟩ := served
      simp [Op.statuses]
  | insert _ _ _ | removeCascades _ =>
      have stepped : after = _ := served
      subst stepped
      simp [Op.statuses]

/-- Workers, flushes and dispatchers send no status. -/
theorem Op.statuses_quiet {op : Op} (quiet : op.OfWorker ∨ op.OfFlush ∨ op.OfDispatcher)
    : op.statuses = [] := by
  rcases quiet with uses | uses | uses <;> cases uses <;> rfl

/-- A scan tells how far it is, never that the engine is suspended. -/
theorem Op.statuses_scan {op : Op} (uses : op.OfScan)
    : ∀ status ∈ op.statuses, status.suspended = false := by
  cases uses with
  | looks looks => cases looks <;> simp [Op.statuses, EngineStatus.suspended]
  | _ => simp [Op.statuses]

namespace SyncEngine

-----------------------------------------------------------------------------------------
-- What is shown
-----------------------------------------------------------------------------------------

/-- The last status sent; the program sends `Starting(0)` before the engine runs. -/
def shown (e : SyncEngine) : EngineStatus := e.world.statuses.getLast?.getD (.starting 0)

/-- While the engine runs, a suspended engine is shown exactly when it is paused. -/
def Reflects (e : SyncEngine) : Prop :=
  e.control.phase ≠ .ended → e.shown.suspended = e.paused

/-- The engine acts on a command at the head of its loop. -/
def ActsOn (host : Host) (e : SyncEngine) (cmd : EngineCommand) : Prop :=
  ∀ answers,
    (if e.paused then e.commandPaused host answers cmd else e.commandRunning host answers cmd) ≠ e

/-- While paused no worker fails or is the last to end, and there is no progress to publish;
the scan after a resume or a change of root is not interrupted.
-/
def KeepsQuiet : Discipline SyncEngine Label Unit := fun _ e label _ =>
  match label with
  | .handled _ result =>
      e.paused = true
      → e.workers.length ≠ 1
        ∧ ∀ error, result = .error error → isShutdownErr error = true ∨ e.world.shutdown = true
  | .published =>
      e.paused = true
      → ¬ (0 < e.world.tracker.totalFiles
          ∧ e.world.tracker.doneFiles < e.world.tracker.totalFiles)
  | .command cmd =>
      ∀ site,
        e.control.phase = .scanning site → site = .resumed ∨ site = .reloaded
        → site.interruptedBy cmd = false
  | _ => True

variable {host : Host} {e e' : SyncEngine} {label : Label}

@[simp] theorem shown_tell (e : SyncEngine) (status : EngineStatus)
    : (e.tell status).shown = status := by
  simp [shown, tell, World.report]

/-- Statuses of a running engine keep showing one. -/
theorem shown_append {sent : List EngineStatus}
    (more : e'.world.statuses = e.world.statuses ++ sent)
    (running : ∀ status ∈ sent, status.suspended = false) (here : e.shown.suspended = false)
    : e'.shown.suspended = false := by
  unfold shown
  rw [more]
  cases last : sent.getLast? with
  | none =>
      rw [List.getLast?_eq_none_iff.mp last, List.append_nil]
      exact here
  | some status =>
      simp only [List.getLast?_append, last, Option.some_or, Option.getD_some]
      exact running status (List.mem_of_getLast? last)

-----------------------------------------------------------------------------------------
-- Steps of the main task
-----------------------------------------------------------------------------------------

/-- After a scan of an engine that is not paused nothing shows it suspended. -/
theorem shown_afterScan (site : ScanSite) (resumed : e.paused = false)
    (here : e.shown.suspended = false)
    : (e.afterScan site).shown.suspended = (e.afterScan site).paused := by
  cases site with
  | initial =>
      simp only [afterScan]
      split
      · exact (congrArg _ (shown_tell e .idle)).trans resumed.symm
      · exact here.trans resumed.symm
  | resumed | reloaded => exact (congrArg _ (shown_tell e .idle)).trans resumed.symm
  | forced | periodic => exact here.trans resumed.symm

theorem shown_scanned {site : ScanSite} (result : Except Error Unit) (resumed : e.paused = false)
    (here : e.shown.suspended = false)
    : (e.scanned site result).Reflects := by
  cases result with
  | ok value =>
      intro _
      simp only [scanned]
      split
      · exact shown_afterScan site resumed (congrArg _ (shown_tell e .idle))
      · exact shown_afterScan site resumed here
  | error error =>
      simp only [scanned]
      split
      · split
        · exact fun running => absurd rfl running
        · intro _
          exact shown_afterScan _ resumed (congrArg _ (shown_tell _ _))
      · split
        · exact fun running => absurd (phase_leave _ _) running
        · intro _
          exact shown_afterScan _ resumed (congrArg _ (shown_tell _ _))

theorem shown_commandScanning {site : ScanSite} {cmd : EngineCommand} (resumed : e.paused = false)
    (here : e.shown.suspended = false)
    (fine : site = .resumed ∨ site = .reloaded → site.interruptedBy cmd = false)
    : (e.commandScanning site cmd).Reflects := by
  have interrupts (status : EngineStatus) (suspended : status.suspended = true)
      (asked : site.interruptedBy cmd = true) : (e.interrupt site status).Reflects := by
    intro _
    have shows : (tell { e with paused := true, rescanOnResume := true } status).shown = status :=
      shown_tell _ _
    cases site with
    | initial | forced | periodic => exact (congrArg _ shows).trans suspended
    | resumed => rw [fine (.inl rfl)] at asked; cases asked
    | reloaded => rw [fine (.inr rfl)] at asked; cases asked
  have stays : e.Reflects := fun _ => here.trans resumed.symm
  cases cmd with
  | pause | openSettings => exact interrupts _ rfl rfl
  | openHelp =>
      simp only [commandScanning]
      split
      · exact interrupts _ rfl (by simpa [ScanSite.interruptedBy] using ‹_›)
      · exact stays
  | shutdown => exact fun running => absurd (phase_leave _ _) running
  | forceScan | applyConfig _ | resume => exact stays

/-- A scan that starts is told, and so is one that cannot. -/
theorem shown_rescan (site : ScanSite) (resumed : e.paused = false)
    : (e.rescan host site).Reflects := by
  intro running
  unfold rescan at running ⊢
  split
  · exact (congrArg _ (shown_tell _ _)).trans resumed.symm
  · rename_i refused
    rw [refused] at running
    exact absurd rfl running

/-- A reload sends no status. -/
theorem statuses_reload (e : SyncEngine) (answers : ReloadAnswers) (missing : String)
    (cfg : AppConfig)
    : (e.reload answers missing cfg).1.world.statuses = e.world.statuses := by
  unfold reload
  split
  · rfl
  · split
    · rfl
    · simp only [changeRoot]
      split
      · rfl
      · split
        · rfl
        · split <;> rfl

theorem shown_commandPaused {answers : ReloadAnswers} {cmd : EngineCommand}
    (paused : e.paused = true) (here : e.shown.suspended = true)
    : (e.commandPaused host answers cmd).Reflects := by
  have stays : e.Reflects := fun _ => here.trans paused.symm
  cases cmd with
  | resume =>
      simp only [commandPaused]
      split
      · exact shown_rescan .resumed rfl
      · exact fun _ => congrArg _ (shown_tell _ _)
  | applyConfig cfg =>
      have statuses := statuses_reload e answers "Aucun dossier n'est configuré!" cfg
      have control := control_reload e answers "Aucun dossier n'est configuré!" cfg
      simp only [commandPaused]
      split
      · exact fun running => absurd rfl running
      · rename_i reached _ reloads
        rw [reloads] at statuses control
        have same : reached.shown = e.shown := by
          simp only [shown, show reached.world.statuses = e.world.statuses from statuses]
        have still : reached.paused = e.paused := congrArg Control.paused control
        exact fun _ => (congrArg _ same).trans (here.trans (still.trans paused).symm)
  | shutdown => exact fun running => absurd rfl running
  | openSettings | openHelp => exact fun _ => (congrArg _ (shown_tell e _)).trans paused.symm
  | pause | forceScan => exact stays

theorem shown_commandRunning {answers : ReloadAnswers} {cmd : EngineCommand}
    (resumed : e.paused = false) (here : e.shown.suspended = false)
    : (e.commandRunning host answers cmd).Reflects := by
  have stays : e.Reflects := fun _ => here.trans resumed.symm
  cases cmd with
  | forceScan =>
      simp only [commandRunning]
      split
      · exact stays
      · exact shown_rescan .forced resumed
  | applyConfig cfg =>
      have control := control_reload e answers "Pas de dossier" cfg
      simp only [commandRunning]
      split
      · exact fun running => absurd rfl running
      · rename_i reached _ reloads
        rw [reloads] at control
        have still : reached.paused = e.paused := congrArg Control.paused control
        split
        · split
          · exact fun _ => (congrArg _ (shown_tell _ _)).trans (still.trans resumed).symm
          · exact fun running => absurd rfl running
        · exact fun _ => (congrArg _ (shown_tell _ _)).trans (still.trans resumed).symm
  | shutdown => exact fun running => absurd rfl running
  | pause | openHelp | openSettings => exact fun _ => congrArg _ (shown_tell _ _)
  | resume => exact stays

theorem shown_checked {answer : Except Error HealthStatus} (resumed : e.paused = false)
    (here : e.shown.suspended = false)
    : (e.checked answer).Reflects := by
  intro _
  unfold checked
  split
  · split <;> exact here.trans resumed.symm
  · split <;> exact here.trans resumed.symm
  · split
    · exact here.trans resumed.symm
    · exact (congrArg _ (shown_tell _ _)).trans resumed.symm

/-- A step of the main task, one case for each: those that a paused engine takes are the
commands of its loop, and the one that starts the watcher.
-/
theorem Reflects.main (here : e.Reflects) (programs : e.Programs) (awake : e.control.Awake)
    (step : MainStep host e label e') (fine : KeepsQuiet () e label e')
    : e'.Reflects := by
  have resumes {mode : Mode} (same : e.mode = mode)
      (away : mode.phase ≠ .starting ∧ mode.phase ≠ .selecting ∧ mode.phase ≠ .ended)
      : e.paused = false ∧ e.shown.suspended = false := by
    have phase := phase_of_mode same
    have resumed : e.paused = false := by
      by_contra paused
      rcases awake (by simpa [SyncEngine.control] using paused) with there | there | there
        <;> simp [there] at phase <;> simp [← phase] at away
    have running : e.control.phase ≠ .ended := by
      rw [phase]
      exact away.2.2
    exact ⟨resumed, (here running).trans resumed⟩
  cases step with
  | @scan site op next answer after mode served =>
      obtain ⟨resumed, quiet⟩ := resumes mode (by simp [Mode.phase])
      have sound := programs.mode
      rw [mode] at sound
      intro _
      refine Eq.trans ?_ resumed.symm
      exact shown_append (host.env.sem_statuses served.1) (Op.statuses_scan sound.1) quiet
  | @flush op next answer after mode served =>
      obtain ⟨resumed, quiet⟩ := resumes mode (by simp [Mode.phase])
      have sound := programs.mode
      rw [mode] at sound
      intro _
      refine Eq.trans ?_ resumed.symm
      refine shown_append (host.env.sem_statuses served.1) ?_ quiet
      rw [Op.statuses_quiet (.inr (.inl sound.1))]
      exact fun _ member => absurd member List.not_mem_nil
  | scanned mode =>
      obtain ⟨resumed, quiet⟩ := resumes mode (by simp [Mode.phase])
      exact shown_scanned _ resumed quiet
  | flushed mode =>
      obtain ⟨resumed, quiet⟩ := resumes mode (by simp [Mode.phase])
      exact fun _ => quiet.trans resumed.symm
  | interrupted mode listens biased =>
      obtain ⟨resumed, quiet⟩ := resumes mode (by simp [Mode.phase])
      exact shown_commandScanning resumed quiet (fine _ (phase_of_mode mode))
  | left mode requested => exact fun running => absurd (phase_leave _ _) running
  | stopped mode requested => exact fun running => absurd rfl running
  | watching mode started =>
      have same := here (by rw [phase_of_mode mode]; simp [Mode.phase])
      unfold startWatching
      split
      · exact fun running => absurd rfl running
      · split
        · exact fun running => absurd rfl running
        · exact fun _ => same
  | paused mode paused running possible =>
      have same := here (by rw [phase_of_mode mode]; simp [Mode.phase])
      exact shown_commandPaused paused (same.trans paused)
  | command mode resumed running possible =>
      have same := here (by rw [phase_of_mode mode]; simp [Mode.phase])
      exact shown_commandRunning resumed (same.trans resumed)
  | healthTick mode resumed running =>
      have same := here (by rw [phase_of_mode mode]; simp [Mode.phase])
      exact fun _ => same
  | health mode =>
      obtain ⟨resumed, quiet⟩ := resumes mode (by simp [Mode.phase])
      exact shown_checked resumed quiet
  | reconnected mode =>
      obtain ⟨resumed, quiet⟩ := resumes mode (by simp [Mode.phase])
      exact fun _ => (congrArg _ (shown_tell e .idle)).trans resumed.symm
  | rescanTick mode resumed running enabled =>
      have same := here (by rw [phase_of_mode mode]; simp [Mode.phase])
      unfold SyncEngine.rescanTick
      split
      · exact fun _ => same
      · exact shown_rescan .periodic resumed
  | received mode resumed running waiting =>
      have same := here (by rw [phase_of_mode mode]; simp [Mode.phase])
      exact fun _ => same
  | spawned mode permit =>
      obtain ⟨resumed, quiet⟩ := resumes mode (by simp [Mode.phase])
      unfold spawn
      split
      · exact fun running => absurd rfl running
      · exact fun _ => quiet.trans resumed.symm

-----------------------------------------------------------------------------------------
-- Steps of the others
-----------------------------------------------------------------------------------------

/-- A worker that ends sends no status while the engine is paused. -/
theorem shown_handled {index : Nat} {worker : Worker} {result : Except Error Unit}
    (found : e.workers[index]? = some worker) (here : e.shown.suspended = e.paused)
    (fine : KeepsQuiet () e (.handled index result) e')
    : (e.handled index result).shown.suspended = e.paused := by
  obtain ⟨bound, -⟩ := List.getElem?_eq_some_iff.mp found
  have left : (e.workers.eraseIdx index).length = e.workers.length - 1 :=
    List.length_eraseIdx_of_lt bound
  -- what the last line of a worker shows, after a status of its own or none
  have retires (e₀ : SyncEngine) (workers : e₀.workers = e.workers)
      (paused : e.paused = true → e₀.shown.suspended = true)
      (resumed : e.paused = false → e₀.shown.suspended = false)
      : (e₀.retire index).shown.suspended = e.paused := by
    simp only [retire, workers, left]
    cases now : e.paused with
    | true =>
        have more : e.workers.length - 1 ≠ 0 := by
          have := (fine now).1
          omega
        rw [if_neg more]
        exact paused now
    | false =>
        split
        · exact congrArg _ (shown_tell _ _)
        · exact resumed now
  have silent : (e.retire index).shown.suspended = e.paused :=
    retires e rfl (fun now => here.trans now) (fun now => here.trans now)
  cases result with
  | ok value => exact silent
  | error error =>
      simp only [handled]
      split
      · rename_i told
        refine retires _ rfl ?_ (fun _ => congrArg _ (shown_tell _ _))
        intro now
        simp only [Bool.and_eq_true, Bool.not_eq_true'] at told
        rcases (fine now).2 error rfl with shutdown | shutdown
        · exact absurd (told.1.symm.trans shutdown) (by simp)
        · exact absurd (told.2.symm.trans shutdown) (by simp)
      · exact silent

/-- A worker shows nothing until it ends. -/
theorem Reflects.workers (here : e.Reflects) (programs : e.Programs)
    (step : WorkerStep host e label e') (fine : KeepsQuiet () e label e')
    : e'.Reflects := by
  intro running
  rcases step.control with same | rfl
  · have now : e.control.phase ≠ .ended := by
      rw [← same.control]
      exact running
    rw [same.paused]
    cases step with
    | @spared index worker found spawned requested =>
        change (e.handled index (.ok ())).shown.suspended = e.paused
        exact shown_handled found (here now) fine
    | begun | panicked => exact here now
    | @worked index worker op next answer after found handling served =>
        have uses := programs.worker worker (List.mem_of_getElem? found) _ handling
        have sent := host.env.sem_statuses served.1
        rw [Op.statuses_quiet (.inl uses.1), List.append_nil] at sent
        have same : ({ e with
            world := after
            workers := e.workers.set index { worker with stage := .handling (next answer) } }
            : SyncEngine).shown = e.shown := by
          simp only [shown, sent]
        exact (congrArg _ same).trans (here now)
    | handled found handling => exact shown_handled found (here now) fine
  · exact absurd rfl running

theorem Reflects.dispatchers (here : e.Reflects) (programs : e.Programs)
    (step : DispatcherStep host e label e')
    : e'.Reflects := by
  intro running
  have same := step.control
  have now : e.control.phase ≠ .ended := by
    rw [← same.control]
    exact running
  rw [same.paused]
  cases step with
  | taken | ticked | left => exact here now
  | @worked index dispatcher op next answer after found busy served =>
      have uses := programs.dispatcher dispatcher (List.mem_of_getElem? found)
      rw [busy] at uses
      have sent := host.env.sem_statuses served.1
      rw [Op.statuses_quiet (.inr (.inr uses.1)), List.append_nil] at sent
      have same : ({ e with
          world := after
          dispatchers := e.dispatchers.set index { dispatcher with busy := next answer } }
          : SyncEngine).shown = e.shown := by
        simp only [shown, sent]
      exact (congrArg _ same).trans (here now)

theorem Reflects.outside (here : e.Reflects) (step : OutsideStep e label e')
    (fine : KeepsQuiet () e label e')
    : e'.Reflects := by
  intro running
  have same := step.control
  have now : e.control.phase ≠ .ended := by
    rw [← same.control]
    exact running
  rw [same.paused]
  cases step with
  | published =>
      simp only [publish]
      split
      · rename_i progress
        cases paused : e.paused with
        | true => exact absurd progress (fine paused)
        | false => exact congrArg _ (shown_tell _ _)
      · exact here now
  | _ => exact here now

theorem Reflects.step (here : e.Reflects) (programs : e.Programs) (awake : e.control.Awake)
    (step : Step host e label e') (fine : KeepsQuiet () e label e')
    : e'.Reflects := by
  cases step with
  | main step => exact here.main programs awake step fine
  | worker alive step => exact here.workers programs step fine
  | dispatcher alive step => exact here.dispatchers programs step
  | outside step => exact here.outside step fine

-----------------------------------------------------------------------------------------
-- The tray
-----------------------------------------------------------------------------------------

/-- A paused engine resumes when asked to. -/
theorem actsOn_resume (paused : e.paused = true) : e.ActsOn host .resume := by
  intro answers same
  rw [if_pos paused] at same
  have resumed : (e.commandPaused host answers .resume).paused = false := by
    simp only [commandPaused]
    split
    · unfold rescan
      split <;> rfl
    · rfl
  rw [same, paused] at resumed
  cases resumed

/-- An engine that is not paused pauses when asked to. -/
theorem actsOn_pause (resumed : e.paused = false) : e.ActsOn host .pause := by
  intro answers same
  rw [if_neg (by simp [resumed])] at same
  have paused : (e.commandRunning host answers .pause).paused = true := rfl
  rw [same, resumed] at paused
  cases paused

/-- At the head of its loop the engine scans when asked to, unless it is paused or offline. -/
theorem actsOn_forceScan (mode : e.mode = .selecting)
    : e.ActsOn host .forceScan ↔ e.paused = false ∧ e.world.offline = false := by
  constructor
  · intro acts
    have acts := acts {}
    cases paused : e.paused with
    | true =>
        rw [if_pos paused] at acts
        exact absurd rfl acts
    | false =>
        rw [if_neg (by simp [paused])] at acts
        refine ⟨rfl, ?_⟩
        by_contra offline
        exact acts (if_pos (by simpa using offline))
  · rintro ⟨resumed, online⟩ answers same
    rw [if_neg (by simp [resumed])] at same
    have starts : e.commandRunning host answers .forceScan = rescan host e .forced :=
      if_neg (by simp [online])
    have phase := phase_of_mode mode
    rw [← same, starts] at phase
    rcases @control_rescan host e .forced with scans | ended
    · rw [scans] at phase
      cases phase
    · rw [ended] at phase
      cases phase

/-- At the head of its loop the engine acts on what is offered, unless the help is shown, or a
scan is offered offline.
-/
theorem actsOn_offered (mode : e.mode = .selecting) (same : e.shown.suspended = e.paused)
    : e.ActsOn host e.shown.offered
      ↔ e.shown ≠ .help ∧ (e.shown.offered = .forceScan → e.world.offline = false) := by
  cases paused : e.paused with
  | true =>
      rw [paused] at same
      cases shows : e.shown with
      | paused | settings =>
          simpa [EngineStatus.offered, EngineStatus.isPaused] using actsOn_resume paused
      | help =>
          have ignores : ¬ e.ActsOn host .forceScan := fun acts => by
            simpa [paused] using (actsOn_forceScan mode).mp acts
          simpa [EngineStatus.offered, EngineStatus.isPaused, EngineStatus.isActive] using ignores
      | _ => simp [shows, EngineStatus.suspended] at same
  | false =>
      rw [paused] at same
      have notHelp : e.shown ≠ .help := fun shows => by
        simp [shows, EngineStatus.suspended] at same
      have notPaused : e.shown.isPaused = false := by
        cases shows : e.shown <;> simp_all [EngineStatus.suspended, EngineStatus.isPaused]
      cases active : e.shown.isActive with
      | true =>
          have offers : e.shown.offered = .pause := by
            simp [EngineStatus.offered, notPaused, active]
          simpa [offers, notHelp] using actsOn_pause paused
      | false =>
          have offers : e.shown.offered = .forceScan := by
            simp [EngineStatus.offered, notPaused, active]
          rw [offers, actsOn_forceScan mode]
          simp [paused, notHelp]

-----------------------------------------------------------------------------------------
-- Runs of the engine
-----------------------------------------------------------------------------------------

theorem reflects_launch (host : Host) (w : World) (cfg : AppConfig) (dryRun : Bool)
    : (launch host w cfg dryRun).Reflects := by
  intro running
  simp only [launch] at running ⊢
  split
  · rename_i missing
    rw [missing] at running
    exact absurd rfl running
  · rename_i primary configured
    rw [configured] at running
    split
    · rename_i refused
      simp only [refused] at running
      exact absurd rfl running
    · exact congrArg _ (shown_tell _ _)

/-- In every run that keeps quiet while it is paused, the status shown reflects the pause, and
the tray offers a command that the engine acts on, unless the help is shown or a scan is
offered offline.
-/
theorem reflects_pause {host : Host} {w : World} {cfg : AppConfig} {dryRun : Bool}
    {e : SyncEngine}
    (run : Runs host unwatched KeepsQuiet () (launch host w cfg dryRun) () e)
    : e.Reflects
      ∧ (e.mode = .selecting
        → (e.ActsOn host e.shown.offered
          ↔ e.shown ≠ .help ∧ (e.shown.offered = .forceScan → e.world.offline = false))) := by
  have kept : e.Reflects ∧ e.Programs ∧ e.control.Awake := by
    refine run.invariant (fun _ e => e.Reflects ∧ e.Programs ∧ e.control.Awake) ?_ ?_
    · exact ⟨reflects_launch host w cfg dryRun, programs_launch host w cfg dryRun,
        awake_launch host w cfg dryRun⟩
    · rintro _ e label e' ⟨here, programs, awake⟩ step fine
      exact ⟨here.step programs awake step fine, programs.step step, awake.step step.control_step⟩
  refine ⟨kept.1, fun mode => actsOn_offered mode (kept.1 ?_)⟩
  rw [phase_of_mode mode]
  simp [Mode.phase]

/-- A pause during the initial scan is shown as such. -/
theorem paused_reflects
    : ∃ e : SyncEngine,
        e.paused = true
        ∧ e.Reflects
        ∧ (e.mode = .selecting
          → (e.ActsOn (.plain (fun _ => False)) e.shown.offered
            ↔ e.shown ≠ .help ∧ (e.shown.offered = .forceScan → e.world.offline = false))) := by
  let start := launch (.plain (fun _ => False)) { disk := ⟨.special⟩ } backupConfig false
  have begun : Runs (.plain (fun _ => False)) unwatched KeepsQuiet () start () start := .start
  have paused :=
    begun.step (.main (@MainStep.interrupted _ _ _ _ .pause rfl (by simp) (fun _ => rfl)))
      (by rintro site ⟨⟩ (⟨⟨⟩⟩ | ⟨⟨⟩⟩))
  have watching :=
    paused.step (.main (@MainStep.watching _ _ (.ok ()) rfl (fun _ _ => rfl))) trivial
  exact ⟨_, rfl, reflects_pause watching⟩

/-- The scan after a resume is interrupted by a pause, and the engine shows itself idle. -/
theorem paused_shown_idle
    : ¬ ∀ host w cfg dryRun e,
        Reachable host (launch host w cfg dryRun) e → e.Reflects := by
  intro reflects
  let start := launch (.plain (fun _ => False)) { disk := ⟨.special⟩ } backupConfig false
  have begun : Reachable (.plain (fun _ => False)) start start := .start
  have paused :=
    begun.step (.main (@MainStep.interrupted _ _ _ _ .pause rfl (by simp) (fun _ => rfl))) trivial
  have watching :=
    paused.step (.main (@MainStep.watching _ _ (.ok ()) rfl (fun _ _ => rfl))) trivial
  have resumed := watching.step
    (.main (@MainStep.paused _ _ .resume {} rfl rfl rfl (by rintro _ _ ⟨⟩))) trivial
  have again := resumed.step
    (.main (@MainStep.interrupted _ _ _ _ .pause rfl (by simp) (by rintro ⟨⟩))) trivial
  exact absurd (reflects _ _ _ _ _ again (by decide)) (by decide)

end SyncEngine

end SyncGDrive
