import SyncGDrive.Loop.Frames

/-! The control of the main loop: its phase, whether it is paused, whether a rescan is owed on
resume, and whether the engine is offline. Every step of the engine is a step of its control.
-/

namespace SyncGDrive

open Program

-----------------------------------------------------------------------------------------
-- Phases
-----------------------------------------------------------------------------------------

inductive Phase
  | scanning (site : ScanSite)
  | starting
  | selecting
  | checking
  | reconnecting
  | flushing
  | acquiring
  | ended
  deriving DecidableEq

def Mode.phase : Mode → Phase
  | .scanning site _ => .scanning site
  | .starting => .starting
  | .selecting => .selecting
  | .checking => .checking
  | .reconnecting => .reconnecting
  | .flushing _ => .flushing
  | .acquiring _ => .acquiring
  | .ended _ => .ended

/-- The phase after an awaited scan. -/
def ScanSite.next : ScanSite → Phase
  | .initial => .starting
  | _ => .selecting

/-- The commands that interrupt an awaited scan. -/
def ScanSite.interruptedBy (site : ScanSite) : EngineCommand → Bool
  | .pause | .openSettings => true
  | .openHelp => site = .initial
  | _ => false

structure Control where
  phase : Phase
  paused : Bool
  rescanOnResume : Bool
  offline : Bool
  deriving DecidableEq

/-- The token still works, or only has to be refreshed. -/
def Reconnects : Except Error HealthStatus → Prop
  | .ok (.ok ..) | .ok .authExpired => True
  | _ => False

/-- The steps of the control. Any step may end the engine. -/
inductive Control.Step : Control → Label → Control → Prop
  | ends {c c' : Control} {label : Label} (ended : c'.phase = .ended) : Step c label c'
  | stays {c : Control} {label : Label}
    (other : (∀ cmd, label ≠ .command cmd) ∧ (∀ result, label ≠ .scanned result)
      ∧ ∀ answer, label ≠ .health answer)
    : Step c label c
  | scanned {c : Control} {site : ScanSite} {result : Except Error Unit}
    (phase : c.phase = .scanning site)
    (fine : site = .initial → result = .ok ())
    : Step c (.scanned result) { c with phase := site.next }
  | failed {c : Control} {error : Error} (phase : c.phase = .scanning .initial)
    : Step c (.scanned (.error error)) { c with phase := .starting, offline := true }
  | interrupted {c : Control} {site : ScanSite} {cmd : EngineCommand}
    (phase : c.phase = .scanning site) (interrupts : site.interruptedBy cmd = true)
    : Step c (.command cmd)
        { c with phase := site.next, paused := true, rescanOnResume := true }
  | discarded {c : Control} {site : ScanSite} {cmd : EngineCommand}
    (phase : c.phase = .scanning site) (discards : site.interruptedBy cmd = false)
    : Step c (.command cmd) c
  | watching {c : Control} {answer : Except Error Unit} (phase : c.phase = .starting)
    : Step c (.watching answer) { c with phase := .selecting }
  | rescans {c : Control} (phase : c.phase = .selecting) (paused : c.paused = true)
    (owed : c.rescanOnResume = true) (online : c.offline = false)
    : Step c (.command .resume)
        ⟨.scanning .resumed, false, false, false⟩
  | resumes {c : Control} (phase : c.phase = .selecting) (paused : c.paused = true)
    (not : (c.rescanOnResume && !c.offline) = false)
    : Step c (.command .resume) { c with paused := false }
  | reconfigured {c : Control} {cfg : AppConfig} (phase : c.phase = .selecting)
    (paused : c.paused = true)
    : Step c (.command (.applyConfig cfg)) { c with rescanOnResume := true }
  | pauses {c : Control} {cmd : EngineCommand} (phase : c.phase = .selecting)
    (asked : cmd = .pause ∨ cmd = .openHelp ∨ cmd = .openSettings)
    : Step c (.command cmd) { c with paused := true }
  | forced {c : Control} (phase : c.phase = .selecting) (resumed : c.paused = false)
    (online : c.offline = false)
    : Step c (.command .forceScan) { c with phase := .scanning .forced }
  | reloaded {c : Control} {cfg : AppConfig} (phase : c.phase = .selecting)
    (resumed : c.paused = false) (online : c.offline = false)
    : Step c (.command (.applyConfig cfg)) { c with phase := .scanning .reloaded }
  | ignored {c : Control} {cmd : EngineCommand} (phase : c.phase = .selecting)
    (harmless
      : cmd = .resume ∧ c.paused = false ∨ cmd = .forceScan ∧ (c.paused = true ∨ c.offline = true)
        ∨ ∃ cfg, cmd = .applyConfig cfg)
    : Step c (.command cmd) c
  | healthTick {c : Control} (phase : c.phase = .selecting) (resumed : c.paused = false)
    : Step c .healthTick { c with phase := .checking }
  | healthy {c : Control} {answer : Except Error HealthStatus} (phase : c.phase = .checking)
    (online : c.offline = false) (reconnects : Reconnects answer)
    : Step c (.health answer) { c with phase := .selecting }
  | back {c : Control} {answer : Except Error HealthStatus} (phase : c.phase = .checking)
    (offline : c.offline = true) (reconnects : Reconnects answer)
    : Step c (.health answer) { c with phase := .reconnecting, offline := false }
  | lost {c : Control} {answer : Except Error HealthStatus} (phase : c.phase = .checking)
    : Step c (.health answer) { c with phase := .selecting, offline := true }
  | reconnected {c : Control} (phase : c.phase = .reconnecting)
    : Step c .reconnected { c with phase := .flushing }
  | flushed {c : Control} {result : Except Error Unit} (phase : c.phase = .flushing)
    : Step c (.flushed result) { c with phase := .selecting }
  | periodic {c : Control} (phase : c.phase = .selecting) (resumed : c.paused = false)
    (online : c.offline = false)
    : Step c .rescanTick { c with phase := .scanning .periodic }
  | received {c : Control} {task : Task} (phase : c.phase = .selecting)
    (resumed : c.paused = false)
    : Step c (.received task) { c with phase := .acquiring }
  | spawned {c : Control} {task : Task} (phase : c.phase = .acquiring)
    : Step c (.spawned task) { c with phase := .selecting }

/-- Only at the head of its loop, or just before, is the engine paused. -/
def Control.Awake (c : Control) : Prop :=
  c.paused = true → c.phase = .starting ∨ c.phase = .selecting ∨ c.phase = .ended

theorem Control.Awake.step {c c' : Control} {label : Label} (awake : c.Awake)
    (step : c.Step label c')
    : c'.Awake := by
  cases step with
  | @interrupted site cmd phase interrupts => cases site <;> simp [Awake, ScanSite.next]
  | @scanned site result phase fine => cases site <;> simp [Awake, ScanSite.next]
  | _ => simp_all [Awake]

/-- The phases in which no task is held and no flush awaited. -/
def Phase.idle : Phase → Bool
  | .acquiring | .flushing => false
  | _ => true

theorem ScanSite.next_idle (site : ScanSite) : site.next.idle = true := by
  cases site <;> rfl

/-- The answer to a command, a scan or a health check neither holds a task nor flushes. -/
theorem Control.Step.idle {c c' : Control} {label : Label} (step : c.Step label c')
    (answers
      : (∃ cmd, label = .command cmd) ∨ (∃ result, label = .scanned result)
        ∨ ∃ answer, label = .health answer)
    : c'.phase.idle = true := by
  cases step with
  | ends ended =>
      rw [ended]
      rfl
  | stays other =>
      rcases answers with ⟨cmd, same⟩ | ⟨result, same⟩ | ⟨answer, same⟩
      · exact absurd same (other.1 cmd)
      · exact absurd same (other.2.1 result)
      · exact absurd same (other.2.2 answer)
  | scanned | interrupted => exact ScanSite.next_idle _
  | failed | watching | rescans | forced | reloaded | healthTick | healthy | back | lost
  | flushed | periodic | spawned => rfl
  | discarded phase | resumes phase | reconfigured phase | pauses phase | ignored phase =>
      rw [phase]
      rfl
  | reconnected | received => simp at answers

-----------------------------------------------------------------------------------------
-- The control of an engine
-----------------------------------------------------------------------------------------

namespace SyncEngine

def control (e : SyncEngine) : Control :=
  ⟨e.mode.phase, e.paused, e.rescanOnResume, e.world.offline⟩

variable {host : Host} {e e' : SyncEngine} {label : Label}

theorem SameControl.control (same : e.SameControl e') : e'.control = e.control := by
  simp only [SyncEngine.control, same.mode, same.paused, same.rescanOnResume, same.offline]

theorem phase_of_mode {mode : Mode} (same : e.mode = mode) : e.control.phase = mode.phase :=
  congrArg Mode.phase same

@[simp] theorem control_tell (e : SyncEngine) (status : EngineStatus)
    : (e.tell status).control = e.control := rfl

@[simp] theorem control_cancel (e : SyncEngine) : e.cancel.control = e.control := rfl

@[simp] theorem control_announce (e : SyncEngine) : e.announce.control = e.control := rfl

@[simp] theorem phase_finish (e : SyncEngine) : e.finish.control.phase = .ended := rfl

@[simp] theorem phase_fail (e : SyncEngine) (error : Error)
    : (e.fail error).control.phase = .ended := rfl

@[simp] theorem phase_leave (e : SyncEngine) (site : ScanSite)
    : (e.leave site).control.phase = .ended := by
  cases site <;> rfl

theorem control_afterScan (e : SyncEngine) (site : ScanSite)
    : (e.afterScan site).control = { e.control with phase := site.next } := by
  cases site with
  | initial =>
      simp only [afterScan]
      split <;> rfl
  | _ => rfl

theorem control_await (e : SyncEngine) (site : ScanSite) (ignore : IgnoreMatcher)
    : (e.await site ignore).control = { e.control with phase := .scanning site } := rfl

/-- A rescan starts, or the patterns do not compile and the engine ends. -/
theorem control_rescan (e : SyncEngine) (site : ScanSite)
    : (e.rescan host site).control = { e.control with phase := .scanning site }
      ∨ (e.rescan host site).control.phase = .ended := by
  unfold rescan
  split
  · exact .inl rfl
  · exact .inr rfl

/-- A reload leaves the control alone, whatever fails. -/
theorem control_reload (e : SyncEngine) (answers : ReloadAnswers) (missing : String)
    (cfg : AppConfig)
    : (e.reload answers missing cfg).1.control = e.control := by
  unfold reload
  split
  · rfl
  · split
    · rfl
    · simp only [changeRoot]
      split
      · rfl
      · split
        · rfl
        · split <;> rfl

-----------------------------------------------------------------------------------------
-- Steps of the engine as steps of its control
-----------------------------------------------------------------------------------------

theorem control_scanned {site : ScanSite} {rest : Eff Unit} (result : Except Error Unit)
    (mode : e.mode = .scanning site rest)
    : e.control.Step (.scanned result) (e.scanned site result).control := by
  have phase : e.control.phase = .scanning site := phase_of_mode mode
  cases result with
  | ok value =>
      have same : (e.scanned site (.ok value)).control = { e.control with phase := site.next } := by
        simp only [scanned]
        split
        · rw [control_afterScan, control_tell]
        · rw [control_afterScan]
      rw [same]
      exact .scanned phase (fun _ => rfl)
  | error error =>
      simp only [scanned]
      split
      · rename_i initial
        subst initial
        split
        · exact .ends rfl
        · rw [control_afterScan]
          exact .failed phase
      · rename_i later
        split
        · exact .ends (phase_leave _ _)
        · rw [control_afterScan]
          exact .scanned phase (fun initial => absurd initial later)

theorem control_commandScanning {site : ScanSite} {rest : Eff Unit} (cmd : EngineCommand)
    (mode : e.mode = .scanning site rest)
    : e.control.Step (.command cmd) (e.commandScanning site cmd).control := by
  have phase : e.control.phase = .scanning site := phase_of_mode mode
  have interrupts (status : EngineStatus) (asked : site.interruptedBy cmd = true)
      : e.control.Step (.command cmd) (e.interrupt site status).control := by
    rw [interrupt, control_afterScan]
    exact .interrupted phase asked
  cases cmd with
  | pause => exact interrupts _ rfl
  | openSettings => exact interrupts _ rfl
  | openHelp =>
      simp only [commandScanning]
      split
      · exact interrupts _ (by simpa [ScanSite.interruptedBy] using ‹_›)
      · exact .discarded phase (by simpa [ScanSite.interruptedBy] using ‹_›)
  | shutdown => exact .ends (phase_leave _ _)
  | forceScan | applyConfig _ | resume => exact .discarded phase rfl

theorem control_commandPaused {answers : ReloadAnswers} (cmd : EngineCommand)
    (mode : e.mode = .selecting) (paused : e.paused = true)
    : e.control.Step (.command cmd) (e.commandPaused host answers cmd).control := by
  have phase : e.control.phase = .selecting := phase_of_mode mode
  cases cmd with
  | resume =>
      simp only [commandPaused]
      split
      · rename_i due
        obtain ⟨owed, online⟩ := (Bool.and_eq_true _ _).mp due
        have online : e.world.offline = false := by simpa using online
        rcases @control_rescan host
          { e with paused := false, rescanOnResume := false } .resumed with
          same | ended
        · rw [same]
          have start
              : ({ SyncEngine.control { e with paused := false, rescanOnResume := false } with
                  phase := .scanning .resumed } : Control)
                = ⟨.scanning .resumed, false, false, false⟩ := by
            simp [SyncEngine.control, online]
          rw [start]
          exact .rescans phase paused owed online
        · exact .ends ended
      · rename_i not
        exact .resumes phase paused (by simpa [SyncEngine.control] using not)
  | shutdown => exact .ends rfl
  | applyConfig cfg =>
      have same := control_reload e answers "Aucun dossier n'est configuré!" cfg
      simp only [commandPaused]
      split
      · exact .ends rfl
      · rename_i reached _ _
        rw [‹e.reload _ _ _ = _›] at same
        have kept
            : SyncEngine.control { reached with rescanOnResume := true }
              = { e.control with rescanOnResume := true } := by
          rw [← same]
          rfl
        rw [kept]
        exact .reconfigured phase paused
  | openSettings =>
      have same : (e.tell .settings).control = { e.control with paused := true } := by
        simp [SyncEngine.control, tell, World.report, paused]
      change Control.Step _ _ (e.tell .settings).control
      rw [same]
      exact .pauses phase (.inr (.inr rfl))
  | openHelp =>
      have same : (e.tell .help).control = { e.control with paused := true } := by
        simp [SyncEngine.control, tell, World.report, paused]
      change Control.Step _ _ (e.tell .help).control
      rw [same]
      exact .pauses phase (.inr (.inl rfl))
  | pause =>
      have same : e.control = { e.control with paused := true } := by
        simp [SyncEngine.control, paused]
      change Control.Step _ _ e.control
      conv => arg 3; rw [same]
      exact .pauses phase (.inl rfl)
  | forceScan => exact .ignored phase (.inr (.inl ⟨rfl, .inl paused⟩))

theorem control_commandRunning {answers : ReloadAnswers} (cmd : EngineCommand)
    (mode : e.mode = .selecting) (resumed : e.paused = false)
    : e.control.Step (.command cmd) (e.commandRunning host answers cmd).control := by
  have phase : e.control.phase = .selecting := phase_of_mode mode
  cases cmd with
  | shutdown => exact .ends rfl
  | pause => exact .pauses phase (.inl rfl)
  | openHelp => exact .pauses phase (.inr (.inl rfl))
  | openSettings => exact .pauses phase (.inr (.inr rfl))
  | resume => exact .ignored phase (.inl ⟨rfl, resumed⟩)
  | forceScan =>
      simp only [commandRunning]
      split
      · rename_i offline
        exact .ignored phase (.inr (.inl ⟨rfl, .inr offline⟩))
      · rename_i online
        rcases @control_rescan host e .forced with same | ended
        · rw [same]
          exact .forced phase resumed (by simpa [SyncEngine.control] using online)
        · exact .ends ended
  | applyConfig cfg =>
      have same := control_reload e answers "Pas de dossier" cfg
      simp only [commandRunning]
      split
      · exact .ends rfl
      · rename_i reached changed reloads
        rw [reloads] at same
        have same : reached.control = e.control := same
        split
        · rename_i rescans
          have online : e.control.offline = false := by
            rw [← same]
            simpa [SyncEngine.control] using ((Bool.and_eq_true _ _).mp rescans).2
          split
          · rw [control_await, control_announce, same]
            exact .reloaded phase resumed online
          · exact .ends rfl
        · rw [control_tell, same]
          exact .ignored phase (.inr (.inr ⟨cfg, rfl⟩))

theorem control_checked (answer : Except Error HealthStatus) (mode : e.mode = .checking)
    : e.control.Step (.health answer) (e.checked answer).control := by
  have phase : e.control.phase = .checking := phase_of_mode mode
  have good (reconnects : Reconnects answer)
      : e.control.Step (.health answer)
          (if e.world.offline then
            SyncEngine.control
              { e with world := { e.world with offline := false }, mode := .reconnecting }
          else SyncEngine.control { e with mode := .selecting }) := by
    split
    · exact .back phase ‹_› reconnects
    · rename_i online
      exact .healthy phase (by simpa [SyncEngine.control] using online) reconnects
  have bad
      : e.control.Step (.health answer)
          (if e.world.offline then SyncEngine.control { e with mode := .selecting }
          else
            SyncEngine.control
              { e with world := { e.world with offline := true }, mode := .selecting }) := by
    split
    · rename_i offline
      have same
          : SyncEngine.control { e with mode := .selecting }
            = { e.control with phase := .selecting, offline := true } := by
        simp [SyncEngine.control, offline, Mode.phase]
      rw [same]
      exact .lost phase
    · exact .lost phase
  unfold checked
  split
  · rw [apply_ite SyncEngine.control]
    exact good trivial
  · rw [apply_ite SyncEngine.control]
    exact good trivial
  · rw [apply_ite SyncEngine.control]
    exact bad

/-- An operation of the awaited program leaves the control alone. -/
theorem control_worked {op : Op} {answer : op.Answer} {after : World} {mode : Mode}
    (phase : e.control.phase = mode.phase) (served : e.Serves host op answer after)
    : e.control = SyncEngine.control { e with world := after, mode } := by
  have same : e.mode.phase = mode.phase := phase
  simp only [SyncEngine.control, same, (host.env.sem_keeps served.1).offline]

/-- A step of the main task is a step of its control. -/
theorem MainStep.control_step (step : MainStep host e label e')
    : e.control.Step label e'.control := by
  cases step with
  | scan mode served =>
      have same : e.control = _ := control_worked (phase_of_mode mode) served
      rw [same]
      exact .stays (by simp)
  | scanned mode => exact control_scanned _ mode
  | flush mode served =>
      have same : e.control = _ := control_worked (phase_of_mode mode) served
      rw [same]
      exact .stays (by simp)
  | flushed mode => exact .flushed (phase_of_mode mode)
  | interrupted mode listens biased => exact control_commandScanning _ mode
  | left mode requested => exact .ends (phase_leave _ _)
  | stopped mode requested => exact .ends rfl
  | watching mode started =>
      have phase : e.control.phase = .starting := phase_of_mode mode
      unfold startWatching
      split
      · exact .ends rfl
      · split
        · exact .ends rfl
        · exact .watching phase
  | paused mode paused running possible => exact control_commandPaused _ mode paused
  | command mode resumed running possible => exact control_commandRunning _ mode resumed
  | healthTick mode resumed running =>
      exact .healthTick (phase_of_mode mode) resumed
  | health mode => exact control_checked _ mode
  | reconnected mode => exact .reconnected (phase_of_mode mode)
  | rescanTick mode resumed running enabled =>
      have phase : e.control.phase = .selecting := phase_of_mode mode
      unfold SyncEngine.rescanTick
      split
      · exact .stays (by simp)
      · rename_i online
        rcases @control_rescan host e .periodic with same | ended
        · rw [same]
          exact .periodic phase resumed (by simpa [SyncEngine.control] using online)
        · exact .ends ended
  | received mode resumed running waiting =>
      exact .received (phase_of_mode mode) resumed
  | spawned mode permit =>
      unfold spawn
      split
      · exact .ends rfl
      · exact .spawned (phase_of_mode mode)

/-- A step of the engine is a step of its control. -/
theorem Step.control_step (step : Step host e label e') : e.control.Step label e'.control := by
  cases step with
  | main step => exact step.control_step
  | worker alive step =>
      rcases step.control with same | rfl
      · rw [same.control]
        refine .stays ?_
        cases step <;> simp
      · exact .ends rfl
  | dispatcher alive step =>
      rw [step.control.control]
      refine .stays ?_
      cases step <;> simp
  | outside step =>
      rw [step.control.control]
      refine .stays ?_
      cases step <;> simp

/-- The engine starts with a scan, or not at all. -/
theorem control_launch (host : Host) (w : World) (cfg : AppConfig) (dryRun : Bool)
    : (launch host w cfg dryRun).control = ⟨.scanning .initial, false, false, false⟩
      ∨ (launch host w cfg dryRun).control.phase = .ended := by
  simp only [launch]
  split
  · exact .inr rfl
  · split
    · exact .inr rfl
    · exact .inl rfl

theorem awake_launch (host : Host) (w : World) (cfg : AppConfig) (dryRun : Bool)
    : (launch host w cfg dryRun).control.Awake := by
  rcases control_launch host w cfg dryRun with start | ended
  · simp [Control.Awake, start]
  · simp [Control.Awake, ended]

end SyncEngine

end SyncGDrive
