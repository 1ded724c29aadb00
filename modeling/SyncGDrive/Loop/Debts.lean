import SyncGDrive.Loop.Plain

/-! Scans that are owed. A scan becomes due when the initial one fails, when one is
interrupted, and when one is asked for while the engine is offline.
-/

namespace SyncGDrive

open Program

-----------------------------------------------------------------------------------------
-- When a scan is due
-----------------------------------------------------------------------------------------

/-- A command makes a scan due: it interrupts one, or asks for one offline. -/
def Control.makesDue (c : Control) (changesRoot : AppConfig → Bool) (cmd : EngineCommand) : Bool :=
  match c.phase, cmd with
  | .scanning site, cmd => site.interruptedBy cmd
  | .selecting, .forceScan => c.offline
  | .selecting, .applyConfig cfg => c.offline && changesRoot cfg
  | .selecting, .resume => c.paused && c.offline && c.rescanOnResume
  | _, _ => false

/-- Is a scan due after a step that has not been followed by one that ran to completion? -/
def Control.due (c : Control) (changesRoot : AppConfig → Bool) (due : Bool) : Label → Bool
  | .scanned (.ok ()) => false
  | .scanned (.error _) => due || c.phase = .scanning .initial
  | .command cmd => due || c.makesDue changesRoot cmd
  | _ => due

/-- The engine comes back online only when no scan is due, and no later scan fails while one
is.
-/
def Control.SettlesDebts (c : Control) (due : Bool) : Label → Prop
  | .health answer => Reconnects answer → c.offline = true → due = false
  | .scanned (.error _) => c.phase ≠ .scanning .initial → due = false
  | _ => True

-----------------------------------------------------------------------------------------
-- What covers a debt
-----------------------------------------------------------------------------------------

/-- A scan that is due is covered by the one that runs, by the one of the next resume, or by
the engine being offline.
-/
def Control.Covers (c : Control) (due : Bool) : Prop :=
  match c.phase with
  | .scanning site => c.paused = false ∧ c.offline = false ∧ (site = .initial → due = false)
  | .starting | .selecting =>
      due = true → c.offline = true ∨ c.paused = true ∧ c.rescanOnResume = true
  | .checking | .acquiring => c.paused = false ∧ (due = true → c.offline = true)
  | .reconnecting | .flushing => c.paused = false ∧ due = false
  | .ended => True

/-- Every step of the discipline leaves the debt covered: one case for each step. -/
theorem Control.Covers.step {c c' : Control} {label : Label} {due : Bool}
    {changesRoot : AppConfig → Bool} (covers : c.Covers due) (step : c.Step label c')
    (fine : c.SettlesDebts due label)
    : c'.Covers (c.due changesRoot due label) := by
  cases step with
  | ends ended => simp [Covers, ended]
  | stays other =>
      have same : c.due changesRoot due label = due := by
        unfold Control.due
        split
        · exact absurd rfl (other.2.1 _)
        · exact absurd rfl (other.2.1 _)
        · exact absurd rfl (other.1 _)
        · rfl
      rw [same]
      exact covers
  | @scanned site result phase fineInitial =>
      -- a scan that fails here is a later one, and the discipline says that none was due
      have settled : c.due changesRoot due (.scanned result) = false := by
        cases result with
        | ok value => rfl
        | error error =>
            have later : site ≠ .initial := fun initial => by cases fineInitial initial
            have none : due = false := fine (by simp [phase, later])
            simp [Control.due, none, phase, later]
      rw [settled]
      cases site <;> simp [Covers, ScanSite.next]
  | @interrupted site cmd phase interrupts =>
      cases site <;> simp [Covers, ScanSite.next]
  | @discarded site cmd phase discards =>
      have same : c.due changesRoot due (.command cmd) = due := by
        simp [Control.due, makesDue, phase, discards]
      rw [same]
      exact covers
  | back phase offline reconnects =>
      have none : due = false := fine reconnects offline
      simp_all [Covers, Control.due]
  | resumes phase paused not =>
      simp_all [Covers, Control.due, makesDue]
      grind
  | pauses phase asked | ignored phase harmless =>
      simp_all [Covers, Control.due, makesDue]
      grind
  | failed phase | watching phase | rescans phase paused owed online
  | reconfigured phase paused | forced phase resumed online | reloaded phase resumed online
  | healthTick phase resumed | healthy phase online reconnects | lost phase | reconnected phase
  | flushed phase | periodic phase resumed online | received phase resumed | spawned phase =>
      simp_all [Covers, Control.due, makesDue]

-----------------------------------------------------------------------------------------
-- Runs of the engine
-----------------------------------------------------------------------------------------

namespace SyncEngine

/-- The scans that are due along a run. -/
def owed : Watch SyncEngine Label Bool := fun due e label _ =>
  e.control.due e.changesRoot due label

/-- The discipline along a run. -/
def SettlesDebts : Discipline SyncEngine Label Bool := fun due e label _ =>
  e.control.SettlesDebts due label

/-- At the head of its loop, not paused and online, the engine owes no scan. -/
def OwesNothing (due : Bool) (e : SyncEngine) : Prop :=
  e.mode = .selecting → e.paused = false → e.world.offline = false → due = false

/-- In every run that comes back online only when no scan is due, and in which no later scan
fails while one is, no owed scan is forgotten.
-/
theorem owes_nothing {host : Host} {w : World} {cfg : AppConfig} {dryRun due : Bool}
    {e : SyncEngine}
    (run : Runs host owed SettlesDebts false (launch host w cfg dryRun) due e)
    : e.OwesNothing due := by
  have covers : e.control.Covers due := by
    refine run.invariant (fun due e => e.control.Covers due) ?_ ?_
    · rcases control_launch host w cfg dryRun with start | ended
      · simp [Control.Covers, start]
      · simp [Control.Covers, ended]
    · intro due e label e' covers step fine
      exact covers.step step.control_step fine
  intro mode resumed online
  have phase : e.control.phase = .selecting := phase_of_mode mode
  simp only [Control.Covers, phase] at covers
  by_contra owing
  rcases covers (by simpa using owing) with offline | ⟨paused, -⟩
  · exact absurd (online.symm.trans offline) (by simp)
  · exact absurd (resumed.symm.trans paused) (by simp)

/-- A resumed scan that has returned leads back to the head of the loop. -/
theorem scanned_resumed_ok (e : SyncEngine)
    : (e.scanned .resumed (.ok ())).mode = .selecting
      ∧ (e.scanned .resumed (.ok ())).paused = e.paused
      ∧ (e.scanned .resumed (.ok ())).world.offline = e.world.offline
      ∧ (e.scanned .resumed (.ok ())).world.tasks = e.world.tasks := by
  simp only [scanned]
  split <;> exact ⟨rfl, rfl, rfl, rfl⟩

/-- The initial scan is interrupted by Pause, and the one after Resume sends what is to be deleted:
the debt that there was is settled.
-/
theorem interrupted_scan_made_up_for
    : ∃ (interrupted e : SyncEngine) (due : Bool),
        Runs (.plain (fun _ => False)) owed SettlesDebts false
          (launch (.plain (fun _ => False)) { disk := emptyDisk, db := manyRows 2 } backupConfig
            false)
          true interrupted
        ∧ Runs (.plain (fun _ => False)) owed SettlesDebts true interrupted due e
        ∧ (e.mode = .selecting ∧ e.paused = false ∧ e.world.offline = false)
        ∧ e.world.tasks.length = 2
        ∧ e.OwesNothing due := by
  let host : Host := .plain (fun _ => False)
  let start := launch host { disk := emptyDisk, db := manyRows 2 } backupConfig false
  have launched : Runs host owed SettlesDebts false start false start := .start
  have interrupted :=
    launched.step
      (.main (@MainStep.interrupted _ _ _ _ .pause rfl (fun same => by cases same) (fun _ => rfl)))
      trivial
  have paused
      : Runs host owed SettlesDebts true (start.commandScanning .initial .pause) true
          (start.commandScanning .initial .pause) :=
    .start
  have watching :=
    paused.step (.main (@MainStep.watching _ _ (.ok ()) rfl (fun _ _ => rfl))) trivial
  have resumed :=
    watching.step
      (.main (@MainStep.paused _ _ .resume {} rfl rfl rfl (fun _ _ same => by cases same)))
      trivial
  obtain ⟨e, reached, mode, here⟩
      : ∃ e, Runs host owed SettlesDebts true (start.commandScanning .initial .pause) true e
          ∧ e.mode = .scanning .resumed (scan ⟨backupConfig, false⟩ .nothing)
          ∧ e.world.disk = emptyDisk ∧ e.world.shutdown = false ∧ e.world.db = manyRows 2
          ∧ e.world.tasks = [] ∧ e.world.offline = false ∧ e.paused = false :=
    ⟨_, resumed, rfl, rfl, rfl, rfl, rfl, rfl, rfl⟩
  obtain ⟨disk, running, db, tasks, online, unpaused⟩ := here
  obtain ⟨last, fills, scans⟩ := @scan_fills (fun _ => False) e.world disk running
  have length : last.tasks.length = 2 := by
    rw [fills.length, tasks, db]
    exact (Nat.zero_add _).trans (manyRows_length 2)
  have scanned :=
    runs_scan_among scans reached mode id (by rw [length]; decide) (fun _ _ _ _ _ => rfl)
      (fun _ _ _ _ _ => trivial)
  have returned := scanned.step (.main (.scanned rfl)) trivial
  obtain ⟨selecting, still, connected, sent⟩ := scanned_resumed_ok _
  refine ⟨_, _, _, interrupted, returned, ⟨selecting, still.trans unpaused, ?_⟩,
    (congrArg List.length sent).trans length, owes_nothing (interrupted.trans returned)⟩
  exact connected.trans (fills.online.trans online)

end SyncEngine

-----------------------------------------------------------------------------------------
-- A scan that is forgotten
-----------------------------------------------------------------------------------------

namespace SyncEngine

/-- The initial scan fails, the health check succeeds, and no scan makes up for it. -/
theorem initial_scan_forgotten
    : ¬ ∀ host w cfg dryRun due e,
        Runs host owed anyStep false (launch host w cfg dryRun) due e → e.OwesNothing due := by
  intro settled
  let host : Host := .plain (· = .database)
  let start := launch host { disk := emptyDisk } backupConfig false
  have scanned : Runs host owed anyStep false start false _ :=
    runs_scan_among (@scan_fails (· = .database) Op.Surveys rfl start.world rfl (fun _ => id))
      .start rfl (by rintro ⟨⟩)
      (Nat.zero_le _) (fun _ _ _ _ _ => rfl) (fun _ _ _ _ _ => trivial)
  have failed := scanned.step (.main (.scanned rfl)) trivial
  rw [scanned_initial locked_isShutdownErr] at failed
  have watching :=
    failed.step (.main (@MainStep.watching _ _ (.ok ()) rfl (fun _ _ => rfl))) trivial
  have ticked := watching.step (.main (.healthTick rfl rfl rfl)) trivial
  have back := ticked.step (.main (@MainStep.health _ _ (.ok .authExpired) rfl)) trivial
  have refreshed := back.step (.main (.reconnected rfl)) trivial
  have flushed := refreshed.step (.main (.flush rfl ⟨.inl ⟨rfl, rfl⟩, trivial⟩)) trivial
  have quiet := flushed.step (.main (.flushed rfl)) trivial
  exact absurd (settled _ _ _ _ _ _ quiet rfl rfl rfl) (by decide)

end SyncEngine

end SyncGDrive
