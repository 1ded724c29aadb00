import SyncGDrive.Loop.Channel
import SyncGDrive.Loop.Debts

/-! Deadlock on the task channel. The main loop is the only receiver, and it receives nothing
while it awaits a scan or a flush that sends.
-/

namespace SyncGDrive

open Program

-----------------------------------------------------------------------------------------
-- Awaited programs
-----------------------------------------------------------------------------------------

/-- A scan or a flush is awaited. -/
def Mode.awaits : Mode → Bool
  | .scanning .. | .flushing _ => true
  | _ => false

/-- The task that the awaited program is to send next, if its next operation is a send. -/
def Mode.demands : Mode → List Task
  | .scanning _ (.call (.send task) _) | .flushing (.call (.send task) _) => [task]
  | _ => []

theorem Mode.demands_scanning {site : ScanSite} {op : Op} {next : op.Answer → Eff Unit}
    : (Mode.scanning site (.call op next)).demands = (Label.main op).sent := by
  cases op <;> rfl

theorem Mode.demands_flushing {op : Op} {next : op.Answer → Eff Unit}
    : (Mode.flushing (.call op next)).demands = (Label.main op).sent := by
  cases op <;> rfl

/-- A program that demands a send is at that send. -/
theorem Mode.demands_cases {mode : Mode} (demands : mode.demands ≠ [])
    : ∃ task : Task, (∃ site next, mode = .scanning site (.call (Op.send task) next))
        ∨ ∃ next, mode = .flushing (.call (Op.send task) next) := by
  unfold Mode.demands at demands
  split at demands
  · exact ⟨_, .inl ⟨_, _, rfl⟩⟩
  · exact ⟨_, .inr ⟨_, rfl⟩⟩
  · exact absurd rfl demands

theorem Mode.demands_length (mode : Mode) : mode.demands.length ≤ 1 := by
  unfold demands
  split <;> simp

/-- What a step of an await newly demands: the next task of the awaited program, or the one
that a dispatcher sends.
-/
def Label.demands (mode : Mode) : Label → List Task
  | .main _ => mode.demands
  | label => label.sent

theorem Label.demands_other {label : Label} (other : ∀ op, label ≠ .main op) (mode : Mode)
    : label.demands mode = label.sent := by
  cases label with
  | main op => exact absurd rfl (other op)
  | _ => rfl

namespace SyncEngine

variable {host : Host} {e e' : SyncEngine} {label : Label} {total : Nat}

/-- The awaited program is blocked on a send, and no step receives from the channel. -/
structure Deadlocked (host : Host) (e : SyncEngine) : Prop where
  awaits : e.mode.awaits = true
  demands : e.mode.demands ≠ []
  blocked : ∀ op e', ¬ Step host e (.main op) e'
  unreceived : ∀ task e', ¬ Step host e (.received task) e'

/-- How many tasks the channel has to take during an await, as far as it has come: those that
waited when it began, those that the awaited program has come to send, and those that the
dispatchers have sent meanwhile.
-/
def demanded : Watch SyncEngine Label Nat := fun total e label e' =>
  if e'.mode.awaits then
    if e.mode.awaits then total + (label.demands e'.mode).length
    else e'.world.tasks.length + e'.mode.demands.length
  else 0

/-- During an await the tasks that have to be taken are in the channel, up to the one that is
to be sent next.
-/
structure Accounted (total : Nat) (e : SyncEngine) : Prop where
  programs : Programs e
  bounded : e.world.tasks.length ≤ channelCapacity
  total
    : e.mode.awaits = true → total = e.world.tasks.length + e.mode.demands.length

/-- The receiver is there during an await. -/
theorem receiving_of_awaits (awaits : e.mode.awaits = true) : e.Receiving := by
  unfold Receiving
  split
  · simp_all [Mode.awaits]
  · trivial

theorem awaits_afterScan (e : SyncEngine) (site : ScanSite)
    : (e.afterScan site).mode.awaits = false := by
  cases site <;> rfl

theorem awaits_leave (e : SyncEngine) (site : ScanSite) : (e.leave site).mode.awaits = false := by
  cases site <;> rfl

theorem awaits_scanned (e : SyncEngine) (site : ScanSite) (result : Except Error Unit)
    : (e.scanned site result).mode.awaits = false := by
  cases result with
  | ok value =>
      simp only [scanned]
      split <;> exact awaits_afterScan _ _
  | error error =>
      simp only [scanned]
      split
      · split
        · rfl
        · exact awaits_afterScan _ _
      · split
        · exact awaits_leave _ _
        · exact awaits_afterScan _ _

/-- A command interrupts an awaited scan or is discarded. -/
theorem awaits_commandScanning (e : SyncEngine) (site : ScanSite) (cmd : EngineCommand)
    : (e.commandScanning site cmd).mode.awaits = false ∨ e.commandScanning site cmd = e := by
  cases cmd with
  | pause | openSettings => exact .inl (awaits_afterScan _ _)
  | openHelp =>
      simp only [commandScanning]
      split
      · exact .inl (awaits_afterScan _ _)
      · exact .inr rfl
  | shutdown => exact .inl (awaits_leave _ _)
  | forceScan | applyConfig _ | resume => exact .inr rfl

/-- The steps that keep an await going: an operation of its program, or a step that leaves the
phase as it is.
-/
theorem Step.awaiting (step : Step host e label e') (before : e.mode.awaits = true)
    (after : e'.mode.awaits = true)
    : (∃ op, label = .main op ∧ e.mode.demands = label.sent)
      ∨ e'.mode = e.mode ∧ (∀ op, label ≠ .main op) ∧ ∀ task, label ≠ .received task := by
  have absent {answer : Bool} (ends : answer = false) (goes : answer = true) : False := by
    simp [ends] at goes
  cases step with
  | main step =>
      cases step with
      | scan mode served => exact .inl ⟨_, rfl, by rw [mode, Mode.demands_scanning]⟩
      | flush mode served => exact .inl ⟨_, rfl, by rw [mode, Mode.demands_flushing]⟩
      | scanned mode => exact (absent (awaits_scanned _ _ _) after).elim
      | interrupted mode listens biased =>
          rcases awaits_commandScanning e _ _ with ends | same
          · exact (absent ends after).elim
          · exact .inr ⟨congrArg _ same, by simp, by simp⟩
      | left mode requested => exact (absent (awaits_leave _ _) after).elim
      | stopped mode requested => exact (absent rfl after).elim
      | flushed mode => exact (absent rfl after).elim
      | _ => simp_all [Mode.awaits]
  | worker alive step =>
      rcases step.control with same | rfl
      · exact .inr ⟨same.mode, by cases step <;> simp, by cases step <;> simp⟩
      · exact (absent rfl after).elim
  | dispatcher alive step =>
      exact .inr ⟨step.control.mode, by cases step <;> simp, by cases step <;> simp⟩
  | outside step =>
      exact .inr ⟨step.control.mode, by cases step <;> simp, by cases step <;> simp⟩

theorem Accounted.step (accounted : Accounted total e) (step : Step host e label e')
    : Accounted (demanded total e label e') e' := by
  refine ⟨accounted.programs.step step, step.capacity accounted.programs accounted.bounded, ?_⟩
  intro after
  simp only [demanded, after, if_true]
  split
  · rename_i before
    have receiving := receiving_of_awaits before
    have same := accounted.total before
    rcases step.awaiting before after with ⟨op, rfl, demands⟩ | ⟨mode, other, unreceived⟩
    · have tasks := step.tasks accounted.programs receiving (by simp)
      simp only [tasks, same, demands, List.length_append]
      rfl
    · have tasks := step.tasks accounted.programs receiving unreceived
      rw [Label.demands_other other, same, tasks, mode, List.length_append]
      omega
  · rfl

theorem accounted_launch (host : Host) (w : World) (cfg : AppConfig) (dryRun : Bool)
    : Accounted 0 (launch host w cfg dryRun) := by
  refine ⟨programs_launch host w cfg dryRun, ?_, ?_⟩
  · simp only [launch]
    split
    · exact Nat.zero_le _
    · split <;> exact Nat.zero_le _
  · simp only [launch]
    split
    · simp [fail, Mode.awaits]
    · rename_i configured
      split
      · simp [fail, Mode.awaits]
      · intro awaits
        simp only [await, tell, World.report, scan, configured]
        rfl

/-- An operation of the awaited program waits for room when it is a send. -/
theorem Step.room {op : Op} (step : Step host e (.main op) e')
    : e.mode.demands = (Label.main op).sent
      ∧ (e.mode.demands ≠ [] → e.world.tasks.length < channelCapacity) := by
  cases step with
  | main step =>
      cases step with
      | scan mode served =>
          rw [mode, Mode.demands_scanning]
          exact ⟨rfl, served.room (by simp [Receiving, mode])⟩
      | flush mode served =>
          rw [mode, Mode.demands_flushing]
          exact ⟨rfl, served.room (by simp [Receiving, mode])⟩
  | worker alive step => cases step
  | dispatcher alive step => cases step
  | outside step => cases step

/-- A send is blocked as soon as the channel is full. -/
theorem deadlocked_of_full (awaits : e.mode.awaits = true) (demands : e.mode.demands ≠ [])
    (full : channelCapacity ≤ e.world.tasks.length)
    : Deadlocked host e := by
  refine ⟨awaits, demands, ?_, ?_⟩
  · intro op e' step
    exact absurd (step.room.2 demands) (Nat.not_lt_of_le full)
  · intro task e' step
    cases step with
    | main step =>
        cases step with
        | received mode => simp [mode, Mode.awaits] at awaits
    | worker alive step => cases step
    | dispatcher alive step => cases step
    | outside step => cases step

/-- A forced scan online. -/
theorem commandRunning_forceScan {faults : Fault → Prop} {answers : ReloadAnswers}
    (online : e.world.offline = false) (cfg : e.cfg = backupConfig)
    : e.commandRunning (.plain faults) answers .forceScan = e.announce.await .forced .nothing := by
  unfold commandRunning rescan ignoreOf
  rw [online, cfg]
  rfl

/-- The initial scan of a missing root has sent as many tasks as there are rows, and a forced one
comes to send the last of as many more.
-/
theorem forced_scan_demands {rows : Nat} (some : 0 < rows) (room : 2 * rows ≤ channelCapacity)
    : ∃ e,
        Reachable (.plain (fun _ => False))
          (launch (.plain (fun _ => False)) { disk := emptyDisk, db := manyRows rows } backupConfig
            false)
          e
        ∧ e.mode.awaits = true ∧ e.mode.demands ≠ []
        ∧ e.world.tasks.length + 1 = 2 * rows := by
  let host : Host := .plain (fun _ => False)
  let start := launch host { disk := emptyDisk, db := manyRows rows } backupConfig false
  have many : start.world.db.allPaths.length = rows := manyRows_length rows
  obtain ⟨first, fills, scans⟩ := @scan_fills (fun _ => False) start.world rfl rfl
  have filled : first.tasks.length = rows := by
    rw [fills.length, many]
    exact Nat.zero_add rows
  have scanned : Reachable host start _ :=
    runs_scan_among scans .start rfl id (by omega) (fun _ _ _ _ _ => rfl)
      (fun _ _ _ _ _ => trivial)
  have stands : first.shutdown = false := fills.running
  have online : first.offline = false := fills.online
  have returned := scanned.step (.main (.scanned rfl)) trivial
  rw [scanned_initial_ok rfl online] at returned
  have watching :=
    returned.step (.main (@MainStep.watching _ _ (.ok ()) rfl (fun _ _ => rfl))) trivial
  have asked :=
    watching.step
      (.main (@MainStep.command _ _ .forceScan {} rfl rfl stands (fun _ _ same => by cases same)))
      trivial
  rw [commandRunning_forceScan online rfl] at asked
  obtain ⟨e, reached, mode, disk, running, db, tasks⟩
      : ∃ e, Reachable host start e
          ∧ e.mode = .scanning .forced (scan ⟨backupConfig, false⟩ .nothing)
          ∧ e.world.disk = emptyDisk ∧ e.world.shutdown = false ∧ e.world.db = first.db
          ∧ e.world.tasks = first.tasks :=
    ⟨_, asked, rfl, fills.disk, stands, rfl, rfl⟩
  have again : e.world.db.allPaths.length = rows := by
    rw [db, fills.db]
    exact many
  obtain ⟨task, next, last, length, demands⟩ :=
    @scan_demands (fun _ => False) e.world disk running
      (List.ne_nil_of_length_pos (again ▸ some))
  rw [tasks, filled, again] at length
  have run : Reachable host start _ :=
    runs_scan_among demands reached mode id (by omega) (fun _ _ _ _ _ => rfl)
      (fun _ _ _ _ _ => trivial)
  refine ⟨_, run, rfl, by simp [Mode.demands], ?_⟩
  change last.tasks.length + 1 = 2 * rows
  omega

/-- In every state of every run, the awaited program is blocked on the channel exactly when
the channel has to take more tasks during the await than it has room for.
-/
theorem deadlocked_iff {host : Host} {w : World} {cfg : AppConfig} {dryRun : Bool} {total : Nat}
    {e : SyncEngine}
    (run : Runs host demanded anyStep 0 (launch host w cfg dryRun) total e)
    : ¬ Deadlocked host e ↔ (e.mode.awaits = true → total ≤ channelCapacity) := by
  have accounted : Accounted total e :=
    run.invariant Accounted (accounted_launch host w cfg dryRun)
      (fun total e label e' accounted step _ => accounted.step step)
  have bounded := accounted.bounded
  constructor
  · intro free awaits
    by_contra finished
    have same := accounted.total awaits
    have once := e.mode.demands_length
    have demands : e.mode.demands ≠ [] := by
      intro none
      rw [none, List.length_nil] at same
      omega
    exact free (deadlocked_of_full awaits demands (by omega))
  · intro fits dead
    have same := accounted.total dead.awaits
    have some := List.length_pos_of_ne_nil dead.demands
    have within := fits dead.awaits
    have room : e.world.tasks.length < channelCapacity := by omega
    have receiving := receiving_of_awaits dead.awaits
    -- with room in the channel the send that is demanded is served
    have served (task : Task)
        : e.Serves host (.send task) true { e.world with tasks := e.world.tasks ++ [task] } :=
      ⟨.inl ⟨rfl, rfl⟩, fun _ => ⟨rfl, room⟩, fun gone => absurd receiving gone⟩
    obtain ⟨task, ⟨site, next, mode⟩ | ⟨next, mode⟩⟩ := Mode.demands_cases dead.demands
    · exact dead.blocked _ _ (.main (.scan mode (served task)))
    · exact dead.blocked _ _ (.main (.flush mode (served task)))

/-- A forced scan that fills the channel to the last place is not deadlocked. -/
theorem full_channel_not_deadlocked
    : ∃ (total : Nat) (e : SyncEngine),
        Runs (.plain (fun _ => False)) demanded anyStep 0
          (launch (.plain (fun _ => False)) { disk := emptyDisk, db := manyRows 512 } backupConfig
            false)
          total e
        ∧ e.mode.demands ≠ [] ∧ e.world.tasks.length = 1023 ∧ total = channelCapacity
        ∧ ¬ Deadlocked (.plain (fun _ => False)) e := by
  obtain ⟨e, reached, awaits, demands, length⟩ := @forced_scan_demands 512 (by decide) (by decide)
  obtain ⟨total, run⟩ := reached.rewatch demanded 0
  have accounted : Accounted total e :=
    run.invariant Accounted (accounted_launch _ _ _ _)
      (fun total e label e' accounted step _ => accounted.step step)
  have one : e.mode.demands.length = 1 := by
    have least := List.length_pos_of_ne_nil demands
    have most := e.mode.demands_length
    omega
  have full : total = channelCapacity := by
    rw [accounted.total awaits, one]
    exact length
  exact ⟨total, e, run, demands, by omega, full, (deadlocked_iff run).mpr (fun _ => full.le)⟩

/-- A scan of a missing root over one row more than the channel has room for blocks. -/
theorem initial_scan_deadlocks
    : ¬ ∀ host w cfg dryRun e, Reachable host (launch host w cfg dryRun) e
          → ¬ Deadlocked host e := by
  intro free
  let host : Host := .plain (fun _ => False)
  let start :=
    launch host { disk := emptyDisk, db := manyRows (channelCapacity + 1) } backupConfig false
  have many : start.world.db.allPaths.length = channelCapacity + 1 := manyRows_length _
  obtain ⟨task, next, last, length, demands⟩ :=
    @scan_demands (fun _ => False) start.world rfl rfl
      (List.ne_nil_of_length_pos (by rw [many]; exact Nat.succ_pos _))
  have filled : last.tasks.length = channelCapacity := by
    rw [many] at length
    change last.tasks.length + 1 = 0 + _ at length
    omega
  have run : Reachable host start _ :=
    runs_scan_among demands .start rfl id (Nat.le_of_eq filled) (fun _ _ _ _ _ => rfl)
      (fun _ _ _ _ _ => trivial)
  exact free _ _ _ _ _ run (deadlocked_of_full rfl (by simp [Mode.demands])
    (Nat.le_of_eq filled.symm))

end SyncEngine

end SyncGDrive
