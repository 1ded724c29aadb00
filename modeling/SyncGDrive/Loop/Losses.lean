import SyncGDrive.Loop.Debts
import SyncGDrive.Loop.Ledger

/-! Whether tasks are lost: what the ledger says of them after a run, and what becomes of a
deletion that the provider accepts or refuses.
-/

namespace SyncGDrive

open Program

-----------------------------------------------------------------------------------------
-- One deletion
-----------------------------------------------------------------------------------------

/-- The remote holds one file. -/
def oneFile : RemoteIndex := ⟨[⟨"a", "1", "root", "", 1, 0⟩], []⟩

/-- The listing finds that file, and deletions are answered so. -/
def Environment.deleting (deleted : Except Error Unit) : Environment where
  md5 _ := ""
  provider
    | .listRemote _, _, remote, answer, after => answer = .ok oneFile ∧ after = remote
    | .delete _, _, remote, answer, after => answer = deleted ∧ after = remote
    | _, _, remote, _, after => after = remote
  faults _ := False

def Host.deleting (deleted : Except Error Unit) : Host where
  env := .deleting deleted
  fromPatterns _ := .ok .nothing
  watch _ answer := answer = .ok ()

/-- The file that is missing locally. -/
def missingFile : Path := backupPair.localPath.join "a"

theorem no_metadata (env : Environment) {w : World} (disk : w.disk = emptyDisk)
    : env.sem (.metadata missingFile) w (.error (.msg "No such file or directory")) w := by
  refine ⟨rfl, ?_⟩
  rw [disk]
  exact ⟨_, rfl⟩

/-- What the scan has found when it comes to send. -/
def World.orphaned (w : World) : World :=
  { ((w.surveyed.report (.storeTotals 0 0)).report (.addTotals 1 0)) with
    pathCache := w.pathCache.insert "a" "1" "root" }

/-- A scan of the missing root orders the file deleted. -/
theorem scan_orphans {deleted : Except Error Unit} {w : World} (disk : w.disk = emptyDisk)
    (rows : w.db.allPaths = []) (running : w.shutdown = false)
    : ∃ next,
        Reaches ((Environment.deleting deleted).among Op.Unticketed)
          (scan ⟨backupConfig, false⟩ .nothing) w
          (.call (Op.send (.delete missingFile)) next) w.orphaned
        ∧ next true = .done (.ok ()) := by
  have walk : w.disk.walkDir backupPair.localPath IgnoreMatcher.nothing.keeps = [] := by
    rw [disk]
    rfl
  have absent (state : World) (same : state.disk = w.disk)
      : (Environment.deleting deleted).sem (.metadata missingFile) state
          (.error (.msg "No such file or directory")) state :=
    no_metadata _ (same.trans disk)
  apply Exists.intro
  apply And.intro
  · refine reaches_among () _ rfl trivial ?_
    refine reaches_among (.ok oneFile) _ ⟨_, ⟨rfl, rfl⟩, rfl⟩ trivial ?_
    refine reaches_among () _ rfl trivial ?_
    refine reaches_among () _ rfl trivial ?_
    refine reaches_among [] _ ⟨walk.symm, rfl⟩ trivial ?_
    refine reaches_among () _ rfl trivial ?_
    refine reaches_among (.ok []) _ ⟨[], ?_, .inl ⟨rfl, rfl⟩⟩ trivial ?_
    · exact (show _ = _ from rows) ▸ .refl _
    refine reaches_among () _ rfl trivial ?_
    refine reaches_among false _ ⟨.inl rfl, running.symm⟩ trivial ?_
    refine reaches_among _ _ (absent _ rfl) trivial ?_
    refine reaches_among _ _ (absent _ rfl) trivial ?_
    exact reaches_among () _ rfl trivial .refl
  · rfl

/-- The provider refuses the deletion, three times. -/
theorem handle_refused {error : Error} {w : World} {entry : CacheEntry}
    (disk : w.disk = emptyDisk) (known : w.pathCache.lookup "a" = some entry)
    (running : w.shutdown = false)
    : Reaches (Environment.deleting (.error error)).sem
        (handle ⟨backupConfig, false⟩ .nothing (.delete missingFile)) w
          (.done (.error error)) w := by
  refine reaches_call _ _ (no_metadata _ disk) ?_
  refine reaches_call (some entry) _ ⟨known.symm, rfl⟩ ?_
  refine reaches_call false _ ⟨.inl rfl, running.symm⟩ ?_
  refine reaches_call (.error error) w ⟨w.remote, ⟨rfl, rfl⟩, rfl⟩ ?_
  refine reaches_call false _ ⟨.inl rfl, .inl running.symm⟩ ?_
  refine reaches_call false _ ⟨.inl rfl, running.symm⟩ ?_
  refine reaches_call (.error error) w ⟨w.remote, ⟨rfl, rfl⟩, rfl⟩ ?_
  refine reaches_call false _ ⟨.inl rfl, .inl running.symm⟩ ?_
  refine reaches_call false _ ⟨.inl rfl, running.symm⟩ ?_
  exact reaches_call (.error error) w ⟨w.remote, ⟨rfl, rfl⟩, rfl⟩ .refl

/-- The provider accepts it. -/
theorem handle_deletes {w : World} {entry : CacheEntry}
    (disk : w.disk = emptyDisk) (known : w.pathCache.lookup "a" = some entry)
    (running : w.shutdown = false)
    : Reaches (Environment.deleting (.ok ())).sem
        (handle ⟨backupConfig, false⟩ .nothing (.delete missingFile)) w (.done (.ok ()))
        { w with pathCache := w.pathCache.removeCascades "a", db := w.db.delete "a" } := by
  refine reaches_call _ _ (no_metadata _ disk) ?_
  refine reaches_call (some entry) _ ⟨known.symm, rfl⟩ ?_
  refine reaches_call false _ ⟨.inl rfl, running.symm⟩ ?_
  refine reaches_call (.ok ()) w ⟨w.remote, ⟨rfl, rfl⟩, rfl⟩ ?_
  refine reaches_call () _ rfl ?_
  exact reaches_call (.ok ()) _ (.inl ⟨rfl, rfl⟩) .refl

namespace SyncEngine

/-- The worker that handles the deletion. -/
def deletionWorker : Worker :=
  ⟨.delete missingFile, ⟨backupConfig, false⟩, [],
    .handling (handle ⟨backupConfig, false⟩ .nothing (.delete missingFile))⟩

/-- The ledger once the deletion is in flight. -/
def oneInFlight : Ledger :=
  { next := 1
    inFlight := [⟨0, .delete missingFile⟩]
    received := [⟨0, .delete missingFile⟩] }

/-- The engine once a worker handles the deletion that the initial scan has ordered. -/
theorem runs_deletion (deleted : Except Error Unit)
    : ∃ e,
        Runs (.deleting deleted) tickets HandlesTasks {}
          (launch (.deleting deleted) { disk := emptyDisk } backupConfig false) oneInFlight e
        ∧ e.workers = [deletionWorker]
        ∧ e.mode = .selecting ∧ e.world.disk = emptyDisk
        ∧ e.world.pathCache.lookup "a" = some ⟨"1", "root"⟩ ∧ e.world.shutdown = false
        ∧ e.world.db.getOfflineTasks = [] := by
  let host : Host := .deleting deleted
  let start := launch host { disk := emptyDisk } backupConfig false
  have launched : Runs host tickets HandlesTasks {} start {} start := .start
  obtain ⟨next, path, ends⟩ := @scan_orphans deleted start.world rfl rfl rfl
  have found : Runs host tickets HandlesTasks {} start {} _ :=
    runs_scan_among path launched rfl id (Nat.zero_le _) (by
      intro ledger e op e' kept
      cases op <;> first | rfl | cases kept)
      (fun _ _ _ _ _ => ⟨by rintro _ _ ⟨⟩, by rintro _ ⟨⟩, by rintro ⟨⟩⟩)
  have sent := found.step
    (.main (@MainStep.scan _ _ .initial (.send (.delete missingFile)) next true _ rfl
      ⟨.inl ⟨rfl, rfl⟩, fun _ => ⟨rfl, show 0 < channelCapacity by decide⟩,
        fun gone => absurd trivial gone⟩))
    ⟨by rintro _ _ ⟨⟩, by rintro _ ⟨⟩, by rintro ⟨⟩⟩
  rw [ends] at sent
  have scanned := sent.step (.main (.scanned rfl)) ⟨by rintro _ _ ⟨⟩, by rintro _ ⟨⟩, by rintro ⟨⟩⟩
  have watching := scanned.step (.main (@MainStep.watching _ _ (.ok ()) rfl (fun _ _ => rfl)))
    ⟨by rintro _ _ ⟨⟩, by rintro _ ⟨⟩, by rintro ⟨⟩⟩
  have received := watching.step (.main (.received rfl rfl rfl rfl))
    ⟨by rintro _ _ ⟨⟩, by rintro _ ⟨⟩, by rintro ⟨⟩⟩
  have spawned := received.step (.main (.spawned rfl (show 0 < 4 by decide)))
    ⟨by rintro _ _ ⟨⟩, by rintro _ ⟨⟩, by rintro ⟨⟩⟩
  have begun := spawned.step (.worker (by rintro ⟨⟩) (@WorkerStep.begun _ _ 0 _ _ rfl rfl rfl rfl))
    ⟨by rintro _ _ ⟨⟩, by rintro _ ⟨⟩, by rintro ⟨⟩⟩
  exact ⟨_, begun, rfl, rfl, rfl, rfl, rfl, rfl⟩

-----------------------------------------------------------------------------------------
-- No task is lost
-----------------------------------------------------------------------------------------

/-- The queue holds a row that stands for the task. -/
def Recorded (e : SyncEngine) (task : Task) : Prop :=
  ∃ row ∈ e.world.db.getOfflineTasks, row.task? e.currentLocalRoot = some task

/-- The task of the ticket has been handled with success, is in the channel or with a worker,
or is recorded in the queue.
-/
def Accounts (ledger : Ledger) (e : SyncEngine) (ticket : Ticket) : Prop :=
  ledger.Somewhere ticket ∨ e.Recorded ticket.task

/-- No task is lost. The first three fields say that what the ledger follows is the channel,
the task that waits for a permit, and the workers.
-/
structure LosesNothing (ledger : Ledger) (e : SyncEngine) : Prop where
  waiting : ledger.waiting.map Ticket.task = e.world.tasks
  held : ledger.held.map Ticket.task = e.mode.held
  inFlight : ledger.inFlight.map Ticket.task = e.workers.map Worker.task
  received : ∀ ticket ∈ ledger.received, Accounts ledger e ticket
  readRows
    : ∀ id ∈ ledger.readRows,
        id ∈ e.rowIds ∨ ∃ ticket, (id, ticket) ∈ ledger.sentRows ∧ Accounts ledger e ticket

/-- A row is removed only once its operation has succeeded, and a task whose handling fails is
recorded again.
-/
structure RecordsFailures (ledger : Ledger) (e : SyncEngine) : Prop where
  removed
    : ∀ id ∈ ledger.removedRows, ∃ ticket, (id, ticket) ∈ ledger.sentRows
        ∧ ticket ∈ ledger.succeeded
  recorded : ∀ task ∈ ledger.failed, e.Recorded task

/-- In every run in which every handling succeeds no task is lost, and as long as no flush has
read a row with a task, no row is removed too early.
-/
theorem no_task_lost {host : Host} {w : World} {cfg : AppConfig} {dryRun : Bool}
    {ledger : Ledger} {e : SyncEngine}
    (run : Runs host tickets HandlesTasks {} (launch host w cfg dryRun) ledger e)
    : LosesNothing ledger e ∧ (ledger.readRows = [] → RecordsFailures ledger e) := by
  have tracks : Tracks ledger e :=
    run.invariant Tracks (tracks_launch host w cfg dryRun)
      (fun ledger e label e' tracks step fine => tracks.step step fine)
  refine ⟨⟨tracks.waiting, tracks.held, tracks.inFlight, ?_, ?_⟩, ?_⟩
  · exact fun ticket got => .inl (tracks.received ticket got)
  · intro id read
    rcases tracks.readRows id read with recorded | ⟨ticket, sent⟩
    · exact .inl recorded
    · exact .inr ⟨ticket, sent, .inl (tracks.sentRows _ sent)⟩
  · intro unread
    refine ⟨fun id removed => ?_, fun task failed => ?_⟩
    · have read := tracks.removedRows removed
      rw [unread] at read
      cases read
    · rw [tracks.failed] at failed
      cases failed

/-- The deletion succeeds, and is accounted for. -/
theorem deletion_accounted
    : ∃ ledger e,
        (⟨0, .delete missingFile⟩ ∈ ledger.received ∧ LosesNothing ledger e)
        ∧ (ledger.readRows = [] → RecordsFailures ledger e) := by
  obtain ⟨e, run, workers, mode, disk, known, running, -⟩ := runs_deletion (.ok ())
  have found : e.workers[0]? = some deletionWorker := by rw [workers]; rfl
  have handled :=
    runs_worker (handle_deletes disk known running) run found rfl uses_handle
      (by simp [mode]) (fun _ _ _ _ => rfl)
      (fun _ _ _ _ => ⟨by rintro _ _ ⟨⟩, by rintro _ ⟨⟩, by rintro ⟨⟩⟩)
  simp only [workers] at handled
  have ended := handled.step (.worker (by simp [mode]) (@WorkerStep.handled _ _ 0 _ _ rfl rfl))
    ⟨by rintro _ _ ⟨⟩; exact ⟨rfl, rfl⟩, by rintro _ ⟨⟩, by rintro ⟨⟩⟩
  obtain ⟨nothing, records⟩ := no_task_lost ended
  exact ⟨_, _, ⟨List.mem_singleton_self _, nothing⟩, records⟩

theorem refused_isShutdownErr : isShutdownErr (.msg "503") = false := by
  decide +kernel

/-- The provider refuses the deletion, and nothing remembers it. -/
theorem deletion_lost
    : ¬ ∀ host w cfg dryRun ledger e,
          Runs host tickets anyStep {} (launch host w cfg dryRun) ledger e
          → LosesNothing ledger e ∧ RecordsFailures ledger e := by
  intro settled
  obtain ⟨e, run, workers, mode, disk, known, running, queue⟩ := runs_deletion (.error (.msg "503"))
  have found : e.workers[0]? = some deletionWorker := by rw [workers]; rfl
  have handled :=
    runs_worker (handle_refused disk known running) (run.mono (fun _ _ _ _ _ => trivial)) found rfl
      uses_handle (by simp [mode]) (fun _ _ _ _ => rfl) (fun _ _ _ _ => trivial)
  simp only [workers] at handled
  have ended := handled.step (.worker (by simp [mode]) (@WorkerStep.handled _ _ 0 _ _ rfl rfl))
    trivial
  obtain ⟨row, recorded, -⟩ :=
    (settled _ _ _ _ _ _ ended).2.recorded (.delete missingFile)
      (by simp [tickets, Ledger.retire, refused_isShutdownErr, oneInFlight])
  have empty (e : SyncEngine) (index : Nat) (result : Except Error Unit)
      : (e.handled index result).world.db = e.world.db := by
    cases result with
    | ok value =>
        simp only [SyncEngine.handled, retire]
        split <;> rfl
    | error error =>
        simp only [SyncEngine.handled, retire]
        split <;> split <;> rfl
  rw [empty] at recorded
  rw [queue] at recorded
  cases recorded

end SyncEngine

end SyncGDrive
