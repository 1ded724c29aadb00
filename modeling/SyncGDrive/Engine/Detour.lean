import SyncGDrive.Engine.Dispatch
import SyncGDrive.Engine.Offline
import SyncGDrive.Program.Runs

/-! The detour through the offline queue: what is recorded offline and flushed later, in as many
attempts as it takes, is what the dispatcher would have sent online.
-/

namespace SyncGDrive

open Program

-----------------------------------------------------------------------------------------
-- What a dispatcher passes on
-----------------------------------------------------------------------------------------

/-- A path whose delay has elapsed, or an event that does not wait. -/
inductive Output
  | modified (path : Path)
  | deleted (path : Path)
  | renamed (source target : Path)

/-- How the dispatcher passes it on. -/
def passOn (localRoot : Path) : Output → Eff Bool
  | .modified path => dispatchReady localRoot path
  | .deleted path => dispatchEvent localRoot (.deleted path)
  | .renamed source target => dispatchEvent localRoot (.renamed source target)

/-- Outputs passed on in turn, until the channel is closed. -/
def passAll (localRoot : Path) : List Output → Eff Bool
  | [] => return true
  | output :: outputs => do
      if ← passOn localRoot output then passAll localRoot outputs else return false

/-- The task that the online branch sends. -/
def Output.task : Output → Task
  | .modified path => .syncFile path
  | .deleted path => .delete path
  | .renamed source target => .rename source target

/-- How a path comes back from its key: as it was, but the root with a separator at its end. To
`PathBuf` these are equal.
-/
def Path.rejoined (root path : Path) : Path := if path = root then root.join "" else path

/-- The task about the paths that come back. -/
def Task.rejoined (root : Path) : Task → Task
  | .syncFile path => .syncFile (Path.rejoined root path)
  | .delete path => .delete (Path.rejoined root path)
  | .rename source target => .rename (Path.rejoined root source) (Path.rejoined root target)

/-- A path in UTF-8 below the root, or the root itself. -/
def UnderRoot (root path : Path) : Prop := ∃ rel, path = root ++ rel ∧ Utf8Path rel

/-- All paths of the output are such paths. -/
def Output.Under (root : Path) : Output → Prop
  | .modified path | .deleted path => UnderRoot root path
  | .renamed source target => UnderRoot root source ∧ UnderRoot root target

-----------------------------------------------------------------------------------------
-- Recording and flushing in turn
-----------------------------------------------------------------------------------------

inductive QueueLabel
  | passed (output : Output)
  | flushed
  | elsewhere

/-- Offline the dispatcher passes outputs on, and now and then the queue is flushed, as far as the
channel accepts tasks. Anything else leaves the queue alone.
-/
inductive QueueStep (env : Environment) (root : Path) : World → QueueLabel → World → Prop
  | passed {w w' : World} {output : Output} {result : Except Error Bool}
      (offline : w.offline = true)
    (run : Reaches env.sem (passOn root output) w (.done result) w')
    : QueueStep env root w (.passed output) w'
  | flushed {w w' : World} {result : Except Error Unit}
    (run : Reaches env.sem (flushQueue root) w (.done result) w')
    : QueueStep env root w .flushed w'
  | elsewhere {w w' : World} (queue : w'.db.offlineQueue = w.db.offlineQueue)
    : QueueStep env root w .elsewhere w'

/-- What has been passed on offline, the tasks that the flushes have sent, and all rows that the
queue has held.
-/
structure QueueLog where
  outputs : List Output := []
  sent : List Task := []
  rows : List OfflineTask := []

/-- What a step has appended to a list. -/
def appended {α : Type} (before after : List α) : List α := after.drop before.length

/-- The log of a run. -/
def queueLog : Watch World QueueLabel QueueLog
  | log, w, .passed output, w' =>
      { log with
        outputs := log.outputs ++ [output]
        rows := log.rows ++ appended w.db.getOfflineTasks w'.db.getOfflineTasks }
  | log, w, .flushed, w' => { log with sent := log.sent ++ appended w.tasks w'.tasks }
  | log, _, .elsewhere, _ => log

/-- The outputs are about paths under the root. -/
def PassesUnder (root : Path) : Discipline World QueueLabel QueueLog := fun _ _ label _ =>
  ∀ output, label = .passed output → output.Under root

/-- The tasks that rows stand for; an unknown action stands for none. -/
def queuedTasks (root : Path) (rows : List OfflineTask) : List Task :=
  rows.filterMap (OfflineTask.task? root)

@[simp] theorem appended_append {α : Type} (before more : List α)
    : appended before (before ++ more) = more := by
  simp [appended]

-----------------------------------------------------------------------------------------
-- One output
-----------------------------------------------------------------------------------------

section Step

variable {env : Environment} {root : Path} {w w' : World}

/-- A task has been sent, unless the channel is closed. -/
structure Offered (env : Environment) (task : Task) (w : World) (result : Except Error Bool)
    (last : World)
    : Prop where
  offline : last.offline = w.offline
  db : last.db = w.db
  tasks
    : result = .ok true ∧ last.tasks = w.tasks ++ [task]
      ∨ result = .ok false ∧ env.faults .channelClosed ∧ last.tasks = w.tasks

theorem always_counted {files bytes : Nat} {task : Task}
    : Always env.sem (fun _ => True)
        (do
          ask (.report (.addTotals files bytes))
          ask (.send task))
        w (Offered env task w) := by
  refine ⟨trivial, ?_⟩
  rintro _ _ rfl
  refine ⟨trivial, ?_⟩
  rintro _ _ (⟨rfl, rfl⟩ | ⟨closed, rfl, rfl⟩)
  · exact ⟨trivial, rfl, rfl, .inl ⟨rfl, rfl⟩⟩
  · exact ⟨trivial, rfl, rfl, .inr ⟨rfl, closed, rfl⟩⟩

/-- Online an output is sent. -/
theorem always_passOn_online {output : Output} (online : w.offline = false)
    : Always env.sem (fun _ => True) (passOn root output) w (Offered env output.task w) := by
  cases output with
  | modified path =>
      refine ⟨trivial, ?_⟩
      rintro _ _ ⟨rfl, rfl⟩
      rw [online]
      refine ⟨trivial, ?_⟩
      rintro answer _ ⟨rfl, -⟩
      cases answer <;> exact always_counted
  | deleted path =>
      refine ⟨trivial, ?_⟩
      rintro _ _ ⟨rfl, rfl⟩
      rw [online]
      exact always_counted
  | renamed source target =>
      refine ⟨trivial, ?_⟩
      rintro _ _ ⟨rfl, rfl⟩
      rw [online]
      exact always_counted

/-- A row has been recorded, unless SQLite fails. -/
structure Noted (env : Environment) (action path : String) (extra : Option String) (w : World)
    (result : Except Error Bool) (last : World)
    : Prop where
  result : result = .ok true
  tasks : last.tasks = w.tasks
  db : last.db = w.db.pushOfflineTask action path extra ∨ env.faults .database ∧ last.db = w.db

theorem always_push {action path : String} {extra : Option String}
    : Always env.sem (fun _ => True)
        (do
          let _ ← ask (.pushOfflineTask action path extra)
          return true)
        w (Noted env action path extra w) := by
  refine ⟨trivial, ?_⟩
  rintro _ _ (⟨rfl, rfl⟩ | ⟨fails, -, rfl⟩)
  · exact ⟨trivial, rfl, rfl, .inl rfl⟩
  · exact ⟨trivial, rfl, rfl, .inr ⟨fails, rfl⟩⟩

/-- A path that is recorded enters the queue, if it is below the root. -/
theorem always_recordOffline {action : String} {path : Path}
    : Always env.sem (fun _ => True) (recordOffline root action path) w
        (fun result last =>
          (∃ rel,
            Path.stripPrefix root path = some rel
              ∧ Noted env action (relKey rel) none w result last)
          ∨ Path.stripPrefix root path = none ∧ result = .ok true ∧ last = w) := by
  unfold recordOffline
  split
  · rename_i rel below
    exact always_push.mono (fun _ _ _ noted => .inl ⟨rel, below, noted⟩)
  · rename_i outside
    exact ⟨trivial, .inr ⟨outside, rfl, rfl⟩⟩

/-- The row that stands for an output, and no other. -/
def Output.Row (root : Path) (action path : String) (extra : Option String) : Output → Prop
  | .modified file =>
      action = "sync" ∧ extra = none
      ∧ ∃ rel, Path.stripPrefix root file = some rel ∧ path = relKey rel
  | .deleted file =>
      action = "delete" ∧ extra = none
      ∧ ∃ rel, Path.stripPrefix root file = some rel ∧ path = relKey rel
  | .renamed source target =>
      action = "rename"
      ∧ ∃ sourceRel targetRel,
          Path.stripPrefix root source = some sourceRel
          ∧ Path.stripPrefix root target = some targetRel ∧ path = relKey targetRel
          ∧ extra = some (relKey sourceRel)

/-- Offline an output is recorded. -/
theorem always_passOn_offline {output : Output} (offline : w.offline = true)
    : Always env.sem (fun _ => True) (passOn root output) w
        (fun result last =>
          (∃ action path extra,
            output.Row root action path extra ∧ Noted env action path extra w result last)
          ∨ (∀ action path extra, ¬ output.Row root action path extra) ∧ result = .ok true
            ∧ last = w) := by
  cases output with
  | modified path =>
      refine ⟨trivial, ?_⟩
      rintro _ _ ⟨rfl, rfl⟩
      rw [offline]
      refine always_recordOffline.mono ?_
      rintro result last - (⟨rel, below, noted⟩ | ⟨outside, same⟩)
      · exact .inl ⟨_, _, _, ⟨rfl, rfl, rel, below, rfl⟩, noted⟩
      · refine .inr ⟨?_, same⟩
        rintro _ _ _ ⟨-, -, rel, below, -⟩
        rw [outside] at below
        cases below
  | deleted path =>
      refine ⟨trivial, ?_⟩
      rintro _ _ ⟨rfl, rfl⟩
      rw [offline]
      refine always_recordOffline.mono ?_
      rintro result last - (⟨rel, below, noted⟩ | ⟨outside, same⟩)
      · exact .inl ⟨_, _, _, ⟨rfl, rfl, rel, below, rfl⟩, noted⟩
      · refine .inr ⟨?_, same⟩
        rintro _ _ _ ⟨-, -, rel, below, -⟩
        rw [outside] at below
        cases below
  | renamed source target =>
      refine ⟨trivial, ?_⟩
      rintro _ _ ⟨rfl, rfl⟩
      rw [offline]
      cases fromRoot : Path.stripPrefix root source with
      | none =>
          refine ⟨trivial, .inr ⟨?_, rfl, rfl⟩⟩
          rintro _ _ _ ⟨-, sourceRel, targetRel, below, -, -⟩
          rw [fromRoot] at below
          cases below
      | some sourceRel =>
          cases toRoot : Path.stripPrefix root target with
          | none =>
              refine ⟨trivial, .inr ⟨?_, rfl, rfl⟩⟩
              rintro _ _ _ ⟨-, sourceRel, targetRel, -, below, -⟩
              rw [toRoot] at below
              cases below
          | some targetRel =>
              exact always_push.mono (fun _ _ _ noted =>
                .inl ⟨_, _, _, ⟨rfl, sourceRel, targetRel, fromRoot, toRoot, rfl, rfl⟩, noted⟩)

theorem UnderRoot.stripPrefix {path : Path} (under : UnderRoot root path)
    : ∃ rel, Path.stripPrefix root path = some rel := by
  obtain ⟨rel, rfl, names⟩ := under
  exact ⟨rel, names.clean.stripPrefix root⟩

/-- Below the root a key leads back to its path. -/
theorem UnderRoot.join {path rel : Path} (under : UnderRoot root path)
    (below : Path.stripPrefix root path = some rel)
    : root.join (relKey rel) = Path.rejoined root path := by
  obtain ⟨rel', rfl, names⟩ := under
  rw [names.clean.stripPrefix] at below
  obtain rfl := Option.some.inj below
  by_cases top : rel' = []
  · simp [top, Path.rejoined]
  · simp [names.join_relKey root top, Path.rejoined, top]

/-- A row stands for its output. -/
theorem Output.Row.task {output : Output} {action path : String} {extra : Option String}
    (row : output.Row root action path extra) (under : output.Under root) (id : Nat)
    : OfflineTask.task? root ⟨id, action, path, extra⟩ = some (output.task.rejoined root) := by
  cases output with
  | modified file =>
      obtain ⟨rfl, rfl, rel, below, rfl⟩ := row
      simp [OfflineTask.task?, Output.task, Task.rejoined, under.join below]
  | deleted file =>
      obtain ⟨rfl, rfl, rel, below, rfl⟩ := row
      simp [OfflineTask.task?, Output.task, Task.rejoined, under.join below]
  | renamed source target =>
      obtain ⟨rfl, sourceRel, targetRel, fromRoot, toRoot, rfl, rfl⟩ := row
      simp [OfflineTask.task?, Output.task, Task.rejoined, under.1.join fromRoot,
        under.2.join toRoot]

/-- An output under the root has a row. -/
theorem Output.Under.row {output : Output} (under : output.Under root)
    : ∃ action path extra, output.Row root action path extra := by
  cases output with
  | modified file =>
      obtain ⟨rel, below⟩ := UnderRoot.stripPrefix under
      exact ⟨_, _, _, rfl, rfl, rel, below, rfl⟩
  | deleted file =>
      obtain ⟨rel, below⟩ := UnderRoot.stripPrefix under
      exact ⟨_, _, _, rfl, rfl, rel, below, rfl⟩
  | renamed source target =>
      obtain ⟨sourceRel, fromRoot⟩ := under.1.stripPrefix
      obtain ⟨targetRel, toRoot⟩ := under.2.stripPrefix
      exact ⟨_, _, _, rfl, sourceRel, targetRel, fromRoot, toRoot, rfl, rfl⟩

/-- Offline it is recorded, as a row that stands for the same task. -/
theorem passOn_offline {output : Output} {result : Except Error Bool} (offline : w.offline = true)
    (reliable : ¬ env.faults .database) (under : output.Under root)
    (run : Reaches env.sem (passOn root output) w (.done result) w')
    : ∃ action path extra,
        w'.db = w.db.pushOfflineTask action path extra
        ∧ ∀ id,
            OfflineTask.task? root ⟨id, action, path, extra⟩
              = some (output.task.rejoined root) := by
  rcases ((always_passOn_offline offline).reaches run).2 with
    ⟨action, path, extra, row, noted⟩ | ⟨none, -⟩
  · refine ⟨action, path, extra, ?_, row.task under⟩
    exact noted.db.resolve_right (fun fails => reliable fails.1)
  · obtain ⟨action, path, extra, row⟩ := under.row
    exact absurd row (none _ _ _)

-----------------------------------------------------------------------------------------
-- One flush
-----------------------------------------------------------------------------------------

@[simp] theorem queuedTasks_append (first second : List OfflineTask)
    : queuedTasks root (first ++ second) = queuedTasks root first ++ queuedTasks root second :=
  List.filterMap_append

/-- No row of these stands for a task. -/
theorem queuedTasks_eq_nil {rows : List OfflineTask}
    : queuedTasks root rows = [] ↔ ∀ row ∈ rows, row.task? root = none :=
  List.filterMap_eq_nil_iff

/-- A flush gets through some of the rows: it sends their tasks in order and removes the rows
that stand for one. By induction on the rows.
-/
theorem always_flushRows (reliable : ¬ env.faults .database) (rows : List OfflineTask)
    : Always env.sem (fun _ => True) (flushRows root rows) w
        (fun _ last =>
          ∃ passed rest,
            rows = passed ++ rest ∧ (rest = [] ∨ env.faults .channelClosed)
            ∧ last.tasks = w.tasks ++ queuedTasks root passed
            ∧ last.db.getOfflineTasks
              = w.db.getOfflineTasks.filter (fun row =>
                  ∀ sent ∈ passed, (sent.task? root).isSome → row.id ≠ sent.id)) := by
  induction rows generalizing w with
  | nil =>
      refine ⟨trivial, [], [], rfl, .inl rfl, ?_, ?_⟩
      · simp [queuedTasks]
      · simp
  | cons row rows ih =>
      simp only [flushRows]
      split
      · rename_i unknown
        refine ih.mono ?_
        rintro _ last - ⟨passed, rest, rfl, finished, tasks, queue⟩
        refine ⟨row :: passed, rest, rfl, finished, ?_, ?_⟩
        · simpa [queuedTasks, unknown] using tasks
        · simpa [unknown] using queue
      · rename_i task stands
        refine ⟨trivial, ?_⟩
        rintro _ _ (⟨rfl, rfl⟩ | ⟨closed, rfl, rfl⟩)
        · refine ⟨trivial, ?_⟩
          rintro _ _ (⟨rfl, rfl⟩ | ⟨fails, -⟩)
          · refine ih.mono ?_
            rintro _ last - ⟨passed, rest, rfl, finished, tasks, queue⟩
            refine ⟨row :: passed, rest, rfl, finished, ?_, ?_⟩
            · simpa [queuedTasks, stands] using tasks
            · simp only [Database.getOfflineTasks, Database.removeOfflineTask, OfflineQueue.remove,
                List.filter_filter] at queue ⊢
              rw [queue]
              refine List.filter_congr fun other _ => ?_
              simp [stands, Bool.and_comm]
          · exact absurd fails reliable
        · refine ⟨trivial, [], row :: rows, rfl, .inr closed, ?_, ?_⟩
          · simp [queuedTasks]
          · simp

/-- A queue holds each identifier once. -/
theorem id_inj {rows : List OfflineTask} {first second : OfflineTask}
    (ascending : rows.Pairwise (fun earlier later => earlier.id < later.id))
    (inFirst : first ∈ rows) (inSecond : second ∈ rows) (same : first.id = second.id)
    : first = second := by
  have distinct : (rows.map OfflineTask.id).Nodup :=
    (List.pairwise_map.mpr ascending).imp (fun less => Nat.ne_of_lt less)
  exact List.inj_on_of_nodup_map distinct inFirst inSecond same

/-- The whole queue is flushed up to some row: what is left are the rows before it that stand for
no task, and the rows from there on.
-/
theorem flushQueue_passes {result : Except Error Unit} (reliable : ¬ env.faults .database)
    (run : Reaches env.sem (flushQueue root) w (.done result) w')
    : ∃ passed rest,
        w.db.getOfflineTasks = passed ++ rest ∧ (rest = [] ∨ env.faults .channelClosed)
        ∧ w'.tasks = w.tasks ++ queuedTasks root passed
        ∧ w'.db.getOfflineTasks
          = passed.filter (fun row => (row.task? root).isNone) ++ rest := by
  have always
      : Always env.sem (fun _ => True) (flushQueue root) w
          (fun _ last =>
            ∃ passed rest,
              w.db.getOfflineTasks = passed ++ rest ∧ (rest = [] ∨ env.faults .channelClosed)
              ∧ last.tasks = w.tasks ++ queuedTasks root passed
              ∧ last.db.getOfflineTasks
                = w.db.getOfflineTasks.filter (fun row =>
                    ∀ sent ∈ passed, (sent.task? root).isSome → row.id ≠ sent.id)) := by
    refine ⟨trivial, ?_⟩
    rintro _ _ (⟨rfl, rfl⟩ | ⟨fails, -⟩)
    · exact always_flushRows reliable _
    · exact absurd fails reliable
  obtain ⟨passed, rest, split, finished, tasks, queue⟩ := (always.reaches run).2
  refine ⟨passed, rest, split, finished, tasks, ?_⟩
  have ascending : (passed ++ rest).Pairwise (fun earlier later => earlier.id < later.id) :=
    split ▸ w.db.offlineQueue.ascending
  obtain ⟨earlier, -, across⟩ := List.pairwise_append.mp ascending
  rw [queue, split, List.filter_append]
  congr 1
  · refine List.filter_congr fun row member => ?_
    rw [Bool.eq_iff_iff, decide_eq_true_eq, Option.isNone_iff_eq_none]
    constructor
    · intro kept
      by_contra stands
      exact kept row member (Option.isSome_iff_ne_none.mpr stands) rfl
    · intro unknown sent inPassed stands same
      have row_eq : row = sent := id_inj earlier member inPassed same
      rw [← row_eq, unknown] at stands
      cases stands
  · refine List.filter_eq_self.mpr fun row member => ?_
    simp only [decide_eq_true_eq]
    intro sent inPassed _
    exact Nat.ne_of_gt (across sent inPassed row member)

-----------------------------------------------------------------------------------------
-- Many flushes
-----------------------------------------------------------------------------------------

/-- The rows up to some point have been sent, and the rest still waits; a row that stands for no
task stays.
-/
structure SentUpTo (root : Path) (log : QueueLog) (w : World) (front back : List OfflineTask)
    : Prop where
  rows : log.rows = front ++ back
  sent : log.sent = queuedTasks root front
  queue : w.db.getOfflineTasks = front.filter (fun row => (row.task? root).isNone) ++ back

/-- What is left behind has nothing to send. -/
theorem queuedTasks_left (rows : List OfflineTask)
    : queuedTasks root (rows.filter (fun row => (row.task? root).isNone)) = [] := by
  rw [queuedTasks_eq_nil]
  intro row member
  simpa using (List.mem_filter.mp member).2

/-- A flush moves that point on. -/
theorem SentUpTo.flushed {log : QueueLog} {front back : List OfflineTask}
    {result : Except Error Unit} (sentUpTo : SentUpTo root log w front back)
    (reliable : ¬ env.faults .database)
    (run : Reaches env.sem (flushQueue root) w (.done result) w')
    : ∃ more rest,
        back = more ++ rest ∧ (rest = [] ∨ env.faults .channelClosed)
        ∧ w'.tasks = w.tasks ++ queuedTasks root more
        ∧ SentUpTo root { log with sent := log.sent ++ queuedTasks root more } w' (front ++ more)
            rest := by
  obtain ⟨passed, rest, split, finished, tasks, queue⟩ := flushQueue_passes reliable run
  rw [sentUpTo.queue] at split
  rcases List.append_eq_append_iff.mp split with ⟨more, rfl, rfl⟩ | ⟨left, unsent, rfl⟩
  · have same : queuedTasks root (front.filter (fun row => (row.task? root).isNone) ++ more)
        = queuedTasks root more := by
      rw [queuedTasks_append, queuedTasks_left, List.nil_append]
    rw [same] at tasks
    refine ⟨more, rest, rfl, finished, tasks, ?_, ?_, ?_⟩
    · simp [sentUpTo.rows]
    · simp [sentUpTo.sent]
    · rw [queue]
      simp [List.filter_filter]
  · -- the flush broke off among the rows that stand for no task
    have idle : ∀ row ∈ passed, row.task? root = none := by
      intro row member
      have inFront : row ∈ front.filter (fun row => (row.task? root).isNone) := by
        rw [unsent]
        exact List.mem_append_left _ member
      simpa using (List.mem_filter.mp inFront).2
    refine ⟨[], back, rfl, finished.imp (fun none => (List.append_eq_nil_iff.mp none).2) id, ?_, ?_⟩
    · rw [tasks, queuedTasks_eq_nil.mpr idle]
      rfl
    · refine ⟨by simpa using sentUpTo.rows, ?_, ?_⟩
      · simpa [queuedTasks] using sentUpTo.sent
      · rw [queue, List.append_nil, unsent, List.append_assoc,
          List.filter_eq_self.mpr (fun row member => by simp [idle row member])]

/-- The log and the queue belong together: the rows are those from before, then one for each
output.
-/
structure Detours (root : Path) (start : World) (log : QueueLog) (w : World) : Prop where
  sent : ∃ front back, SentUpTo root log w front back
  rows : queuedTasks root log.rows
    = queuedTasks root start.db.getOfflineTasks
      ++ (log.outputs.map Output.task).map (Task.rejoined root)

theorem Detours.step {start : World} {log : QueueLog} {label : QueueLabel}
    (detours : Detours root start log w) (reliable : ¬ env.faults .database)
    (step : QueueStep env root w label w') (under : PassesUnder root log w label w')
    : Detours root start (queueLog log w label w') w' := by
  obtain ⟨⟨front, back, sentUpTo⟩, outputs⟩ := detours
  cases step with
  | @passed _ output _ offline run =>
      obtain ⟨action, path, extra, db, stands⟩ :=
        passOn_offline offline reliable (under output rfl) run
      have queue : w'.db.getOfflineTasks
          = w.db.getOfflineTasks ++ [⟨w.db.offlineQueue.nextId, action, path, extra⟩] := by
        rw [db]
        rfl
      simp only [queueLog, queue, appended_append]
      refine ⟨⟨front, back ++ [⟨w.db.offlineQueue.nextId, action, path, extra⟩], ?_, ?_, ?_⟩, ?_⟩
      · simp [sentUpTo.rows]
      · exact sentUpTo.sent
      · rw [queue, sentUpTo.queue, List.append_assoc]
      · simp only [queuedTasks_append, outputs, List.map_append, List.append_assoc]
        simp [queuedTasks, stands]
  | flushed run =>
      obtain ⟨more, rest, -, -, tasks, moved⟩ := sentUpTo.flushed reliable run
      simp only [queueLog, tasks, appended_append]
      exact ⟨⟨_, _, moved⟩, outputs⟩
  | elsewhere queue =>
      refine ⟨⟨front, back, sentUpTo.rows, sentUpTo.sent, ?_⟩, outputs⟩
      rw [← sentUpTo.queue, Database.getOfflineTasks, queue]
      rfl

/-- Outputs that are all sent arrive as their tasks, by induction on them. -/
theorem always_passAll_online {outputs : List Output} (online : w.offline = false)
    : Always env.sem (fun _ => True) (passAll root outputs) w
        (fun result last =>
          result = .ok true → last.tasks = w.tasks ++ outputs.map Output.task) := by
  induction outputs generalizing w with
  | nil => exact ⟨trivial, fun _ => by simp⟩
  | cons output outputs ih =>
      refine (always_passOn_online online).bind ?_ ?_
      · rintro sent middle - ⟨connected, -, ⟨accepted, tasks⟩ | ⟨refused, -⟩⟩
        · cases accepted
          refine (ih (connected.trans online)).mono ?_
          intro result last _ all done
          rw [all done, tasks]
          simp
        · cases refused
          exact ⟨trivial, nofun⟩
      · rintro error middle - - ⟨⟩

end Step

/-- What is passed on offline and flushed in any number of attempts is what the online branch
sends, in order and each once: sent up to some row, the rest is still in the queue. A flush that
is not interrupted sends all of it. Rows with an unknown action stay.
-/
theorem flushes_match_online {env : Environment} (reliable : ¬ env.faults .database) {root : Path}
    {start w : World} {log : QueueLog}
    (run
      : Observed (QueueStep env root) queueLog (PassesUnder root)
          { rows := start.db.getOfflineTasks } start log w)
    : ∃ front back,
        SentUpTo root log w front back
        ∧ (∀ env' : Environment, ∀ online online' : World,
            online.offline = false
            → Reaches env'.sem (passAll root log.outputs) online (.done (.ok true)) online'
            → ∃ tasks,
                online'.tasks = online.tasks ++ tasks
                ∧ log.sent ++ queuedTasks root back
                  = queuedTasks root start.db.getOfflineTasks ++ tasks.map (Task.rejoined root))
        ∧ ∀ env' : Environment, ∀ w' result,
            ¬ env'.faults .database → ¬ env'.faults .channelClosed
            → Reaches env'.sem (flushQueue root) w (.done result) w'
            → w'.tasks = w.tasks ++ queuedTasks root back
              ∧ SentUpTo root { log with sent := log.sent ++ queuedTasks root back } w'
                (front ++ back)
                  [] := by
  have detours : Detours root start log w := by
    refine run.invariant (Detours root start) ⟨⟨[], start.db.getOfflineTasks, rfl, rfl, rfl⟩, ?_⟩ ?_
    · simp
    · intro log w label w' detours step under
      exact detours.step reliable step under
  obtain ⟨⟨front, back, sentUpTo⟩, outputs⟩ := detours
  refine ⟨front, back, sentUpTo, ?_, ?_⟩
  · intro env' online online' connected sends
    refine ⟨_, ((always_passAll_online connected).reaches sends).2 rfl, ?_⟩
    rw [← outputs, sentUpTo.rows, queuedTasks_append, sentUpTo.sent]
  · intro env' w' result reliable' opened flushes
    obtain ⟨more, rest, split, finished, tasks, moved⟩ := sentUpTo.flushed reliable' flushes
    have whole : more = back := by
      rw [split, finished.resolve_right opened, List.append_nil]
    subst whole
    refine ⟨tasks, ?_⟩
    have empty := finished.resolve_right opened
    subst empty
    exact moved

/-- SQLite never fails, and the channel may close at any send. -/
def closingChannel : Environment :=
  { Environment.calm (fun _ => "") "root" with faults := (· = .channelClosed) }

/-- The connection is lost before anything is changed. -/
def cutOffWorld : World := { disk := .backup .empty (fun _ => .special), offline := true }

/-- The channel closes after the first of two tasks, and the next flush sends the other. -/
theorem interrupted_flush_goes_on
    : ∃ cut middle last front back,
        Observed (QueueStep closingChannel [.utf8 "backup"]) queueLog (PassesUnder [.utf8 "backup"])
          { rows := [] } cutOffWorld cut middle
        ∧ cut.sent = [.rename (components "/backup/a") (components "/backup/b")]
        ∧ QueueStep closingChannel [.utf8 "backup"] middle .flushed last
        ∧ SentUpTo [.utf8 "backup"] (queueLog cut middle .flushed last) last front back
        ∧ (queueLog cut middle .flushed last).sent
          = [.rename (components "/backup/a") (components "/backup/b"),
            .delete (components "/backup/c")] := by
  let env : Environment := closingChannel
  let root : Path := [.utf8 "backup"]
  let start : World := cutOffWorld
  let file (name : String) : Path := root.join name
  let renamed : Database := start.db.pushOfflineTask "rename" "b" (some "a")
  let both : Database := renamed.pushOfflineTask "delete" "c" none
  have under (name : String) (plain : PlainName name) : UnderRoot root (file name) := by
    have names : Utf8Path [.utf8 name] := (plainNames_singleton.mpr plain).utf8Path
    have joined := names.join_relKey root (by simp)
    rw [relKey_singleton] at joined
    exact ⟨_, joined, names⟩
  have first : Reaches env.sem (passOn root (.renamed (file "a") (file "b"))) start
      (.done (.ok true)) { start with db := renamed } := by
    refine .step ⟨rfl, rfl⟩ ?_
    exact .step (.inl ⟨rfl, rfl⟩) .refl
  have second : Reaches env.sem (passOn root (.deleted (file "c"))) { start with db := renamed }
      (.done (.ok true)) { start with db := both } := by
    refine .step ⟨rfl, rfl⟩ ?_
    exact .step (.inl ⟨rfl, rfl⟩) .refl
  have third : Reaches env.sem (flushQueue root) { start with db := both } (.done (.ok ()))
      { start with db := both.removeOfflineTask 1, tasks := [.rename (file "a") (file "b")] } := by
    refine .step (.inl ⟨rfl, rfl⟩) ?_
    refine .step (.inl ⟨rfl, rfl⟩) ?_
    refine .step (.inl ⟨rfl, rfl⟩) ?_
    exact .step (.inr ⟨rfl, rfl, rfl⟩) .refl
  have fourth : Reaches env.sem (flushQueue root)
      { start with db := both.removeOfflineTask 1, tasks := [.rename (file "a") (file "b")] }
      (.done (.ok ()))
      { start with
        db := (both.removeOfflineTask 1).removeOfflineTask 2
        tasks := [.rename (file "a") (file "b"), .delete (file "c")] } := by
    refine .step (.inl ⟨rfl, rfl⟩) ?_
    refine .step (.inl ⟨rfl, rfl⟩) ?_
    exact .step (.inl ⟨rfl, rfl⟩) .refl
  have launched : Observed (QueueStep env root) queueLog (PassesUnder root)
      { rows := start.db.getOfflineTasks } start
      { rows := start.db.getOfflineTasks } start := .start
  have recorded := launched.step (.passed rfl first)
    (by rintro _ ⟨⟩; exact ⟨under "a" (by decide), under "b" (by decide)⟩)
  have both := recorded.step (.passed rfl second) (by rintro _ ⟨⟩; exact under "c" (by decide))
  have interrupted := both.step (.flushed third) (by rintro _ ⟨⟩)
  have finished := interrupted.step (.flushed fourth) (by rintro _ ⟨⟩)
  obtain ⟨front, back, sentUpTo, -⟩ :=
    flushes_match_online (show ¬ env.faults .database by nofun) finished
  exact ⟨_, _, _, front, back, interrupted, rfl, .flushed fourth, sentUpTo, rfl⟩

end SyncGDrive
