import SyncGDrive.Engine.Calls
import SyncGDrive.Realtime.Duties

/-! Moves of files inside the watched tree: what the watcher's callback makes of their raw
events, and what becomes of them behind the debounce map.
-/

namespace SyncGDrive

open Program

-----------------------------------------------------------------------------------------
-- Raw events
-----------------------------------------------------------------------------------------

/-- `notify::event::RenameMode`. -/
inductive RenameMode
  | any
  | to
  | from
  | both
  | other
  deriving DecidableEq

/-- `notify::EventKind`, as far as the callback tells the kinds apart. -/
inductive EventKind
  /-- A file closed after writing. -/
  | closedWrite
  | create
  | remove
  | name (mode : RenameMode)
  | data
  | other
  deriving DecidableEq

/-- `notify::Event`. -/
structure RawEvent where
  kind : EventKind
  paths : List Path
  deriving DecidableEq

/-- The callback of `Watcher::start`. -/
def RawEvent.translate (event : RawEvent) : Option WatchEvent :=
  match event.kind with
  | .closedWrite => event.paths.head?.map .modified
  | .create => event.paths.head?.map .modified
  | .remove => event.paths.head?.map .deleted
  | .name .both =>
      match event.paths with
      | source :: target :: _ => some (.renamed source target)
      | _ => none
  | .name .from => event.paths.head?.map .deleted
  | .name .to => event.paths.head?.map .modified
  | .data => event.paths.head?.map .modified
  | _ => none

/-- How the inotify backend reports a move inside the tree. -/
def moveReports (source target : Path) : List RawEvent :=
  [⟨.name .from, [source]⟩, ⟨.name .to, [target]⟩, ⟨.name .both, [source, target]⟩]

theorem moveReports_translate (source target : Path)
    : (moveReports source target).filterMap RawEvent.translate
      = [.deleted source, .modified target, .renamed source target] := rfl

-----------------------------------------------------------------------------------------
-- Runs
-----------------------------------------------------------------------------------------

/-- A file has been moved; the rest of the disk may have changed as well. -/
structure MovesFile (disk : Disk) (source target : Path) (disk' : Disk) : Prop where
  file : ∃ data, disk.entry? source = some (.file data)
    ∧ Disk.entry? disk' target = some (.file data)
  gone : Disk.entry? disk' source = none

/-- A task with the state in which a worker has begun to handle it. -/
abbrev Handled : Type := Task × World

/-- The states reached by moving files from a state without any task, with the moves made and
the tasks handled so far.
-/
inductive Relocation (env : Environment) (ctx : EngineContext) (primary : SyncPair)
    (ignore : IgnoreMatcher) (disk : Disk) (db : Database) (pathCache : PathCache)
    : List (Path × Path) → List Handled → Live → Prop
  | start : Relocation env ctx primary ignore disk db pathCache [] []
      ⟨{ disk, db, pathCache }, [], ∅, 0⟩
  | move {moves : List (Path × Path)} {handled : List Handled} {live : Live}
    {source target : Path} {disk' : Disk}
    (run : Relocation env ctx primary ignore disk db pathCache moves handled live)
    (moved : MovesFile live.world.disk source target disk')
    : Relocation env ctx primary ignore disk db pathCache (moves ++ [(source, target)]) handled
        { live with
          world := { live.world with disk := disk' }
          inbox := live.inbox ++ (moveReports source target).filterMap RawEvent.translate }
  | receive {moves : List (Path × Path)} {handled : List Handled} {live : Live}
    {event : WatchEvent} {rest : List WatchEvent} {after : World}
    (run : Relocation env ctx primary ignore disk db pathCache moves handled live)
    (reported : live.inbox = event :: rest)
    (dispatches
      : Reaches env.sem (dispatchEvent primary.localPath event) live.world (.done (.ok true))
          after)
    : Relocation env ctx primary ignore disk db pathCache moves handled
        ⟨after, rest, live.pending.note live.now event, live.now⟩
  | tick {moves : List (Path × Path)} {handled : List Handled} {live : Live} {now : Nat}
    {ready : List Path} {after : World}
    (run : Relocation env ctx primary ignore disk db pathCache moves handled live)
    (later : live.now ≤ now)
    (order : ready.Perm (live.pending.ready now ctx.cfg.advanced.debounceMs))
    (dispatches
      : Reaches env.sem (dispatchAll primary.localPath ready) live.world (.done (.ok true))
          after)
    : Relocation env ctx primary ignore disk db pathCache moves handled
        ⟨after, live.inbox, live.pending.without ready, now⟩
  | handle {moves : List (Path × Path)} {handled : List Handled} {live : Live} {task : Task}
    {rest : List Task} {result : Except Error Unit} {after : World}
    (run : Relocation env ctx primary ignore disk db pathCache moves handled live)
    (queued : live.world.tasks = task :: rest)
    (handles
      : Reaches env.sem (handle ctx ignore task) { live.world with tasks := rest }
          (.done result) after)
    : Relocation env ctx primary ignore disk db pathCache moves
        (handled ++ [(task, { live.world with tasks := rest })]) { live with world := after }

-----------------------------------------------------------------------------------------
-- What becomes of the moves
-----------------------------------------------------------------------------------------

/-- The tasks of one move that do not wait for the debounce delay. -/
def moveTasks (move : Path × Path) : List Task := [.delete move.1, .rename move.1 move.2]

/-- A task that waited for the delay. -/
def Task.isSync : Task → Bool
  | .syncFile _ => true
  | _ => false

/-- Every move comes out as its two tasks, in the order of the moves; whatever else is
synchronised is the target of a move.
-/
structure MovesPassed (moves : List (Path × Path)) (handled : List Handled) (live : Live)
    : Prop where
  inOrder
    : (handled.map Prod.fst ++ live.world.tasks).filter (fun task => !task.isSync)
        ++ live.inbox.flatMap WatchEvent.tasks
      = moves.flatMap moveTasks
  synced
    : ∀ path,
        .syncFile path ∈ handled.map Prod.fst ++ live.world.tasks → ∃ source, (source, path) ∈ moves
  pending : ∀ path ∈ live.pending, ∃ source, (source, path) ∈ moves
  inbox : ∀ path, .modified path ∈ live.inbox → ∃ source, (source, path) ∈ moves
  running : live.world.shutdown = false
  online : live.world.offline = false

section Passed

variable {env : Environment} {ctx : EngineContext} {primary : SyncPair} {ignore : IgnoreMatcher}
  {disk : Disk} {db : Database} {pathCache : PathCache} {moves : List (Path × Path)}
  {handled : List Handled} {live : Live}

/-- No program but a disturbed one changes the two flags. -/
theorem always_flags {α : Type} (quiet : env.Undisturbed) {w : World} (program : Eff α)
    (running : w.shutdown = false) (online : w.offline = false)
    : Always env.sem (fun state => state.shutdown = false ∧ state.offline = false) program w
        (fun _ _ => True) :=
  always_of_sem
    (fun _ _ _ _ flags served =>
      ⟨(env.sem_shutdown quiet served).trans flags.1, (env.sem_keeps served).offline.trans flags.2⟩)
    ⟨running, online⟩

theorem WatchEvent.tasks_filter (event : WatchEvent)
    : event.tasks.filter (fun task => !task.isSync) = event.tasks := by
  cases event <;> rfl

theorem filter_syncFiles (paths : List Path)
    : (paths.map Task.syncFile).filter (fun task => !task.isSync) = [] := by
  simp [Task.isSync]

/-- An event enters its own path in the map, and no other. -/
theorem Pending.of_mem_note {pending : Pending} {now : Nat} {event : WatchEvent} {path : Path}
    (waits : path ∈ pending.note now event)
    : event = .modified path ∨ path ∈ pending := by
  cases event with
  | modified other =>
      rcases (AList.mem_insert pending).mp waits with rfl | before
      · exact .inl rfl
      · exact .inr before
  | deleted other => exact .inr (AList.mem_erase.mp waits).2
  | renamed source target => exact .inr (AList.mem_erase.mp (AList.mem_erase.mp waits).2).2

/-- By induction on the run. -/
theorem Relocation.passed (quiet : env.Undisturbed)
    (run : Relocation env ctx primary ignore disk db pathCache moves handled live)
    : MovesPassed moves handled live := by
  induction run with
  | start => exact ⟨rfl, by simp, by simp, by simp, rfl, rfl⟩
  | @move moves handled live source target disk' run moved ih =>
      have more {path : Path} (known : ∃ source, (source, path) ∈ moves)
          : ∃ first, (first, path) ∈ moves ++ [(source, target)] :=
        known.imp (fun _ member => List.mem_append_left _ member)
      refine ⟨?_, fun path member => more (ih.synced path member),
        fun path waits => more (ih.pending path waits), ?_, ih.running, ih.online⟩
      · rw [moveReports_translate, List.flatMap_append, List.flatMap_append, ← List.append_assoc,
          ih.inOrder]
        rfl
      · intro path member
        rcases List.mem_append.mp member with before | new
        · exact more (ih.inbox path before)
        · refine ⟨source, List.mem_append_right _ ?_⟩
          rw [moveReports_translate] at new
          simpa using new
  | @receive moves handled live event rest after run reported dispatches ih =>
      obtain ⟨-, sent, -⟩ := ((always_dispatchEvent quiet ih.online).reaches dispatches).2
      obtain ⟨running, online⟩ :=
        ((always_flags quiet _ ih.running ih.online).reaches dispatches).here
      have tasks : after.tasks = live.world.tasks ++ event.tasks := sent.tasks
      have inOrder := ih.inOrder
      rw [reported, List.flatMap_cons] at inOrder
      refine ⟨?_, ?_, ?_, ?_, running, online⟩
      · rw [tasks, ← List.append_assoc, List.filter_append, WatchEvent.tasks_filter,
          List.append_assoc]
        exact inOrder
      · intro path member
        rw [tasks, ← List.append_assoc] at member
        rcases List.mem_append.mp member with before | new
        · exact ih.synced path before
        · cases event <;> simp [WatchEvent.tasks] at new
      · intro path waits
        rcases Pending.of_mem_note waits with rfl | before
        · exact ih.inbox path (reported ▸ .head _)
        · exact ih.pending path before
      · exact fun path member => ih.inbox path (reported ▸ .tail _ member)
  | @tick moves handled live now ready after run later order dispatches ih =>
      obtain ⟨-, sent, -⟩ := ((always_dispatchAll quiet ih.running ih.online).reaches dispatches).2
      obtain ⟨running, online⟩ :=
        ((always_flags quiet _ ih.running ih.online).reaches dispatches).here
      have tasks : after.tasks = live.world.tasks ++ ready.map .syncFile := sent.tasks
      refine ⟨?_, ?_, ?_, ih.inbox, running, online⟩
      · rw [tasks, ← List.append_assoc, List.filter_append, filter_syncFiles, List.append_nil]
        exact ih.inOrder
      · intro path member
        rw [tasks, ← List.append_assoc] at member
        rcases List.mem_append.mp member with before | new
        · exact ih.synced path before
        · have due : path ∈ ready := by simpa using new
          exact ih.pending path (Pending.mem_of_ready (order.mem_iff.mp due))
      · exact fun path waits => ih.pending path (Pending.mem_without.mp waits).1
  | @handle moves handled live task rest result after run queued handles ih =>
      let w : World := { live.world with tasks := rest }
      have flags : Always env.sem _ (SyncGDrive.handle ctx ignore task) w _ :=
        always_flags quiet _ ih.running ih.online
      obtain ⟨running, online⟩ := (flags.reaches handles).here
      have tasks : after.tasks = rest := (always_handle_tasks.reaches handles).here
      have same
          : (handled ++ [(task, { live.world with tasks := rest })]).map Prod.fst ++ after.tasks
            = handled.map Prod.fst ++ live.world.tasks := by
        rw [tasks, queued, List.map_append, List.append_assoc]
        rfl
      exact ⟨same ▸ ih.inOrder, same ▸ ih.synced, ih.pending, ih.inbox, running, online⟩

end Passed

-----------------------------------------------------------------------------------------
-- One move, one rename
-----------------------------------------------------------------------------------------

/-- Handling the task renames the item of the move's source where it is a renaming, and in any
case it removes no item and sends no content.
-/
def OneRename (env : Environment) (ctx : EngineContext) (primary : SyncPair)
    (ignore : IgnoreMatcher)
    : Handled → Prop
  | (.rename source target, w) =>
      MustCall env (RenameCall primary w source target)
        (handle ctx ignore (.rename source target)) w
      ∧ ¬ MayCall env ProviderCall.Replaces (handle ctx ignore (.rename source target)) w
  | (task, w) => ¬ MayCall env ProviderCall.Replaces (handle ctx ignore task) w

/-- The task finds a known source to rename, nothing to remove, or nothing to send. -/
def FindsOneRename (md5 : List UInt8 → String) (primary : SyncPair) (ignore : IgnoreMatcher)
    : Handled → Prop
  | (.syncFile path, w) => ∀ data key, ¬ UploadDue md5 primary ignore w path data key
  | (.delete path, w) => ∀ entry, ¬ DeleteDue primary ignore w path entry
  | (.rename source target, w) =>
      ∃ entry newName newParentId,
        RenameDue primary ignore w source target entry newName newParentId

theorem oneRename_iff {md5 : List UInt8 → String} {cfg : AppConfig} {primary : SyncPair}
    {ignore : IgnoreMatcher} {task : Task} {w : World}
    (configured : cfg.getPrimaryPair = some primary) (running : w.shutdown = false)
    : OneRename (.steady md5) ⟨cfg, false⟩ primary ignore (task, w)
      ↔ FindsOneRename md5 primary ignore (task, w) := by
  have quiet := Environment.steady_quiet md5
  cases task with
  | syncFile path =>
      simp only [OneRename, FindsOneRename, handle, Bool.false_eq_true, if_false]
      rw [syncFile_replaces_iff quiet running configured]
      simp only [not_exists]
      rfl
  | delete path =>
      simp only [OneRename, FindsOneRename, handle, Bool.false_eq_true, if_false]
      rw [delete_replaces_iff quiet running configured, not_exists]
  | rename source target =>
      simp only [OneRename, FindsOneRename, handle, Bool.false_eq_true, if_false]
      rw [rename_mustCall_iff quiet running configured (Environment.steady_total md5)]
      exact ⟨And.left, fun ⟨_, _, _, due⟩ =>
        ⟨⟨_, _, _, due⟩, due.not_replaces quiet configured⟩⟩

/-- No task is handled after a shutdown. -/
theorem Relocation.handled_running {env : Environment} {ctx : EngineContext}
    {primary : SyncPair} {ignore : IgnoreMatcher} {disk : Disk} {db : Database}
    {pathCache : PathCache} {moves : List (Path × Path)} {handled : List Handled} {live : Live}
    (quiet : env.Undisturbed)
    (run : Relocation env ctx primary ignore disk db pathCache moves handled live)
    : ∀ item ∈ handled, item.2.shutdown = false := by
  induction run with
  | start => simp
  | move run moved ih => exact ih
  | receive run reported dispatches ih => exact ih
  | tick run later order dispatches ih => exact ih
  | handle run queued handles ih =>
      intro item member
      rcases List.mem_append.mp member with before | last
      · exact ih item before
      · rw [List.mem_singleton.mp last]
        exact (run.passed quiet).running

/-- Every move comes out as a deletion and a renaming. Each ends in its one rename call, with
nothing removed and nothing sent, exactly when no deletion finds its path cached and not ignored,
every renaming finds its source known, its target's folder known and not both ends ignored, and no
target that the debounce map has passed on finds itself to be uploaded.
-/
theorem moves_rename_iff (md5 : List UInt8 → String) {cfg : AppConfig} {primary : SyncPair}
    {ignore : IgnoreMatcher} {disk : Disk} {db : Database} {pathCache : PathCache}
    {moves : List (Path × Path)} {handled : List Handled} {live : Live}
    (configured : cfg.getPrimaryPair = some primary)
    (run
      : Relocation (.steady md5) ⟨cfg, false⟩ primary ignore disk db pathCache moves handled live)
    : MovesPassed moves handled live
      ∧ ((∀ item ∈ handled, OneRename (.steady md5) ⟨cfg, false⟩ primary ignore item)
        ↔ ∀ item ∈ handled, FindsOneRename md5 primary ignore item) := by
  have quiet := Environment.steady_quiet md5
  refine ⟨run.passed quiet, forall₂_congr ?_⟩
  rintro ⟨task, w⟩ member
  exact oneRename_iff configured (run.handled_running quiet _ member)

-----------------------------------------------------------------------------------------
-- A file that is moved
-----------------------------------------------------------------------------------------

/-- `/backup` with one file of the name. -/
def namedDisk (name : String) (plain : PlainName name) : Disk :=
  .backup (.single (.utf8 name) plain) (fun _ => .file ⟨[1], 0, true⟩)

theorem namedDisk_entry? {name : String} (plain : PlainName name) {other : String}
    (proper : PlainName other)
    : Disk.entry? (namedDisk name plain) [.utf8 "backup", .utf8 other]
      = if other = name then some (.file ⟨[1], 0, true⟩) else none := by
  simp only [namedDisk, Disk.backup, Disk.entry?, Node.locate, Node.follow, Listing.single]
  by_cases same : other = name
  · subst same
    simp [proper.2.2.1]
  · simp [same, proper.2.2.1, OsString.isIdle, proper.1, proper.2.1]

def fileA : Path := [.utf8 "backup", .utf8 "a"]
def fileB : Path := [.utf8 "backup", .utf8 "b"]

/-- The cache and the row of a synchronised file `a`. -/
def knownCache : PathCache := ({} : PathCache).insert "a" "1" "root"
def knownRow : Database := ({} : Database).upsert ⟨"a", "", 0⟩

theorem a_plain : PlainName "a" := by decide
theorem b_plain : PlainName "b" := by decide

/-- The state in which the first task of the move of `a` to `b` is handled. -/
def movedWorld : World :=
  { disk := namedDisk "b" b_plain
    db := knownRow
    pathCache := knownCache
    tracker := { totalFiles := 1 } }

/-- The file is moved from `a` to `b`, and the first task of the move handled. -/
theorem moved_run
    : ∃ live,
        Relocation (.steady (fun _ => "")) ⟨backupConfig, false⟩ backupPair .nothing
          (namedDisk "a" a_plain) knownRow knownCache [(fileA, fileB)]
          [(.delete fileA, movedWorld)] live := by
  let Moving :=
    Relocation (.steady (fun _ => "")) ⟨backupConfig, false⟩ backupPair .nothing
      (namedDisk "a" a_plain) knownRow knownCache
  have moved : MovesFile (namedDisk "a" a_plain) fileA fileB (namedDisk "b" b_plain) := by
    refine ⟨⟨⟨[1], 0, true⟩, ?_, ?_⟩, ?_⟩ <;>
      simp [fileA, fileB, namedDisk_entry?, a_plain, b_plain]
  let start : World :=
    { disk := namedDisk "b" b_plain, db := knownRow, pathCache := knownCache }
  have started : Moving [] [] _ := .start
  have reported
      : Moving [(fileA, fileB)] []
          ⟨start, [.deleted fileA, .modified fileB, .renamed fileA fileB], ∅, 0⟩ :=
    .move started moved
  have received
      : Moving [(fileA, fileB)] []
          ⟨{ movedWorld with tasks := [.delete fileA] },
            [.modified fileB, .renamed fileA fileB], (∅ : Pending).erase fileA, 0⟩ := by
    refine .receive reported rfl ?_
    refine reaches_call false _ ⟨rfl, rfl⟩ ?_
    refine reaches_call () _ rfl ?_
    exact reaches_call true _ (.inl ⟨rfl, rfl⟩) .refl
  -- The deletion of `a`, as the worker carries it out.
  have missing (w : World) (here : w.disk = namedDisk "b" b_plain)
      : (Environment.steady (fun _ => "")).sem (.metadata fileA) w (.error ⟨[]⟩) w := by
    refine ⟨rfl, ?_⟩
    have gone : w.disk.entry? fileA = none := by
      rw [here]
      simp [fileA, namedDisk_entry?, a_plain]
    simp [Disk.metadata, Disk.node?, gone]
  let deleted : World :=
    { movedWorld with pathCache := knownCache.removeCascades "a", db := knownRow.delete "a" }
  have handles
      : Reaches (Environment.steady (fun _ => "")).sem
          (handle ⟨backupConfig, false⟩ .nothing (.delete fileA)) movedWorld (.done (.ok ()))
          deleted := by
    refine reaches_call _ _ (missing _ rfl) ?_
    refine reaches_call (some ⟨"1", "root"⟩) _ ⟨by decide, rfl⟩ ?_
    refine reaches_call false _ ⟨.inl rfl, rfl⟩ ?_
    refine reaches_call (.ok ()) movedWorld ⟨_, trivial, rfl⟩ ?_
    refine reaches_call () _ rfl ?_
    exact reaches_call (.ok ()) _ (.inl ⟨rfl, rfl⟩) .refl
  exact ⟨_, .handle received rfl handles⟩

/-- The first of the three reports has the file's item deleted. -/
theorem moved_file_deleted
    : ¬ ∀ moves handled live,
        Relocation (.steady (fun _ => "")) ⟨backupConfig, false⟩ backupPair .nothing
          (namedDisk "a" a_plain) knownRow knownCache moves handled live
        → ∀ item ∈ handled,
            OneRename (.steady (fun _ => "")) ⟨backupConfig, false⟩ backupPair .nothing item := by
  intro renames
  obtain ⟨live, run⟩ := moved_run
  have spared := (oneRename_iff rfl rfl).mp (renames _ _ _ run _ (.head _))
  refine spared ⟨"1", "root"⟩ ⟨IgnoreMatcher.nothing_isIgnored, "a", ?_, ?_⟩
  · decide
  · decide

/-- And the run is one of those that the equivalence is about. -/
theorem moved_run_passed
    : ∃ live,
        MovesPassed [(fileA, fileB)] [(.delete fileA, movedWorld)] live
        ∧ ((∀ item ∈ [(.delete fileA, movedWorld)],
            OneRename (.steady (fun _ => "")) ⟨backupConfig, false⟩ backupPair .nothing item)
          ↔ ∀ item ∈ [(.delete fileA, movedWorld)],
              FindsOneRename (fun _ => "") backupPair .nothing item) := by
  obtain ⟨live, run⟩ := moved_run
  exact ⟨live, moves_rename_iff (fun _ => "") rfl run⟩

end SyncGDrive
