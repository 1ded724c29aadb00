import SyncGDrive.Engine.Dispatch
import SyncGDrive.Engine.Frames
import SyncGDrive.Engine.Offline
import SyncGDrive.Engine.Worker

/-! Which operations each kind of program may request: a worker sends nothing, a scan leaves
the offline queue alone, a flush and a dispatcher leave the rows of the index alone.
-/

namespace SyncGDrive

open Program

-----------------------------------------------------------------------------------------
-- Workers
-----------------------------------------------------------------------------------------

/-- The operations of a worker. -/
inductive Op.OfWorker : Op → Prop
  | isCancelled : OfWorker .isCancelled
  | sleep (milliseconds : Nat) : OfWorker (.sleep milliseconds)
  | currentFile (dir name : String) (size : Nat) : OfWorker (.report (.currentFile dir name size))
  | metadata (path : Path) : OfWorker (.metadata path)
  | md5 (path : Path) : OfWorker (.md5 path)
  | upload (path : Path) (parentId : DriveId) (fileName : String) (existing : Option DriveId)
    : OfWorker (.provider (.upload path parentId fileName existing))
  | delete (id : DriveId) : OfWorker (.provider (.delete id))
  | rename (id : DriveId) (name : String) (parentId : DriveId)
    : OfWorker (.provider (.rename id name parentId))
  | lookup (key : String) : OfWorker (.lookup key)
  | insert (key : String) (driveId parentId : DriveId) : OfWorker (.insert key driveId parentId)
  | removeCascades (key : String) : OfWorker (.removeCascades key)
  | get (path : String) : OfWorker (.get path)
  | upsert (entry : FileEntry) : OfWorker (.upsert entry)
  | deleteRow (path : String) : OfWorker (.deleteRow path)
  | renameRow (source target : String) : OfWorker (.renameRow source target)

section Worker

variable {allowed : Op → Prop} {ctx : EngineContext} {ignore : IgnoreMatcher} {primary : SyncPair}
  {path : Path}

theorem uses_isDir (look : allowed (.metadata path)) : Uses allowed (isDir path) := by
  refine Uses.bind (uses_ask look) ?_
  intro answer
  cases answer <;> exact uses_pure

theorem uses_isFile (look : allowed (.metadata path)) : Uses allowed (isFile path) := by
  refine Uses.bind (uses_ask look) ?_
  intro answer
  cases answer <;> exact uses_pure

theorem uses_mtime (look : allowed (.metadata path)) : Uses allowed (mtime path) := by
  refine Uses.bind (uses_ask look) ?_
  intro answer
  refine Uses.bind uses_propagate ?_
  intro metadata
  exact .ite (fun _ => uses_throw) (fun _ => uses_pure)

theorem uses_recorded {key : String} {test : FileEntry → Bool} (get : allowed (.get key))
    (lookup : allowed (.lookup key))
    : Uses allowed (syncFile.recorded key test) := by
  refine Uses.bind (uses_ask get) ?_
  intro answer
  refine Uses.bind uses_propagate ?_
  intro entry
  cases entry with
  | none => exact uses_pure
  | some entry =>
      refine .ite (fun _ => ?_) (fun _ => uses_pure)
      exact Uses.bind (uses_ask lookup) (fun _ => uses_pure)

theorem uses_folderId {key missing : String} (lookup : allowed (.lookup key))
    : Uses allowed (folderId primary key missing) :=
  .ite (fun _ => uses_pure) (fun _ => Uses.bind (uses_ask lookup) (fun _ => uses_propagate))

/-- The upload loop, by induction on the attempts left. -/
theorem uses_uploadLoop {retry : RetryConfig} {parentId : DriveId}
    {fileName : String} {lastAttemptId : Option DriveId} {left : Nat}
    (check : allowed .isCancelled) (sleep : ∀ milliseconds, allowed (.sleep milliseconds))
    (md5 : allowed (.md5 path))
    (upload : ∀ existing, allowed (.provider (.upload path parentId fileName existing)))
    : Uses allowed (uploadLoop retry path parentId fileName lastAttemptId left) := by
  have attempt (last : Option DriveId) (again : Option (Option DriveId → Eff UploadResult))
      (rest : ∀ next ∈ again, ∀ id, Uses allowed (next id))
      : Uses allowed (uploadAttempt retry path parentId fileName last again) := by
    have pause (next : Eff UploadResult) (uses : Uses allowed next)
        : Uses allowed (uploadAttempt.pauseThen retry next) :=
      Uses.bind (uses_ask (sleep _)) (fun _ => .ite (fun _ => uses_throw) (fun _ => uses))
    refine Uses.bind (uses_ask check) (fun _ => .ite (fun _ => uses_throw) (fun _ => ?_))
    refine Uses.bind (uses_ask (upload _)) ?_
    intro answer
    cases answer with
    | ok result =>
        refine Uses.bind (Uses.bind (uses_ask md5) ?_) ?_
        · intro answer
          cases answer with
          | error error => exact uses_pure
          | ok hash => exact .ite (fun _ => uses_pure) (fun _ => uses_pure)
        · intro verified
          split
          · exact uses_pure
          · cases again with
            | none => exact uses_throw
            | some next => exact pause _ (rest next rfl _)
    | error error =>
        cases again with
        | none => exact uses_throw
        | some next => exact pause _ (rest next rfl _)
  induction left generalizing lastAttemptId with
  | zero => exact attempt _ none (by simp)
  | succ left ih =>
      refine attempt _ _ ?_
      rintro next ⟨⟩ id
      exact ih

/-- What a worker asks without changing anything. -/
inductive Op.Observes : Op → Prop
  | isCancelled : Observes .isCancelled
  | sleep (milliseconds : Nat) : Observes (.sleep milliseconds)
  | currentFile (dir name : String) (size : Nat) : Observes (.report (.currentFile dir name size))
  | metadata (path : Path) : Observes (.metadata path)
  | md5 (path : Path) : Observes (.md5 path)
  | lookup (key : String) : Observes (.lookup key)
  | get (path : String) : Observes (.get path)

theorem Op.Observes.ofWorker {op : Op} (observes : op.Observes) : op.OfWorker := by
  cases observes <;> constructor

/-- What `sync_file` does for a path with that key besides looking. -/
inductive Op.Stores (path : Path) (key : String) : Op → Prop
  | upload {name : String} {parentId : DriveId} {existing : Option DriveId}
    (named : path.fileName? = some name)
    : Stores path key (.provider (.upload path parentId name existing))
  | insert (driveId parentId : DriveId) : Stores path key (.insert key driveId parentId)
  | upsert (hash : String) (mtime : Int) : Stores path key (.upsert ⟨key, hash, mtime⟩)

theorem uses_uploadFile {key hash : String} {time : Int} {size : Nat}
    (looks : ∀ op : Op, op.Observes → allowed op)
    (stores : ∀ op : Op, op.Stores path key → allowed op)
    : Uses allowed (uploadFile ctx primary path key hash time size) := by
  unfold uploadFile
  cases named : path.fileName? with
  | none => exact uses_propagate
  | some fileName =>
      simp only [orError, propagate, Prog.ok_bind]
      refine Uses.bind (uses_folderId (looks _ (.lookup _))) (fun parentId => ?_)
      refine Uses.bind (uses_ask (looks _ (.lookup key))) (fun existing => ?_)
      refine Uses.bind (uses_ask (looks _ (.currentFile ..))) (fun _ => ?_)
      refine Uses.bind (uses_uploadLoop (looks _ .isCancelled) (fun _ => looks _ (.sleep _))
        (looks _ (.md5 path)) (fun _ => stores _ (.upload named))) (fun result => ?_)
      refine Uses.bind (uses_ask (stores _ (.insert ..))) (fun _ => ?_)
      exact Uses.bind (uses_ask (stores _ (.upsert ..))) (fun _ => uses_propagate)

theorem uses_syncFile_of (looks : ∀ op : Op, op.Observes → allowed op)
    (stores
      : ∀ primary key (op : Op),
          ctx.cfg.getPrimaryPair = some primary → relStr primary.localPath path = .ok key
          → op.Stores path key → allowed op)
    : Uses allowed (syncFile ctx ignore path) := by
  refine Uses.bind (uses_ask (looks _ (.metadata path))) (fun answer => ?_)
  refine Uses.bind uses_propagate (fun stat => .ite (fun _ => uses_pure) (fun _ => ?_))
  refine Uses.bind (uses_ask (looks _ (.metadata path))) (fun answer => ?_)
  refine Uses.bind uses_propagate (fun metadata => .ite (fun _ => uses_pure) (fun _ => ?_))
  cases configured : ctx.cfg.getPrimaryPair with
  | none => exact uses_propagate
  | some primary =>
      cases inRoot : relStr primary.localPath path with
      | error error => simp [orError, propagate, inRoot]
      | ok key =>
          simp only [orError, propagate, Prog.ok_bind, inRoot]
          have stores (op : Op) := stores primary key op configured inRoot
          refine Uses.bind (uses_mtime (looks _ (.metadata path))) (fun time => ?_)
          have recorded (test : FileEntry → Bool)
              : Uses allowed (syncFile.recorded key test) :=
            uses_recorded (looks _ (.get key)) (looks _ (.lookup key))
          refine Uses.bind (recorded _) (fun current => .ite (fun _ => uses_pure) (fun _ => ?_))
          refine Uses.bind (uses_ask (looks _ .isCancelled))
            (fun _ => .ite (fun _ => uses_pure) (fun _ => ?_))
          refine Uses.bind (Uses.bind (uses_ask (looks _ (.md5 path))) (fun _ => uses_pure))
            (fun hashed => ?_)
          cases hashed with
          | error error =>
              refine Uses.bind (uses_isFile (looks _ (.metadata path)))
                (fun there => .ite (fun _ => uses_pure) (fun _ => ?_))
              exact Uses.bind (uses_ask (looks _ .isCancelled))
                (fun _ => .ite (fun _ => uses_pure) (fun _ => uses_throw))
          | ok hash =>
              refine Uses.bind (recorded _)
                (fun touched => .ite (fun _ => ?_) (fun _ => uses_uploadFile looks stores))
              exact Uses.bind (uses_ask (stores _ (.upsert hash time))) (fun _ => uses_propagate)

theorem uses_syncFile : Uses Op.OfWorker (syncFile ctx ignore path) :=
  uses_syncFile_of (fun _ => Op.Observes.ofWorker) (fun _ _ _ _ _ stores => by
    cases stores <;> constructor)

/-- What `delete` does for a key besides looking. -/
inductive Op.Removes (key : String) : Op → Prop
  | delete (id : DriveId) : Removes key (.provider (.delete id))
  | removeCascades : Removes key (.removeCascades key)
  | deleteRow : Removes key (.deleteRow key)

theorem uses_delete_of (looks : ∀ op : Op, op.Observes → allowed op)
    (removes
      : ∀ primary key (op : Op),
          ctx.cfg.getPrimaryPair = some primary → relStr primary.localPath path = .ok key
          → op.Removes key → allowed op)
    : Uses allowed (delete ctx ignore path) := by
  refine Uses.bind (uses_isDir (looks _ (.metadata _)))
    (fun directory => .ite (fun _ => uses_pure) (fun _ => ?_))
  cases configured : ctx.cfg.getPrimaryPair with
  | none => exact uses_propagate
  | some primary =>
      cases inRoot : relStr primary.localPath path with
      | error error => simp [orError, propagate, inRoot]
      | ok key =>
          simp only [orError, propagate, Prog.ok_bind, inRoot]
          have removes (op : Op) := removes primary key op configured inRoot
          refine Uses.bind (Uses.bind (uses_ask (looks _ (.lookup key))) (fun entry => ?_))
            (fun _ => Uses.bind (uses_ask (removes _ .deleteRow)) (fun _ => uses_propagate))
          cases entry with
          | none => exact uses_pure
          | some entry =>
              refine Uses.bind (uses_retry (looks _ .isCancelled) (fun _ => looks _ (.sleep _))
                (uses_ask (removes _ (.delete _)))) (fun _ => ?_)
              exact uses_ask (removes _ .removeCascades)

theorem uses_delete : Uses Op.OfWorker (delete ctx ignore path) :=
  uses_delete_of (fun _ => Op.Observes.ofWorker) (fun _ _ _ _ _ removes => by
    cases removes <;> constructor)

/-- The key of a path; the empty text outside the root. -/
def keyOf (primary : SyncPair) (path : Path) : String :=
  (relStr primary.localPath path).toOption.getD ""

/-- What `rename` does for a known source besides looking. -/
inductive Op.Moves (primary : SyncPair) (source target : Path) : Op → Prop
  | rename {id parentId : DriveId} {name : String} (named : target.fileName? = some name)
    : Moves primary source target (.provider (.rename id name parentId))
  | removeCascades : Moves primary source target (.removeCascades (keyOf primary source))
  | insert (driveId parentId : DriveId)
    : Moves primary source target (.insert (keyOf primary target) driveId parentId)
  | renameRow
    : Moves primary source target (.renameRow (keyOf primary source) (keyOf primary target))

theorem uses_rename_of {source target : Path} (looks : ∀ op : Op, op.Observes → allowed op)
    (moves
      : ∀ primary (op : Op),
          ctx.cfg.getPrimaryPair = some primary → op.Moves primary source target → allowed op)
    (stores
      : ∀ primary key (op : Op),
          ctx.cfg.getPrimaryPair = some primary → relStr primary.localPath target = .ok key
          → op.Stores target key → allowed op)
    : Uses allowed (rename ctx ignore source target) := by
  have look {path : Path} : allowed (.metadata path) := looks _ (.metadata path)
  refine Uses.bind ?_ (fun ignored => .ite (fun _ => uses_pure) (fun _ => ?_))
  · refine Uses.bind (uses_isDir look) (fun _ => .ite (fun _ => ?_) (fun _ => uses_pure))
    exact Uses.bind (uses_isDir look) (fun _ => uses_pure)
  cases configured : ctx.cfg.getPrimaryPair with
  | none => exact uses_propagate
  | some primary =>
      have moves (op : Op) := moves primary op configured
      simp only [orError, propagate, Prog.ok_bind]
      refine Uses.bind (uses_ask (looks _ (.lookup _))) (fun sourceEntry => ?_)
      refine Uses.bind (.ite (fun _ => uses_pure) (fun _ => ?_)) (fun inDb => ?_)
      · exact Uses.bind (uses_ask (looks _ (.get _)))
          (fun _ => Uses.bind uses_propagate (fun _ => uses_pure))
      split
      · cases named : target.fileName? with
        | none => exact uses_throw
        | some newName =>
            simp only [Prog.ok_bind]
            refine Uses.bind (uses_folderId (looks _ (.lookup _))) (fun newParentId => ?_)
            refine Uses.bind (uses_retry (looks _ .isCancelled) (fun _ => looks _ (.sleep _))
              (uses_ask (moves _ (.rename named)))) (fun _ => ?_)
            refine Uses.bind (uses_ask (moves _ .removeCascades)) (fun _ => ?_)
            refine Uses.bind (uses_ask (moves _ (.insert _ _))) (fun _ => ?_)
            exact Uses.bind (uses_ask (moves _ .renameRow)) (fun _ => uses_propagate)
      · refine Uses.bind (uses_isFile look) (fun _ => .ite (fun _ => ?_) (fun _ => uses_pure))
        refine Uses.bind (uses_isDir look) (fun _ => .ite (fun _ => uses_pure) (fun _ => ?_))
        exact uses_syncFile_of looks stores

theorem uses_rename {source target : Path}
    : Uses Op.OfWorker (rename ctx ignore source target) :=
  uses_rename_of (fun _ => Op.Observes.ofWorker)
    (fun _ _ _ moves => by cases moves <;> constructor)
    (fun _ _ _ _ _ stores => by cases stores <;> constructor)

theorem uses_handle {task : Task} : Uses Op.OfWorker (handle ctx ignore task) := by
  refine .ite (fun _ => uses_pure) (fun _ => ?_)
  cases task with
  | syncFile path => exact uses_syncFile
  | delete path => exact uses_delete
  | rename source target => exact uses_rename

end Worker

theorem Op.OfWorker.keeps_tasks {op : Op} (worker : op.OfWorker) : op.writes ≠ some .tasks := by
  cases worker <;> simp [Op.writes]

/-- A worker leaves the channel alone. -/
theorem always_handle_tasks {env : Environment} {ctx : EngineContext} {ignore : IgnoreMatcher}
    {task : Task} {w : World}
    : Always env.sem (fun state => state.tasks = w.tasks) (handle ctx ignore task) w
        (fun _ _ => True) :=
  uses_handle.always
    (fun _ _ _ _ worker same served =>
      ((env.sem_keeps served).tasks worker.keeps_tasks).trans same)
    rfl

-----------------------------------------------------------------------------------------
-- Scans
-----------------------------------------------------------------------------------------

/-- The operations of a scan. -/
inductive Op.OfScan : Op → Prop
  | looks {op : Op} (looks : op.Looks) : OfScan op
  | listRemote (root : DriveId) : OfScan (.provider (.listRemote root))
  | mkdir (parentId : DriveId) (name : String) : OfScan (.provider (.mkdir parentId name))
  | insert (key : String) (driveId parentId : DriveId) : OfScan (.insert key driveId parentId)
  | upsert (entry : FileEntry) : OfScan (.upsert entry)
  | send (task : Task) : OfScan (.send task)

/-- The operations of its phases 3 to 6. -/
inductive Op.OfReconcile : Op → Prop
  | looks {op : Op} (looks : op.Looks) : OfReconcile op
  | upsert (entry : FileEntry) : OfReconcile (.upsert entry)
  | send (task : Task) : OfReconcile (.send task)

theorem Op.OfReconcile.ofScan {op : Op} (reconciles : op.OfReconcile) : op.OfScan := by
  cases reconciles with
  | looks looks => exact .looks looks
  | upsert entry => exact .upsert entry
  | send task => exact .send task

section Scan

variable {ctx : EngineContext} {ignore : IgnoreMatcher} {primary : SyncPair}

theorem uses_sendDelete_scan {path : Path} : Uses Op.OfReconcile (sendDelete ctx path) := by
  refine .ite (fun _ => uses_pure) (fun _ => ?_)
  refine Uses.bind (uses_ask (.looks (.addTotals ..))) (fun _ => ?_)
  exact Uses.bind (uses_ask (.send _)) (fun _ => .ite (fun _ => uses_pure) (fun _ => uses_throw))

theorem uses_orphanRemote {localRelSet dbIndex : List String} {file : RemoteFile}
    : Uses Op.OfReconcile (orphanRemote ctx primary ignore localRelSet dbIndex file) := by
  have directory (path : Path) : Uses Op.OfReconcile (isDir path) := by
    refine Uses.bind (uses_ask (.looks (.metadata path))) (fun answer => ?_)
    cases answer <;> exact uses_pure
  refine uses_unlessShutdown (.looks .isCancelled) ?_
  refine .ite (fun _ => uses_pure) (fun _ => ?_)
  refine (directory _).bind (fun _ => .ite (fun _ => uses_pure) (fun _ => ?_))
  refine .ite (fun _ => uses_pure) (fun _ => ?_)
  refine (directory _).bind (fun _ => .ite (fun _ => uses_pure) (fun _ => ?_))
  exact uses_sendDelete_scan

theorem uses_reconcile {remoteIndex : RemoteIndex} {localFiles : List Path}
    : Uses Op.OfReconcile (reconcile ctx primary ignore remoteIndex localFiles) := by
  refine Uses.bind (uses_ask (.looks (.progress ..))) (fun _ => ?_)
  refine Uses.bind (uses_ask (.looks .allPaths)) (fun answer => ?_)
  refine Uses.bind uses_propagate (fun dbIndex => ?_)
  refine Uses.bind (uses_compareFiles.mono ?_) (fun toSync => ?_)
  · rintro op (looks | ⟨entry, rfl⟩)
    · exact .looks looks
    · exact .upsert entry
  refine Uses.bind (uses_sendFiles.mono ?_) (fun _ => ?_)
  · rintro op (looks | ⟨path, rfl⟩)
    · exact .looks looks
    · exact .send _
  refine Uses.bind (uses_forM _ (fun dbPath _ => ?_)) (fun _ => ?_)
  · exact uses_unlessShutdown (.looks .isCancelled)
      (.ite (fun _ => uses_pure) (fun _ => uses_sendDelete_scan))
  refine Uses.bind (uses_forM _ (fun file _ => uses_orphanRemote)) (fun _ => ?_)
  exact uses_reportWhen (.looks .idle)

theorem uses_fillCache_scan {index : RemoteIndex} : Uses Op.OfScan (fillCache index) := by
  refine uses_fillCache.mono ?_
  rintro op ⟨key, id, parent, rfl⟩
  exact .insert ..

theorem uses_ensureFolder_scan {total : Nat} {dir : Path × Nat}
    : Uses Op.OfScan (ensureFolder ctx primary total dir) := by
  refine uses_ensureFolder.mono ?_
  rintro op (looks | ⟨key, id, parent, rfl⟩ | ⟨-, parent, name, rfl⟩)
  · exact .looks looks
  · exact .insert ..
  · exact .mkdir ..

theorem uses_createFolders_scan {localDirs : List Path}
    : Uses Op.OfScan (createFolders ctx primary localDirs) :=
  uses_forM _ (fun _ _ => uses_ensureFolder_scan)

theorem uses_reconcile_scan {remoteIndex : RemoteIndex} {localFiles : List Path}
    : Uses Op.OfScan (reconcile ctx primary ignore remoteIndex localFiles) :=
  uses_reconcile.mono (fun _ => Op.OfReconcile.ofScan)

theorem uses_scan : Uses Op.OfScan (scan ctx ignore) := by
  refine Uses.bind uses_propagate (fun primary => ?_)
  refine Uses.bind (uses_listRemote.mono ?_) (fun index => ?_)
  · rintro op (looks | rfl)
    · exact .looks looks
    · exact .listRemote _
  refine Uses.bind uses_fillCache_scan (fun _ => ?_)
  refine Uses.bind (uses_takeInventory.mono (fun _ => .looks)) (fun inventory => ?_)
  exact Uses.bind uses_createFolders_scan (fun _ => uses_reconcile_scan)

end Scan

-----------------------------------------------------------------------------------------
-- Flushes and dispatchers
-----------------------------------------------------------------------------------------

/-- The operations of a flush. -/
inductive Op.OfFlush : Op → Prop
  | getOfflineTasks : OfFlush .getOfflineTasks
  | send (task : Task) : OfFlush (.send task)
  | removeOfflineTask (id : Nat) : OfFlush (.removeOfflineTask id)

/-- By induction on the rows. -/
theorem uses_flushRows {root : Path} {rows : List OfflineTask}
    : Uses Op.OfFlush (flushRows root rows) := by
  induction rows with
  | nil => exact uses_pure
  | cons row rows ih =>
      simp only [flushRows]
      split
      · exact ih
      · refine Uses.bind (uses_ask (.send _)) (fun _ => .ite (fun _ => ?_) (fun _ => uses_pure))
        exact Uses.bind (uses_ask (.removeOfflineTask _))
          (fun _ => Uses.bind uses_propagate (fun _ => ih))

theorem uses_flushQueue {root : Path} : Uses Op.OfFlush (flushQueue root) :=
  Uses.bind (uses_ask .getOfflineTasks)
    (fun _ => Uses.bind uses_propagate (fun _ => uses_flushRows))

/-- The operations of a dispatcher. -/
inductive Op.OfDispatcher : Op → Prop
  | isOffline : OfDispatcher .isOffline
  | metadata (path : Path) : OfDispatcher (.metadata path)
  | addTotals (files bytes : Nat) : OfDispatcher (.report (.addTotals files bytes))
  | send (task : Task) : OfDispatcher (.send task)
  | pushOfflineTask (action path : String) (extra : Option String)
    : OfDispatcher (.pushOfflineTask action path extra)

section Dispatcher

variable {root : Path}

theorem uses_recordOffline {action : String} {path : Path}
    : Uses Op.OfDispatcher (recordOffline root action path) := by
  unfold recordOffline
  split
  · exact Uses.bind (uses_ask (.pushOfflineTask ..)) (fun _ => uses_pure)
  · exact uses_pure

theorem uses_dispatchReady {path : Path} : Uses Op.OfDispatcher (dispatchReady root path) := by
  refine Uses.bind (uses_ask .isOffline)
    (fun _ => .ite (fun _ => uses_recordOffline) (fun _ => ?_))
  refine Uses.bind (Uses.bind (uses_ask (.metadata path)) (fun answer => ?_)) (fun size => ?_)
  · cases answer <;> exact uses_pure
  · exact Uses.bind (uses_ask (.addTotals ..)) (fun _ => uses_ask (.send _))

/-- By induction on the paths. -/
theorem uses_dispatchAll {paths : List Path} : Uses Op.OfDispatcher (dispatchAll root paths) := by
  induction paths with
  | nil => exact uses_pure
  | cons path paths ih =>
      exact Uses.bind uses_dispatchReady (fun _ => .ite (fun _ => ih) (fun _ => uses_pure))

theorem uses_dispatchEvent {event : WatchEvent}
    : Uses Op.OfDispatcher (dispatchEvent root event) := by
  cases event with
  | modified path => exact uses_pure
  | deleted path =>
      refine Uses.bind (uses_ask .isOffline)
        (fun _ => .ite (fun _ => uses_recordOffline) (fun _ => ?_))
      exact Uses.bind (uses_ask (.addTotals ..)) (fun _ => uses_ask (.send _))
  | renamed source target =>
      refine Uses.bind (uses_ask .isOffline) (fun _ => .ite (fun _ => ?_) (fun _ => ?_))
      · split
        · exact Uses.bind (uses_ask (.pushOfflineTask ..)) (fun _ => uses_pure)
        · exact uses_pure
      · exact Uses.bind (uses_ask (.addTotals ..)) (fun _ => uses_ask (.send _))

end Dispatcher

end SyncGDrive
