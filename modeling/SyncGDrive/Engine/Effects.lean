import SyncGDrive.Database
import SyncGDrive.Local.Disk
import SyncGDrive.Program.Basic
import SyncGDrive.Remote.Store

/-! Everything the engine reads and writes outside itself, as the operations of one
signature. A scan, a worker and a flush are programs over it; the environment decides what
the provider answers, when a shutdown arrives and whether SQLite fails.
-/

namespace SyncGDrive

open Program

-----------------------------------------------------------------------------------------
-- Tasks, statuses and progress
-----------------------------------------------------------------------------------------

inductive Task
  | syncFile (path : Path)
  | delete (path : Path)
  | rename (source target : Path)
  deriving DecidableEq

inductive ScanPhase
  | remoteListing
  | localListing
  | directories
  | comparing
  deriving DecidableEq

/-- The counters of `ProgressTracker`, and the file it shows. -/
structure ProgressTracker where
  totalFiles : Nat := 0
  doneFiles : Nat := 0
  totalBytes : Nat := 0
  currentDir : String := ""
  currentName : String := ""
  currentFileSize : Nat := 0
  deriving DecidableEq

inductive EngineStatus
  | starting (percent : Nat)
  | unconfigured (reason : String)
  | idle
  | scanProgress (phase : ScanPhase) (done total : Nat) (current : String)
  | syncProgress (snapshot : ProgressTracker)
  | syncing (active : Nat)
  | paused
  | error (message : String)
  | stopped
  | settings
  | help
  deriving DecidableEq

/-- What is written for the user interface to see. -/
inductive Report
  | status (status : EngineStatus)
  | storeTotals (files bytes : Nat)
  | addTotals (files bytes : Nat)
  | doneFile
  | currentFile (dir name : String) (size : Nat)
  deriving DecidableEq

/-- `UploadResult`. -/
structure UploadResult where
  driveId : DriveId
  md5Checksum : String
  sizeBytes : Nat
  deriving DecidableEq

-----------------------------------------------------------------------------------------
-- Operations
-----------------------------------------------------------------------------------------

/-- The calls of `RemoteProvider` that scans and workers make. -/
inductive ProviderCall
  | listRemote (rootId : DriveId)
  | mkdir (parentId : DriveId) (name : String)
  | upload (localPath : Path) (parentId : DriveId) (fileName : String)
    (existingId : Option DriveId)
  | delete (fileId : DriveId)
  | rename (fileId : DriveId) (newName : String) (newParentId : DriveId)
  deriving DecidableEq

@[reducible] def ProviderCall.Answer : ProviderCall → Type
  | .listRemote _ => Except Error RemoteIndex
  | .mkdir .. => Except Error DriveId
  | .upload .. => Except Error UploadResult
  | .delete _ => Except Error Unit
  | .rename .. => Except Error Unit

inductive Op
  | isCancelled
  /-- Sleep, and tell whether a shutdown came first. -/
  | sleep (milliseconds : Nat)
  | report (report : Report)
  | provider (call : ProviderCall)
  | walkDir (root : Path) (keep : Path → Bool → Bool)
  /-- `std::fs::metadata`. -/
  | metadata (path : Path)
  /-- Read a file to its end and digest it. -/
  | md5 (path : Path)
  | lookup (relativePath : String)
  | insert (relativePath : String) (driveId parentId : DriveId)
  | removeCascades (relativePath : String)
  | get (path : String)
  | upsert (entry : FileEntry)
  | deleteRow (path : String)
  | renameRow (source target : String)
  | allPaths
  | getOfflineTasks
  | removeOfflineTask (id : Nat)
  | pushOfflineTask (action path : String) (extra : Option String)
  /-- `task_tx.send`: was the task accepted? -/
  | send (task : Task)
  | isOffline

@[reducible] def Op.Answer : Op → Type
  | .isCancelled | .sleep _ | .send _ | .isOffline => Bool
  | .report _ | .insert .. | .removeCascades _ => Unit
  | .provider call => call.Answer
  | .walkDir .. => List DirEntry
  | .metadata _ => Except Error Metadata
  | .md5 _ => Except Error String
  | .lookup _ => Option CacheEntry
  | .get _ => Except Error (Option FileEntry)
  | .upsert _ | .deleteRow _ | .renameRow .. => Except Error Unit
  | .removeOfflineTask _ | .pushOfflineTask .. => Except Error Unit
  | .allPaths => Except Error (List String)
  | .getOfflineTasks => Except Error (List OfflineTask)

@[reducible] def effects : Signature := ⟨Op, Op.Answer⟩

/-- A program of the engine. -/
abbrev Eff (α : Type) : Type := Prog effects Error α

/-- One operation, as a program. -/
abbrev ask (op : Op) : Eff op.Answer := @perform effects Error op

-----------------------------------------------------------------------------------------
-- The world
-----------------------------------------------------------------------------------------

/-- What scans, workers and dispatchers share, with the disk and the remote behind it. -/
structure World where
  disk : Disk
  db : Database := {}
  pathCache : PathCache := {}
  remote : Remote := {}
  tasks : List Task := []
  tracker : ProgressTracker := {}
  statuses : List EngineStatus := []
  shutdown : Bool := false
  offline : Bool := false

def World.report (w : World) : Report → World
  | .status status => { w with statuses := w.statuses ++ [status] }
  | .storeTotals files bytes =>
      { w with tracker := { w.tracker with totalFiles := files, totalBytes := bytes } }
  | .addTotals files bytes =>
      { w with tracker :=
          { w.tracker with
            totalFiles := w.tracker.totalFiles + files
            totalBytes := w.tracker.totalBytes + bytes } }
  | .doneFile =>
      { w with tracker := { w.tracker with doneFiles := w.tracker.doneFiles + 1 } }
  | .currentFile dir name size =>
      { w with tracker :=
          { w.tracker with currentDir := dir, currentName := name, currentFileSize := size } }

/-- Equal in what a scan works on: the cache and what is reported may differ. -/
structure World.Agrees (w state : World) : Prop where
  disk : state.disk = w.disk
  db : state.db = w.db
  remote : state.remote = w.remote
  tasks : state.tasks = w.tasks
  running : state.shutdown = w.shutdown

theorem World.Agrees.refl (w : World) : w.Agrees w := ⟨rfl, rfl, rfl, rfl, rfl⟩

theorem World.Agrees.trans {w state after : World} (first : w.Agrees state)
    (second : state.Agrees after)
    : w.Agrees after :=
  ⟨second.disk.trans first.disk, second.db.trans first.db, second.remote.trans first.remote,
    second.tasks.trans first.tasks, second.running.trans first.running⟩

theorem World.agrees_report (w : World) (report : Report) : w.Agrees (w.report report) := by
  cases report <;> exact ⟨rfl, rfl, rfl, rfl, rfl⟩

theorem World.report_pathCache (w : World) (report : Report)
    : (w.report report).pathCache = w.pathCache := by
  cases report <;> rfl

/-- What may go wrong besides the provider. -/
inductive Fault
  | shutdown
  | channelClosed
  | database
  deriving DecidableEq

/-- The part of the outside that the program has no hold on. -/
structure Environment where
  md5 : List UInt8 → String
  /-- What a provider call may answer, and how it may leave the remote. -/
  provider : (call : ProviderCall) → Disk → Remote → call.Answer → Remote → Prop
  faults : Fault → Prop

namespace Environment

variable (env : Environment)

/-- A shutdown may be requested at this point. -/
def interrupts (w after : World) : Prop :=
  after = w ∨ env.faults .shutdown ∧ after = { w with shutdown := true }

/-- An access to SQLite does what it should, or fails and changes nothing. -/
def stores {α : Type} (w : World) (result : Except Error α × Database)
    (answer : Except Error α) (after : World) : Prop :=
  (answer = result.1 ∧ after = { w with db := result.2 })
  ∨ env.faults .database ∧ (∃ error, answer = .error error) ∧ after = w

/-- How the environment serves each operation. -/
def sem : Semantics effects World
  | .isCancelled, w, answer, after => env.interrupts w after ∧ answer = after.shutdown
  | .sleep milliseconds, w, answer, after =>
      env.interrupts w after ∧ (answer = after.shutdown ∨ answer = false ∧ milliseconds = 0)
  | .report report, w, _, after => after = w.report report
  | .provider call, w, answer, after =>
      ∃ remote, env.provider call w.disk w.remote answer remote ∧ after = { w with remote }
  | .walkDir root keep, w, answer, after => answer = w.disk.walkDir root keep ∧ after = w
  | .metadata path, w, answer, after =>
      after = w
      ∧ match w.disk.metadata path with
        | some metadata => answer = .ok metadata
        | none => ∃ error, answer = .error error
  | .md5 path, w, answer, after =>
      after = w
      ∧ match w.disk.read path with
        | some content => answer = .ok (env.md5 content)
        | none => ∃ error, answer = .error error
  | .lookup key, w, answer, after => answer = w.pathCache.lookup key ∧ after = w
  | .insert key driveId parentId, w, _, after =>
      after = { w with pathCache := w.pathCache.insert key driveId parentId }
  | .removeCascades key, w, _, after =>
      after = { w with pathCache := w.pathCache.removeCascades key }
  | .get path, w, answer, after => env.stores w (.ok (w.db.get path), w.db) answer after
  | .upsert entry, w, answer, after => env.stores w (.ok (), w.db.upsert entry) answer after
  | .deleteRow path, w, answer, after => env.stores w (.ok (), w.db.delete path) answer after
  | .renameRow source target, w, answer, after =>
      match w.db.rename source target with
      | .ok db => env.stores w (.ok (), db) answer after
      | .error error => env.stores w (.error error, w.db) answer after
  | .allPaths, w, answer, after =>
      ∃ paths, paths.Perm w.db.allPaths ∧ env.stores w (.ok paths, w.db) answer after
  | .getOfflineTasks, w, answer, after =>
      env.stores w (.ok w.db.getOfflineTasks, w.db) answer after
  | .removeOfflineTask id, w, answer, after =>
      env.stores w (.ok (), w.db.removeOfflineTask id) answer after
  | .pushOfflineTask action path extra, w, answer, after =>
      env.stores w (.ok (), w.db.pushOfflineTask action path extra) answer after
  | .send task, w, answer, after =>
      (answer = true ∧ after = { w with tasks := w.tasks ++ [task] })
      ∨ env.faults .channelClosed ∧ answer = false ∧ after = w
  | .isOffline, w, answer, after => answer = w.offline ∧ after = w

end Environment

-----------------------------------------------------------------------------------------
-- Environments
-----------------------------------------------------------------------------------------

/-- A provider that never fails, serving the folder `root`. -/
def honestProvider (md5 : List UInt8 → String) (root : DriveId)
    : (call : ProviderCall) → Disk → Remote → call.Answer → Remote → Prop
  | .listRemote folder, _, remote, answer, after =>
      after = remote
      ∧ ∃ index, answer = .ok index ∧ (folder = root → remote.Lists md5 root index)
  | .mkdir parent name, _, remote, answer, after =>
      ∃ fresh,
        remote.Unused root fresh ∧ answer = .ok (remote.mkdir fresh parent name).1
        ∧ after = (remote.mkdir fresh parent name).2
  | .upload path parent name existing, disk, remote, answer, after =>
      match disk.read path with
      | none => (∃ error, answer = .error error) ∧ after = remote
      | some content =>
          ∃ fresh,
            remote.Unused root fresh
            ∧ answer = (remote.upload fresh parent name existing content).1.map
                (fun id => ⟨id, md5 content, content.length⟩)
            ∧ after = (remote.upload fresh parent name existing content).2
  | .delete id, _, remote, answer, after => (answer, after) = remote.delete id
  | .rename id name parent, _, remote, answer, after =>
      (answer, after) = remote.rename id name parent

/-- Everything works: no shutdown, a provider that never fails, a sound database. -/
def Environment.calm (md5 : List UInt8 → String) (root : DriveId) : Environment where
  md5
  provider := honestProvider md5 root
  faults _ := False

end SyncGDrive
