import SyncGDrive.Engine.Dispatch
import SyncGDrive.Engine.Offline
import SyncGDrive.Engine.Worker

/-! The engine around scans, flushes and workers: what `run_with_provider` holds, what it has
spawned, and what each of its arms does to that.
-/

namespace SyncGDrive

open Program

-----------------------------------------------------------------------------------------
-- Commands and control points
-----------------------------------------------------------------------------------------

inductive EngineCommand
  | forceScan
  | shutdown
  | applyConfig (cfg : AppConfig)
  | pause
  | resume
  | openSettings
  | openHelp
  deriving DecidableEq

inductive HealthStatus
  | ok (email : String) (quotaUsed quotaTotal : Nat)
  | authExpired
  | unreachable
  deriving DecidableEq

/-- Where a scan is awaited, hence which commands interrupt it and what follows it. -/
inductive ScanSite
  | initial
  | resumed
  | forced
  | reloaded
  | periodic
  deriving DecidableEq

/-- The engine has returned, or a panic has aborted it. -/
inductive Ending
  | returned (result : Except Error Unit)
  | panicked

/-- What `run_with_provider` is doing. -/
inductive Mode
  | scanning (site : ScanSite) (rest : Eff Unit)
  /-- The initial scan is over, and the watcher is about to start. -/
  | starting
  /-- At the head of the main loop. -/
  | selecting
  | checking
  /-- Back online: the pause and the refreshing of the token before the flush. -/
  | reconnecting
  | flushing (rest : Eff Unit)
  /-- A task has been received and waits for a permit. -/
  | acquiring (task : Task)
  | ended (ending : Ending)

-----------------------------------------------------------------------------------------
-- Spawned tasks
-----------------------------------------------------------------------------------------

/-- A worker has been spawned, or handles its task. -/
inductive Stage
  | spawned
  | handling (rest : Eff Unit)

structure Worker where
  task : Task
  ctx : EngineContext
  patterns : List String
  stage : Stage := .spawned

/-- A dispatcher with the watcher before it: the events between them, the debounce map, and
what is left of the event or tick it is busy with. It has left its loop once that answers
`false`.
-/
structure Dispatcher where
  localRoot : Path
  debounceMs : Nat
  /-- The watcher has not been stopped. -/
  watched : Bool := true
  overflow : Bool := false
  inbox : List WatchEvent := []
  pending : Pending := ∅
  busy : Eff Bool := pure true

/-- The capacity of the task channel. -/
def channelCapacity : Nat := 1024

/-- The capacity of the channel between a watcher and its dispatcher. -/
def watchCapacity : Nat := 256

/-- The dispatcher has left its loop. -/
def Dispatcher.gone (dispatcher : Dispatcher) : Bool :=
  match dispatcher.busy with
  | .done (.ok true) | .call .. => false
  | .done _ => true

/-- Its channel takes no event: it is full, or closed. -/
def Dispatcher.full (dispatcher : Dispatcher) : Bool :=
  dispatcher.gone || watchCapacity ≤ dispatcher.inbox.length

/-- The callback of the watcher: `try_send`, and the flag when the event is dropped. -/
def Dispatcher.observe (dispatcher : Dispatcher) (event : WatchEvent) : Dispatcher :=
  if dispatcher.full then { dispatcher with overflow := true }
  else { dispatcher with inbox := dispatcher.inbox ++ [event] }

/-- `take_overflow`. -/
def Dispatcher.takeOverflow (dispatcher : Dispatcher) : Bool × Dispatcher :=
  (dispatcher.overflow, { dispatcher with overflow := false })

-----------------------------------------------------------------------------------------
-- The engine
-----------------------------------------------------------------------------------------

/-- What the engine needs from outside besides the operations of its programs. -/
structure Host where
  env : Environment
  /-- `IgnoreMatcher::from_patterns`; the glob syntax belongs to the `globset` crate. -/
  fromPatterns : List String → Except Error IgnoreMatcher
  /-- How `Watcher::start` may answer for a directory. -/
  watch : Path → Except Error Unit → Prop

/-- The locals of `run_with_provider`, and what it shares with the tasks it has spawned. The
context of the scans is built once, before the loop.
-/
structure SyncEngine where
  world : World
  cfg : AppConfig
  ctx : EngineContext
  currentLocalRoot : Path := []
  paused : Bool := false
  rescanOnResume : Bool := false
  mode : Mode
  workers : List Worker := []
  dispatchers : List Dispatcher := []
  now : Nat := 0

namespace SyncEngine

/-- Send a status. -/
def tell (e : SyncEngine) (status : EngineStatus) : SyncEngine :=
  { e with world := e.world.report (.status status) }

/-- `shutdown.cancel()`. -/
def cancel (e : SyncEngine) : SyncEngine := { e with world := { e.world with shutdown := true } }

/-- `finish`, and the return that follows. -/
def finish (e : SyncEngine) : SyncEngine :=
  { e.tell .stopped with mode := .ended (.returned (.ok ())) }

/-- A question mark passes an error on to the caller. -/
def fail (e : SyncEngine) (error : Error) : SyncEngine :=
  { e with mode := .ended (.returned (.error error)) }

/-- The permits of the semaphore; `max_workers` is read once. -/
def permits (e : SyncEngine) : Nat := max e.ctx.cfg.maxWorkers 1

def rescanEnabled (e : SyncEngine) : Prop := 0 < e.ctx.cfg.rescanIntervalMin

-----------------------------------------------------------------------------------------
-- Scans
-----------------------------------------------------------------------------------------

/-- The patterns of the primary pair, compiled. -/
def ignoreOf (host : Host) (cfg : AppConfig) : Except Error IgnoreMatcher :=
  match cfg.getPrimaryPair with
  | some primary => host.fromPatterns primary.ignorePatterns
  | none => .error (.msg "Aucun dossier")

/-- The progress starts over, and the interface is told. -/
def announce (e : SyncEngine) : SyncEngine :=
  tell
    { e with
      world := { e.world with tracker := { e.world.tracker with totalFiles := 0 } } }
    (.syncing 0)

/-- Await a scan. -/
def await (e : SyncEngine) (site : ScanSite) (ignore : IgnoreMatcher) : SyncEngine :=
  { e with mode := .scanning site (scan e.ctx ignore) }

/-- Scan with the patterns of the configuration in force. -/
def rescan (host : Host) (e : SyncEngine) (site : ScanSite) : SyncEngine :=
  match ignoreOf host e.cfg with
  | .ok ignore => e.announce.await site ignore
  | .error error => e.announce.fail error

/-- What follows an awaited scan, however it ended. -/
def afterScan (e : SyncEngine) : ScanSite → SyncEngine
  | .initial =>
      let e := if !e.paused && !e.world.offline then e.tell .idle else e
      { e with mode := .starting }
  | .resumed | .reloaded => { e.tell .idle with mode := .selecting }
  | .forced | .periodic => { e with mode := .selecting }

/-- What follows an awaited scan once the shutdown has been requested. -/
def leave (e : SyncEngine) : ScanSite → SyncEngine
  | .initial => e.finish
  | site => (e.afterScan site).finish

/-- The engine pauses and drops the scan. -/
def interrupt (e : SyncEngine) (site : ScanSite) (status : EngineStatus) : SyncEngine :=
  (tell { e with paused := true, rescanOnResume := true } status).afterScan site

/-- The scan has returned. -/
def scanned (e : SyncEngine) (site : ScanSite) (result : Except Error Unit) : SyncEngine :=
  match result with
  | .ok () =>
      if site ≠ .initial ∧ e.world.tracker.totalFiles = 0 then (e.tell .idle).afterScan site
      else e.afterScan site
  | .error error =>
      if site = .initial then
        if isShutdownErr error then e.finish
        else
          (tell { e with world := { e.world with offline := true } }
            (.error "Mode Hors-ligne (Scan initial échoué)")).afterScan .initial
      else if isShutdownErr error then e.cancel.leave site
      else (e.tell (.error error.display)).afterScan site

-----------------------------------------------------------------------------------------
-- Commands
-----------------------------------------------------------------------------------------

/-- The commands during an awaited scan; those not named are discarded. -/
def commandScanning (e : SyncEngine) (site : ScanSite) : EngineCommand → SyncEngine
  | .pause => e.interrupt site .paused
  | .openSettings => e.interrupt site .settings
  | .openHelp => if site = .initial then e.interrupt site .help else e
  | .shutdown => e.cancel.leave site
  | _ => e

/-- How the fallible calls of a reload are answered. -/
structure ReloadAnswers where
  clear : Except Error Unit := .ok ()
  clearDirs : Except Error Unit := .ok ()
  watch : Except Error Unit := .ok ()

/-- The answers that may come: SQLite fails only where faults occur. -/
structure ReloadAnswers.Possible (host : Host) (answers : ReloadAnswers) (root : Path) : Prop where
  clear : answers.clear = .ok () ∨ host.env.faults .database
  clearDirs : answers.clearDirs = .ok () ∨ host.env.faults .database
  watch : host.watch root answers.watch

/-- The watcher is stopped: its dispatcher drains what it has been sent. -/
def stopWatcher (e : SyncEngine) : SyncEngine :=
  { e with
    dispatchers := e.dispatchers.map (fun dispatcher => { dispatcher with watched := false }) }

/-- A dispatcher for the root in force. -/
def spawnDispatcher (e : SyncEngine) : SyncEngine :=
  { e with
    dispatchers := e.dispatchers ++ [⟨e.currentLocalRoot, e.cfg.advanced.debounceMs, true, false,
      [], ∅, pure true⟩] }

/-- The change of root: a new watcher over an emptied index. -/
def changeRoot (e : SyncEngine) (answers : ReloadAnswers) (root : Path)
    : SyncEngine × Except Error Unit :=
  let e := stopWatcher { e with currentLocalRoot := root }
  match answers.clear with
  | .error error => (e, .error error)
  | .ok () =>
      let e := { e with world := { e.world with db := e.world.db.clear } }
      match answers.clearDirs with
      | .error error => (e, .error error)
      | .ok () =>
          let e := { e with world := { e.world with db := e.world.db.clearDirs } }
          match answers.watch with
          | .error error => (e, .error error)
          | .ok () => (e.spawnDispatcher, .ok ())

/-- The configuration has another root than the one in force. -/
def changesRoot (e : SyncEngine) (cfg : AppConfig) : Bool :=
  match cfg.getPrimaryPair with
  | some primary => primary.localPath ≠ e.currentLocalRoot
  | none => false

/-- Take a new configuration over. The answer tells whether the root has changed. -/
def reload (e : SyncEngine) (answers : ReloadAnswers) (missing : String) (cfg : AppConfig)
    : SyncEngine × Except Error Bool :=
  match cfg.getPrimaryPair with
  | none => (e, .error (.msg missing))
  | some primary =>
      if primary.localPath = e.currentLocalRoot then ({ e with cfg }, .ok false)
      else
        let (e, result) := changeRoot { e with cfg } answers primary.localPath
        (e, result.map (fun _ => true))

/-- The commands while the engine is paused. -/
def commandPaused (host : Host) (answers : ReloadAnswers) (e : SyncEngine)
    : EngineCommand → SyncEngine
  | .resume =>
      if e.rescanOnResume && !e.world.offline then
        rescan host { e with paused := false, rescanOnResume := false } .resumed
      else tell { e with paused := false } .idle
  | .shutdown => e.cancel.finish
  | .applyConfig cfg =>
      match e.reload answers "Aucun dossier n'est configuré!" cfg with
      | (e, .error error) => e.fail error
      | (e, .ok _) => { e with rescanOnResume := true }
  | .openSettings => e.tell .settings
  | .openHelp => e.tell .help
  | .pause | .forceScan => e

/-- The commands while the engine is not paused. -/
def commandRunning (host : Host) (answers : ReloadAnswers) (e : SyncEngine)
    : EngineCommand → SyncEngine
  | .shutdown => e.cancel.finish
  | .pause => tell { e with paused := true } .paused
  | .resume => e
  | .forceScan => if e.world.offline then e else rescan host e .forced
  | .applyConfig cfg =>
      match e.reload answers "Pas de dossier" cfg with
      | (e, .error error) => e.fail error
      | (e, .ok rootChanged) =>
          if rootChanged && !e.world.offline then
            match ignoreOf host e.cfg with
            | .ok ignore => e.announce.await .reloaded ignore
            | .error error => e.fail error
          else e.tell .idle
  | .openHelp => tell { e with paused := true } .help
  | .openSettings => tell { e with paused := true } .settings

-----------------------------------------------------------------------------------------
-- The other arms
-----------------------------------------------------------------------------------------

/-- `Watcher::start` after the initial scan, and the dispatcher behind it. -/
def startWatching (e : SyncEngine) (answer : Except Error Unit) : SyncEngine :=
  match e.cfg.getPrimaryPair with
  | none => e.fail (.msg "Aucun dossier n'est configuré!")
  | some primary =>
      match answer with
      | .error error => e.fail error
      | .ok () =>
          spawnDispatcher { e with currentLocalRoot := primary.localPath, mode := .selecting }

/-- The answer of the health check. -/
def checked (e : SyncEngine) : Except Error HealthStatus → SyncEngine
  | .ok (.ok ..) | .ok .authExpired =>
      if e.world.offline then
        { e with world := { e.world with offline := false }, mode := .reconnecting }
      else { e with mode := .selecting }
  | _ =>
      if e.world.offline then { e with mode := .selecting }
      else
        tell { e with world := { e.world with offline := true }, mode := .selecting }
          (.error "Réseau indisponible (Mode Hors-ligne)")

/-- The token has been refreshed, or not: the queue is flushed either way. -/
def reconnected (e : SyncEngine) : SyncEngine :=
  { e.tell .idle with mode := .flushing (flushQueue e.currentLocalRoot) }

/-- The tick of the periodic rescan. -/
def rescanTick (host : Host) (e : SyncEngine) : SyncEngine :=
  if e.world.offline then e else rescan host e .periodic

/-- A permit has been acquired: the task gets a worker, with the configuration in force. -/
def spawn (e : SyncEngine) (task : Task) : SyncEngine :=
  match e.cfg.getPrimaryPair with
  | none => e.fail (.msg "Aucun dossier")
  | some primary =>
      { e with
        mode := .selecting
        workers := e.workers ++ [⟨task, ⟨e.cfg, e.ctx.dryRun⟩, primary.ignorePatterns, .spawned⟩] }

/-- A worker has ended: it counts its task, and the last one tells that all is quiet. -/
def retire (e : SyncEngine) (index : Nat) : SyncEngine :=
  let e :=
    { e with
      world := e.world.report .doneFile
      workers := e.workers.eraseIdx index }
  if e.workers.length = 0 then e.tell .idle else e

/-- The handling of a task has returned. -/
def handled (e : SyncEngine) (index : Nat) (result : Except Error Unit) : SyncEngine :=
  match result with
  | .ok () => e.retire index
  | .error error =>
      if !isShutdownErr error && !e.world.shutdown then
        (e.tell (.error error.display)).retire index
      else e.retire index

/-- `progress_publisher`: what it sends at a tick, while something is left to do. -/
def publish (e : SyncEngine) : SyncEngine :=
  let snap := e.world.tracker
  if 0 < snap.totalFiles ∧ snap.doneFiles < snap.totalFiles then e.tell (.syncProgress snap)
  else e

/-- The engine as `run` sets it up, up to its initial scan. -/
def launch (host : Host) (w : World) (cfg : AppConfig) (dryRun : Bool) : SyncEngine :=
  let e : SyncEngine :=
    { world :=
        { disk := w.disk
          db := w.db
          remote := w.remote
          statuses := w.statuses ++ [.starting 25, .starting 50, .starting 75] }
      cfg
      ctx := ⟨cfg, dryRun⟩
      mode := .starting }
  match cfg.getPrimaryPair with
  | none => e.fail (.msg "Aucun dossier n'est configuré!")
  | some primary =>
      match host.fromPatterns primary.ignorePatterns with
      | .error error => e.fail error
      | .ok ignore => ((e.tell (.starting 100)).tell (.syncing 0)).await .initial ignore

end SyncEngine

end SyncGDrive
