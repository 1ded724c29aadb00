import SyncGDrive.Loop.Engine
import SyncGDrive.Program.Runs

/-! The steps of the engine. The main loop, the workers, the dispatchers and the outside take
turns in any order; a program advances by one operation at a time.
-/

namespace SyncGDrive

open Program

-----------------------------------------------------------------------------------------
-- Labels
-----------------------------------------------------------------------------------------

inductive Label
  /-- Something outside: an edit of the disk, the clock, a cancelled token, a file event. -/
  | edited
  | later
  | cancelled
  | observed (index : Nat) (event : WatchEvent)
  /-- The awaited scan or flush: one operation, and its end. -/
  | main (op : Op)
  | scanned (result : Except Error Unit)
  | flushed (result : Except Error Unit)
  /-- The arms of the main loop. -/
  | command (cmd : EngineCommand)
  | stopped
  | watching (answer : Except Error Unit)
  | healthTick
  | health (answer : Except Error HealthStatus)
  | reconnected
  | rescanTick
  | received (task : Task)
  | spawned (task : Task)
  /-- A worker begins, performs one operation, or ends. -/
  | begun (index : Nat)
  | panicked (index : Nat)
  | worker (index : Nat) (op : Op)
  | handled (index : Nat) (result : Except Error Unit)
  /-- A dispatcher receives an event, ticks, performs one operation, or leaves its loop. -/
  | taken (index : Nat) (event : WatchEvent)
  | ticked (index : Nat)
  | dispatcher (index : Nat) (op : Op)
  | left (index : Nat)
  | published

/-- The task that a step passes to the channel, if the receiver is there to accept it. -/
def Label.sent : Label → List Task
  | .main (.send task) | .dispatcher _ (.send task) => [task]
  | _ => []

/-- The main task turns, without an operation of a program and without a task. -/
def Label.quiet : Label → Bool
  | .scanned _ | .flushed _ | .command _ | .stopped | .watching _ | .healthTick | .health _
  | .reconnected | .rescanTick => true
  | _ => false

theorem Label.sent_quiet {label : Label} (quiet : label.quiet = true) : label.sent = [] := by
  cases label <;> first | rfl | cases quiet

-----------------------------------------------------------------------------------------
-- The outside of the programs
-----------------------------------------------------------------------------------------

namespace SyncEngine

/-- The main task still holds the receiver of the task channel. -/
def Receiving (e : SyncEngine) : Prop :=
  match e.mode with
  | .ended _ => False
  | _ => True

/-- The channel is bounded: a send waits for room, and fails once the receiver is gone. -/
def Admits (e : SyncEngine) : (op : Op) → op.Answer → Prop
  | .send _ => fun accepted =>
      (e.Receiving → accepted = true ∧ e.world.tasks.length < channelCapacity)
      ∧ (¬ e.Receiving → accepted = false)
  | _ => fun _ => True

/-- An operation of a program is served. -/
def Serves (host : Host) (e : SyncEngine) (op : Op) (answer : op.Answer) (after : World) : Prop :=
  host.env.sem op e.world answer after ∧ e.Admits op answer

-----------------------------------------------------------------------------------------
-- The main task
-----------------------------------------------------------------------------------------

/-- The steps of `run_with_provider`. The arms below that of the shutdown are only taken
while none is requested, as the selection is biased; that of an interruptible scan is not.
-/
inductive MainStep (host : Host) : SyncEngine → Label → SyncEngine → Prop
  | scan {e : SyncEngine} {site : ScanSite} {op : Op} {next : op.Answer → Eff Unit}
    {answer : op.Answer} {after : World} (mode : e.mode = .scanning site (.call op next))
    (served : e.Serves host op answer after)
    : MainStep host e (.main op) { e with world := after, mode := .scanning site (next answer) }
  | scanned {e : SyncEngine} {site : ScanSite} {result : Except Error Unit}
    (mode : e.mode = .scanning site (.done result))
    : MainStep host e (.scanned result) (e.scanned site result)
  | flush {e : SyncEngine} {op : Op} {next : op.Answer → Eff Unit} {answer : op.Answer}
    {after : World} (mode : e.mode = .flushing (.call op next))
    (served : e.Serves host op answer after)
    : MainStep host e (.main op) { e with world := after, mode := .flushing (next answer) }
  | flushed {e : SyncEngine} {result : Except Error Unit}
    (mode : e.mode = .flushing (.done result))
    : MainStep host e (.flushed result) { e with mode := .selecting }
  | interrupted {e : SyncEngine} {site : ScanSite} {rest : Eff Unit} {cmd : EngineCommand}
    (mode : e.mode = .scanning site rest) (listens : site ≠ .periodic)
    (biased : site = .initial → e.world.shutdown = false)
    : MainStep host e (.command cmd) (e.commandScanning site cmd)
  | left {e : SyncEngine} {site : ScanSite} {rest : Eff Unit}
    (mode : e.mode = .scanning site rest) (requested : e.world.shutdown = true)
    : MainStep host e .stopped (e.leave site)
  | stopped {e : SyncEngine} (mode : e.mode = .selecting ∨ ∃ task, e.mode = .acquiring task)
    (requested : e.world.shutdown = true)
    : MainStep host e .stopped e.finish
  | watching {e : SyncEngine} {answer : Except Error Unit} (mode : e.mode = .starting)
    (started
      : ∀ primary, e.cfg.getPrimaryPair = some primary → host.watch primary.localPath answer)
    : MainStep host e (.watching answer) (e.startWatching answer)
  | paused {e : SyncEngine} {cmd : EngineCommand} {answers : ReloadAnswers}
    (mode : e.mode = .selecting) (paused : e.paused = true) (running : e.world.shutdown = false)
    (possible
      : ∀ cfg primary,
          cmd = .applyConfig cfg → cfg.getPrimaryPair = some primary
          → answers.Possible host primary.localPath)
    : MainStep host e (.command cmd) (e.commandPaused host answers cmd)
  | command {e : SyncEngine} {cmd : EngineCommand} {answers : ReloadAnswers}
    (mode : e.mode = .selecting) (resumed : e.paused = false) (running : e.world.shutdown = false)
    (possible
      : ∀ cfg primary,
          cmd = .applyConfig cfg → cfg.getPrimaryPair = some primary
          → answers.Possible host primary.localPath)
    : MainStep host e (.command cmd) (e.commandRunning host answers cmd)
  | healthTick {e : SyncEngine} (mode : e.mode = .selecting) (resumed : e.paused = false)
    (running : e.world.shutdown = false)
    : MainStep host e .healthTick { e with mode := .checking }
  | health {e : SyncEngine} {answer : Except Error HealthStatus} (mode : e.mode = .checking)
    : MainStep host e (.health answer) (e.checked answer)
  | reconnected {e : SyncEngine} (mode : e.mode = .reconnecting)
    : MainStep host e .reconnected e.reconnected
  | rescanTick {e : SyncEngine} (mode : e.mode = .selecting) (resumed : e.paused = false)
    (running : e.world.shutdown = false) (enabled : e.rescanEnabled)
    : MainStep host e .rescanTick (e.rescanTick host)
  | received {e : SyncEngine} {task : Task} {rest : List Task} (mode : e.mode = .selecting)
    (resumed : e.paused = false) (running : e.world.shutdown = false)
    (waiting : e.world.tasks = task :: rest)
    : MainStep host e (.received task)
        { e with world := { e.world with tasks := rest }, mode := .acquiring task }
  | spawned {e : SyncEngine} {task : Task} (mode : e.mode = .acquiring task)
    (permit : e.workers.length < e.permits)
    : MainStep host e (.spawned task) (e.spawn task)

-----------------------------------------------------------------------------------------
-- Workers, dispatchers and the outside
-----------------------------------------------------------------------------------------

/-- The steps of the workers: the patterns are compiled at the start, and a panic there aborts
the program.
-/
inductive WorkerStep (host : Host) : SyncEngine → Label → SyncEngine → Prop
  | spared {e : SyncEngine} {index : Nat} {worker : Worker}
    (found : e.workers[index]? = some worker) (spawned : worker.stage = .spawned)
    (requested : e.world.shutdown = true)
    : WorkerStep host e (.handled index (.ok ())) (e.retire index)
  | begun {e : SyncEngine} {index : Nat} {worker : Worker} {ignore : IgnoreMatcher}
    (found : e.workers[index]? = some worker) (spawned : worker.stage = .spawned)
    (running : e.world.shutdown = false) (compiled : host.fromPatterns worker.patterns = .ok ignore)
    : WorkerStep host e (.begun index)
        { e with
          workers :=
            e.workers.set index
              { worker with stage := .handling (handle worker.ctx ignore worker.task) } }
  | panicked {e : SyncEngine} {index : Nat} {worker : Worker} {error : Error}
    (found : e.workers[index]? = some worker) (spawned : worker.stage = .spawned)
    (running : e.world.shutdown = false)
    (refused : host.fromPatterns worker.patterns = .error error)
    : WorkerStep host e (.panicked index) { e with mode := .ended .panicked }
  | worked {e : SyncEngine} {index : Nat} {worker : Worker} {op : Op}
    {next : op.Answer → Eff Unit} {answer : op.Answer} {after : World}
    (found : e.workers[index]? = some worker) (handling : worker.stage = .handling (.call op next))
    (served : e.Serves host op answer after)
    : WorkerStep host e (.worker index op)
        { e with
          world := after
          workers := e.workers.set index { worker with stage := .handling (next answer) } }
  | handled {e : SyncEngine} {index : Nat} {worker : Worker} {result : Except Error Unit}
    (found : e.workers[index]? = some worker) (handling : worker.stage = .handling (.done result))
    : WorkerStep host e (.handled index result) (e.handled index result)

/-- The steps of the dispatchers. -/
inductive DispatcherStep (host : Host) : SyncEngine → Label → SyncEngine → Prop
  | taken {e : SyncEngine} {index : Nat} {dispatcher : Dispatcher} {event : WatchEvent}
    {rest : List WatchEvent} (found : e.dispatchers[index]? = some dispatcher)
    (idle : dispatcher.busy = .done (.ok true)) (running : e.world.shutdown = false)
    (waiting : dispatcher.inbox = event :: rest)
    : DispatcherStep host e (.taken index event)
        { e with
          dispatchers :=
            e.dispatchers.set index
              { dispatcher with
                inbox := rest
                pending := dispatcher.pending.note e.now event
                busy := dispatchEvent dispatcher.localRoot event } }
  | ticked {e : SyncEngine} {index : Nat} {dispatcher : Dispatcher} {ready : List Path}
    (found : e.dispatchers[index]? = some dispatcher) (idle : dispatcher.busy = .done (.ok true))
    (running : e.world.shutdown = false)
    (order : ready.Perm (dispatcher.pending.ready e.now dispatcher.debounceMs))
    : DispatcherStep host e (.ticked index)
        { e with
          dispatchers :=
            e.dispatchers.set index
              { dispatcher with
                pending := dispatcher.pending.without ready
                busy := dispatchAll dispatcher.localRoot ready } }
  | worked {e : SyncEngine} {index : Nat} {dispatcher : Dispatcher} {op : Op}
    {next : op.Answer → Eff Bool} {answer : op.Answer} {after : World}
    (found : e.dispatchers[index]? = some dispatcher) (busy : dispatcher.busy = .call op next)
    (served : e.Serves host op answer after)
    : DispatcherStep host e (.dispatcher index op)
        { e with
          world := after
          dispatchers := e.dispatchers.set index { dispatcher with busy := next answer } }
  | left {e : SyncEngine} {index : Nat} {dispatcher : Dispatcher}
    (found : e.dispatchers[index]? = some dispatcher) (idle : dispatcher.busy = .done (.ok true))
    (finished : e.world.shutdown = true ∨ dispatcher.watched = false ∧ dispatcher.inbox = [])
    : DispatcherStep host e (.left index)
        { e with dispatchers := e.dispatchers.set index { dispatcher with busy := pure false } }

/-- What happens around the engine, and the publisher. -/
inductive OutsideStep : SyncEngine → Label → SyncEngine → Prop
  | edited {e : SyncEngine} (disk : Disk)
    : OutsideStep e .edited { e with world := { e.world with disk } }
  | later {e : SyncEngine} {now : Nat} (later : e.now ≤ now) : OutsideStep e .later { e with now }
  | cancelled {e : SyncEngine} : OutsideStep e .cancelled e.cancel
  | observed {e : SyncEngine} {index : Nat} {dispatcher : Dispatcher} {event : WatchEvent}
    (found : e.dispatchers[index]? = some dispatcher) (watched : dispatcher.watched = true)
    : OutsideStep e (.observed index event)
        { e with dispatchers := e.dispatchers.set index (dispatcher.observe event) }
  | published {e : SyncEngine} (running : e.world.shutdown = false) (watching : e.dispatchers ≠ [])
    : OutsideStep e .published e.publish

/-- The steps of the engine; a panic ends them all. -/
inductive Step (host : Host) (e : SyncEngine) (label : Label) (e' : SyncEngine) : Prop
  | main (step : MainStep host e label e')
  | worker (alive : e.mode ≠ .ended .panicked) (step : WorkerStep host e label e')
  | dispatcher (alive : e.mode ≠ .ended .panicked) (step : DispatcherStep host e label e')
  | outside (step : OutsideStep e label e')

/-- The states that runs of the engine reach. -/
abbrev Runs {Note : Type} (host : Host) (watch : Watch SyncEngine Label Note)
    (allowed : Discipline SyncEngine Label Note) (first : Note) (start : SyncEngine) (note : Note)
    (e : SyncEngine)
    : Prop :=
  Observed (Step host) watch allowed first start note e

/-- The states that the engine reaches from a start. -/
abbrev Reachable (host : Host) (start e : SyncEngine) : Prop :=
  Runs host unwatched anyStep () start () e

end SyncEngine

end SyncGDrive
