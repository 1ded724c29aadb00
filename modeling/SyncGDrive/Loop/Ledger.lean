import Mathlib.Data.List.InsertIdx
import SyncGDrive.Engine.Flushing
import SyncGDrive.Loop.Channel
import SyncGDrive.Loop.Control
import SyncGDrive.Loop.Reload

/-! What becomes of the tasks. Every task that the channel accepts gets a ticket, and the
ledger follows it through the channel and the workers. A row of the offline queue is followed
by the ticket of the task that a flush has sent for it.
-/

namespace SyncGDrive

open Program

-----------------------------------------------------------------------------------------
-- The ledger
-----------------------------------------------------------------------------------------

/-- A task that the channel has accepted, told apart from its like. -/
structure Ticket where
  number : Nat
  task : Task
  deriving DecidableEq

structure Ledger where
  next : Nat := 0
  /-- Of the tasks in the channel, in order. -/
  waiting : List Ticket := []
  /-- Of the task that waits for a permit. -/
  held : Option Ticket := none
  /-- Of the tasks of the workers, in order. -/
  inFlight : List Ticket := []
  /-- Of the tasks whose handling has returned `Ok`. -/
  succeeded : List Ticket := []
  received : List Ticket := []
  /-- The rows that a flush has sent a task for, each with its ticket. -/
  sentRows : List (Nat × Ticket) := []
  /-- The rows with a task that a flush has read. -/
  readRows : List Nat := []
  removedRows : List Nat := []
  /-- The tasks whose handling has failed, unless for a shutdown. -/
  failed : List Task := []

namespace Ledger

/-- The channel accepts tasks; `rows` are those that they were read from. -/
def accept (ledger : Ledger) (rows : List Nat) (task : Task) : Ledger :=
  { ledger with
    next := ledger.next + 1
    waiting := ledger.waiting ++ [⟨ledger.next, task⟩]
    sentRows := ledger.sentRows ++ rows.map (fun id => (id, ⟨ledger.next, task⟩)) }

/-- The main task receives the first task. -/
def receive (ledger : Ledger) : Ledger :=
  { ledger with
    waiting := ledger.waiting.tail
    held := ledger.waiting.head?
    received := ledger.received ++ ledger.waiting.head?.toList }

/-- The received task gets a worker. -/
def employ (ledger : Ledger) : Ledger :=
  { ledger with held := none, inFlight := ledger.inFlight ++ ledger.held.toList }

/-- A worker ends. Only one that has handled its task may have done so with success. -/
def retire (ledger : Ledger) (index : Nat) (handling : Bool) (result : Except Error Unit)
    : Ledger :=
  let ended := ledger.inFlight[index]?.toList
  let ledger := { ledger with inFlight := ledger.inFlight.eraseIdx index }
  match result with
  | .ok () => if handling then { ledger with succeeded := ledger.succeeded ++ ended } else ledger
  | .error error =>
      if isShutdownErr error then ledger
      else { ledger with failed := ledger.failed ++ ended.map Ticket.task }

end Ledger

/-- The row whose task a flush has just sent: it turns to its removal. -/
def Mode.removes : Mode → List Nat
  | .flushing (.call (.removeOfflineTask id) _) => [id]
  | _ => []

namespace SyncEngine

/-- The worker handles its task: it has not been spared by a shutdown. -/
def handles (e : SyncEngine) (index : Nat) : Bool :=
  match e.workers[index]? with
  | some ⟨_, _, _, .handling _⟩ => true
  | _ => false

/-- The rows of the queue that stand for a task. -/
def rowsWithTask (e : SyncEngine) : List Nat :=
  (e.world.db.getOfflineTasks.filter (fun row => (row.task? e.currentLocalRoot).isSome)).map
    OfflineTask.id

def rowIds (e : SyncEngine) : List Nat := e.world.db.getOfflineTasks.map OfflineTask.id

/-- What the ledger makes of a step. A send that is refused leaves the channel as it is. -/
def tickets : Watch SyncEngine Label Ledger := fun ledger e label e' =>
  match label with
  | .main (.send task) => ledger.accept e'.mode.removes task
  | .main .getOfflineTasks => { ledger with readRows := ledger.readRows ++ e.rowsWithTask }
  | .main (.removeOfflineTask _) =>
      { ledger with
        removedRows :=
          ledger.removedRows ++ e.rowIds.filter (fun id => id ∉ e'.rowIds) }
  | .dispatcher _ (.send task) =>
      if e.world.tasks.length < e'.world.tasks.length then ledger.accept [] task else ledger
  | .received _ => ledger.receive
  | .spawned _ => ledger.employ
  | .handled index result => ledger.retire index (e.handles index) result
  | _ => ledger

end SyncEngine

-----------------------------------------------------------------------------------------
-- Where a ticket is
-----------------------------------------------------------------------------------------

/-- The task of the ticket has been handled with success, waits, or is being handled. -/
def Ledger.Somewhere (ledger : Ledger) (ticket : Ticket) : Prop :=
  ticket ∈ ledger.succeeded ∨ ticket ∈ ledger.waiting ∨ ledger.held = some ticket
    ∨ ticket ∈ ledger.inFlight

section Somewhere

variable {ledger : Ledger} {ticket : Ticket}

theorem Ledger.Somewhere.accept (here : ledger.Somewhere ticket) (rows : List Nat) (task : Task)
    : (ledger.accept rows task).Somewhere ticket := by
  rcases here with done | waits | held | flies
  · exact .inl done
  · exact .inr (.inl (List.mem_append_left _ waits))
  · exact .inr (.inr (.inl held))
  · exact .inr (.inr (.inr flies))

theorem Ledger.somewhere_accepted (ledger : Ledger) (rows : List Nat) (task : Task)
    : (ledger.accept rows task).Somewhere ⟨ledger.next, task⟩ :=
  .inr (.inl (List.mem_append_right _ (List.mem_singleton_self _)))

/-- Nothing is held when a task is received. -/
theorem Ledger.Somewhere.receive (here : ledger.Somewhere ticket) (free : ledger.held = none)
    : ledger.receive.Somewhere ticket := by
  rcases here with done | waits | held | flies
  · exact .inl done
  · cases line : ledger.waiting with
    | nil =>
        rw [line] at waits
        cases waits
    | cons first rest =>
        rw [line] at waits
        rcases List.mem_cons.mp waits with rfl | later
        · exact .inr (.inr (.inl (by simp [Ledger.receive, line])))
        · exact .inr (.inl (by simpa [Ledger.receive, line] using later))
  · rw [free] at held
    cases held
  · exact .inr (.inr (.inr flies))

theorem Ledger.Somewhere.employ (here : ledger.Somewhere ticket) : ledger.employ.Somewhere ticket
    := by
  rcases here with done | waits | held | flies
  · exact .inl done
  · exact .inr (.inl waits)
  · exact .inr (.inr (.inr (List.mem_append_right _ (by simp [held]))))
  · exact .inr (.inr (.inr (List.mem_append_left _ flies)))

/-- What leaves a list by its index was found there. -/
theorem mem_eraseIdx_or {α : Type} {items : List α} {item : α} (member : item ∈ items)
    (index : Nat)
    : item ∈ items.eraseIdx index ∨ items[index]? = some item := by
  obtain ⟨place, found⟩ := List.mem_iff_getElem?.mp member
  by_cases same : place = index
  · exact .inr (same ▸ found)
  · exact .inl (List.mem_eraseIdx_iff_getElem?.mpr ⟨place, same, found⟩)

theorem Ledger.Somewhere.retire (here : ledger.Somewhere ticket) (index : Nat)
    : (ledger.retire index true (.ok ())).Somewhere ticket := by
  rcases here with done | waits | held | flies
  · exact .inl (List.mem_append_left _ done)
  · exact .inr (.inl waits)
  · exact .inr (.inr (.inl held))
  · rcases mem_eraseIdx_or flies index with stays | ended
    · exact .inr (.inr (.inr stays))
    · exact .inl (List.mem_append_right _ (by simp [ended]))

end Somewhere

/-- The points that a flush passes through, with what the ledger knows there: the rows that
it has read, and that it has sent the row it removes.
-/
def Ledger.Flushes (ledger : Ledger) : Eff Unit → Prop :=
  Flushing
    (fun root rows => ∀ row ∈ rows, (row.task? root).isSome = true → row.id ∈ ledger.readRows)
    (fun row => row.id ∈ ledger.readRows ∧ ∃ ticket, (row.id, ticket) ∈ ledger.sentRows)

theorem Ledger.Flushes.mono {ledger ledger' : Ledger} {rest : Eff Unit}
    (flushes : ledger.Flushes rest) (read : ledger'.readRows = ledger.readRows)
    (sent : ledger.sentRows ⊆ ledger'.sentRows)
    : ledger'.Flushes rest := by
  refine Flushing.mono flushes ?_ ?_
  · intro root rows known
    rw [read]
    exact known
  · rintro row ⟨known, ticket, sends⟩
    exact ⟨read ▸ known, ticket, sent sends⟩

-----------------------------------------------------------------------------------------
-- The ledger along a run
-----------------------------------------------------------------------------------------

/-- The task that the main task holds while it waits for a permit. -/
def Mode.held : Mode → Option Task
  | .acquiring task => some task
  | _ => none

namespace SyncEngine

variable {host : Host} {ledger : Ledger} {e e' : SyncEngine} {label : Label}

theorem held_of_idle (idle : e.control.phase.idle = true)
    : e.mode.held = none ∧ ∀ rest, e.mode ≠ .flushing rest := by
  cases mode : e.mode with
  | acquiring task | flushing rest => simp [control, mode, Mode.phase, Phase.idle] at idle
  | _ => exact ⟨rfl, by simp⟩

/-- A quiet step of the main task holds no task afterwards, and awaits a flush only from its
beginning.
-/
theorem MainStep.turns (step : MainStep host e label e') (quiet : label.quiet = true)
    : e'.mode.held = none
      ∧ (∀ rest, e'.mode = .flushing rest → ∃ root, rest = flushQueue root)
      ∧ (label ≠ .stopped → e.mode.held = none) := by
  have answered (idle : e'.control.phase.idle = true)
      : e'.mode.held = none ∧ ∀ rest, e'.mode = .flushing rest → ∃ root, rest = flushQueue root :=
    ⟨(held_of_idle idle).1, fun rest mode => absurd mode ((held_of_idle idle).2 rest)⟩
  have control := step.control_step
  cases step with
  | scan | flush | received | spawned => cases quiet
  | scanned mode =>
      have after := answered (control.idle (.inr (.inl ⟨_, rfl⟩)))
      exact ⟨after.1, after.2, fun _ => by simp [mode, Mode.held]⟩
  | interrupted mode | paused mode | command mode =>
      have after := answered (control.idle (.inl ⟨_, rfl⟩))
      exact ⟨after.1, after.2, fun _ => by simp [mode, Mode.held]⟩
  | health mode =>
      have after := answered (control.idle (.inr (.inr ⟨_, rfl⟩)))
      exact ⟨after.1, after.2, fun _ => by simp [mode, Mode.held]⟩
  | left mode requested =>
      have after := answered (by rw [phase_leave]; rfl)
      exact ⟨after.1, after.2, fun other => absurd rfl other⟩
  | stopped mode requested => exact ⟨rfl, by rintro rest ⟨⟩, fun other => absurd rfl other⟩
  | flushed mode | healthTick mode =>
      exact ⟨rfl, by rintro rest ⟨⟩, fun _ => by simp [mode, Mode.held]⟩
  | reconnected mode =>
      refine ⟨rfl, ?_, fun _ => by simp [mode, Mode.held]⟩
      rintro rest ⟨⟩
      exact ⟨_, rfl⟩
  | watching mode =>
      unfold startWatching
      split
      · exact ⟨rfl, by rintro rest ⟨⟩, fun _ => by simp [mode, Mode.held]⟩
      · split <;> exact ⟨rfl, by rintro rest ⟨⟩, fun _ => by simp [mode, Mode.held]⟩
  | rescanTick mode =>
      unfold SyncEngine.rescanTick
      split
      · exact ⟨by simp [mode, Mode.held], by simp [mode], fun _ => by simp [mode, Mode.held]⟩
      · unfold rescan
        split <;> exact ⟨rfl, by rintro rest ⟨⟩, fun _ => by simp [mode, Mode.held]⟩

/-- A quiet step of the main task leaves the workers alone. -/
theorem MainStep.workers (step : MainStep host e label e') (quiet : label.quiet = true)
    : e'.workers = e.workers := by
  cases step.touches with
  | none same => exact same.workers
  | reloaded mode same possible => exact same.workers.trans (reload_keeps _ _ _ _).2.2.1
  | watching => rfl
  | worked | received | spawned | unconfigured => cases quiet

/-- The ledger and the engine agree: what the ledger follows is where it says. -/
structure Tracks (ledger : Ledger) (e : SyncEngine) : Prop where
  programs : Programs e
  configured : Configured e
  waiting : ledger.waiting.map Ticket.task = e.world.tasks
  inFlight : ledger.inFlight.map Ticket.task = e.workers.map Worker.task
  held : ledger.held.map Ticket.task = e.mode.held
  received : ∀ ticket ∈ ledger.received, ledger.Somewhere ticket
  sentRows : ∀ pair ∈ ledger.sentRows, ledger.Somewhere pair.2
  readRows
    : ∀ id ∈ ledger.readRows, id ∈ e.rowIds ∨ ∃ ticket, (id, ticket) ∈ ledger.sentRows
  removedRows : ledger.removedRows ⊆ ledger.readRows
  failed : ledger.failed = []
  flushes : ∀ rest, e.mode = .flushing rest → ledger.Flushes rest

/-- The rows of the queue stay, but for one that is removed. -/
theorem Step.rowIds (programs : Programs e) (step : Step host e label e') {id : Nat}
    (recorded : id ∈ e.rowIds)
    : id ∈ e'.rowIds ∨ label = .main (.removeOfflineTask id) := by
  obtain ⟨row, member, rfl⟩ := List.mem_map.mp recorded
  exact (step.queue programs member).imp_left (List.mem_map_of_mem)

/-- Every handling succeeds: no worker fails, panics or is spared by a shutdown, and the
engine does not stop while it holds a task.
-/
structure HandlesTasks (_ledger : Ledger) (e : SyncEngine) (label : Label) (_e' : SyncEngine)
    : Prop where
  handled
    : ∀ index result, label = .handled index result → result = .ok () ∧ e.handles index = true
  panicked : ∀ index, label ≠ .panicked index
  stopped : label = .stopped → e.mode.held = none

/-- A step that neither moves a task nor removes a row. -/
theorem Tracks.keep (tracks : Tracks ledger e) (step : Step host e label e')
    (tasks : e'.world.tasks = e.world.tasks)
    (workers : e'.workers.map Worker.task = e.workers.map Worker.task)
    (held : e'.mode.held = e.mode.held) (other : ∀ id, label ≠ .main (.removeOfflineTask id))
    (flushes : ∀ rest, e'.mode = .flushing rest → ledger.Flushes rest)
    : Tracks ledger e' := by
  refine ⟨tracks.programs.step step, tracks.configured.step step, tasks ▸ tracks.waiting,
    workers ▸ tracks.inFlight, held ▸ tracks.held, tracks.received, tracks.sentRows, ?_,
    tracks.removedRows, tracks.failed, flushes⟩
  intro id read
  rcases tracks.readRows id read with recorded | sent
  · rcases step.rowIds tracks.programs recorded with stays | removed
    · exact .inl stays
    · exact absurd removed (other id)
  · exact .inr sent

/-- A step in which the channel accepts a task. -/
theorem Tracks.accept (tracks : Tracks ledger e) (step : Step host e label e') {task : Task}
    {rows : List Nat} (tasks : e'.world.tasks = e.world.tasks ++ [task])
    (workers : e'.workers.map Worker.task = e.workers.map Worker.task)
    (held : e'.mode.held = e.mode.held) (other : ∀ id, label ≠ .main (.removeOfflineTask id))
    (flushes : ∀ rest, e'.mode = .flushing rest → (ledger.accept rows task).Flushes rest)
    : Tracks (ledger.accept rows task) e' := by
  refine ⟨tracks.programs.step step, tracks.configured.step step, ?_, workers ▸ tracks.inFlight,
    held ▸ tracks.held, fun ticket got => (tracks.received ticket got).accept rows task, ?_, ?_,
    tracks.removedRows, tracks.failed, flushes⟩
  · rw [tasks, ← tracks.waiting]
    exact List.map_append
  · intro pair sent
    rcases List.mem_append.mp sent with earlier | now
    · exact (tracks.sentRows pair earlier).accept rows task
    · obtain ⟨id, -, rfl⟩ := List.mem_map.mp now
      exact ledger.somewhere_accepted rows task
  · intro id read
    rcases tracks.readRows id read with recorded | ⟨ticket, sent⟩
    · rcases step.rowIds tracks.programs recorded with stays | removed
      · exact .inl stays
      · exact absurd removed (other id)
    · exact .inr ⟨ticket, List.mem_append_left _ sent⟩

theorem tickets_quiet (ledger : Ledger) (e e' : SyncEngine) (quiet : label.quiet = true)
    : tickets ledger e label e' = ledger := by
  cases label <;> first | rfl | cases quiet

theorem Tracks.quiet (tracks : Tracks ledger e) (step : MainStep host e label e')
    (quiet : label.quiet = true) (fine : HandlesTasks ledger e label e')
    : Tracks (tickets ledger e label e') e' := by
  have notReceived (task : Task) : label ≠ .received task := by
    rintro rfl
    cases quiet
  have notRemoved (id : Nat) : label ≠ .main (.removeOfflineTask id) := by
    rintro rfl
    cases quiet
  obtain ⟨after, flushes, before⟩ := step.turns quiet
  have free : e.mode.held = none := by
    by_cases stops : label = .stopped
    · exact fine.stopped stops
    · exact before stops
  rw [tickets_quiet ledger e e' quiet]
  refine tracks.keep (.main step) ?_ (congrArg _ (step.workers quiet)) (after.trans free.symm)
    notRemoved ?_
  · rw [step.tasks notReceived, Label.sent_quiet quiet, List.append_nil]
  · intro rest mode
    obtain ⟨root, rfl⟩ := flushes rest mode
    exact Flushing.reads root

/-- An operation of an awaited scan. -/
theorem Tracks.scan (tracks : Tracks ledger e) {site : ScanSite} {op : Op}
    {next : op.Answer → Eff Unit} {answer : op.Answer} {after : World}
    (mode : e.mode = .scanning site (.call op next)) (served : e.Serves host op answer after)
    : Tracks
        (tickets ledger e (.main op)
          { e with world := after, mode := .scanning site (next answer) })
        { e with world := after, mode := .scanning site (next answer) } := by
  have step := Step.main (.scan mode served)
  have receiving : e.Receiving := by simp [Receiving, mode]
  have tasks := served.tasks receiving
  have uses := tracks.programs.mode
  rw [mode] at uses
  have scans := uses.1
  have held : Mode.held (.scanning site (next answer)) = e.mode.held := by simp [mode, Mode.held]
  by_cases sends : ∃ task, op = .send task
  · obtain ⟨task, rfl⟩ := sends
    exact tracks.accept step tasks rfl held (by simp) (by rintro rest ⟨⟩)
  · have quiet
        : (Label.main op).sent = [] ∧ ∀ id, Label.main op ≠ .main (.removeOfflineTask id) := by
      cases scans with
      | send task => exact absurd ⟨_, rfl⟩ sends
      | looks looks => cases looks <;> simp [Label.sent]
      | _ => simp [Label.sent]
    have unseen
        : tickets ledger e (.main op)
            { e with world := after, mode := .scanning site (next answer) }
          = ledger := by
      cases scans with
      | send task => exact absurd ⟨_, rfl⟩ sends
      | looks looks => cases looks <;> rfl
      | _ => rfl
    rw [unseen]
    rw [quiet.1, List.append_nil] at tasks
    exact tracks.keep step tasks rfl held quiet.2 (by rintro rest ⟨⟩)

/-- A flush reads the queue. -/
theorem Tracks.reads (tracks : Tracks ledger e) {root : Path}
    {answer : Except Error (List OfflineTask)} {after : World}
    (mode : e.mode = .flushing (flushQueue root))
    (served : e.Serves host .getOfflineTasks answer after)
    : Tracks { ledger with readRows := ledger.readRows ++ e.rowsWithTask }
        { e with world := after, mode := .flushing (propagate answer >>= flushRows root) } := by
  have step : Step host e (.main .getOfflineTasks)
      { e with world := after, mode := .flushing (propagate answer >>= flushRows root) } :=
    .main (.flush mode served)
  have receiving : e.Receiving := by simp [Receiving, mode]
  have tasks := served.tasks receiving
  have same : after = e.world := by
    rcases served.1 with ⟨-, rfl⟩ | ⟨-, -, rfl⟩ <;> rfl
  refine ⟨tracks.programs.step step, tracks.configured.step step, ?_, tracks.inFlight, ?_,
    tracks.received, tracks.sentRows, ?_, ?_, tracks.failed, ?_⟩
  · rw [same]
    exact tracks.waiting
  · simpa [mode, Mode.held] using tracks.held
  · intro id read
    rcases List.mem_append.mp read with earlier | now
    · rcases tracks.readRows id earlier with recorded | sent
      · rw [rowIds, same]
        exact .inl recorded
      · exact .inr sent
    · rw [rowIds, same]
      obtain ⟨row, member, rfl⟩ := List.mem_map.mp now
      exact .inl (List.mem_map_of_mem (List.mem_of_mem_filter member))
  · exact fun id removed => List.mem_append_left _ (tracks.removedRows removed)
  · rintro rest ⟨⟩
    rcases served.1 with ⟨rfl, -⟩ | ⟨-, ⟨error, rfl⟩, -⟩
    · refine Flushing.sends root _ ?_
      intro row member stands
      rw [OfflineTask.task?_isSome row root e.currentLocalRoot] at stands
      exact List.mem_append_right _
        (List.mem_map_of_mem (List.mem_filter.mpr ⟨member, stands⟩))
    · exact Flushing.finished _

/-- A flush sends the task of a row. -/
theorem Tracks.sends (tracks : Tracks ledger e) {root : Path} {row : OfflineTask}
    {rows : List OfflineTask} {task : Task} {accepted : Bool} {after : World}
    (mode
      : e.mode = .flushing
          (.call (Op.send task)
            (fun accepted => if accepted then flushRemoving root row rows else pure ())))
    (served : e.Serves host (.send task) accepted after)
    (read : ∀ row ∈ rows, (row.task? root).isSome = true → row.id ∈ ledger.readRows)
    (known : row.id ∈ ledger.readRows)
    : Tracks (ledger.accept [row.id] task)
        { e with world := after, mode := .flushing (flushRemoving root row rows) }
      ∧ accepted = true := by
  have receiving : e.Receiving := by simp [Receiving, mode]
  obtain rfl : accepted = true := (served.2.1 receiving).1
  refine ⟨?_, rfl⟩
  have step : Step host e (.main (.send task))
      { e with world := after, mode := .flushing (flushRemoving root row rows) } :=
    .main (.flush mode served)
  refine tracks.accept step (served.tasks receiving) rfl (by simp [mode, Mode.held]) (by simp) ?_
  rintro rest ⟨⟩
  exact Flushing.removes root row rows read
    ⟨known, _, List.mem_append_right _ (List.mem_singleton_self _)⟩

/-- A flush removes the row whose task it has sent. -/
theorem Tracks.removes (tracks : Tracks ledger e) {root : Path} {row : OfflineTask}
    {rows : List OfflineTask} {answer : Except Error Unit} {after : World}
    (mode : e.mode = .flushing (flushRemoving root row rows))
    (served : e.Serves host (.removeOfflineTask row.id) answer after)
    (read : ∀ row ∈ rows, (row.task? root).isSome = true → row.id ∈ ledger.readRows)
    (known : row.id ∈ ledger.readRows) (sent : ∃ ticket, (row.id, ticket) ∈ ledger.sentRows)
    : Tracks
        (tickets ledger e (.main (.removeOfflineTask row.id))
          { e with
            world := after
            mode := .flushing (propagate answer >>= fun _ => flushRows root rows) })
        { e with
          world := after
          mode := .flushing (propagate answer >>= fun _ => flushRows root rows) } := by
  have step : Step host e (.main (.removeOfflineTask row.id))
      { e with
        world := after
        mode := .flushing (propagate answer >>= fun _ => flushRows root rows) } :=
    .main (.flush mode served)
  have receiving : e.Receiving := by simp [Receiving, mode]
  refine ⟨tracks.programs.step step, tracks.configured.step step, ?_, tracks.inFlight, ?_,
    tracks.received, tracks.sentRows, ?_, ?_, tracks.failed, ?_⟩
  · rw [served.tasks receiving]
    exact tracks.waiting.trans (List.append_nil _).symm
  · exact tracks.held.trans (by simp [mode, Mode.held])
  · intro id earlier
    rcases tracks.readRows id earlier with recorded | sends
    · rcases step.rowIds tracks.programs recorded with stays | removed
      · exact .inl stays
      · cases removed
        exact .inr sent
    · exact .inr sends
  · intro id removed
    rcases List.mem_append.mp removed with earlier | now
    · exact tracks.removedRows earlier
    · obtain ⟨recorded, gone⟩ := List.mem_filter.mp now
      rcases step.rowIds tracks.programs recorded with stays | removed
      · simp [stays] at gone
      · cases removed
        exact known
  · rintro rest ⟨⟩
    cases answer with
    | ok value => exact Flushing.sends root rows read
    | error error => exact Flushing.finished _

/-- An operation of an awaited flush. -/
theorem Tracks.flush (tracks : Tracks ledger e) {op : Op} {next : op.Answer → Eff Unit}
    {answer : op.Answer} {after : World} (mode : e.mode = .flushing (.call op next))
    (served : e.Serves host op answer after)
    : Tracks
        (tickets ledger e (.main op) { e with world := after, mode := .flushing (next answer) })
        { e with world := after, mode := .flushing (next answer) } := by
  have flushes := tracks.flushes _ mode
  generalize same : (.call op next : Eff Unit) = rest at flushes
  cases flushes with
  | reads root =>
      have reads
          : flushQueue root
            = .call Op.getOfflineTasks (fun answer => propagate answer >>= flushRows root) := rfl
      rw [reads] at same
      cases same
      exact tracks.reads mode served
  | sends root rows read =>
      rcases flushRows_cases root rows with finished |
        ⟨skipped, row, rest, task, rfl, -, stands, sends⟩
      · cases same.trans finished
      · cases same.trans sends
        have known : row.id ∈ ledger.readRows := read row (by simp) (by simp [stands])
        obtain ⟨sent, rfl⟩ :=
          tracks.sends mode served (fun other member => read other (by simp [member])) known
        exact sent
  | removes root row rows read sent =>
      cases same
      exact tracks.removes mode served read sent.1 sent.2
  | finished result => cases same

/-- The main task receives the first task of the channel. -/
theorem Tracks.receives (tracks : Tracks ledger e) {task : Task} {rest : List Task}
    (step
      : Step host e (.received task)
          { e with world := { e.world with tasks := rest }, mode := .acquiring task })
    (mode : e.mode = .selecting) (line : e.world.tasks = task :: rest)
    : Tracks ledger.receive
        { e with world := { e.world with tasks := rest }, mode := .acquiring task } := by
  have waiting := tracks.waiting
  rw [line] at waiting
  obtain ⟨ticket, others, split, rfl, remaining⟩ := List.map_eq_cons_iff.mp waiting
  have free : ledger.held = none := by simpa [mode, Mode.held] using tracks.held
  refine ⟨tracks.programs.step step, tracks.configured.step step, ?_, tracks.inFlight, ?_, ?_,
    fun pair sent => (tracks.sentRows pair sent).receive free, tracks.readRows,
    tracks.removedRows, tracks.failed, by rintro rest ⟨⟩⟩
  · simpa [Ledger.receive, split] using remaining
  · simp [Ledger.receive, split, Mode.held]
  · intro got member
    rcases List.mem_append.mp member with earlier | now
    · exact (tracks.received got earlier).receive free
    · refine .inr (.inr (.inl ?_))
      simpa [Ledger.receive, eq_comm] using now

/-- The received task gets a worker. -/
theorem Tracks.employs (tracks : Tracks ledger e) {task : Task} {worker : Worker}
    (step : Step host e (.spawned task)
      { e with mode := .selecting, workers := e.workers ++ [worker] })
    (mode : e.mode = .acquiring task) (takes : worker.task = task)
    : Tracks ledger.employ { e with mode := .selecting, workers := e.workers ++ [worker] } := by
  have held := tracks.held
  simp only [mode, Mode.held, Option.map_eq_some_iff] at held
  obtain ⟨ticket, held, same⟩ := held
  refine ⟨tracks.programs.step step, tracks.configured.step step, tracks.waiting, ?_, rfl,
    fun got member => (tracks.received got member).employ,
    fun pair sent => (tracks.sentRows pair sent).employ, tracks.readRows,
    tracks.removedRows, tracks.failed, by rintro rest ⟨⟩⟩
  simp [Ledger.employ, held, tracks.inFlight, same, takes]

/-- A worker has handled its task with success. -/
theorem Tracks.retires (tracks : Tracks ledger e) {index : Nat}
    (step : Step host e (.handled index (.ok ())) (e.retire index))
    : Tracks (ledger.retire index true (.ok ())) (e.retire index) := by
  have same : e.SameControl (e.retire index) := sameControl_retire e index
  have tasks : (e.retire index).world.tasks = e.world.tasks := by
    simp only [retire]
    split <;> rfl
  have rows : (e.retire index).rowIds = e.rowIds := by
    simp only [retire]
    split <;> rfl
  have workers : (e.retire index).workers = e.workers.eraseIdx index := by
    simp only [retire]
    split <;> rfl
  refine ⟨tracks.programs.step step, tracks.configured.step step, tasks ▸ tracks.waiting, ?_, ?_,
    fun got member => (tracks.received got member).retire index,
    fun pair sent => (tracks.sentRows pair sent).retire index, ?_,
    tracks.removedRows, tracks.failed, ?_⟩
  · rw [workers, ← List.eraseIdx_map, ← tracks.inFlight, List.eraseIdx_map]
    rfl
  · rw [same.mode]
    exact tracks.held
  · rw [rows]
    exact tracks.readRows
  · rw [same.mode]
    exact fun rest mode => (tracks.flushes rest mode).mono rfl (List.Subset.refl _)

/-- The worker that ends has handled its task. -/
theorem handles_of_found {index : Nat} {worker : Worker} (found : e.workers[index]? = some worker)
    : e.handles index = match worker.stage with
        | .handling _ => true
        | .spawned => false := by
  obtain ⟨task, ctx, patterns, stage⟩ := worker
  cases stage <;> simp [SyncEngine.handles, found]

/-- The steps of a worker. -/
theorem Tracks.worker (tracks : Tracks ledger e) (alive : e.mode ≠ .ended .panicked)
    (step : WorkerStep host e label e') (fine : HandlesTasks ledger e label e')
    : Tracks (tickets ledger e label e') e' := by
  have tasks := step.tasks tracks.programs
  have moved : Step host e label e' := .worker alive step
  have keeps (quiet : tickets ledger e label e' = ledger)
      (workers : e'.workers.map Worker.task = e.workers.map Worker.task)
      (mode : e'.mode = e.mode) (other : ∀ id, label ≠ .main (.removeOfflineTask id))
      : Tracks (tickets ledger e label e') e' := by
    rw [quiet]
    exact tracks.keep moved tasks workers (by rw [mode]) other (mode ▸ tracks.flushes)
  have advance {index : Nat} {worker : Worker} (found : e.workers[index]? = some worker)
      (stage : Stage)
      : (e.workers.set index { worker with stage }).map Worker.task
        = e.workers.map Worker.task := by
    refine List.ext_getElem? (fun place => ?_)
    rw [List.getElem?_map, List.getElem?_map, List.getElem?_set]
    split
    · rename_i same
      subst same
      obtain ⟨bound, rfl⟩ := List.getElem?_eq_some_iff.mp found
      simp [bound]
    · rfl
  cases step with
  | spared found spawned requested =>
      have handled := (fine.handled _ _ rfl).2
      simp [handles_of_found found, spawned] at handled
  | begun found spawned running compiled => exact keeps rfl (advance found _) rfl (by simp)
  | panicked => exact absurd rfl (fine.panicked _)
  | worked found handling served => exact keeps rfl (advance found _) rfl (by simp)
  | @handled index worker result found handling =>
      obtain ⟨rfl, handled⟩ := fine.handled _ _ rfl
      simp only [tickets, handled]
      exact tracks.retires moved

/-- The steps of a dispatcher. -/
theorem Tracks.dispatcher (tracks : Tracks ledger e) (alive : e.mode ≠ .ended .panicked)
    (step : DispatcherStep host e label e')
    : Tracks (tickets ledger e label e') e' := by
  have moved : Step host e label e' := .dispatcher alive step
  have mode := step.control.mode
  have workers : e'.workers.map Worker.task = e.workers.map Worker.task := by rw [step.workers]
  have held : e'.mode.held = e.mode.held := by rw [mode]
  cases step with
  | taken | ticked | left =>
      exact tracks.keep moved rfl workers held (by simp) tracks.flushes
  | @worked index dispatcher op next answer after found busy served =>
      have uses := tracks.programs.dispatcher dispatcher (List.mem_of_getElem? found)
      rw [busy] at uses
      cases uses.1 with
      | send task =>
          simp only [tickets]
          rcases served.1 with ⟨accepted, rfl⟩ | ⟨-, refused, rfl⟩
          · rw [if_pos (by simp)]
            exact tracks.accept moved rfl workers held (by simp)
              (fun rest mode => (tracks.flushes rest mode).mono rfl (List.subset_append_left _ _))
          · rw [if_neg (by simp)]
            exact tracks.keep moved rfl workers held (by simp) tracks.flushes
      | isOffline | metadata path | addTotals files bytes | pushOfflineTask action path extra =>
          have tasks := (host.env.sem_keeps served.1).tasks (by simp [Op.writes])
          exact tracks.keep moved tasks workers held (by simp) tracks.flushes

/-- Every step of the discipline keeps the ledger in agreement with the engine. -/
theorem Tracks.step (tracks : Tracks ledger e) (step : Step host e label e')
    (fine : HandlesTasks ledger e label e')
    : Tracks (tickets ledger e label e') e' := by
  cases step with
  | main step =>
      by_cases quiet : label.quiet = true
      · exact tracks.quiet step quiet fine
      · have moved : Step host e label e' := .main step
        cases step with
        | scan mode served => exact tracks.scan mode served
        | flush mode served => exact tracks.flush mode served
        | received mode resumed running waiting => exact tracks.receives moved mode waiting
        | @spawned task mode permit =>
            have receiving : e.Receiving := by simp [Receiving, mode]
            unfold spawn at moved ⊢
            split at moved
            · rename_i missing
              exact absurd missing (tracks.configured receiving)
            · exact tracks.employs moved mode rfl
        | _ => exact absurd rfl quiet
  | worker alive step => exact tracks.worker alive step fine
  | dispatcher alive step => exact tracks.dispatcher alive step
  | outside step =>
      have moved : Step host e label e' := .outside step
      have mode := step.control.mode
      have unseen : tickets ledger e label e' = ledger := by cases step <;> rfl
      have tasks : e'.world.tasks = e.world.tasks := by
        cases step with
        | published =>
            simp only [publish]
            split <;> rfl
        | _ => rfl
      rw [unseen]
      exact tracks.keep moved tasks (by rw [step.workers]) (by rw [mode]) (by cases step <;> simp)
        (mode ▸ tracks.flushes)

theorem tracks_launch (host : Host) (w : World) (cfg : AppConfig) (dryRun : Bool)
    : Tracks {} (launch host w cfg dryRun) := by
  have shape
      : (launch host w cfg dryRun).world.tasks = [] ∧ (launch host w cfg dryRun).workers = []
        ∧ (launch host w cfg dryRun).mode.held = none
        ∧ ∀ rest, (launch host w cfg dryRun).mode ≠ .flushing rest := by
    simp only [launch]
    split
    · exact ⟨rfl, rfl, rfl, by rintro rest ⟨⟩⟩
    · split <;> exact ⟨rfl, rfl, rfl, by rintro rest ⟨⟩⟩
  obtain ⟨tasks, workers, held, flushes⟩ := shape
  exact ⟨programs_launch host w cfg dryRun, configured_launch host w cfg dryRun, tasks.symm,
    by rw [workers]; rfl, held.symm, by rintro ticket ⟨⟩, by rintro pair ⟨⟩, by rintro id ⟨⟩,
    List.Subset.refl _, rfl, fun rest mode => absurd mode (flushes rest)⟩

end SyncEngine

end SyncGDrive
