import SyncGDrive.Engine.Sending
import SyncGDrive.Realtime.Run

/-! What is still owed to a path: the last request for it that is in the channel, in the
debounce map or unreceived. The dispatcher only moves requests on.
-/

namespace SyncGDrive

open Program

-----------------------------------------------------------------------------------------
-- Requests
-----------------------------------------------------------------------------------------

inductive Duty
  | synchronise
  | remove
  deriving DecidableEq

/-- The request that a task stands for; renames are none. -/
def Task.request : Task → Option (Path × Duty)
  | .syncFile path => some (path, .synchronise)
  | .delete path => some (path, .remove)
  | .rename .. => none

/-- The request that a report stands for; renames are none. -/
def WatchEvent.request : WatchEvent → Option (Path × Duty)
  | .modified path => some (path, .synchronise)
  | .deleted path => some (path, .remove)
  | .renamed .. => none

/-- The last of some requests for a path. -/
def lastFor (path : Path) : List (Path × Duty) → Option Duty
  | [] => none
  | request :: rest =>
      (lastFor path rest).or (if request.1 = path then some request.2 else none)

/-- All that is requested, in the order in which it reaches the workers. -/
def Live.requests (live : Live) : List (Path × Duty) :=
  live.world.tasks.filterMap Task.request
    ++ (live.pending.keys.map (fun path => (path, .synchronise))
      ++ live.inbox.filterMap WatchEvent.request)

/-- The last request for a path. -/
def Live.owed (live : Live) (path : Path) : Option Duty := lastFor path live.requests

theorem lastFor_append {path : Path} (first second : List (Path × Duty))
    : lastFor path (first ++ second) = (lastFor path second).or (lastFor path first) := by
  induction first with
  | nil => simp [lastFor]
  | cons request rest ih => simp [lastFor, ih, Option.or_assoc]

/-- Requests of one kind. -/
theorem lastFor_map {path : Path} {duty : Duty} (paths : List Path)
    : lastFor path (paths.map (fun path => (path, duty)))
      = if path ∈ paths then some duty else none := by
  induction paths with
  | nil => rfl
  | cons other rest ih =>
      simp only [List.map_cons, lastFor, ih, List.mem_cons]
      by_cases later : path ∈ rest
      · simp [later]
      · by_cases same : other = path
        · simp [same, later]
        · simp [later, same, Ne.symm same]

/-- What is owed to a path: the last report, else a place in the debounce map, else the last
task.
-/
theorem Live.owed_eq {live : Live} {path : Path}
    : live.owed path
      = (lastFor path (live.inbox.filterMap WatchEvent.request)).or
          ((if path ∈ live.pending then some .synchronise else none).or
            (lastFor path (live.world.tasks.filterMap Task.request))) := by
  rw [Live.owed, Live.requests, lastFor_append, lastFor_append, lastFor_map, Option.or_assoc]
  simp only [AList.mem_keys]

-----------------------------------------------------------------------------------------
-- What the dispatcher sends while online
-----------------------------------------------------------------------------------------

/-- The task that an event is passed on as. -/
def WatchEvent.tasks : WatchEvent → List Task
  | .modified _ => []
  | .deleted path => [.delete path]
  | .renamed source target => [.rename source target]

section Online

variable {env : Environment} (quiet : env.Undisturbed) {w state : World} {localRoot : Path}

/-- No program changes the offline flag. -/
theorem always_online {α : Type} (program : Eff α) (online : w.offline = false)
    : Always env.sem (fun state => state.offline = false) program w (fun _ _ => True) :=
  always_of_sem (fun _ _ _ _ same served => (env.sem_keeps served).offline.trans same) online

include quiet

/-- Counting a task, then sending it. -/
theorem always_addAndSend {bytes : Nat} {task : Task} (before : w.Sends [] state)
    : Always env.sem (fun _ => True)
        (do
          ask (.report (.addTotals 1 bytes))
          ask (.send task))
        state (fun result last => result = .ok true ∧ w.Sends [task] last) := by
  refine always_ask_bind.mpr ⟨trivial, ?_⟩
  rintro _ reported rfl
  refine always_ask.mpr ⟨trivial, ?_⟩
  intro accepted after served
  obtain ⟨rfl, rfl⟩ := quiet.sem_send.mp served
  have reports : w.Sends [] (state.report (.addTotals 1 bytes)) :=
    before.trans (.of_agrees (state.agrees_report _) (state.report_pathCache _))
  exact ⟨trivial, rfl, reports.trans ⟨.refl _, rfl⟩⟩

theorem always_dispatchReady {path : Path} (running : w.shutdown = false)
    (online : w.offline = false)
    : Always env.sem (fun _ => True) (dispatchReady localRoot path) w
        (fun result last => result = .ok true ∧ w.Sends [.syncFile path] last) := by
  unfold dispatchReady
  refine always_known (fun _ _ served => served) trivial ?_
  rw [online]
  refine always_silent_bind quiet (uses_silent uses_sizeOf) (neverFails_sizeOf quiet) running
    (fun _ _ => trivial) ?_
  intro size state agrees same
  exact always_addAndSend quiet (.of_agrees agrees same)

/-- A tick sends its paths in their order, by induction on the paths. -/
theorem always_dispatchAll {paths : List Path} (running : w.shutdown = false)
    (online : w.offline = false)
    : Always env.sem (fun _ => True) (dispatchAll localRoot paths) w
        (fun result last => result = .ok true ∧ w.Sends (paths.map .syncFile) last) := by
  induction paths generalizing w with
  | nil => exact ⟨trivial, rfl, .of_agrees (.refl w) rfl⟩
  | cons path rest ih =>
      refine (((always_dispatchReady quiet running online).and (always_online _ online)).weaken
        (fun _ _ => trivial)).bind ?_ ?_
      · rintro _ state - ⟨⟨-, online⟩, ⟨same, sends⟩, -⟩
        cases same
        refine (ih (sends.1.running.trans running) online).mono ?_
        rintro result last - ⟨rfl, more⟩
        exact ⟨rfl, sends.trans more⟩
      · rintro error state - ⟨-, ⟨same, -⟩, -⟩
        cases same

theorem always_dispatchEvent {event : WatchEvent} (online : w.offline = false)
    : Always env.sem (fun _ => True) (dispatchEvent localRoot event) w
        (fun result last => result = .ok true ∧ w.Sends event.tasks last) := by
  have start : w.Sends [] w := .of_agrees (.refl w) rfl
  cases event with
  | modified path => exact ⟨trivial, rfl, start⟩
  | deleted path =>
      unfold dispatchEvent
      refine always_known (fun _ _ served => served) trivial ?_
      rw [online]
      exact always_addAndSend quiet start
  | renamed source target =>
      unfold dispatchEvent
      refine always_known (fun _ _ served => served) trivial ?_
      rw [online]
      exact always_addAndSend quiet start

end Online

-----------------------------------------------------------------------------------------
-- Requests move on
-----------------------------------------------------------------------------------------

section Moving

variable {live : Live} {after : World} {path : Path}

/-- An unreceived report is what is owed to its path. -/
theorem Live.owed_report {world : World} {event : WatchEvent} {request : Path × Duty}
    (known : event.request = some request) (tasks : world.tasks = live.world.tasks)
    : (Live.mk world (live.inbox ++ [event]) live.pending live.now).owed path
      = if request.1 = path then some request.2 else live.owed path := by
  rw [Live.owed_eq, Live.owed_eq]
  by_cases same : request.1 = path <;>
    simp [tasks, known, lastFor_append, lastFor, same]

/-- Receiving an event that is no rename owes every path what was owed. -/
theorem Live.owed_receive {event : WatchEvent} {rest : List WatchEvent}
    (reported : live.inbox = event :: rest) (known : event.request ≠ none)
    (tasks : after.tasks = live.world.tasks ++ event.tasks)
    : (Live.mk after rest (live.pending.note live.now event) live.now).owed path
      = live.owed path := by
  rw [Live.owed_eq, Live.owed_eq, reported, tasks]
  cases event with
  | renamed source target => exact absurd rfl known
  | modified other =>
      by_cases same : path = other
      · simp [WatchEvent.request, WatchEvent.tasks, lastFor, Pending.note, same]
      · simp [WatchEvent.request, WatchEvent.tasks, lastFor, Pending.note, same, Ne.symm same]
  | deleted other =>
      by_cases same : path = other
      · simp [WatchEvent.request, WatchEvent.tasks, Task.request, lastFor, lastFor_append,
          Pending.note, same]
      · simp [WatchEvent.request, WatchEvent.tasks, Task.request, lastFor, lastFor_append,
          Pending.note, same, Ne.symm same]

theorem Pending.mem_without {pending : Pending} {paths : List Path}
    : path ∈ pending.without paths ↔ path ∈ pending ∧ path ∉ paths := by
  induction paths generalizing pending with
  | nil => simp [without]
  | cons other rest ih =>
      rw [without, List.foldl_cons, ← without, ih, AList.mem_erase, List.mem_cons]
      tauto

theorem Pending.mem_of_ready {pending : Pending} {now debounceMs : Nat}
    (ready : path ∈ pending.ready now debounceMs)
    : path ∈ pending := by
  obtain ⟨entry, member, rfl⟩ := List.mem_map.mp ready
  exact List.mem_map_of_mem (List.mem_of_mem_filter member)

theorem filterMap_syncFile (paths : List Path)
    : (paths.map Task.syncFile).filterMap Task.request
      = paths.map (fun path => (path, .synchronise)) := by
  induction paths with
  | nil => rfl
  | cons path rest ih => simpa [Task.request] using ih

/-- A tick owes every path what was owed. -/
theorem Live.owed_tick {ready : List Path} {now : Nat}
    (waiting : ∀ path ∈ ready, path ∈ live.pending)
    (tasks : after.tasks = live.world.tasks ++ ready.map .syncFile)
    : (Live.mk after live.inbox (live.pending.without ready) now).owed path = live.owed path := by
  rw [Live.owed_eq, Live.owed_eq]
  simp only [tasks, List.filterMap_append, lastFor_append, filterMap_syncFile, lastFor_map,
    Pending.mem_without]
  by_cases due : path ∈ ready
  · simp [due, waiting path due]
  · simp [due]

/-- Handling a task settles what is owed to its path only if nothing else is. -/
theorem Live.owed_handle {task : Task} {rest : List Task} (queued : live.world.tasks = task :: rest)
    (tasks : after.tasks = rest)
    : live.owed path
      = ({ live with world := after }.owed path).or
          (lastFor path ([task].filterMap Task.request)) := by
  rw [Live.owed_eq, Live.owed_eq]
  simp only [queued, tasks, Option.or_assoc, ← lastFor_append, ← List.filterMap_append,
    List.singleton_append]

end Moving

end SyncGDrive
