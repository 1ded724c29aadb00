import SyncGDrive.Data.Concat
import SyncGDrive.Engine.Flushing
import SyncGDrive.Engine.Passing
import SyncGDrive.Loop.Ledger

/-! The order in which events reach the channel. Every event gets a stamp when its dispatcher
turns to passing it on, and the row that is recorded for it keeps that stamp until a flush
sends it.
-/

namespace SyncGDrive

open Program

-----------------------------------------------------------------------------------------
-- Stamps
-----------------------------------------------------------------------------------------

structure Stamps where
  next : Nat
  /-- Of the event that a dispatcher is passing on. -/
  current : Nat → Nat := fun _ => 0
  /-- The rows of the queue that have been recorded, each with its stamp. -/
  recorded : List (Nat × Nat)
  /-- The rows that a flush has sent a task for. -/
  sent : List Nat := []
  /-- What has entered the channel, in order. -/
  log : List Nat := []

/-- The rows of an earlier session come first, in the order of their keys. -/
def Stamps.of (w : World) : Stamps where
  next := w.db.offlineQueue.nextId
  recorded := w.db.getOfflineTasks.map (fun row => (row.id, row.id))

/-- A row that stands for a task, below whatever root. -/
def OfflineTask.Stands (row : OfflineTask) : Prop := (row.task? []).isSome = true

theorem OfflineTask.stands_of_task {row : OfflineTask} {root : Path} {task : Task}
    (stands : row.task? root = some task)
    : row.Stands := by
  rw [Stands, row.task?_isSome [] root, stands]
  rfl

namespace SyncEngine

/-- What the stamps make of a step. -/
def stamps : Watch SyncEngine Label Stamps := fun note e label e' =>
  match label with
  | .dispatcher index .isOffline =>
      { note with
        next := note.next + 1
        current := Function.update note.current index note.next }
  | .dispatcher index (.pushOfflineTask ..) =>
      { note with
        recorded :=
          note.recorded
            ++ (e'.rowIds.filter (· ∉ e.rowIds)).map (fun id => (id, note.current index)) }
  | .dispatcher index (.send _) =>
      if e.world.tasks.length < e'.world.tasks.length then
        { note with log := note.log ++ [note.current index] }
      else note
  | .main (.send _) =>
      { note with
        sent := note.sent ++ e'.mode.removes
        log := note.log ++ e'.mode.removes.filterMap (fun id => note.recorded.lookup id) }
  | _ => note

/-- A dispatcher sends only while no row waits for its turn, no two dispatchers pass an event
on at once, and a row is removed when it should be.
-/
structure KeepsOrder (_note : Stamps) (e : SyncEngine) (label : Label) (e' : SyncEngine)
    : Prop where
  direct
    : ∀ index task,
        label = .dispatcher index (.send task)
        → ∀ row ∈ e.world.db.getOfflineTasks, row.Stands → row.id ∈ e.mode.removes
  alone
    : ∀ index,
        label = .dispatcher index .isOffline
        → ∀ other ≠ index, ∀ dispatcher,
            e.dispatchers[other]? = some dispatcher → passing dispatcher.busy = false
  removed : ∀ id, label = .main (.removeOfflineTask id) → id ∉ e'.rowIds

-----------------------------------------------------------------------------------------
-- The invariant
-----------------------------------------------------------------------------------------

/-- The later entry has the larger key and the larger stamp. -/
def Follows (earlier later : Nat × Nat) : Prop := earlier.1 < later.1 ∧ earlier.2 < later.2

/-- The keys decide about the stamps. -/
theorem stamp_lt {entries : List (Nat × Nat)} (ascending : entries.Pairwise Follows)
    {id id' stamp stamp' : Nat} (member : (id, stamp) ∈ entries) (member' : (id', stamp') ∈ entries)
    (before : id < id')
    : stamp < stamp' := by
  have agree
      : ∀ ⦃entry⦄, entry ∈ entries → ∀ ⦃entry'⦄, entry' ∈ entries
          → entry.1 < entry'.1 → entry.2 < entry'.2 := by
    refine List.Pairwise.forall_of_forall_of_flip
      (fun entry _ less => absurd less (Nat.lt_irrefl _)) ?_ ?_
    · exact ascending.imp (fun follows _ => follows.2)
    · exact ascending.imp (fun follows less => absurd less (Nat.lt_asymm follows.1))
  exact agree member member' before

/-- A key has one stamp, by induction on the entries. -/
theorem lookup_of_mem {entries : List (Nat × Nat)} (ascending : entries.Pairwise Follows)
    {id stamp : Nat} (member : (id, stamp) ∈ entries)
    : entries.lookup id = some stamp := by
  induction entries with
  | nil => cases member
  | cons entry rest ih =>
      obtain ⟨first, others⟩ := List.pairwise_cons.mp ascending
      obtain ⟨key, value⟩ := entry
      rcases List.mem_cons.mp member with same | later
      · cases same
        exact List.lookup_cons_self
      · have other : id ≠ key := Nat.ne_of_gt (first _ later).1
        rw [List.lookup_cons, show (id == key) = false by simpa using other]
        exact ih others later

/-- What a flush knows of the rows that it has still to send: they are recorded, in order, and
before whatever else is recorded.
-/
structure Upcoming (sent : List Nat) (queue rows : List OfflineTask) : Prop where
  ascending : rows.Pairwise (fun earlier later => earlier.id < later.id)
  recorded : ∀ row ∈ rows, row ∈ queue
  unsent : ∀ row ∈ rows, row.id ∉ sent
  first
    : ∀ row ∈ queue,
        row.Stands → row.id ∉ sent → row ∈ rows ∨ ∀ other ∈ rows, other.id < row.id

/-- The stamps and the engine agree, and what has entered the channel is in order. -/
structure Ordered (note : Stamps) (e : SyncEngine) : Prop where
  programs : Programs e
  passes : ∀ dispatcher ∈ e.dispatchers, PassesOnce dispatcher.busy
  stamped : ∀ row ∈ e.world.db.getOfflineTasks, ∃ stamp, (row.id, stamp) ∈ note.recorded
  keys : ∀ entry ∈ note.recorded, entry.1 < e.world.db.offlineQueue.nextId
  sentKeys : ∀ id ∈ note.sent, id < e.world.db.offlineQueue.nextId
  ascending : note.recorded.Pairwise Follows
  given : ∀ entry ∈ note.recorded, entry.2 < note.next
  logged : ∀ stamp ∈ note.log, stamp < note.next
  sorted : note.log.Pairwise (· < ·)
  ahead
    : ∀ row ∈ e.world.db.getOfflineTasks,
        row.Stands → row.id ∉ note.sent
        → ∀ stamp, (row.id, stamp) ∈ note.recorded → ∀ earlier ∈ note.log, earlier < stamp
  current
    : ∀ (index : Nat) dispatcher,
        e.dispatchers[index]? = some dispatcher → passing dispatcher.busy = true
        → note.current index < note.next ∧ (∀ stamp ∈ note.log, stamp < note.current index)
          ∧ ∀ entry ∈ note.recorded, entry.2 < note.current index
  alone
    : ∀ (index other : Nat) dispatcher dispatcher',
        e.dispatchers[index]? = some dispatcher → passing dispatcher.busy = true
        → e.dispatchers[other]? = some dispatcher' → passing dispatcher'.busy = true
        → index = other
  gone
    : e.Receiving
      → ∀ row ∈ e.world.db.getOfflineTasks, row.id ∈ note.sent → row.id ∈ e.mode.removes
  flushes
    : ∀ rest,
        e.mode = .flushing rest
        → Flushing (fun _ => Upcoming note.sent e.world.db.getOfflineTasks)
          (fun row => row.id ∈ note.sent)
            rest

variable {host : Host} {note : Stamps} {e e' : SyncEngine} {label : Label}

/-- What a step may do to the dispatchers without one that begins to pass an event on. -/
structure Quietens (e e' : SyncEngine) : Prop where
  passes : (∀ d ∈ e.dispatchers, PassesOnce d.busy) → ∀ d ∈ e'.dispatchers, PassesOnce d.busy
  active
    : ∀ (index : Nat) d',
        e'.dispatchers[index]? = some d' → passing d'.busy = true
        → ∃ d, e.dispatchers[index]? = some d ∧ passing d.busy = true

theorem Quietens.of_same (same : e'.dispatchers = e.dispatchers) : Quietens e e' := by
  refine ⟨fun passes => same ▸ passes, ?_⟩
  intro index d' found active
  exact ⟨d', same ▸ found, active⟩

/-- One dispatcher turns to something that it passes on only if it was passing on. -/
theorem Quietens.of_set {index : Nat} {dispatcher dispatcher' : Dispatcher}
    (found : e.dispatchers[index]? = some dispatcher)
    (changed : e'.dispatchers = e.dispatchers.set index dispatcher')
    (passes : PassesOnce dispatcher.busy → PassesOnce dispatcher'.busy)
    (kept : passing dispatcher'.busy = true → passing dispatcher.busy = true)
    : Quietens e e' := by
  constructor
  · intro before d member
    rw [changed] at member
    rcases List.mem_or_eq_of_mem_set member with earlier | rfl
    · exact before d earlier
    · exact passes (before dispatcher (List.mem_of_getElem? found))
  · intro other d foundAfter active
    rw [changed, List.getElem?_set] at foundAfter
    split at foundAfter
    · rename_i same
      subst same
      split at foundAfter
      · cases foundAfter
        exact ⟨dispatcher, found, kept active⟩
      · cases foundAfter
    · exact ⟨d, foundAfter, active⟩

/-- New dispatchers have nothing to pass on yet. -/
theorem Quietens.of_append {added : List Dispatcher}
    (changed : e'.dispatchers = e.dispatchers ++ added)
    (fresh : ∀ d ∈ added, d.busy = pure true)
    : Quietens e e' := by
  constructor
  · intro before d member
    rw [changed] at member
    rcases List.mem_append.mp member with earlier | new
    · exact before d earlier
    · rw [fresh d new]
      trivial
  · intro index d found active
    rw [changed, List.getElem?_append] at found
    split at found
    · exact ⟨d, found, active⟩
    · rw [fresh d (List.mem_of_getElem? found)] at active
      cases active

theorem Quietens.trans {e'' : SyncEngine} (first : Quietens e e') (second : Quietens e' e'')
    : Quietens e e'' := by
  refine ⟨fun passes => second.passes (first.passes passes), ?_⟩
  intro index d found active
  obtain ⟨d', found', active'⟩ := second.active index d found active
  exact first.active index d' found' active'

theorem quietens_stopWatcher (e : SyncEngine) : Quietens e e.stopWatcher := by
  constructor
  · intro before d member
    obtain ⟨old, found, rfl⟩ := List.mem_map.mp member
    exact before old found
  · intro index d found active
    simp only [stopWatcher, List.getElem?_map, Option.map_eq_some_iff] at found
    obtain ⟨old, there, rfl⟩ := found
    exact ⟨old, there, active⟩

theorem MainStep.quietens (step : MainStep host e label e') : Quietens e e' := by
  obtain ⟨stopped, added, respawns⟩ := step.respawns
  have fresh (d : Dispatcher) (new : d ∈ added) : d.busy = pure true :=
    (respawns.fresh d new).2.2.2.2
  cases stopped with
  | false => exact Quietens.of_append respawns.dispatchers fresh
  | true => exact (quietens_stopWatcher e).trans (Quietens.of_append respawns.dispatchers fresh)

/-- A step that the stamps take no notice of, and that leaves the queue alone. -/
theorem Ordered.keep (ordered : Ordered note e) (step : Step host e label e')
    (queue : e'.world.db.offlineQueue = e.world.db.offlineQueue) (quietens : Quietens e e')
    (removes : e'.Receiving → e.Receiving ∧ ∀ id ∈ e.mode.removes, id ∈ e'.mode.removes)
    (flushes
      : ∀ rest,
          e'.mode = .flushing rest
          → Flushing (fun _ => Upcoming note.sent e.world.db.getOfflineTasks)
              (fun row => row.id ∈ note.sent) rest)
    : Ordered note e' := by
  have rows : e'.world.db.getOfflineTasks = e.world.db.getOfflineTasks := by
    rw [Database.getOfflineTasks, queue, Database.getOfflineTasks]
  refine ⟨ordered.programs.step step, quietens.passes ordered.passes, rows ▸ ordered.stamped,
    queue ▸ ordered.keys, queue ▸ ordered.sentKeys, ordered.ascending, ordered.given,
    ordered.logged, ordered.sorted, rows ▸ ordered.ahead, ?_, ?_, ?_, rows ▸ flushes⟩
  · intro index dispatcher found active
    obtain ⟨before, there, was⟩ := quietens.active index dispatcher found active
    exact ordered.current index before there was
  · intro index other dispatcher dispatcher' found active found' active'
    obtain ⟨before, there, was⟩ := quietens.active index dispatcher found active
    obtain ⟨before', there', was'⟩ := quietens.active other dispatcher' found' active'
    exact ordered.alone index other before before' there was there' was'
  · intro receiving row member sent
    rw [rows] at member
    exact (removes receiving).2 _ (ordered.gone (removes receiving).1 row member sent)

theorem removes_of_quiet (step : MainStep host e label e') (quiet : label.quiet = true)
    : e.mode.removes = [] := by
  cases step with
  | scan | flush | received | spawned => cases quiet
  | stopped mode => rcases mode with mode | ⟨task, mode⟩ <;> rw [mode] <;> rfl
  | scanned mode | flushed mode | interrupted mode | left mode | watching mode | paused mode
  | command mode | healthTick mode | health mode | reconnected mode | rescanTick mode =>
      rw [mode]
      rfl

/-- A flush removes a row only once it has sent its task. -/
theorem Ordered.removing (ordered : Ordered note e) {id : Nat} (removes : id ∈ e.mode.removes)
    : id ∈ note.sent := by
  cases mode : e.mode with
  | flushing rest =>
      rw [mode] at removes
      cases ordered.flushes rest mode with
      | reads root => cases removes
      | sends root rows fine =>
          rcases flushRows_cases root rows with finished | ⟨-, row, rest, task, -, -, -, sends⟩
          · rw [finished] at removes
            cases removes
          · rw [sends] at removes
            cases removes
      | removes root row rows fine sent =>
          rw [List.mem_singleton.mp removes]
          exact sent
      | finished result => cases removes
  | _ =>
      rw [mode] at removes
      cases removes

theorem Ordered.quiet (ordered : Ordered note e) (step : MainStep host e label e')
    (quiet : label.quiet = true)
    : Ordered (stamps note e label e') e' := by
  have unseen : stamps note e label e' = note := by
    cases label <;> first | rfl | cases quiet
  have queue : e'.world.db.offlineQueue = e.world.db.offlineQueue := by
    refine Step.offlineQueue ordered.programs (.main step) ?_ ?_
    · rintro id rfl
      cases quiet
    · rintro index action path extra rfl
      cases quiet
  rw [unseen]
  refine ordered.keep (.main step) queue step.quietens (fun _ => ⟨step.receiving, ?_⟩) ?_
  · rw [removes_of_quiet step quiet]
    simp
  · intro rest mode
    obtain ⟨root, rfl⟩ := (step.turns quiet).2.1 rest mode
    exact .reads root

-----------------------------------------------------------------------------------------
-- Scans and flushes
-----------------------------------------------------------------------------------------

/-- A scan sends tasks of its own, which no event has produced. -/
theorem Ordered.scan (ordered : Ordered note e) {site : ScanSite} {op : Op}
    {next : op.Answer → Eff Unit} {answer : op.Answer} {after : World}
    (mode : e.mode = .scanning site (.call op next)) (served : e.Serves host op answer after)
    : Ordered
        (stamps note e (.main op) { e with world := after, mode := .scanning site (next answer) })
        { e with world := after, mode := .scanning site (next answer) } := by
  have step := Step.main (.scan mode served)
  have receiving : e.Receiving := by simp [Receiving, mode]
  have uses := ordered.programs.mode
  rw [mode] at uses
  have leaves := uses.1.leavesQueue
  have unseen
      : stamps note e (.main op) { e with world := after, mode := .scanning site (next answer) }
        = note := by
    cases op with
    | send task => simp [stamps, Mode.removes]
    | _ => rfl
  rw [unseen]
  exact ordered.keep step (sem_offlineQueue served.1 leaves) (.of_same rfl)
    (fun _ => ⟨receiving, by simp [mode, Mode.removes]⟩) (by rintro rest ⟨⟩)

/-- A flush reads the queue. -/
theorem Ordered.reads (ordered : Ordered note e) {root : Path}
    {answer : Except Error (List OfflineTask)} {after : World}
    (mode : e.mode = .flushing (flushQueue root))
    (served : e.Serves host .getOfflineTasks answer after)
    : Ordered note
        { e with world := after, mode := .flushing (propagate answer >>= flushRows root) } := by
  have step : Step host e (.main .getOfflineTasks)
      { e with world := after, mode := .flushing (propagate answer >>= flushRows root) } :=
    .main (.flush mode served)
  have receiving : e.Receiving := by simp [Receiving, mode]
  have unsent : ∀ row ∈ e.world.db.getOfflineTasks, row.id ∉ note.sent := by
    intro row member sent
    have removes := ordered.gone receiving row member sent
    rw [mode] at removes
    cases removes
  have queue : after.db.offlineQueue = e.world.db.offlineQueue := by
    rcases served.1 with ⟨-, rfl⟩ | ⟨-, -, rfl⟩ <;> rfl
  refine ordered.keep step queue (.of_same rfl) (fun _ => ⟨receiving, ?_⟩) ?_
  · rw [mode]
    rintro id ⟨⟩
  · rintro rest ⟨⟩
    rcases served.1 with ⟨rfl, -⟩ | ⟨-, ⟨error, rfl⟩, -⟩
    · exact Flushing.sends root _
        ⟨e.world.db.offlineQueue.ascending, fun _ member => member, unsent,
          fun row member _ _ => .inl member⟩
    · exact Flushing.finished _

/-- A flush sends the task of the first row that stands for one. -/
theorem Ordered.sends (ordered : Ordered note e) {root : Path} {row : OfflineTask}
    {skipped rows : List OfflineTask} {task : Task} {accepted : Bool} {after : World}
    (mode
      : e.mode = .flushing
          (.call (Op.send task)
            (fun accepted => if accepted then flushRemoving root row rows else pure ())))
    (served : e.Serves host (.send task) accepted after) (stands : row.Stands)
    (idle : ∀ other ∈ skipped, ¬ other.Stands)
    (upcoming : Upcoming note.sent e.world.db.getOfflineTasks (skipped ++ row :: rows))
    : Ordered
        (stamps note e (.main (.send task))
          { e with world := after, mode := .flushing (flushRemoving root row rows) })
        { e with world := after, mode := .flushing (flushRemoving root row rows) }
      ∧ accepted = true := by
  have receiving : e.Receiving := by simp [Receiving, mode]
  obtain rfl : accepted = true := (served.2.1 receiving).1
  refine ⟨?_, rfl⟩
  have step : Step host e (.main (.send task))
      { e with world := after, mode := .flushing (flushRemoving root row rows) } :=
    .main (.flush mode served)
  have db : after.db = e.world.db := (host.env.sem_keeps served.1).db (by simp [Op.writes])
  have recorded : row ∈ e.world.db.getOfflineTasks := upcoming.recorded row (by simp)
  have unsent : row.id ∉ note.sent := upcoming.unsent row (by simp)
  obtain ⟨stamp, stamped⟩ := ordered.stamped row recorded
  have noted
      : stamps note e (.main (.send task))
          { e with world := after, mode := .flushing (flushRemoving root row rows) }
        = { note with sent := note.sent ++ [row.id], log := note.log ++ [stamp] } := by
    simp [stamps, Mode.removes, flushRemoving, lookup_of_mem ordered.ascending stamped]
  obtain ⟨-, ascending, -⟩ := List.pairwise_append.mp upcoming.ascending
  obtain ⟨least, ascending⟩ := List.pairwise_cons.mp ascending
  -- Whatever else waits in the queue has been recorded after this row.
  have later : ∀ other ∈ e.world.db.getOfflineTasks,
      other.Stands → other.id ∉ note.sent ++ [row.id] → other ∈ rows ∨ row.id < other.id
        ∧ ∀ before ∈ rows, before.id < other.id := by
    intro other member stands' unsent'
    simp only [List.mem_append, List.mem_singleton, not_or] at unsent'
    rcases upcoming.first other member stands' unsent'.1 with among | beyond
    · rcases List.mem_append.mp among with passed | ahead
      · exact absurd stands' (idle other passed)
      · rcases List.mem_cons.mp ahead with rfl | waits
        · exact absurd rfl unsent'.2
        · exact .inl waits
    · exact .inr ⟨beyond row (by simp), fun before waits => beyond before (by simp [waits])⟩
  rw [noted]
  refine ⟨ordered.programs.step step, ordered.passes, db ▸ ordered.stamped, db ▸ ordered.keys, ?_,
    ordered.ascending, ordered.given, ?_, ?_, ?_, ?_, ordered.alone, ?_, ?_⟩
  · rw [db]
    exact List.forall_mem_concat.mpr
      ⟨ordered.sentKeys, e.world.db.offlineQueue.fresh row recorded⟩
  · exact List.forall_mem_concat.mpr ⟨ordered.logged, ordered.given _ stamped⟩
  · exact List.pairwise_concat.mpr
      ⟨ordered.sorted, ordered.ahead row recorded stands unsent stamp stamped⟩
  · intro other member stands' unsent' stamp' stamped'
    rw [db] at member
    have before := ordered.ahead other member stands'
      (fun sent => unsent' (List.mem_append_left _ sent)) stamp' stamped'
    refine List.forall_mem_concat.mpr ⟨before, stamp_lt ordered.ascending stamped stamped' ?_⟩
    rcases later other member stands' unsent' with waits | beyond
    · exact least other waits
    · exact beyond.1
  · intro index dispatcher found active
    obtain ⟨given, entered, others⟩ := ordered.current index dispatcher found active
    exact ⟨given, List.forall_mem_concat.mpr ⟨entered, others _ stamped⟩, others⟩
  · intro _ other member sent
    rw [db] at member
    rcases List.mem_append.mp sent with before | now
    · have removes := ordered.gone receiving other member before
      rw [mode] at removes
      cases removes
    · exact now
  · rintro rest ⟨⟩
    refine Flushing.removes root row rows ⟨ascending, ?_, ?_, ?_⟩
      (List.mem_append_right _ (List.mem_singleton_self _))
    · intro other member
      rw [db]
      exact upcoming.recorded other (by simp [member])
    · intro other member sent
      rcases List.mem_append.mp sent with before | now
      · exact upcoming.unsent other (by simp [member]) before
      · exact absurd (List.mem_singleton.mp now) (Nat.ne_of_gt (least other member))
    · intro other member stands' unsent'
      rw [db] at member
      exact (later other member stands' unsent').imp_right And.right

/-- A flush removes the row whose task it has sent. -/
theorem Ordered.removes (ordered : Ordered note e) {root : Path} {row : OfflineTask}
    {rows : List OfflineTask} {answer : Except Error Unit} {after : World}
    (mode : e.mode = .flushing (flushRemoving root row rows))
    (served : e.Serves host (.removeOfflineTask row.id) answer after)
    (upcoming : Upcoming note.sent e.world.db.getOfflineTasks rows) (sent : row.id ∈ note.sent)
    (removed : row.id ∉ after.db.getOfflineTasks.map OfflineTask.id)
    : Ordered note
        { e with
          world := after
          mode := .flushing (propagate answer >>= fun _ => flushRows root rows) } := by
  have step : Step host e (.main (.removeOfflineTask row.id))
      { e with
        world := after
        mode := .flushing (propagate answer >>= fun _ => flushRows root rows) } :=
    .main (.flush mode served)
  have receiving : e.Receiving := by simp [Receiving, mode]
  have fewer
      : after.db.offlineQueue.nextId = e.world.db.offlineQueue.nextId
        ∧ (∀ other ∈ after.db.getOfflineTasks, other ∈ e.world.db.getOfflineTasks)
        ∧ ∀ other ∈ e.world.db.getOfflineTasks,
            other.id ≠ row.id → other ∈ after.db.getOfflineTasks := by
    rcases served.1 with ⟨-, rfl⟩ | ⟨-, -, rfl⟩
    · refine ⟨rfl, fun other member => List.mem_of_mem_filter member, ?_⟩
      exact fun other member differs => List.mem_filter.mpr ⟨member, by simpa using differs⟩
    · exact ⟨rfl, fun _ member => member, fun _ member _ => member⟩
  obtain ⟨keys, subset, rest⟩ := fewer
  refine ⟨ordered.programs.step step, ordered.passes,
    fun other member => ordered.stamped other (subset other member), keys ▸ ordered.keys,
    keys ▸ ordered.sentKeys, ordered.ascending, ordered.given, ordered.logged, ordered.sorted,
    fun other member => ordered.ahead other (subset other member), ordered.current, ordered.alone,
    ?_, ?_⟩
  · intro _ other member gone
    have removes := ordered.gone receiving other (subset other member) gone
    rw [mode] at removes
    rw [← List.mem_singleton.mp removes] at removed
    exact absurd (List.mem_map_of_mem member) removed
  · rintro rest' ⟨⟩
    cases answer with
    | error error => exact Flushing.finished _
    | ok value =>
        refine Flushing.sends root rows ⟨upcoming.ascending, ?_, upcoming.unsent, ?_⟩
        · intro other member
          refine rest other (upcoming.recorded other member) (fun same => ?_)
          exact upcoming.unsent other member (same ▸ sent)
        · exact fun other member => upcoming.first other (subset other member)

/-- An operation of an awaited flush. -/
theorem Ordered.flush (ordered : Ordered note e) {op : Op} {next : op.Answer → Eff Unit}
    {answer : op.Answer} {after : World} (mode : e.mode = .flushing (.call op next))
    (served : e.Serves host op answer after)
    (removed
      : ∀ id, op = .removeOfflineTask id → id ∉ after.db.getOfflineTasks.map OfflineTask.id)
    : Ordered
        (stamps note e (.main op) { e with world := after, mode := .flushing (next answer) })
        { e with world := after, mode := .flushing (next answer) } := by
  have flushes := ordered.flushes _ mode
  generalize same : (.call op next : Eff Unit) = rest at flushes
  cases flushes with
  | reads root =>
      have reads
          : flushQueue root
            = .call Op.getOfflineTasks (fun answer => propagate answer >>= flushRows root) := rfl
      rw [reads] at same
      cases same
      exact ordered.reads mode served
  | sends root rows upcoming =>
      rcases flushRows_cases root rows with
        finished | ⟨skipped, row, rest, task, rfl, idle, stands, sends⟩
      · cases same.trans finished
      · cases same.trans sends
        have passed : ∀ other ∈ skipped, ¬ other.Stands := by
          intro other member stands
          rw [OfflineTask.Stands, other.task?_isSome [] root, idle other member] at stands
          cases stands
        obtain ⟨sent, rfl⟩ :=
          ordered.sends mode served (OfflineTask.stands_of_task stands) passed upcoming
        exact sent
  | removes root row rows upcoming sent =>
      cases same
      exact ordered.removes mode served upcoming sent (removed _ rfl)
  | finished result => cases same

-----------------------------------------------------------------------------------------
-- Dispatchers
-----------------------------------------------------------------------------------------

/-- Once the only dispatcher that passes an event on has done so, none does. -/
theorem Ordered.rests (ordered : Ordered note e) {index : Nat} {dispatcher : Dispatcher} {op : Op}
    {next : op.Answer → Eff Bool} (found : e.dispatchers[index]? = some dispatcher)
    (busy : dispatcher.busy = .call op next) (passes : op.passesOn = true) (answer : op.Answer)
    : ∀ (other : Nat) d,
        (e.dispatchers.set index { dispatcher with busy := next answer })[other]? = some d
        → passing d.busy = false := by
  have active : passing dispatcher.busy = true := by
    rw [busy]
    cases op <;> first | rfl | cases passes
  have once := ordered.passes dispatcher (List.mem_of_getElem? found)
  rw [busy] at once
  intro other d foundAfter
  rw [List.getElem?_set] at foundAfter
  split at foundAfter
  · rename_i same
    split at foundAfter
    · cases foundAfter
      exact (once answer).1 passes
    · cases foundAfter
  · rename_i differs
    by_contra also
    exact differs
      (ordered.alone index other dispatcher d found active foundAfter (by simpa using also))

/-- A dispatcher asks whether the engine is offline: it alone turns to passing an event on. -/
theorem Ordered.asks (ordered : Ordered note e) (alive : e.mode ≠ .ended .panicked) {index : Nat}
    {dispatcher : Dispatcher} {next : Bool → Eff Bool} {answer : Bool} {after : World}
    (found : e.dispatchers[index]? = some dispatcher)
    (busy : dispatcher.busy = .call Op.isOffline next)
    (served : e.Serves host .isOffline answer after)
    (alone
      : ∀ other ≠ index, ∀ d, e.dispatchers[other]? = some d → passing d.busy = false)
    : Ordered
        (stamps note e (.dispatcher index .isOffline)
          { e with
            world := after
            dispatchers := e.dispatchers.set index { dispatcher with busy := next answer } })
        { e with
          world := after
          dispatchers := e.dispatchers.set index { dispatcher with busy := next answer } } := by
  have step := Step.dispatcher alive (.worked found busy served)
  have once := ordered.passes dispatcher (List.mem_of_getElem? found)
  rw [busy] at once
  obtain rfl : after = e.world := served.1.2
  have only : ∀ (other : Nat) d,
      (e.dispatchers.set index { dispatcher with busy := next answer })[other]? = some d
      → passing d.busy = true → other = index := by
    intro other d foundAfter active
    by_contra differs
    rw [List.getElem?_set_ne (Ne.symm differs)] at foundAfter
    rw [alone other differs d foundAfter] at active
    cases active
  refine ⟨ordered.programs.step step, ?_, ordered.stamped, ordered.keys, ordered.sentKeys,
    ordered.ascending, fun entry member => Nat.lt_succ_of_lt (ordered.given entry member),
    fun stamp member => Nat.lt_succ_of_lt (ordered.logged stamp member), ordered.sorted,
    ordered.ahead, ?_, ?_, ordered.gone, ordered.flushes⟩
  · intro d member
    rcases List.mem_or_eq_of_mem_set member with earlier | rfl
    · exact ordered.passes d earlier
    · exact (once answer).2
  · intro other d foundAfter active
    obtain rfl := only other d foundAfter active
    simp only [stamps, Function.update_self]
    exact ⟨Nat.lt_succ_self _, ordered.logged, ordered.given⟩
  · intro other other' d d' foundAfter active foundAfter' active'
    exact (only other d foundAfter active).trans (only other' d' foundAfter' active').symm

/-- A dispatcher records the event that it passes on. -/
theorem Ordered.pushes (ordered : Ordered note e) (alive : e.mode ≠ .ended .panicked) {index : Nat}
    {dispatcher : Dispatcher} {action path : String} {extra : Option String}
    {next : Except Error Unit → Eff Bool} {answer : Except Error Unit} {after : World}
    (found : e.dispatchers[index]? = some dispatcher)
    (busy : dispatcher.busy = .call (Op.pushOfflineTask action path extra) next)
    (served : e.Serves host (.pushOfflineTask action path extra) answer after)
    : Ordered
        (stamps note e (.dispatcher index (.pushOfflineTask action path extra))
          { e with
            world := after
            dispatchers := e.dispatchers.set index { dispatcher with busy := next answer } })
        { e with
          world := after
          dispatchers := e.dispatchers.set index { dispatcher with busy := next answer } } := by
  have step := Step.dispatcher alive (.worked found busy served)
  have once := ordered.passes dispatcher (List.mem_of_getElem? found)
  have active : passing dispatcher.busy = true := by rw [busy]; rfl
  rw [busy] at once
  have rest := ordered.rests found busy rfl answer
  have quietens
      : Quietens e
          { e with
            world := after
            dispatchers := e.dispatchers.set index { dispatcher with busy := next answer } } :=
    .of_set found rfl (fun _ => (once answer).2) (fun _ => active)
  have idle {P : Prop} {other : Nat} {d : Dispatcher}
      (foundAfter
        : (e.dispatchers.set index { dispatcher with busy := next answer })[other]? = some d)
      (active : passing d.busy = true)
      : P := absurd ((rest other d foundAfter).symm.trans active) (by simp)
  have notKey : e.world.db.offlineQueue.nextId ∉ e.rowIds := by
    intro member
    obtain ⟨row, recorded, same⟩ := List.mem_map.mp member
    exact Nat.ne_of_lt (e.world.db.offlineQueue.fresh row recorded) same
  have seen (rowIds : List Nat) (after : World)
      (same : after.db.getOfflineTasks.map OfflineTask.id = rowIds)
      : stamps note e (.dispatcher index (.pushOfflineTask action path extra))
          { e with
            world := after
            dispatchers := e.dispatchers.set index { dispatcher with busy := next answer } }
        = { note with
            recorded :=
              note.recorded
                ++ (rowIds.filter (· ∉ e.rowIds)).map (fun id => (id, note.current index)) } := by
    subst same
    rfl
  have old : e.rowIds.filter (· ∉ e.rowIds) = [] := List.filter_eq_nil_iff.mpr (by simp)
  rcases served.1 with ⟨-, rfl⟩ | ⟨-, -, rfl⟩
  · rw [seen (e.rowIds ++ [e.world.db.offlineQueue.nextId]) _ List.map_append, List.filter_append,
      old]
    simp only [List.nil_append, List.filter_cons, notKey, not_false_eq_true, decide_true, if_true,
      List.filter_nil, List.map_cons, List.map_nil]
    obtain ⟨given, entered, others⟩ := ordered.current index dispatcher found active
    refine ⟨ordered.programs.step step, quietens.passes ordered.passes, ?_, ?_, ?_, ?_, ?_,
      ordered.logged, ordered.sorted, ?_, fun _ _ foundAfter active => idle foundAfter active,
      fun _ _ _ _ foundAfter active _ _ => idle foundAfter active, ?_, ?_⟩
    · refine List.forall_mem_concat.mpr ⟨fun row earlier => ?_, _, List.mem_concat_self⟩
      obtain ⟨stamp, stamped⟩ := ordered.stamped row earlier
      exact ⟨stamp, List.mem_append_left _ stamped⟩
    · exact List.forall_mem_concat.mpr
        ⟨fun entry earlier => Nat.lt_succ_of_lt (ordered.keys entry earlier), Nat.lt_succ_self _⟩
    · exact fun id sent => Nat.lt_succ_of_lt (ordered.sentKeys id sent)
    · exact List.pairwise_concat.mpr
        ⟨ordered.ascending, fun entry member => ⟨ordered.keys entry member, others entry member⟩⟩
    · exact List.forall_mem_concat.mpr ⟨ordered.given, given⟩
    · intro row member stands unsent stamp stamped earlier before
      rcases List.mem_append.mp stamped with known | now
      · rcases List.mem_append.mp member with recorded | last
        · exact ordered.ahead row recorded stands unsent stamp known earlier before
        · rw [List.mem_singleton.mp last] at known
          exact absurd (ordered.keys _ known) (Nat.lt_irrefl _)
      · have latest : stamp = note.current index := congrArg Prod.snd (List.mem_singleton.mp now)
        exact latest ▸ entered earlier before
    · intro receiving
      refine List.forall_mem_concat.mpr ⟨ordered.gone receiving, fun sent => ?_⟩
      exact absurd (ordered.sentKeys _ sent) (Nat.lt_irrefl _)
    · intro rest mode
      refine Flushing.mono (ordered.flushes rest mode) ?_ (fun row sent => sent)
      intro _ rows upcoming
      refine ⟨upcoming.ascending, ?_, upcoming.unsent, ?_⟩
      · exact fun row member => List.mem_append_left _ (upcoming.recorded row member)
      · refine List.forall_mem_concat.mpr ⟨upcoming.first, fun _ _ => .inr ?_⟩
        exact fun other waits => e.world.db.offlineQueue.fresh other (upcoming.recorded other waits)
  · rw [seen e.rowIds _ rfl, old]
    simp only [List.map_nil, List.append_nil]
    exact ordered.keep step rfl quietens (fun receiving => ⟨receiving, fun id removes => removes⟩)
      ordered.flushes

/-- A dispatcher sends the task of an event, after all that has been recorded. -/
theorem Ordered.passesDirectly (ordered : Ordered note e) (alive : e.mode ≠ .ended .panicked)
    {index : Nat} {dispatcher : Dispatcher} {task : Task} {next : Bool → Eff Bool} {answer : Bool}
    {after : World} (found : e.dispatchers[index]? = some dispatcher)
    (busy : dispatcher.busy = .call (Op.send task) next)
    (served : e.Serves host (.send task) answer after)
    (direct : ∀ row ∈ e.world.db.getOfflineTasks, row.Stands → row.id ∈ e.mode.removes)
    : Ordered
        (stamps note e (.dispatcher index (.send task))
          { e with
            world := after
            dispatchers := e.dispatchers.set index { dispatcher with busy := next answer } })
        { e with
          world := after
          dispatchers := e.dispatchers.set index { dispatcher with busy := next answer } } := by
  have step := Step.dispatcher alive (.worked found busy served)
  have once := ordered.passes dispatcher (List.mem_of_getElem? found)
  rw [busy] at once
  have active : passing dispatcher.busy = true := by rw [busy]; rfl
  have rest := ordered.rests found busy rfl answer
  have quietens
      : Quietens e
          { e with
            world := after
            dispatchers := e.dispatchers.set index { dispatcher with busy := next answer } } :=
    .of_set found rfl (fun _ => (once answer).2) (fun _ => active)
  have db : after.db = e.world.db := (host.env.sem_keeps served.1).db (by simp [Op.writes])
  have kept := ordered.keep step (by rw [db]) quietens
    (fun receiving => ⟨receiving, fun id removes => removes⟩) ordered.flushes
  simp only [stamps]
  split
  · obtain ⟨given, entered, -⟩ := ordered.current index dispatcher found active
    refine ⟨kept.programs, kept.passes, kept.stamped, kept.keys, kept.sentKeys, kept.ascending,
      kept.given, ?_, ?_, ?_, ?_, kept.alone, kept.gone, kept.flushes⟩
    · exact List.forall_mem_concat.mpr ⟨ordered.logged, given⟩
    · exact List.pairwise_concat.mpr ⟨ordered.sorted, entered⟩
    · intro row member stands unsent
      rw [db] at member
      exact absurd (ordered.removing (direct row member stands)) unsent
    · intro other d foundAfter active
      exact absurd ((rest other d foundAfter).symm.trans active) (by simp)
  · exact kept

theorem Ordered.dispatcher (ordered : Ordered note e) (alive : e.mode ≠ .ended .panicked)
    (step : DispatcherStep host e label e') (fine : KeepsOrder note e label e')
    : Ordered (stamps note e label e') e' := by
  have moved : Step host e label e' := .dispatcher alive step
  cases step with
  | taken found idle running waiting =>
      exact ordered.keep moved rfl
        (.of_set found rfl (fun _ => passesOnce_dispatchEvent)
          (fun active => absurd (asks_dispatchEvent.symm.trans active) (by simp)))
        (fun receiving => ⟨receiving, fun id removes => removes⟩) ordered.flushes
  | ticked found idle running order =>
      exact ordered.keep moved rfl
        (.of_set found rfl (fun _ => passesOnce_dispatchAll)
          (fun active => absurd (asks_dispatchAll.symm.trans active) (by simp)))
        (fun receiving => ⟨receiving, fun id removes => removes⟩) ordered.flushes
  | left found idle finished =>
      exact ordered.keep moved rfl (.of_set found rfl (fun _ => trivial) (by rintro ⟨⟩))
        (fun receiving => ⟨receiving, fun id removes => removes⟩) ordered.flushes
  | @worked index dispatcher op next answer after found busy served =>
      have uses := ordered.programs.dispatcher dispatcher (List.mem_of_getElem? found)
      rw [busy] at uses
      cases uses.1 with
      | isOffline => exact ordered.asks alive found busy served (fine.alone index rfl)
      | send task =>
          exact ordered.passesDirectly alive found busy served (fine.direct index task rfl)
      | pushOfflineTask action path extra => exact ordered.pushes alive found busy served
      | metadata path | addTotals files bytes =>
          refine ordered.keep moved (sem_offlineQueue served.1 (by simp [Op.LeavesQueue]))
            (.of_set found rfl ?_ ?_) (fun receiving => ⟨receiving, fun id removes => removes⟩)
            ordered.flushes
          · intro once
            rw [busy] at once
            exact (once answer).2
          · intro _
            rw [busy]
            rfl

-----------------------------------------------------------------------------------------
-- Every step
-----------------------------------------------------------------------------------------

theorem Ordered.worker (ordered : Ordered note e) (alive : e.mode ≠ .ended .panicked)
    (step : WorkerStep host e label e')
    : Ordered (stamps note e label e') e' := by
  have moved : Step host e label e' := .worker alive step
  have unseen : stamps note e label e' = note := by cases step <;> rfl
  have queue := step.offlineQueue ordered.programs
  rw [unseen]
  rcases step.control with same | rfl
  · refine ordered.keep moved queue (.of_same step.dispatchers) ?_ ?_
    · intro receiving
      rw [Receiving, same.mode] at receiving
      exact ⟨receiving, fun id removes => same.mode ▸ removes⟩
    · rw [same.mode]
      exact ordered.flushes
  · exact ordered.keep moved rfl (.of_same rfl) (fun receiving => absurd receiving id)
      (by rintro rest ⟨⟩)

theorem Ordered.outside (host : Host) (ordered : Ordered note e) (step : OutsideStep e label e')
    : Ordered (stamps note e label e') e' := by
  have moved : Step host e label e' := .outside step
  have unseen : stamps note e label e' = note := by cases step <;> rfl
  have mode := step.control.mode
  have queue : e'.world.db.offlineQueue = e.world.db.offlineQueue := by
    cases step with
    | published =>
        simp only [publish]
        split <;> rfl
    | _ => rfl
  have quietens : Quietens e e' := by
    cases step with
    | observed found watched =>
        refine Quietens.of_set found rfl ?_ ?_ <;>
          · unfold Dispatcher.observe
            split <;> exact id
    | published =>
        simp only [publish]
        split <;> exact .of_same rfl
    | _ => exact .of_same rfl
  rw [unseen]
  refine ordered.keep moved queue quietens ?_ (mode ▸ ordered.flushes)
  intro receiving
  rw [Receiving, mode] at receiving
  exact ⟨receiving, fun id removes => mode ▸ removes⟩

theorem Ordered.step (ordered : Ordered note e) (step : Step host e label e')
    (fine : KeepsOrder note e label e')
    : Ordered (stamps note e label e') e' := by
  cases step with
  | main step =>
      by_cases quiet : label.quiet = true
      · exact ordered.quiet step quiet
      · have moved : Step host e label e' := .main step
        cases step with
        | scan mode served => exact ordered.scan mode served
        | flush mode served =>
            refine ordered.flush mode served (fun id same => ?_)
            exact fine.removed id (congrArg Label.main same)
        | received mode resumed running waiting =>
            exact ordered.keep moved rfl (.of_same rfl)
              (fun _ => ⟨by simp [Receiving, mode], by simp [mode, Mode.removes]⟩)
              (by rintro rest ⟨⟩)
        | spawned mode permit =>
            have receiving : e.Receiving := by simp [Receiving, mode]
            have removes (e' : SyncEngine) : ∀ id ∈ e.mode.removes, id ∈ e'.mode.removes := by
              simp [mode, Mode.removes]
            unfold spawn at moved ⊢
            split at moved <;>
              exact ordered.keep moved rfl (.of_same rfl) (fun _ => ⟨receiving, removes _⟩)
                (by rintro rest ⟨⟩)
        | _ => exact absurd rfl quiet
  | worker alive step => exact ordered.worker alive step
  | dispatcher alive step => exact ordered.dispatcher alive step fine
  | outside step => exact Ordered.outside host ordered step

theorem ordered_launch (host : Host) (w : World) (cfg : AppConfig) (dryRun : Bool)
    : Ordered (.of w) (launch host w cfg dryRun) := by
  have shape
      : (launch host w cfg dryRun).world.db = w.db ∧ (launch host w cfg dryRun).dispatchers = []
        ∧ ∀ rest, (launch host w cfg dryRun).mode ≠ .flushing rest := by
    simp only [launch]
    split
    · exact ⟨rfl, rfl, by rintro rest ⟨⟩⟩
    · split <;> exact ⟨rfl, rfl, by rintro rest ⟨⟩⟩
  obtain ⟨db, dispatchers, flushes⟩ := shape
  have keyed : ∀ entry ∈ (Stamps.of w).recorded,
      ∃ row ∈ w.db.getOfflineTasks, entry = (row.id, row.id) := by
    intro entry member
    obtain ⟨row, recorded, rfl⟩ := List.mem_map.mp member
    exact ⟨row, recorded, rfl⟩
  refine ⟨programs_launch host w cfg dryRun, by simp [dispatchers], ?_, ?_, by rintro id ⟨⟩, ?_, ?_,
    by rintro stamp ⟨⟩, .nil, ?_, by simp [dispatchers], by simp [dispatchers], by rintro _ _ _ ⟨⟩,
    fun rest mode => absurd mode (flushes rest)⟩
  · intro row member
    rw [db] at member
    exact ⟨row.id, List.mem_map_of_mem member⟩
  · intro entry member
    obtain ⟨row, recorded, rfl⟩ := keyed entry member
    rw [db]
    exact w.db.offlineQueue.fresh row recorded
  · refine List.pairwise_map.mpr (w.db.offlineQueue.ascending.imp (fun less => ?_))
    exact ⟨less, less⟩
  · intro entry member
    obtain ⟨row, recorded, rfl⟩ := keyed entry member
    exact w.db.offlineQueue.fresh row recorded
  · rintro row member stands unsent stamp stamped earlier ⟨⟩

end SyncEngine

end SyncGDrive
