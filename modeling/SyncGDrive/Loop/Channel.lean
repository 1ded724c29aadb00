import SyncGDrive.Loop.Frames

/-! What the steps of the engine do to the task channel and to the offline queue. The awaited
programs and the dispatchers add to the channel, and only the main loop takes from it; only a
flush removes rows from the queue.
-/

namespace SyncGDrive

open Program

theorem Label.sent_dispatcher (index : Nat) (op : Op)
    : (Label.dispatcher index op).sent = (Label.main op).sent := by
  cases op <;> rfl

namespace SyncEngine

variable {host : Host} {e e' : SyncEngine} {label : Label}

/-- What a served operation adds to the channel. -/
theorem Serves.tasks {op : Op} {answer : op.Answer} {after : World}
    (served : e.Serves host op answer after) (receiving : e.Receiving)
    : after.tasks = e.world.tasks ++ (Label.main op).sent := by
  by_cases sends : op.writes = some .tasks
  · cases op <;> simp [Op.writes] at sends
    obtain ⟨sem, admits⟩ := served
    rcases sem with ⟨-, rfl⟩ | ⟨-, refused, -⟩
    · rfl
    · exact absurd ((admits.1 receiving).1.symm.trans refused) (by simp)
  · rw [(host.env.sem_keeps served.1).tasks sends]
    cases op with
    | send task => exact absurd rfl sends
    | _ => exact (List.append_nil _).symm

/-- A send waits for room. -/
theorem Serves.room {op : Op} {answer : op.Answer} {after : World}
    (served : e.Serves host op answer after) (receiving : e.Receiving)
    (sends : (Label.main op).sent ≠ [])
    : e.world.tasks.length < channelCapacity := by
  cases op with
  | send task => exact (served.2.1 receiving).2
  | _ => exact absurd rfl sends

/-- Whoever sends, the channel stays within its capacity. -/
theorem Serves.capacity {op : Op} {answer : op.Answer} {after : World}
    (served : e.Serves host op answer after)
    (bounded : e.world.tasks.length ≤ channelCapacity)
    : after.tasks.length ≤ channelCapacity := by
  by_cases sends : op.writes = some .tasks
  · cases op <;> simp [Op.writes] at sends
    obtain ⟨sem, admits⟩ := served
    rcases sem with ⟨accepted, rfl⟩ | ⟨-, -, rfl⟩
    · by_cases receiving : e.Receiving
      · have room := (admits.1 receiving).2
        simp only [List.length_append, List.length_singleton]
        omega
      · exact absurd (accepted.symm.trans (admits.2 receiving)) (by simp)
    · exact bounded
  · rw [(host.env.sem_keeps served.1).tasks sends]
    exact bounded

theorem reload_tasks (e : SyncEngine) (answers : ReloadAnswers) (missing : String)
    (cfg : AppConfig)
    : (e.reload answers missing cfg).1.world.tasks = e.world.tasks := by
  unfold reload
  split
  · rfl
  · split
    · rfl
    · simp only [changeRoot]
      split
      · rfl
      · split
        · rfl
        · split <;> rfl

/-- The main task adds what its awaited program sends. -/
theorem MainStep.tasks (step : MainStep host e label e')
    (other : ∀ task, label ≠ .received task)
    : e'.world.tasks = e.world.tasks ++ label.sent := by
  have receiving := step.receiving
  cases step.touches with
  | none same quiet => rw [same.tasks, Label.sent_quiet quiet, List.append_nil]
  | worked awaits served =>
      rcases awaits with ⟨site, next, -, rfl⟩ | ⟨next, -, rfl⟩ <;> exact served.tasks receiving
  | reloaded mode same possible =>
      rw [same.tasks, reload_tasks]
      exact (List.append_nil _).symm
  | watching mode configured => exact (List.append_nil _).symm
  | received mode waiting => exact absurd rfl (other _)
  | spawned | unconfigured => exact (List.append_nil _).symm

/-- Workers leave the channel alone. -/
theorem WorkerStep.tasks (programs : Programs e) (step : WorkerStep host e label e')
    : e'.world.tasks = e.world.tasks := by
  have retires (e : SyncEngine) (index : Nat) : (e.retire index).world.tasks = e.world.tasks := by
    simp only [retire]
    split <;> rfl
  cases step with
  | spared => exact retires _ _
  | begun | panicked => rfl
  | @worked index worker op next answer after found handling served =>
      have uses := programs.worker worker (List.mem_of_getElem? found) _ handling
      exact (host.env.sem_keeps served.1).tasks uses.1.keeps_tasks
  | @handled index worker result found handling =>
      cases result with
      | ok value => exact retires _ _
      | error error =>
          simp only [SyncEngine.handled]
          split <;> exact retires _ _

/-- As long as the main task receives, every step but the reception of a task adds what it
sends.
-/
theorem Step.tasks (programs : Programs e) (step : Step host e label e')
    (receiving : e.Receiving) (other : ∀ task, label ≠ .received task)
    : e'.world.tasks = e.world.tasks ++ label.sent := by
  cases step with
  | main step => exact step.tasks other
  | worker alive step =>
      rw [step.tasks programs]
      cases step <;> exact (List.append_nil _).symm
  | dispatcher alive step =>
      cases step with
      | worked found busy served =>
          rw [served.tasks receiving, Label.sent_dispatcher]
      | _ => exact (List.append_nil _).symm
  | outside step =>
      cases step with
      | published =>
          simp only [publish]
          split <;> exact (List.append_nil _).symm
      | _ => exact (List.append_nil _).symm

/-- The channel never holds more than its capacity. -/
theorem Step.capacity (programs : Programs e) (step : Step host e label e')
    (bounded : e.world.tasks.length ≤ channelCapacity)
    : e'.world.tasks.length ≤ channelCapacity := by
  cases step with
  | main step =>
      cases step.touches with
      | none same quiet => rw [same.tasks]; exact bounded
      | worked awaits served =>
          rcases awaits with ⟨site, next, -, rfl⟩ | ⟨next, -, rfl⟩ <;>
            exact served.capacity bounded
      | reloaded mode same possible =>
          rw [same.tasks, reload_tasks]
          exact bounded
      | watching mode configured => exact bounded
      | received mode waiting =>
          rw [waiting] at bounded
          exact Nat.le_of_succ_le bounded
      | spawned | unconfigured => exact bounded
  | worker alive step =>
      rw [step.tasks programs]
      exact bounded
  | dispatcher alive step =>
      cases step with
      | worked found busy served => exact served.capacity bounded
      | _ => exact bounded
  | outside step =>
      cases step with
      | published =>
          simp only [publish]
          split <;> exact bounded
      | _ => exact bounded

end SyncEngine

-----------------------------------------------------------------------------------------
-- The offline queue
-----------------------------------------------------------------------------------------

/-- Renaming a row of the index leaves the queue alone. -/
theorem Database.rename_offlineQueue {db renamed : Database} {source target : String}
    (renames : db.rename source target = .ok renamed)
    : renamed.offlineQueue = db.offlineQueue := by
  unfold Database.rename at renames
  split at renames
  · cases renames
    rfl
  · split at renames
    · cases renames
      rfl
    · split at renames <;> cases renames
      rfl

/-- The operations that leave the queue alone. -/
def Op.LeavesQueue (op : Op) : Prop :=
  (∀ id, op ≠ .removeOfflineTask id)
  ∧ ∀ action path extra, op ≠ .pushOfflineTask action path extra

theorem sem_offlineQueue {env : Environment} {op : Op} {w after : World} {answer : op.Answer}
    (served : env.sem op w answer after) (leaves : op.LeavesQueue)
    : after.db.offlineQueue = w.db.offlineQueue := by
  by_cases stores : op.writes = some .db
  · cases op <;> simp [Op.writes] at stores
    case renameRow source target =>
      simp only [Environment.sem] at served
      split at served
      · rename_i db renames
        rcases served with ⟨-, rfl⟩ | ⟨-, -, rfl⟩
        · exact Database.rename_offlineQueue renames
        · rfl
      · rcases served with ⟨-, rfl⟩ | ⟨-, -, rfl⟩ <;> rfl
    case removeOfflineTask id => exact absurd rfl (leaves.1 id)
    case pushOfflineTask action path extra => exact absurd rfl (leaves.2 action path extra)
    all_goals rcases served with ⟨-, rfl⟩ | ⟨-, -, rfl⟩ <;> rfl
  · rw [(env.sem_keeps served).db stores]

theorem Op.OfWorker.leavesQueue {op : Op} (worker : op.OfWorker) : op.LeavesQueue := by
  cases worker <;> simp [Op.LeavesQueue]

theorem Op.OfScan.leavesQueue {op : Op} (scans : op.OfScan) : op.LeavesQueue := by
  cases scans with
  | looks looks => cases looks <;> simp [Op.LeavesQueue]
  | _ => simp [Op.LeavesQueue]

namespace SyncEngine

variable {host : Host} {e e' : SyncEngine} {label : Label}

theorem reload_offlineQueue (e : SyncEngine) (answers : ReloadAnswers) (missing : String)
    (cfg : AppConfig)
    : (e.reload answers missing cfg).1.world.db.offlineQueue = e.world.db.offlineQueue := by
  unfold reload
  split
  · rfl
  · split
    · rfl
    · simp only [changeRoot]
      split
      · rfl
      · split
        · rfl
        · split <;> rfl

theorem WorkerStep.offlineQueue (programs : Programs e) (step : WorkerStep host e label e')
    : e'.world.db.offlineQueue = e.world.db.offlineQueue := by
  have retires (e : SyncEngine) (index : Nat)
      : (e.retire index).world.db.offlineQueue = e.world.db.offlineQueue := by
    simp only [retire]
    split <;> rfl
  cases step with
  | spared => exact retires _ _
  | begun | panicked => rfl
  | @worked index worker op next answer after found handling served =>
      have uses := programs.worker worker (List.mem_of_getElem? found) _ handling
      exact sem_offlineQueue served.1 uses.1.leavesQueue
  | @handled index worker result found handling =>
      cases result with
      | ok value => exact retires _ _
      | error error =>
          simp only [SyncEngine.handled]
          split <;> exact retires _ _

/-- Only a flush removes rows from the queue, and only dispatchers record some. -/
theorem Step.offlineQueue (programs : Programs e) (step : Step host e label e')
    (kept : ∀ id, label ≠ .main (.removeOfflineTask id))
    (unrecorded
      : ∀ index action path extra, label ≠ .dispatcher index (.pushOfflineTask action path extra))
    : e'.world.db.offlineQueue = e.world.db.offlineQueue := by
  cases step with
  | main step =>
      cases step.touches with
      | none same quiet => rw [same.db]
      | worked awaits served =>
          have sound := programs.mode
          rcases awaits with ⟨site, next, mode, rfl⟩ | ⟨next, mode, rfl⟩
          · rw [mode] at sound
            exact sem_offlineQueue served.1 sound.1.leavesQueue
          · rw [mode] at sound
            refine sem_offlineQueue served.1 ⟨fun id same => kept id (congrArg Label.main same), ?_⟩
            rintro action path extra rfl
            cases sound.1
      | reloaded mode same possible => rw [same.db, reload_offlineQueue]
      | watching | received | spawned | unconfigured => rfl
  | worker alive step => exact step.offlineQueue programs
  | dispatcher alive step =>
      cases step with
      | @worked index dispatcher op next answer after found busy served =>
          have uses := programs.dispatcher dispatcher (List.mem_of_getElem? found)
          rw [busy] at uses
          refine sem_offlineQueue served.1 ⟨?_, ?_⟩
          · rintro id rfl
            cases uses.1
          · rintro action path extra rfl
            exact unrecorded index action path extra rfl
      | _ => rfl
  | outside step =>
      cases step with
      | published =>
          simp only [publish]
          split <;> rfl
      | _ => rfl

/-- Rows leave the queue only by their removal. -/
theorem Step.queue (programs : Programs e) (step : Step host e label e') {row : OfflineTask}
    (recorded : row ∈ e.world.db.getOfflineTasks)
    : row ∈ e'.world.db.getOfflineTasks ∨ label = .main (.removeOfflineTask row.id) := by
  by_cases removes : ∃ id, label = .main (.removeOfflineTask id)
  · obtain ⟨id, rfl⟩ := removes
    by_cases same : row.id = id
    · exact .inr (by rw [same])
    · refine .inl ?_
      cases step with
      | main step =>
          have remains {after : World} {answer : Except Error Unit}
              (served : host.env.sem (.removeOfflineTask id) e.world answer after)
              : row ∈ after.db.getOfflineTasks := by
            rcases served with ⟨-, rfl⟩ | ⟨-, -, rfl⟩
            · exact List.mem_filter.mpr ⟨recorded, by simpa using same⟩
            · exact recorded
          cases step with
          | scan mode served => exact remains served.1
          | flush mode served => exact remains served.1
      | worker alive step => cases step
      | dispatcher alive step => cases step
      | outside step => cases step
  · by_cases records : ∃ index action path extra,
        label = .dispatcher index (.pushOfflineTask action path extra)
    · obtain ⟨index, action, path, extra, rfl⟩ := records
      refine .inl ?_
      cases step with
      | main step => cases step
      | worker alive step => cases step
      | outside step => cases step
      | dispatcher alive step =>
          cases step with
          | worked found busy served =>
              rcases served.1 with ⟨-, rfl⟩ | ⟨-, -, rfl⟩
              · exact List.mem_append_left _ recorded
              · exact recorded
    · have same := step.offlineQueue programs (fun id same => removes ⟨id, same⟩)
        (fun index action path extra same => records ⟨index, action, path, extra, same⟩)
      rw [Database.getOfflineTasks, same]
      exact .inl recorded

end SyncEngine

end SyncGDrive
