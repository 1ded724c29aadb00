import SyncGDrive.Loop.Losses
import SyncGDrive.Loop.Provenance

/-! The turns of the tasks: in which order they get their workers, and how many run at once.
Whatever else the engine does, the channel is a queue and the semaphore bounds its workers.
-/

namespace SyncGDrive

open Program

/-- What the channel has accepted, which of it has got a worker, and how many workers have
ended.
-/
structure Docket where
  sent : List Task := []
  started : List Task := []
  ended : Nat := 0

namespace SyncEngine

variable {host : Host} {docket : Docket} {limit : Nat} {e e' : SyncEngine} {label : Label}

/-- What the docket makes of a step. A refused task does not enter the channel, and a task
without a configuration gets no worker.
-/
def turns : Watch SyncEngine Label Docket := fun docket e label e' =>
  match label with
  | .handled .. => { docket with ended := docket.ended + 1 }
  | .spawned task =>
      if e.workers.length < e'.workers.length then
        { docket with started := docket.started ++ [task] }
      else docket
  | _ =>
      if e.world.tasks.length < e'.world.tasks.length then
        { docket with sent := docket.sent ++ label.sent }
      else docket

/-- The tasks that are being handled. -/
def running (e : SyncEngine) : List Task := e.workers.map Worker.task

-----------------------------------------------------------------------------------------
-- How a step passes tasks on
-----------------------------------------------------------------------------------------

/-- What a step does with the tasks, one case for each place that a task comes to. -/
inductive Passes : SyncEngine → Label → SyncEngine → Prop
  | none {e e' : SyncEngine} {label : Label} (tasks : e'.world.tasks = e.world.tasks)
    (running : e'.running = e.running)
    (held : e'.Receiving → e.Receiving ∧ e'.mode.held = e.mode.held)
    (other : ∀ index result, label ≠ .handled index result)
    : Passes e label e'
  | sent {e e' : SyncEngine} {label : Label} {task : Task} (sends : label.sent = [task])
    (tasks : e'.world.tasks = e.world.tasks ++ [task]) (running : e'.running = e.running)
    (receiving : e.Receiving) (held : e'.mode.held = e.mode.held)
    : Passes e label e'
  | received {e e' : SyncEngine} {task : Task} {rest : List Task} (free : e.mode = .selecting)
    (waiting : e.world.tasks = task :: rest) (tasks : e'.world.tasks = rest)
    (held : e'.mode = .acquiring task) (running : e'.running = e.running)
    : Passes e (.received task) e'
  | employed {e e' : SyncEngine} {task : Task} (held : e.mode = .acquiring task)
    (permit : e.workers.length < e.permits) (tasks : e'.world.tasks = e.world.tasks)
    (free : e'.mode = .selecting) (running : e'.running = e.running ++ [task])
    : Passes e (.spawned task) e'
  | retired {e e' : SyncEngine} {index : Nat} {result : Except Error Unit}
    (working : index < e.workers.length) (tasks : e'.world.tasks = e.world.tasks)
    (mode : e'.mode = e.mode) (running : e'.running = e.running.eraseIdx index)
    : Passes e (.handled index result) e'

theorem running_set {index : Nat} {worker : Worker} (found : e.workers[index]? = some worker)
    (stage : Stage)
    : (e.workers.set index { worker with stage }).map Worker.task = e.running := by
  obtain ⟨bound, rfl⟩ := List.getElem?_eq_some_iff.mp found
  rw [List.map_set]
  refine (congrArg (List.set _ _) ?_).trans (List.set_getElem_self (by simpa using bound))
  simp

theorem retire_passes {index : Nat} {worker : Worker} (found : e.workers[index]? = some worker)
    (result : Except Error Unit)
    : Passes e (.handled index result) (e.retire index) := by
  obtain ⟨bound, -⟩ := List.getElem?_eq_some_iff.mp found
  have workers : (e.retire index).workers = e.workers.eraseIdx index := by
    simp only [retire]
    split <;> rfl
  refine .retired bound ?_ (sameControl_retire e index).mode ?_
  · simp only [retire]
    split <;> rfl
  · rw [running, workers, running, List.eraseIdx_map]

/-- The channel takes what it is sent, or the receiver is gone. -/
theorem Serves.passes {op : Op} {answer : op.Answer} {after : World}
    (served : e.Serves host op answer after)
    : after.tasks = e.world.tasks
      ∨ e.Receiving ∧ ∃ task, (Label.main op).sent = [task]
        ∧ after.tasks = e.world.tasks ++ [task] := by
  by_cases sends : op.writes = some .tasks
  · cases op <;> simp [Op.writes] at sends
    rename_i task
    obtain ⟨sem, admits⟩ := served
    rcases sem with ⟨accepted, rfl⟩ | ⟨-, -, rfl⟩
    · by_cases receiving : e.Receiving
      · exact .inr ⟨receiving, task, rfl, rfl⟩
      · exact absurd (accepted.symm.trans (admits.2 receiving)) (by simp)
    · exact .inl rfl
  · exact .inl ((host.env.sem_keeps served.1).tasks sends)

theorem MainStep.passes (step : MainStep host e label e') : Passes e label e' := by
  have receiving := step.receiving
  by_cases quiet : label.quiet = true
  · obtain ⟨free, -, before⟩ := step.turns quiet
    have tasks := step.tasks (by rintro task rfl; cases quiet)
    rw [Label.sent_quiet quiet, List.append_nil] at tasks
    refine .none tasks (by rw [running, step.workers quiet, running]) (fun still => ?_)
      (by rintro index result rfl; cases quiet)
    refine ⟨receiving, free.trans (before ?_).symm⟩
    rintro rfl
    cases step with
    | left mode requested =>
        rename_i site rest
        cases site <;> exact still
    | stopped => exact still
  · cases step with
    | @scan site op next answer after mode served | @flush op next answer after mode served =>
        rcases served.passes with same | ⟨-, task, sends, tasks⟩
        · exact .none same rfl (fun _ => ⟨receiving, by simp [mode, Mode.held]⟩) (by simp)
        · exact .sent sends tasks rfl receiving (by simp [mode, Mode.held])
    | received mode resumed running waiting => exact .received mode waiting rfl rfl rfl
    | @spawned task mode permit =>
        unfold spawn
        split
        · exact .none rfl rfl (fun still => still.elim) (by simp)
        · exact .employed mode permit rfl rfl (by simp [running])
    | _ => exact absurd rfl quiet

theorem WorkerStep.passes (programs : Programs e) (step : WorkerStep host e label e')
    : Passes e label e' := by
  have tasks := step.tasks programs
  cases step with
  | spared found => exact retire_passes found _
  | begun found => exact .none tasks (running_set found _) (fun still => ⟨still, rfl⟩) (by simp)
  | panicked => exact .none tasks rfl (fun still => still.elim) (by simp)
  | worked found => exact .none tasks (running_set found _) (fun still => ⟨still, rfl⟩) (by simp)
  | @handled index worker result found =>
      cases result with
      | ok value => exact retire_passes found _
      | error error =>
          simp only [SyncEngine.handled]
          split
          · have told := @retire_passes (e.tell (.error error.display)) index worker found
              (.error error)
            cases told with
            | none _ _ _ other => exact absurd rfl (other _ _)
            | sent sends => cases sends
            | retired working tasks mode running => exact .retired working tasks mode running
          · exact retire_passes found _

theorem DispatcherStep.passes (step : DispatcherStep host e label e') : Passes e label e' := by
  have mode := step.control.mode
  have crew : e'.running = e.running := by rw [running, step.workers, running]
  have held (still : e'.Receiving) : e.Receiving ∧ e'.mode.held = e.mode.held := by
    rw [Receiving, mode] at still
    exact ⟨still, by rw [mode]⟩
  cases step with
  | worked found busy served =>
      rcases served.passes with same | ⟨receiving, task, sends, tasks⟩
      · exact .none same crew held (by simp)
      · exact .sent ((Label.sent_dispatcher _ _).trans sends) tasks crew receiving rfl
  | _ => exact .none rfl crew held (by simp)

theorem OutsideStep.passes (step : OutsideStep e label e') : Passes e label e' := by
  cases step with
  | published =>
      simp only [publish]
      split <;> exact .none rfl rfl (fun still => ⟨still, rfl⟩) (by simp)
  | _ => exact .none rfl rfl (fun still => ⟨still, rfl⟩) (by simp)

theorem Step.passes (programs : Programs e) (step : Step host e label e')
    : Passes e label e' := by
  cases step with
  | main step => exact step.passes
  | worker alive step => exact step.passes programs
  | dispatcher alive step => exact step.passes
  | outside step => exact step.passes

-----------------------------------------------------------------------------------------
-- Every task in its turn
-----------------------------------------------------------------------------------------

/-- The tasks that the channel has accepted are those that have started, the one that waits for
a permit and those in the channel, in this order. Those that have started are being handled or
have ended, and no more than `limit` are handled at once.
-/
structure KeepsTurns (docket : Docket) (limit : Nat) (e : SyncEngine) : Prop where
  queue
    : e.Receiving → docket.sent = docket.started ++ (e.mode.held.toList ++ e.world.tasks)
  inOrder : docket.started <+: docket.sent
  running : e.running.Sublist docket.started
  ended : docket.started.length = docket.ended + e.running.length
  limited : e.running.length ≤ limit
  bounded : e.world.tasks.length ≤ channelCapacity

theorem turns_same (tasks : e'.world.tasks = e.world.tasks) (running : e'.running = e.running)
    (other : ∀ index result, label ≠ .handled index result)
    : turns docket e label e' = docket := by
  have workers : e'.workers.length = e.workers.length := by
    simpa [SyncEngine.running] using congrArg List.length running
  cases label with
  | handled index result => exact absurd rfl (other index result)
  | _ => simp [turns, tasks, workers]

theorem turns_sent {task : Task} (sends : label.sent = [task])
    (tasks : e'.world.tasks = e.world.tasks ++ [task])
    : turns docket e label e' = { docket with sent := docket.sent ++ [task] } := by
  cases label with
  | handled index result => cases sends
  | spawned task => cases sends
  | _ => simp only [turns, tasks, List.length_append, List.length_singleton, sends,
      Nat.lt_succ_self, if_true]

/-- A task that is passed on keeps its turn. -/
theorem KeepsTurns.pass (keeps : KeepsTurns docket limit e) (passes : Passes e label e')
    (permits : e.permits = limit) (bounded : e'.world.tasks.length ≤ channelCapacity)
    : KeepsTurns (turns docket e label e') limit e' := by
  cases passes with
  | none tasks running held other =>
      rw [turns_same tasks running other]
      refine ⟨fun still => ?_, keeps.inOrder, running ▸ keeps.running, running ▸ keeps.ended,
        running ▸ keeps.limited, bounded⟩
      obtain ⟨receiving, same⟩ := held still
      rw [same, tasks]
      exact keeps.queue receiving
  | sent sends tasks running receiving held =>
      rw [turns_sent sends tasks]
      refine ⟨fun _ => ?_, keeps.inOrder.trans (List.prefix_append _ _), running ▸ keeps.running,
        running ▸ keeps.ended, running ▸ keeps.limited, bounded⟩
      rw [held, tasks, keeps.queue receiving]
      simp only [List.append_assoc]
  | @received _ task rest free waiting tasks held running =>
      have receiving : e.Receiving := by simp [Receiving, free]
      have queue := keeps.queue receiving
      have shorter : ¬ e.world.tasks.length < e'.world.tasks.length := by simp [waiting, tasks]
      simp only [turns, if_neg shorter]
      refine ⟨fun _ => ?_, keeps.inOrder, running ▸ keeps.running, running ▸ keeps.ended,
        running ▸ keeps.limited, bounded⟩
      rw [queue, free, held, tasks, waiting]
      rfl
  | @employed _ task held permit tasks free running =>
      have receiving : e.Receiving := by simp [Receiving, held]
      have queue := keeps.queue receiving
      have length : e.running.length = e.workers.length := List.length_map _
      have more : e.workers.length < e'.workers.length := by
        have grown := congrArg List.length running
        simp only [SyncEngine.running, List.length_map, List.length_append,
          List.length_singleton] at grown
        omega
      rw [held] at queue
      have split : docket.sent = (docket.started ++ [task]) ++ e.world.tasks := by
        rw [queue, List.append_assoc]
        rfl
      simp only [turns, if_pos more]
      refine ⟨fun _ => ?_, ?_, ?_, ?_, ?_, bounded⟩
      · rw [free, tasks, split]
        rfl
      · exact split ▸ List.prefix_append _ _
      · rw [running]
        exact keeps.running.append (List.Sublist.refl _)
      · have ended := keeps.ended
        simp only [running, List.length_append, List.length_singleton]
        omega
      · simp only [running, List.length_append, List.length_singleton]
        omega
  | @retired _ index result working tasks mode running =>
      have length : e.running.length = e.workers.length := List.length_map _
      have erased : e'.running.length + 1 = e.running.length := by
        rw [running, List.length_eraseIdx, if_pos (length ▸ working)]
        omega
      have receiving : e'.Receiving ↔ e.Receiving := by rw [Receiving, mode, Receiving]
      refine ⟨fun still => ?_, keeps.inOrder, ?_, ?_, ?_, bounded⟩
      · rw [mode, tasks]
        exact keeps.queue (receiving.mp still)
      · rw [running]
        exact (List.eraseIdx_sublist _ _).trans keeps.running
      · have ended := keeps.ended
        simp only [turns]
        omega
      · have limited := keeps.limited
        omega

theorem keepsTurns_launch (host : Host) (w : World) (cfg : AppConfig) (dryRun : Bool)
    : KeepsTurns {} (max cfg.maxWorkers 1) (launch host w cfg dryRun)
      ∧ (launch host w cfg dryRun).permits = max cfg.maxWorkers 1 := by
  have shape
      : (launch host w cfg dryRun).world.tasks = [] ∧ (launch host w cfg dryRun).workers = []
        ∧ (launch host w cfg dryRun).mode.held = none
        ∧ (launch host w cfg dryRun).permits = max cfg.maxWorkers 1 := by
    simp only [launch]
    split
    · exact ⟨rfl, rfl, rfl, rfl⟩
    · split <;> exact ⟨rfl, rfl, rfl, rfl⟩
  obtain ⟨tasks, workers, held, permits⟩ := shape
  refine ⟨⟨fun _ => ?_, List.prefix_rfl, ?_, ?_, ?_, ?_⟩, permits⟩
  · rw [held, tasks]
    rfl
  · rw [running, workers]
    exact List.Sublist.refl _
  · rw [running, workers]
    rfl
  · rw [running, workers]
    exact Nat.zero_le _
  · rw [tasks]
    exact Nat.zero_le _

/-- In every run of the engine, whatever fails, is reloaded or stops, the tasks get their workers
in the order in which the channel has accepted them, each once, and no more at once than the
configuration of the launch allows.
-/
theorem tasks_keep_their_turn {host : Host} {w : World} {cfg : AppConfig} {dryRun : Bool}
    {docket : Docket} {e : SyncEngine}
    (run : Runs host turns anyStep {} (launch host w cfg dryRun) docket e)
    : KeepsTurns docket (max cfg.maxWorkers 1) e := by
  obtain ⟨keeps, permits⟩ := keepsTurns_launch host w cfg dryRun
  have held
      : KeepsTurns docket (max cfg.maxWorkers 1) e ∧ Programs e
        ∧ e.permits = max cfg.maxWorkers 1 :=
    run.invariant
      (fun docket e =>
        KeepsTurns docket (max cfg.maxWorkers 1) e ∧ Programs e
        ∧ e.permits = max cfg.maxWorkers 1)
      ⟨keeps, programs_launch host w cfg dryRun, permits⟩
      (by
        intro docket e label e' here step _
        obtain ⟨keeps, programs, permits⟩ := here
        refine ⟨keeps.pass (step.passes programs) permits (step.capacity programs keeps.bounded),
          programs.step step, ?_⟩
        rw [SyncEngine.permits, step.ctx_eq]
        exact permits)
  exact held.1

-----------------------------------------------------------------------------------------
-- Two deletions
-----------------------------------------------------------------------------------------

/-- A deletion of what neither the cache nor the rows know succeeds at once. -/
theorem handle_unknown {w : World} (disk : w.disk = emptyDisk)
    (unknown : w.pathCache.lookup "a" = none)
    : Reaches (Environment.plain (fun _ => False)).sem
        (handle ⟨backupConfig, false⟩ .nothing (.delete missingFile)) w (.done (.ok ()))
        { w with db := w.db.delete "a" } := by
  refine reaches_call _ _ (no_metadata _ disk) ?_
  refine reaches_call none _ ⟨unknown.symm, rfl⟩ ?_
  exact reaches_call (.ok ()) _ (.inl ⟨rfl, rfl⟩) .refl

/-- A label that sends, starts and ends no task is not noted. -/
theorem turns_unseen (sends : label.sent = [])
    (ends : ∀ index result, label ≠ .handled index result)
    (starts : ∀ task, label ≠ .spawned task)
    : turns docket e label e' = docket := by
  cases label <;> simp_all [turns]

/-- Another file that is missing locally. -/
def otherMissing : Path := backupPair.localPath.join "b"

/-- Two deletions are reported and sent; the first is handled when the second has got a worker. -/
def twoDeletions : Docket where
  sent := [.delete missingFile, .delete otherMissing]
  started := [.delete missingFile, .delete otherMissing]
  ended := 1

/-- One of two workers has ended: the docket is that of the tasks in the order of the reports. -/
theorem deletions_keep_their_turn
    : ∃ e, KeepsTurns twoDeletions 4 e ∧ e.running = [.delete otherMissing] := by
  have running :=
    @runs_started _ (fun _ => False) turns anyStep {} { disk := emptyDisk } rfl rfl id
      (fun _ _ op _ kept => turns_unseen (by cases op <;> first | rfl | cases kept) (by simp)
        (by simp))
      (by rintro e label e' (rfl | rfl) <;> exact turns_unseen rfl (by simp) (by simp))
      (fun _ _ _ _ _ => trivial) (fun _ _ _ _ => trivial)
  have reported :=
    running.step (.outside (@OutsideStep.observed _ 0 _ (.deleted missingFile) rfl rfl)) trivial
  have both :=
    reported.step (.outside (@OutsideStep.observed _ 0 _ (.deleted otherMissing) rfl rfl)) trivial
  have taken :=
    both.step
      (.dispatcher (by rintro ⟨⟩)
        (@DispatcherStep.taken _ _ 0 _ (.deleted missingFile) _ rfl rfl rfl rfl)) trivial
  have answered :=
    taken.step
      (.dispatcher (by rintro ⟨⟩)
        (@DispatcherStep.worked _ _ 0 _ .isOffline _ false _ rfl rfl ⟨⟨rfl, rfl⟩, trivial⟩)) trivial
  have counted :=
    answered.step
      (.dispatcher (by rintro ⟨⟩)
        (@DispatcherStep.worked _ _ 0 _ (.report (.addTotals 1 0)) _ () _ rfl rfl
          ⟨rfl, trivial⟩)) trivial
  have first :=
    counted.step
      (.dispatcher (by rintro ⟨⟩)
        (@DispatcherStep.worked _ _ 0 _ (.send (.delete missingFile)) _ true _ rfl rfl
          ⟨.inl ⟨rfl, rfl⟩, fun _ => ⟨rfl, show 0 < channelCapacity by decide⟩,
            fun gone => absurd trivial gone⟩)) trivial
  have taken :=
    first.step
      (.dispatcher (by rintro ⟨⟩)
        (@DispatcherStep.taken _ _ 0 _ (.deleted otherMissing) [] rfl rfl rfl rfl)) trivial
  have answered :=
    taken.step
      (.dispatcher (by rintro ⟨⟩)
        (@DispatcherStep.worked _ _ 0 _ .isOffline _ false _ rfl rfl ⟨⟨rfl, rfl⟩, trivial⟩)) trivial
  have counted :=
    answered.step
      (.dispatcher (by rintro ⟨⟩)
        (@DispatcherStep.worked _ _ 0 _ (.report (.addTotals 1 0)) _ () _ rfl rfl
          ⟨rfl, trivial⟩)) trivial
  have second :=
    counted.step
      (.dispatcher (by rintro ⟨⟩)
        (@DispatcherStep.worked _ _ 0 _ (.send (.delete otherMissing)) _ true _ rfl rfl
          ⟨.inl ⟨rfl, rfl⟩, fun _ => ⟨rfl, show 1 < channelCapacity by decide⟩,
            fun gone => absurd trivial gone⟩)) trivial
  have received := second.step (.main (.received rfl rfl rfl rfl)) trivial
  have spawned := received.step (.main (.spawned rfl (show 0 < 4 by decide))) trivial
  have begun :=
    spawned.step (.worker (by rintro ⟨⟩) (@WorkerStep.begun _ _ 0 _ _ rfl rfl rfl rfl)) trivial
  have received := begun.step (.main (.received rfl rfl rfl rfl)) trivial
  have spawned := received.step (.main (.spawned rfl (show 1 < 4 by decide))) trivial
  have handled :=
    @runs_worker _ (.plain (fun _ => False)) turns anyStep _ _ _ _ 0 _ _ _ _
      (handle_unknown rfl rfl) spawned rfl rfl uses_handle (by rintro ⟨⟩)
      (fun _ _ _ _ => turns_unseen rfl (by simp) (by simp)) (fun _ _ _ _ => trivial)
  have ended :=
    handled.step (.worker (by rintro ⟨⟩) (@WorkerStep.handled _ _ 0 _ _ rfl rfl)) trivial
  have kept : KeepsTurns twoDeletions 4 _ := tasks_keep_their_turn ended
  exact ⟨_, kept, rfl⟩

end SyncEngine

end SyncGDrive
