import SyncGDrive.Loop.Frames

/-! Runs of the engine along given executions: an awaited program is served operation by
operation, as far as the channel has room for what it sends.
-/

namespace SyncGDrive

open Program

/-- A program only adds to the channel. -/
theorem Environment.sem_tasks {env : Environment} {op : Op} {w after : World} {answer : op.Answer}
    (served : env.sem op w answer after)
    : w.tasks <+: after.tasks := by
  by_cases sends : op.writes = some .tasks
  · cases op <;> simp [Op.writes] at sends
    rcases served with ⟨-, rfl⟩ | ⟨-, -, rfl⟩
    · exact List.prefix_append _ _
    · exact List.prefix_rfl
  · exact (env.sem_keeps served).tasks sends ▸ List.prefix_rfl

theorem Environment.reaches_tasks {α : Type} {env : Environment} {program rest : Eff α}
    {w after : World} (path : Reaches env.sem program w rest after)
    : w.tasks <+: after.tasks := by
  induction path with
  | refl => exact List.prefix_rfl
  | step served _ ih => exact (Environment.sem_tasks served).trans ih

/-- The operations that move no task and read no queue. -/
def Op.Unticketed : Op → Prop
  | .send _ | .getOfflineTasks | .removeOfflineTask _ => False
  | _ => True

/-- The operations of an environment that an observer takes no notice of. -/
def Environment.among (env : Environment) (kept : Op → Prop) : Semantics effects World :=
  fun op w answer after => env.sem op w answer after ∧ kept op

/-- An execution that begins with an operation of that kind. -/
theorem reaches_among {α : Type} {env : Environment} {kept : Op → Prop} {op : Op}
    {next : op.Answer → Eff α} {rest : Eff α} {w last : World} (answer : op.Answer) (after : World)
    (served : env.sem op w answer after) (seen : kept op)
    (tail : Reaches (env.among kept) (next answer) after rest last)
    : Reaches (env.among kept) (.call op next) w rest last :=
  .step ⟨served, seen⟩ tail

namespace SyncEngine

section Drive

variable {Note : Type} {host : Host} {watch : Watch SyncEngine Label Note}
  {allowed : Discipline SyncEngine Label Note} {first note : Note} {start e : SyncEngine}

/-- An operation is served while the channel has room for what it sends. -/
theorem serves_of_room {op : Op} {answer : op.Answer} {after : World}
    (served : host.env.sem op e.world answer after)
    (reliable : ¬ host.env.faults .channelClosed) (receiving : e.Receiving)
    (room : after.tasks.length ≤ channelCapacity)
    : e.Serves host op answer after := by
  refine ⟨served, ?_⟩
  cases op with
  | send task =>
      rcases served with ⟨accepted, rfl⟩ | ⟨closed, -⟩
      · simp only [List.length_append, List.length_singleton] at room
        exact ⟨fun _ => ⟨accepted, room⟩, fun gone => absurd receiving gone⟩
      · exact absurd closed reliable
  | _ => trivial

/-- An awaited scan follows its execution as far as it keeps to such operations, by induction
on it.
-/
theorem runs_scan_among {kept : Op → Prop} {site : ScanSite} {program rest : Eff Unit}
    {after : World} (path : Reaches (host.env.among kept) program e.world rest after)
    (run : Runs host watch allowed first start note e)
    (mode : e.mode = .scanning site program) (reliable : ¬ host.env.faults .channelClosed)
    (room : after.tasks.length ≤ channelCapacity)
    (unseen : ∀ note e op e', kept op → watch note e (.main op) e' = note)
    (fine : ∀ note e op e', kept op → allowed note e (.main op) e')
    : Runs host watch allowed first start note
        { e with world := after, mode := .scanning site rest } := by
  generalize same : e.world = w at path
  induction path generalizing e with
  | refl =>
      subst same
      rw [← mode]
      exact run
  | @step op next w middle last answer rest served tail ih =>
      subst same
      have tail' : Reaches host.env.sem (next answer) middle rest last :=
        tail.mono (fun _ _ _ _ both => both.1)
      have room' : middle.tasks.length ≤ channelCapacity :=
        le_trans (Environment.reaches_tasks tail').length_le room
      have receiving : e.Receiving := by simp [Receiving, mode]
      have step : Step host e (.main op) _ :=
        .main (.scan mode (serves_of_room served.1 reliable receiving room'))
      have moved := run.step step (fine _ _ _ _ served.2)
      rw [unseen _ _ _ _ served.2] at moved
      have followed := ih moved rfl room rfl
      exact followed

theorem set_self {α : Type} {items : List α} {index : Nat} {item : α}
    (found : items[index]? = some item)
    : items.set index item = items := by
  obtain ⟨bound, rfl⟩ := List.getElem?_eq_some_iff.mp found
  exact List.set_getElem_self bound

/-- A worker follows the execution of its program, by induction on it. -/
theorem runs_worker {index : Nat} {worker : Worker} {program rest : Eff Unit} {after : World}
    (path : Reaches host.env.sem program e.world rest after)
    (run : Runs host watch allowed first start note e)
    (found : e.workers[index]? = some worker) (stage : worker.stage = .handling program)
    (uses : Uses Op.OfWorker program) (alive : e.mode ≠ .ended .panicked)
    (unseen : ∀ note e op e', watch note e (.worker index op) e' = note)
    (fine : ∀ note e op e', allowed note e (.worker index op) e')
    : Runs host watch allowed first start note
        { e with
          world := after
          workers := e.workers.set index { worker with stage := .handling rest } } := by
  generalize same : e.world = w at path
  induction path generalizing e worker with
  | refl =>
      subst same
      rw [← stage, set_self found]
      exact run
  | @step op next w middle last answer rest served tail ih =>
      subst same
      have silent : e.Admits op answer := by
        cases op with
        | send task => cases uses.1
        | _ => trivial
      have step : Step host e (.worker index op) _ :=
        .worker alive (.worked found stage ⟨served, silent⟩)
      have moved := run.step step (fine _ _ _ _)
      rw [unseen] at moved
      obtain ⟨bound, -⟩ := List.getElem?_eq_some_iff.mp found
      have followed := ih moved (List.getElem?_set_self bound) rfl (uses.2 answer) alive rfl
      simp only [List.set_set] at followed
      exact followed

end Drive

end SyncEngine

end SyncGDrive
