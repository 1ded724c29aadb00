import SyncGDrive.Engine.Frames

/-! Rules for programs of the engine, and what the operations do where nothing but the
provider can go wrong.
-/

namespace SyncGDrive

open Program

variable {env : Environment} {inv : World → Prop} {w after : World} {α β : Type}

-----------------------------------------------------------------------------------------
-- Rules for single operations
-----------------------------------------------------------------------------------------

theorem always_ask {op : Op} {post : Except Error op.Answer → World → Prop}
    : Always env.sem inv (ask op) w post
      ↔ inv w
        ∧ ∀ answer after,
            env.sem op w answer after → inv after ∧ post (.ok answer) after := Iff.rfl

theorem always_ask_bind {op : Op} {f : op.Answer → Eff β} {post : Except Error β → World → Prop}
    : Always env.sem inv (ask op >>= f) w post
      ↔ inv w
        ∧ ∀ answer after,
            env.sem op w answer after → Always env.sem inv (f answer) after post := Iff.rfl

/-- The rule for an operation whose answer and effect are known. -/
theorem always_known {op : Op} {f : op.Answer → Eff β} {post : Except Error β → World → Prop}
    {answer : op.Answer}
    (known : ∀ got reached, env.sem op w got reached → got = answer ∧ reached = after)
    (here : inv w) (rest : Always env.sem inv (f answer) after post)
    : Always env.sem inv (ask op >>= f) w post := by
  refine always_ask_bind.mpr ⟨here, ?_⟩
  intro got reached served
  obtain ⟨rfl, rfl⟩ := known got reached served
  exact rest

/-- An execution that begins with a given answer. -/
theorem reaches_call {op : Op} {next : op.Answer → Eff α} {rest : Eff α} {last : World}
    (answer : op.Answer) (after : World) (served : env.sem op w answer after)
    (tail : Reaches env.sem (next answer) after rest last)
    : Reaches env.sem (.call op next) w rest last :=
  .step served tail

/-- An execution past a question whether a path is a directory. -/
theorem reaches_isDir_bind {path : Path} {f : Bool → Eff α} {rest : Eff α} {last : World}
    (tail : Reaches env.sem (f (w.disk.isDir path)) w rest last)
    : Reaches env.sem (isDir path >>= f) w rest last := by
  cases there : w.disk.metadata path with
  | some metadata =>
      rw [show w.disk.isDir path = metadata.isDir by simp [Disk.isDir, there]] at tail
      exact reaches_call (.ok metadata) w ⟨rfl, by simp [there]⟩ tail
  | none =>
      rw [show w.disk.isDir path = false by simp [Disk.isDir, there]] at tail
      exact reaches_call (.error ⟨[]⟩) w ⟨rfl, by simp [there]⟩ tail

/-- An execution that has come to another operation has been given the first answer. -/
theorem reaches_past {op op' : Op} {next : op.Answer → Eff α} {next' : op'.Answer → Eff α}
    {last : World} (other : op ≠ op')
    (reached : Reaches env.sem (.call op next) w (.call op' next') last)
    : ∃ answer after,
        env.sem op w answer after ∧ Reaches env.sem (next answer) after (.call op' next') last := by
  cases reached with
  | refl => exact absurd rfl other
  | step served tail => exact ⟨_, _, served, tail⟩

/-- A property that every operation keeps is kept by every program. -/
theorem always_of_sem {program : Eff α}
    (preserved
      : ∀ op state answer next, inv state → env.sem op state answer next → inv next)
    (here : inv w)
    : Always env.sem inv program w (fun _ _ => True) := by
  have every : Uses (fun _ : Op => True) program := by
    induction program with
    | done result => trivial
    | call op next ih => exact ⟨trivial, fun answer => ih answer⟩
  exact every.always (fun op state answer next _ => preserved op state answer next) here

/-- The disk does not change. -/
theorem always_disk {disk : Disk} (here : w.disk = disk) (program : Eff α)
    : Always env.sem (fun state => state.disk = disk) program w (fun _ _ => True) :=
  always_of_sem (fun _ _ _ _ same served => (env.sem_keeps served).disk.trans same) here

/-- What is in the channel stays there: programs only send. -/
theorem always_tasks_subset (program : Eff α)
    : Always env.sem (fun _ => True) program w (fun _ last => w.tasks ⊆ last.tasks) := by
  have grows : Always env.sem (fun state => w.tasks ⊆ state.tasks) program w (fun _ _ => True)
      := by
    refine always_of_sem ?_ (List.Subset.refl _)
    intro op state answer next grown served
    by_cases sends : op.writes = some .tasks
    · cases op <;> simp [Op.writes] at sends
      rcases served with ⟨-, rfl⟩ | ⟨-, -, rfl⟩
      · exact fun task member => List.mem_append_left _ (grown member)
      · exact grown
    · rw [(env.sem_keeps served).tasks sends]
      exact grown
  exact (grows.weaken (fun _ _ => trivial)).mono (fun _ _ _ grown => grown.1)

-----------------------------------------------------------------------------------------
-- Undisturbed operations
-----------------------------------------------------------------------------------------

namespace Environment

theorem Undisturbed.interrupts_iff (quiet : env.Undisturbed)
    : env.interrupts w after ↔ after = w := by
  simp [Environment.interrupts, quiet .shutdown]

theorem Undisturbed.stores_iff (quiet : env.Undisturbed) {result : Except Error α × Database}
    {answer : Except Error α}
    : env.stores w result answer after ↔ answer = result.1 ∧ after = { w with db := result.2 }
    := by
  simp [Environment.stores, quiet .database]

theorem Undisturbed.sem_isCancelled (quiet : env.Undisturbed) {answer : Bool}
    : env.sem .isCancelled w answer after ↔ answer = w.shutdown ∧ after = w := by
  simp only [Environment.sem, quiet.interrupts_iff]
  constructor
  · rintro ⟨rfl, rfl⟩
    exact ⟨rfl, rfl⟩
  · rintro ⟨rfl, rfl⟩
    exact ⟨rfl, rfl⟩

theorem Undisturbed.sem_get (quiet : env.Undisturbed) {path : String}
    {answer : Except Error (Option FileEntry)}
    : env.sem (.get path) w answer after ↔ answer = .ok (w.db.get path) ∧ after = w := by
  simp [Environment.sem, quiet.stores_iff]

theorem Undisturbed.sem_upsert (quiet : env.Undisturbed) {entry : FileEntry}
    {answer : Except Error Unit}
    : env.sem (.upsert entry) w answer after
      ↔ answer = .ok () ∧ after = { w with db := w.db.upsert entry } := by
  simp [Environment.sem, quiet.stores_iff]

theorem Undisturbed.sem_deleteRow (quiet : env.Undisturbed) {path : String}
    {answer : Except Error Unit}
    : env.sem (.deleteRow path) w answer after
      ↔ answer = .ok () ∧ after = { w with db := w.db.delete path } := by
  simp [Environment.sem, quiet.stores_iff]

theorem Undisturbed.sem_allPaths (quiet : env.Undisturbed)
    {answer : Except Error (List String)}
    : env.sem .allPaths w answer after
      ↔ (∃ paths, paths.Perm w.db.allPaths ∧ answer = .ok paths) ∧ after = w := by
  simp only [Environment.sem, quiet.stores_iff]
  constructor
  · rintro ⟨paths, order, rfl, rfl⟩
    exact ⟨⟨paths, order, rfl⟩, rfl⟩
  · rintro ⟨⟨paths, order, rfl⟩, rfl⟩
    exact ⟨paths, order, rfl, rfl⟩

theorem Undisturbed.sem_send (quiet : env.Undisturbed) {task : Task} {answer : Bool}
    : env.sem (.send task) w answer after
      ↔ answer = true ∧ after = { w with tasks := w.tasks ++ [task] } := by
  simp [Environment.sem, quiet .channelClosed]

end Environment

-----------------------------------------------------------------------------------------
-- Rules for the programs every phase uses
-----------------------------------------------------------------------------------------

section Rules

variable {post : Except Error α → World → Prop}

/-- Without a shutdown the check lets its body run. -/
theorem always_unlessShutdown (quiet : env.Undisturbed) (running : w.shutdown = false)
    {body : Eff α} (always : Always env.sem inv body w post)
    : Always env.sem inv (unlessShutdown body) w post := by
  refine always_ask_bind.mpr ⟨always.here, ?_⟩
  intro cancelled after served
  obtain ⟨rfl, rfl⟩ := quiet.sem_isCancelled.mp served
  simpa [running] using always

/-- An open channel takes every task. -/
theorem always_enqueue (quiet : env.Undisturbed) {task : Task}
    {post : Except Error Unit → World → Prop} (here : inv w)
    (sent
      : inv { w with tasks := w.tasks ++ [task] }
        ∧ post (.ok ()) { w with tasks := w.tasks ++ [task] })
    : Always env.sem inv (enqueue task) w post := by
  refine always_ask_bind.mpr ⟨here, ?_⟩
  intro accepted after served
  obtain ⟨rfl, rfl⟩ := quiet.sem_send.mp served
  exact sent

/-- Looking whether a path is a directory changes nothing. -/
theorem always_isDir_bind {path : Path} {f : Bool → Eff α} (here : inv w)
    (rest : Always env.sem inv (f (w.disk.isDir path)) w post)
    : Always env.sem inv (isDir path >>= f) w post := by
  refine always_ask_bind.mpr ⟨here, ?_⟩
  rintro answer after ⟨rfl, answered⟩
  cases there : after.disk.metadata path with
  | some metadata =>
      simp only [there] at answered
      subst answered
      have same : after.disk.isDir path = metadata.isDir := by simp [Disk.isDir, there]
      rw [same] at rest
      exact rest
  | none =>
      simp only [there] at answered
      obtain ⟨error, rfl⟩ := answered
      have same : after.disk.isDir path = false := by simp [Disk.isDir, there]
      rw [same] at rest
      exact rest

end Rules

end SyncGDrive
