import SyncGDrive.Engine.Scan
import SyncGDrive.Program.Uses

/-! Which part of the world an operation can change, and which operations the phases of a
scan request.
-/

namespace SyncGDrive

open Program

-----------------------------------------------------------------------------------------
-- Parts of the world
-----------------------------------------------------------------------------------------

inductive Part
  | db
  | pathCache
  | remote
  | tasks
  deriving DecidableEq

/-- The only part of the world that an operation can change, besides what is reported and
the shutdown flag.
-/
def Op.writes : Op → Option Part
  | .upsert _ | .deleteRow _ | .renameRow .. | .removeOfflineTask _ | .pushOfflineTask .. =>
      some .db
  | .insert .. | .removeCascades _ => some .pathCache
  | .provider _ => some .remote
  | .send _ => some .tasks
  | _ => none

/-- What stays as it was when nothing but `part` may change. -/
structure World.Keeps (part : Option Part) (w after : World) : Prop where
  disk : after.disk = w.disk
  offline : after.offline = w.offline
  db : part ≠ some .db → after.db = w.db
  pathCache : part ≠ some .pathCache → after.pathCache = w.pathCache
  remote : part ≠ some .remote → after.remote = w.remote
  tasks : part ≠ some .tasks → after.tasks = w.tasks

/-- No shutdown, no closed channel, no failing database. -/
def Environment.Undisturbed (env : Environment) : Prop := ∀ fault, ¬ env.faults fault

/-- An operation changes no more than the part it writes. -/
theorem Environment.sem_keeps {env : Environment} {op : Op} {w after : World}
    {answer : op.Answer} (served : env.sem op w answer after)
    : w.Keeps op.writes after := by
  cases op with
  | report report =>
      have stepped : after = w.report report := served
      subst stepped
      cases report <;> constructor <;> simp [World.report]
  | provider call =>
      obtain ⟨remote, -, rfl⟩ := served
      constructor <;> simp [Op.writes]
  | renameRow source target =>
      simp only [Environment.sem] at served
      split at served <;> rcases served with ⟨-, rfl⟩ | ⟨-, -, rfl⟩
        <;> constructor <;> simp [Op.writes]
  | allPaths =>
      obtain ⟨paths, -, ⟨-, rfl⟩ | ⟨-, -, rfl⟩⟩ := served <;> constructor <;> simp
  | isCancelled | sleep _ =>
      obtain ⟨rfl | ⟨-, rfl⟩, -⟩ := served <;> constructor <;> simp
  | get _ | upsert _ | deleteRow _ | getOfflineTasks | removeOfflineTask _
  | pushOfflineTask _ _ _ | send _ =>
      rcases served with ⟨-, rfl⟩ | ⟨-, -, rfl⟩ <;> constructor <;> simp [Op.writes]
  | walkDir _ _ | lookup _ | isOffline =>
      obtain ⟨-, rfl⟩ := served
      constructor <;> simp
  | metadata _ | md5 _ =>
      obtain ⟨rfl, -⟩ := served
      constructor <;> simp
  | insert _ _ _ | removeCascades _ =>
      have stepped : after = _ := served
      subst stepped
      constructor <;> simp [Op.writes]

/-- Only a disturbed environment requests a shutdown. -/
theorem Environment.sem_shutdown {env : Environment} {op : Op} {w after : World}
    {answer : op.Answer} (undisturbed : env.Undisturbed) (served : env.sem op w answer after)
    : after.shutdown = w.shutdown := by
  have quiet : ∀ fault, env.faults fault ↔ False := fun fault => iff_false_intro (undisturbed fault)
  cases op with
  | report report =>
      have stepped : after = w.report report := served
      subst stepped
      cases report <;> rfl
  | renameRow source target =>
      simp only [Environment.sem] at served
      split at served <;> simp_all [Environment.stores]
  | metadata _ | md5 _ => rw [served.1]
  | _ =>
      simp only [Environment.sem, Environment.interrupts, Environment.stores, quiet, false_and,
        or_false] at served
      grind

-----------------------------------------------------------------------------------------
-- Comparing environments
-----------------------------------------------------------------------------------------

/-- An operation is always served where the provider answers every call. -/
theorem Environment.sem_total (env : Environment) (w : World)
    (total : ∀ call, ∃ answer after, env.provider call w.disk w.remote answer after) (op : Op)
    : ∃ answer after, env.sem op w answer after := by
  cases op with
  | provider call =>
      obtain ⟨answer, remote, answered⟩ := total call
      exact ⟨answer, _, remote, answered, rfl⟩
  | metadata path =>
      cases found : w.disk.metadata path with
      | some metadata => exact ⟨.ok metadata, w, rfl, by simp [found]⟩
      | none => exact ⟨.error ⟨[]⟩, w, rfl, by simp [found]⟩
  | md5 path =>
      cases found : w.disk.read path with
      | some content => exact ⟨.ok (env.md5 content), w, rfl, by simp [found]⟩
      | none => exact ⟨.error ⟨[]⟩, w, rfl, by simp [found]⟩
  | renameRow source target =>
      simp only [Environment.sem]
      split <;> exact ⟨_, _, .inl ⟨rfl, rfl⟩⟩
  | allPaths => exact ⟨_, _, w.db.allPaths, .refl _, .inl ⟨rfl, rfl⟩⟩
  | isCancelled => exact ⟨w.shutdown, w, .inl rfl, rfl⟩
  | sleep milliseconds => exact ⟨w.shutdown, w, .inl rfl, .inl rfl⟩
  | get _ | upsert _ | deleteRow _ | getOfflineTasks | removeOfflineTask _
  | pushOfflineTask _ _ _ | send _ => exact ⟨_, _, .inl ⟨rfl, rfl⟩⟩
  | walkDir _ _ | lookup _ | isOffline => exact ⟨_, _, rfl, rfl⟩
  | report _ | insert _ _ _ | removeCascades _ => exact ⟨(), _, rfl⟩

/-- What one environment may do, another that allows more may do too. -/
theorem Environment.sem_mono {env env' : Environment} (md5 : env'.md5 = env.md5)
    (provider
      : ∀ call disk remote answer after,
          env.provider call disk remote answer after
          → env'.provider call disk remote answer after)
    (faults : ∀ fault, env.faults fault → env'.faults fault) (op : Op) (w : World)
    (answer : op.Answer) (after : World) (served : env.sem op w answer after)
    : env'.sem op w answer after := by
  have interrupts {w after : World} (may : env.interrupts w after) : env'.interrupts w after :=
    may.imp_right (And.imp_left (faults _))
  have stores {α : Type} {result : Except Error α × Database} {answer : Except Error α}
      (may : env.stores w result answer after) : env'.stores w result answer after :=
    may.imp_right (And.imp_left (faults _))
  cases op with
  | provider call =>
      obtain ⟨remote, answered, same⟩ := served
      exact ⟨remote, provider _ _ _ _ _ answered, same⟩
  | renameRow source target =>
      simp only [Environment.sem] at served ⊢
      split at served <;> exact stores served
  | md5 path => simpa only [Environment.sem, md5] using served
  | allPaths =>
      obtain ⟨paths, order, may⟩ := served
      exact ⟨paths, order, stores may⟩
  | isCancelled | sleep _ => exact served.imp_left interrupts
  | get _ | upsert _ | deleteRow _ | getOfflineTasks | removeOfflineTask _
  | pushOfflineTask _ _ _ => exact stores served
  | send _ => exact served.imp_right (And.imp_left (faults _))
  | report _ | insert _ _ _ | removeCascades _ | metadata _ | walkDir _ _ | lookup _
  | isOffline => exact served

-----------------------------------------------------------------------------------------
-- What the phases of a scan request
-----------------------------------------------------------------------------------------

/-- A program that writes neither the cache nor the database keeps both. -/
theorem always_sameTables {α : Type} {env : Environment} {w : World} {program : Eff α}
    (spares : Uses (fun op : Op => op.writes ≠ some .pathCache ∧ op.writes ≠ some .db) program)
    : Always env.sem (fun state => state.pathCache = w.pathCache ∧ state.db = w.db) program w
        (fun _ _ => True) := by
  refine spares.always ?_ ⟨rfl, rfl⟩
  intro op state answer next spares same served
  have keeps := env.sem_keeps served
  exact ⟨(keeps.pathCache spares.1).trans same.1, (keeps.db spares.2).trans same.2⟩

/-- An operation that changes none of the parts. -/
def Op.Silent (op : Op) : Prop := op.writes = none

/-- The operations with which a scan looks around and reports how far it is. -/
inductive Op.Looks : Op → Prop
  | isCancelled : Looks .isCancelled
  | sleep (milliseconds : Nat) : Looks (.sleep milliseconds)
  | progress (phase : ScanPhase) (done total : Nat) (current : String)
    : Looks (.report (.status (.scanProgress phase done total current)))
  | idle : Looks (.report (.status .idle))
  | storeTotals (files bytes : Nat) : Looks (.report (.storeTotals files bytes))
  | addTotals (files bytes : Nat) : Looks (.report (.addTotals files bytes))
  | walkDir (root : Path) (keep : Path → Bool → Bool) : Looks (.walkDir root keep)
  | metadata (path : Path) : Looks (.metadata path)
  | md5 (path : Path) : Looks (.md5 path)
  | lookup (key : String) : Looks (.lookup key)
  | get (path : String) : Looks (.get path)
  | allPaths : Looks .allPaths

theorem Op.Looks.silent {op : Op} (looks : op.Looks) : op.Silent := by
  cases looks <;> rfl

theorem uses_silent {α : Type} {program : Eff α} (looks : Uses Op.Looks program)
    : Uses Op.Silent program :=
  looks.mono (fun _ => Op.Looks.silent)

/-- Without disturbance a program that only looks and reports changes nothing that a scan
works on.
-/
theorem always_agrees {α : Type} {env : Environment} (quiet : env.Undisturbed) {w : World}
    {program : Eff α} (silent : Uses Op.Silent program)
    : Always env.sem (fun state => w.Agrees state ∧ state.pathCache = w.pathCache) program w
        (fun _ _ => True) := by
  refine silent.always ?_ ⟨.refl w, rfl⟩
  rintro op state answer next silent ⟨agrees, same⟩ served
  have keeps := env.sem_keeps served
  rw [show op.writes = none from silent] at keeps
  refine ⟨agrees.trans ⟨keeps.disk, keeps.db (by simp), keeps.remote (by simp),
    keeps.tasks (by simp), env.sem_shutdown quiet served⟩, ?_⟩
  exact (keeps.pathCache (by simp)).trans same

section Phases

variable {ctx : EngineContext} {primary : SyncPair} {ignore : IgnoreMatcher} {α : Type}

theorem uses_ask {allowed : Op → Prop} {op : Op} (fine : allowed op)
    : Uses allowed (ask op) := uses_perform.mpr fine

theorem uses_scanProgress {phase : ScanPhase} {done total : Nat} {current : String}
    : Uses Op.Looks (scanProgress phase done total current) := uses_ask (.progress ..)

theorem uses_reportWhen {allowed : Op → Prop} {due : Prop} [Decidable due]
    {status : EngineStatus} (fine : allowed (.report (.status status)))
    : Uses allowed (reportWhen due status) :=
  .ite (fun _ => uses_ask fine) (fun _ => uses_pure)

theorem uses_unlessShutdown {allowed : Op → Prop} {body : Eff α}
    (check : allowed .isCancelled) (uses : Uses allowed body)
    : Uses allowed (unlessShutdown body) := by
  refine Uses.bind (uses_ask check) ?_
  intro cancelled
  exact .ite (fun _ => uses_throw) (fun _ => uses)

theorem uses_mtimeOf {path : Path} : Uses Op.Looks (mtimeOf path) := by
  refine Uses.bind (uses_ask (.metadata path)) ?_
  intro answer
  cases answer <;> exact uses_pure

theorem uses_sizeOf {path : Path} : Uses Op.Looks (sizeOf path) := by
  refine Uses.bind (uses_ask (.metadata path)) ?_
  intro answer
  cases answer <;> exact uses_pure

theorem uses_retry {allowed : Op → Prop} {cfg : AppConfig}
    {operation : Eff (Except Error α)} (check : allowed .isCancelled)
    (sleep : ∀ milliseconds, allowed (.sleep milliseconds)) (uses : Uses allowed operation)
    : Uses allowed (retry cfg operation) := by
  have attempt (again : Option (Eff α)) (rest : ∀ next ∈ again, Uses allowed next)
      : Uses allowed (retryAttempt cfg.retry.initialBackoffMs operation again) := by
    refine Uses.bind (uses_ask check) ?_
    intro cancelled
    refine .ite (fun _ => uses_throw) (fun _ => uses.bind ?_)
    intro answer
    cases answer with
    | ok value => exact uses_pure
    | error error =>
        cases again with
        | none => exact uses_throw
        | some next =>
            refine Uses.bind (uses_ask (sleep _)) ?_
            intro cancelled
            exact .ite (fun _ => uses_throw) (fun _ => rest next rfl)
  unfold retry
  induction cfg.retry.maxAttempts - 1 with
  | zero => exact attempt none (by simp)
  | succ left ih => exact attempt _ (by simpa using ih)

/-- Phase 0 lists one folder, the primary pair's. -/
theorem uses_listRemote
    : Uses (fun op : Op => op.Looks ∨ op = .provider (.listRemote primary.remoteFolderId))
        (listRemote primary) := by
  refine Uses.bind (uses_ask (.inl (.progress ..))) ?_
  intro _
  refine Uses.bind (uses_ask (.inr rfl)) ?_
  intro answer
  cases answer <;> exact uses_pure

/-- The listing only fills the cache. -/
theorem uses_fillCache {index : RemoteIndex}
    : Uses (fun op : Op => ∃ key id parent, op = .insert key id parent) (fillCache index) := by
  refine Uses.bind (uses_forM _ (fun dir _ => uses_ask ⟨_, _, _, rfl⟩)) ?_
  intro _
  exact uses_forM _ (fun file _ => uses_ask ⟨_, _, _, rfl⟩)

theorem uses_takeInventory : Uses Op.Looks (takeInventory primary ignore) := by
  refine uses_scanProgress.bind ?_
  intro _
  refine Uses.bind (uses_ask (.walkDir ..)) ?_
  intro entries
  refine uses_foldlM entries _ ?_
  intro inventory entry _
  refine uses_unlessShutdown .isCancelled ?_
  exact (uses_reportWhen (.progress ..)).bind (fun _ => uses_pure)

/-- Phase 2 makes folders, in earnest only, and records them. -/
theorem uses_ensureFolder {total : Nat} {dir : Path × Nat}
    : Uses
        (fun op : Op =>
          op.Looks ∨ (∃ key id parent, op = .insert key id parent)
          ∨ ctx.dryRun = false ∧ ∃ parent name, op = .provider (.mkdir parent name))
        (ensureFolder ctx primary total dir) := by
  refine uses_unlessShutdown (.inl .isCancelled) ?_
  split
  · exact uses_throw
  · refine Uses.bind (uses_ask (.inl (.progress ..))) ?_
    intro _
    refine Uses.bind (uses_ask (.inl (.lookup _))) ?_
    intro cached
    cases cached with
    | some entry => exact uses_pure
    | none =>
        refine Uses.map (uses_foldlM _ _ ?_)
        intro current name _
        refine Uses.bind (uses_ask (.inl (.lookup _))) ?_
        intro cached
        cases cached with
        | some entry => exact uses_pure
        | none =>
            refine Uses.bind (.ite (fun _ => uses_pure) (fun real => ?_)) ?_
            · exact uses_retry (.inl .isCancelled) (fun _ => .inl (.sleep _))
                (uses_ask (.inr (.inr ⟨Bool.not_eq_true _ ▸ real, _, _, rfl⟩)))
            · intro newId
              exact Uses.bind (uses_ask (.inr (.inl ⟨_, _, _, rfl⟩))) (fun _ => uses_pure)

theorem uses_createFolders {localDirs : List Path}
    : Uses
        (fun op : Op =>
          op.Looks ∨ (∃ key id parent, op = .insert key id parent)
          ∨ ctx.dryRun = false ∧ ∃ parent name, op = .provider (.mkdir parent name))
        (createFolders ctx primary localDirs) :=
  uses_forM _ (fun _ _ => uses_ensureFolder)

/-- The comparison of one file writes no other row than its own. -/
theorem uses_compareFile {path : Path} {rel : String} {inDb remoteExists : Bool}
    : Uses (fun op : Op => op.Looks ∨ ∃ hash mtime, op = .upsert ⟨rel, hash, mtime⟩)
        (compareFile path rel inDb remoteExists) := by
  have looks {β : Type} {program : Eff β} (uses : Uses Op.Looks program)
      : Uses (fun op : Op => op.Looks ∨ ∃ hash mtime, op = .upsert ⟨rel, hash, mtime⟩) program :=
    uses.mono (fun _ => Or.inl)
  unfold compareFile
  refine .ite (fun _ => ?_) (fun _ => .ite (fun _ => ?_) (fun _ => uses_pure))
  · refine Uses.bind (uses_ask (.inl (.get _))) ?_
    intro answer
    split
    · refine (looks uses_mtimeOf).bind ?_
      intro mtime
      refine .ite (fun _ => uses_pure) (fun _ => Uses.bind (uses_ask (.inl (.md5 _))) ?_)
      intro hash
      cases hash with
      | error error => exact uses_pure
      | ok hash =>
          refine .ite (fun _ => Uses.bind (uses_ask (.inr ⟨_, _, rfl⟩)) ?_) (fun _ => uses_pure)
          exact fun _ => uses_pure
    · exact uses_pure
  · refine Uses.bind (uses_ask (.inl (.md5 _))) ?_
    intro hash
    cases hash with
    | error error => exact uses_pure
    | ok hash =>
        refine (looks uses_mtimeOf).bind ?_
        intro mtime
        exact Uses.bind (uses_ask (.inr ⟨_, _, rfl⟩)) (fun _ => uses_pure)

/-- Phase 3 writes rows. -/
theorem uses_compareFiles {dbIndex : List String} {localFiles : List Path}
    : Uses (fun op : Op => op.Looks ∨ ∃ entry, op = .upsert entry)
        (compareFiles primary dbIndex localFiles) := by
  have looks {β : Type} {program : Eff β} (uses : Uses Op.Looks program)
      : Uses (fun op : Op => op.Looks ∨ ∃ entry, op = .upsert entry) program :=
    uses.mono (fun _ => Or.inl)
  refine Uses.bind (uses_foldlM _ _ ?_) ?_
  · intro toSync item _
    refine uses_unlessShutdown (.inl .isCancelled) ?_
    split
    · exact uses_pure
    · refine (looks (uses_reportWhen (.progress ..))).bind ?_
      intro _
      refine Uses.bind (uses_ask (.inl (.lookup _))) ?_
      intro cached
      refine (uses_compareFile.mono ?_).bind ?_
      · intro op writes
        obtain looks | ⟨hash, mtime, rfl⟩ := writes
        · exact .inl looks
        · exact .inr ⟨_, rfl⟩
      intro changed
      exact .ite (fun _ => uses_pure) (fun _ => uses_pure)
  · intro toSync
    refine uses_foldlM _ _ ?_
    intro kept path _
    exact (looks uses_sizeOf).bind (fun _ => uses_pure)

/-- Phase 4 sends files to synchronise. -/
theorem uses_sendFiles {toSync : List Path}
    : Uses (fun op : Op => op.Looks ∨ ∃ path, op = .send (.syncFile path))
        (sendFiles ctx toSync) := by
  refine Uses.bind (uses_foldlM _ _ ?_) ?_
  · intro bytes path _
    exact Uses.bind (uses_sizeOf.mono (fun _ => Or.inl)) (fun _ => uses_pure)
  · intro bytes
    refine Uses.bind (.ite (fun _ => uses_pure) (fun _ => uses_ask (.inl (.storeTotals ..)))) ?_
    intro _
    refine uses_forM _ ?_
    intro file _
    refine uses_unlessShutdown (.inl .isCancelled) ?_
    refine Uses.bind (uses_ask (.inl (.progress ..))) ?_
    intro _
    refine .ite (fun _ => uses_pure) (fun _ => ?_)
    refine Uses.bind (uses_ask (.inr ⟨_, rfl⟩)) ?_
    exact fun _ => .ite (fun _ => uses_pure) (fun _ => uses_throw)

/-- The operations of a scan before its comparison: they write neither rows nor tasks. -/
def Op.Prepares (op : Op) : Prop := op.writes ≠ some .db ∧ op.writes ≠ some .tasks

theorem Op.Looks.prepares {op : Op} (looks : op.Looks) : op.Prepares := by
  cases looks <;> simp [Op.Prepares, Op.writes]

theorem prepares_listRemote : Uses Op.Prepares (listRemote primary) := by
  refine uses_listRemote.mono ?_
  rintro op (looks | rfl)
  · exact looks.prepares
  · simp [Op.Prepares, Op.writes]

theorem prepares_fillCache {index : RemoteIndex} : Uses Op.Prepares (fillCache index) := by
  refine uses_fillCache.mono ?_
  rintro op ⟨key, id, parent, rfl⟩
  simp [Op.Prepares, Op.writes]

theorem prepares_takeInventory : Uses Op.Prepares (takeInventory primary ignore) :=
  uses_takeInventory.mono (fun _ => Op.Looks.prepares)

theorem prepares_createFolders {localDirs : List Path}
    : Uses Op.Prepares (createFolders ctx primary localDirs) := by
  refine uses_createFolders.mono ?_
  rintro op (looks | ⟨key, id, parent, rfl⟩ | ⟨-, parent, name, rfl⟩)
  · exact looks.prepares
  · simp [Op.Prepares, Op.writes]
  · simp [Op.Prepares, Op.writes]

end Phases

end SyncGDrive
