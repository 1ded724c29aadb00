import SyncGDrive.Engine.Inventory

/-! A scan ends well in an undisturbed environment whose provider makes folders: none of
its phases has another reason to fail.
-/

namespace SyncGDrive

open Program

variable {env : Environment} {ctx : EngineContext} {primary : SyncPair}
  {ignore : IgnoreMatcher} {α β γ : Type}

/-- From every running state the program ends with a value, and no shutdown is requested. -/
def NeverFails (env : Environment) (program : Eff α) : Prop :=
  ∀ w : World,
    w.shutdown = false
    → Always env.sem (fun state => state.shutdown = false) program w
        (fun result _ => ∃ value, result = .ok value)

-----------------------------------------------------------------------------------------
-- Rules
-----------------------------------------------------------------------------------------

section Rules

theorem neverFails_pure {value : α} : NeverFails env (pure value) :=
  fun _ running => ⟨running, value, rfl⟩

theorem NeverFails.bind {program : Eff α} {f : α → Eff β} (first : NeverFails env program)
    (second : ∀ value, NeverFails env (f value))
    : NeverFails env (program >>= f) := by
  intro w running
  refine (first w running).bind ?_ ?_
  · intro value middle running _
    exact second value middle running
  · rintro error middle running ⟨value, same⟩
    cases same

theorem neverFails_ite {condition : Prop} [Decidable condition] {first second : Eff α}
    (left : condition → NeverFails env first) (right : ¬ condition → NeverFails env second)
    : NeverFails env (if condition then first else second) := by
  split
  · exact left ‹_›
  · exact right ‹_›

/-- One operation, and what follows each answer it can get. -/
theorem neverFails_ask_bind (quiet : env.Undisturbed) {op : Op} {f : op.Answer → Eff β}
    (second : ∀ w answer after, env.sem op w answer after → NeverFails env (f answer))
    : NeverFails env (ask op >>= f) := by
  intro w running
  refine always_ask_bind.mpr ⟨running, ?_⟩
  intro answer after served
  exact second w answer after served after ((env.sem_shutdown quiet served).trans running)

theorem neverFails_ask (quiet : env.Undisturbed) {op : Op} : NeverFails env (ask op) := by
  intro w running
  refine always_ask.mpr ⟨running, ?_⟩
  intro answer after served
  exact ⟨(env.sem_shutdown quiet served).trans running, answer, rfl⟩

theorem neverFails_foldlM {body : β → γ → Eff β} (items : List γ) (acc : β)
    (step : ∀ acc, ∀ item ∈ items, NeverFails env (body acc item))
    : NeverFails env (items.foldlM body acc) := by
  induction items generalizing acc with
  | nil => exact neverFails_pure
  | cons item rest ih =>
      rw [List.foldlM_cons]
      refine (step acc item (by simp)).bind ?_
      intro acc
      exact ih acc (fun acc item member => step acc item (by simp [member]))

theorem neverFails_forM {body : γ → Eff PUnit} (items : List γ)
    (step : ∀ item ∈ items, NeverFails env (body item))
    : NeverFails env (items.forM body) := by
  induction items with
  | nil => exact neverFails_pure
  | cons item rest ih =>
      refine (step item (by simp)).bind ?_
      intro _
      exact ih (fun item member => step item (by simp [member]))

theorem neverFails_unlessShutdown (quiet : env.Undisturbed) {body : Eff α}
    (always : NeverFails env body)
    : NeverFails env (unlessShutdown body) :=
  fun w running => always_unlessShutdown quiet running (always w running)

theorem neverFails_reportWhen (quiet : env.Undisturbed) {due : Prop} [Decidable due]
    {status : EngineStatus}
    : NeverFails env (reportWhen due status) :=
  neverFails_ite (fun _ => neverFails_ask quiet) (fun _ => neverFails_pure)

theorem neverFails_unlessDryRun {body : Eff Unit} (always : NeverFails env body)
    : NeverFails env (unlessDryRun ctx body) :=
  neverFails_ite (fun _ => neverFails_pure) (fun _ => always)

theorem neverFails_enqueue (quiet : env.Undisturbed) {task : Task}
    : NeverFails env (enqueue task) := by
  refine neverFails_ask_bind quiet ?_
  intro w accepted after served
  obtain ⟨rfl, -⟩ := quiet.sem_send.mp served
  exact neverFails_pure

/-- A retried operation whose first attempt cannot fail. -/
theorem neverFails_retry (quiet : env.Undisturbed) {cfg : AppConfig}
    {operation : Eff (Except Error α)}
    (succeeds
      : ∀ w : World,
          w.shutdown = false
          → Always env.sem (fun state => state.shutdown = false) operation w
              (fun result _ => ∃ value, result = .ok (.ok value)))
    : NeverFails env (retry cfg operation) := by
  intro w running
  apply always_retry (fun _ state => state.shutdown = false) (fun _ _ _ => False) _ nofun nofun
    running
  intro left state running
  refine ⟨running, fun cancelled after served => ?_⟩
  obtain ⟨rfl, rfl⟩ := quiet.sem_isCancelled.mp served
  simp only [running, Bool.false_eq_true, if_false]
  apply (succeeds _ running).mono
  rintro result last - ⟨value, rfl⟩
  exact ⟨value, rfl⟩

/-- A program that only looks and reports ends with a value, and changes nothing that a scan
works on.
-/
theorem always_silent_bind (quiet : env.Undisturbed) {w : World} {inv : World → Prop}
    {program : Eff α} {f : α → Eff β} {post : Except Error β → World → Prop}
    (silent : Uses Op.Silent program) (never : NeverFails env program)
    (running : w.shutdown = false) (keeps : ∀ state, w.Agrees state → inv state)
    (rest
      : ∀ value state,
          w.Agrees state → state.pathCache = w.pathCache
          → Always env.sem inv (f value) state post)
    : Always env.sem inv (program >>= f) w post := by
  refine ((always_agrees quiet silent).and (never w running)).seq (fun _ both => keeps _ both.1.1)
    ?_ ?_
  · intro value state both _
    exact rest value state both.1.1 both.1.2
  · rintro error state - ⟨-, value, same⟩
    cases same

end Rules

-----------------------------------------------------------------------------------------
-- The phases
-----------------------------------------------------------------------------------------

section Phases

variable (quiet : env.Undisturbed)

include quiet

theorem neverFails_mtimeOf {path : Path} : NeverFails env (mtimeOf path) := by
  refine neverFails_ask_bind quiet ?_
  intro w answer after _
  cases answer <;> exact neverFails_pure

theorem neverFails_sizeOf {path : Path} : NeverFails env (sizeOf path) := by
  refine neverFails_ask_bind quiet ?_
  intro w answer after _
  cases answer <;> exact neverFails_pure

theorem neverFails_isDir {path : Path} : NeverFails env (isDir path) := by
  refine neverFails_ask_bind quiet ?_
  intro w answer after _
  cases answer <;> exact neverFails_pure

theorem neverFails_listRemote : NeverFails env (listRemote primary) := by
  refine NeverFails.bind (neverFails_ask quiet) ?_
  intro _
  refine neverFails_ask_bind quiet ?_
  intro w answer after _
  cases answer <;> exact neverFails_pure

theorem neverFails_fillCache {index : RemoteIndex} : NeverFails env (fillCache index) := by
  refine NeverFails.bind (neverFails_forM _ (fun dir _ => neverFails_ask quiet)) ?_
  intro _
  exact neverFails_forM _ (fun file _ => neverFails_ask quiet)

theorem neverFails_takeInventory : NeverFails env (takeInventory primary ignore) := by
  refine NeverFails.bind (neverFails_ask quiet) ?_
  intro _
  refine neverFails_ask_bind quiet ?_
  intro w entries after _
  refine neverFails_foldlM entries _ ?_
  intro inventory entry _
  refine neverFails_unlessShutdown quiet ?_
  exact NeverFails.bind (neverFails_reportWhen quiet) (fun _ => neverFails_pure)

/-- After phase 1, which changes nothing a scan works on, the walk is known. -/
theorem always_takeInventory_bind {w : World} {inv : World → Prop} {f : Inventory → Eff β}
    {post : Except Error β → World → Prop} (running : w.shutdown = false)
    (keeps : ∀ state, w.Agrees state → inv state)
    (rest
      : ∀ inventory state,
          inventory.localFiles = walkedFiles w.disk primary.localPath ignore
          → inventory.localDirs = walkedDirs w.disk primary.localPath ignore
          → w.Agrees state → state.pathCache = w.pathCache
          → Always env.sem inv (f inventory) state post)
    : Always env.sem inv (takeInventory primary ignore >>= f) w post := by
  refine (((always_agrees quiet (uses_silent uses_takeInventory)).and
    (neverFails_takeInventory quiet w running)).and takeInventory_finds).seq
    (fun _ all => keeps _ all.1.1.1) ?_ ?_
  · rintro inventory state ⟨⟨⟨agrees, same⟩, -⟩, -⟩ ⟨-, finds⟩
    obtain ⟨files, dirs⟩ := finds inventory rfl
    exact rest inventory state files dirs agrees same
  · rintro error state - ⟨⟨-, value, same⟩, -⟩
    cases same

/-- Folders are created when the provider can, for directories below the root. -/
theorem neverFails_createFolders {localDirs : List Path}
    (makes
      : ∀ parent name disk remote answer after,
          env.provider (.mkdir parent name) disk remote answer after
          → ∃ id, answer = .ok id)
    (inside : ∀ dir ∈ localDirs, ∃ rel, dir = primary.localPath ++ rel)
    : NeverFails env (createFolders ctx primary localDirs) := by
  refine neverFails_forM _ ?_
  rintro ⟨dir, i⟩ member
  obtain ⟨rel, rfl⟩ := inside dir (List.fst_mem_of_mem_zipIdx member)
  refine neverFails_unlessShutdown quiet ?_
  simp only [Path.stripPrefix_append]
  refine NeverFails.bind (neverFails_ask quiet) ?_
  intro _
  refine neverFails_ask_bind quiet ?_
  intro w cached after _
  cases cached with
  | some entry => exact neverFails_pure
  | none =>
      refine NeverFails.bind (neverFails_foldlM _ _ ?_) (fun _ => neverFails_pure)
      intro current name _
      refine neverFails_ask_bind quiet ?_
      intro w cached after _
      cases cached with
      | some entry => exact neverFails_pure
      | none =>
          refine NeverFails.bind (neverFails_ite (fun _ => neverFails_pure) (fun _ => ?_)) ?_
          · refine neverFails_retry quiet ?_
            intro w running
            refine always_ask.mpr ⟨running, ?_⟩
            intro answer after served
            have running := (env.sem_shutdown quiet served).trans running
            obtain ⟨remote, made, -⟩ := served
            obtain ⟨id, rfl⟩ := makes _ _ _ _ _ _ made
            exact ⟨running, id, rfl⟩
          · intro newId
            exact NeverFails.bind (neverFails_ask quiet) (fun _ => neverFails_pure)

theorem neverFails_compareFiles {dbIndex : List String} {localFiles : List Path}
    : NeverFails env (compareFiles primary dbIndex localFiles) := by
  have file (path : Path) (rel : String) (inDb remoteExists : Bool)
      : NeverFails env (compareFile path rel inDb remoteExists) := by
    unfold compareFile
    refine neverFails_ite (fun _ => ?_)
      (fun _ => neverFails_ite (fun _ => ?_) (fun _ => neverFails_pure))
    · refine neverFails_ask_bind quiet ?_
      intro w answer after _
      split
      · refine NeverFails.bind (neverFails_mtimeOf quiet) ?_
        intro mtime
        refine neverFails_ite (fun _ => neverFails_pure) (fun _ => neverFails_ask_bind quiet ?_)
        intro w hash after _
        cases hash with
        | error error => exact neverFails_pure
        | ok hash =>
            refine neverFails_ite (fun _ => ?_) (fun _ => neverFails_pure)
            exact NeverFails.bind (neverFails_ask quiet) (fun _ => neverFails_pure)
      · exact neverFails_pure
    · refine neverFails_ask_bind quiet ?_
      intro w hash after _
      cases hash with
      | error error => exact neverFails_pure
      | ok hash =>
          refine NeverFails.bind (neverFails_mtimeOf quiet) ?_
          intro mtime
          exact NeverFails.bind (neverFails_ask quiet) (fun _ => neverFails_pure)
  refine NeverFails.bind (neverFails_foldlM _ _ ?_) ?_
  · intro toSync item _
    refine neverFails_unlessShutdown quiet ?_
    split
    · exact neverFails_pure
    · refine NeverFails.bind (neverFails_reportWhen quiet) ?_
      intro _
      refine NeverFails.bind (neverFails_ask quiet) ?_
      intro cached
      refine NeverFails.bind (file _ _ _ _) ?_
      intro changed
      exact neverFails_ite (fun _ => neverFails_pure) (fun _ => neverFails_pure)
  · intro toSync
    refine neverFails_foldlM _ _ ?_
    intro kept path _
    exact NeverFails.bind (neverFails_sizeOf quiet) (fun _ => neverFails_pure)

theorem neverFails_sendFiles {toSync : List Path} : NeverFails env (sendFiles ctx toSync) := by
  refine NeverFails.bind (neverFails_foldlM _ _ ?_) ?_
  · intro bytes path _
    exact NeverFails.bind (neverFails_sizeOf quiet) (fun _ => neverFails_pure)
  · intro bytes
    refine NeverFails.bind (neverFails_unlessDryRun (neverFails_ask quiet)) ?_
    intro _
    refine neverFails_forM _ ?_
    intro file _
    refine neverFails_unlessShutdown quiet ?_
    refine NeverFails.bind (neverFails_ask quiet) ?_
    intro _
    exact neverFails_unlessDryRun (neverFails_enqueue quiet)

theorem neverFails_sendDelete {path : Path} : NeverFails env (sendDelete ctx path) := by
  refine neverFails_unlessDryRun ?_
  exact NeverFails.bind (neverFails_ask quiet) (fun _ => neverFails_enqueue quiet)

theorem neverFails_orphanRow {localRelSet : List String} {dbPath : String}
    : NeverFails env (orphanRow ctx primary localRelSet dbPath) :=
  neverFails_unlessShutdown quiet
    (neverFails_ite (fun _ => neverFails_pure) (fun _ => neverFails_sendDelete quiet))

theorem neverFails_orphanRemote {localRelSet dbIndex : List String} {file : RemoteFile}
    : NeverFails env (orphanRemote ctx primary ignore localRelSet dbIndex file) := by
  refine neverFails_unlessShutdown quiet ?_
  refine neverFails_ite (fun _ => neverFails_pure) (fun _ => ?_)
  refine NeverFails.bind (neverFails_isDir quiet) ?_
  intro directory
  refine neverFails_ite (fun _ => neverFails_pure) (fun _ => ?_)
  refine neverFails_ite (fun _ => neverFails_pure) (fun _ => ?_)
  refine NeverFails.bind (neverFails_isDir quiet) ?_
  intro directory
  exact neverFails_ite (fun _ => neverFails_pure) (fun _ => neverFails_sendDelete quiet)

theorem neverFails_reconcile {index : RemoteIndex} {localFiles : List Path}
    : NeverFails env (reconcile ctx primary ignore index localFiles) := by
  refine NeverFails.bind (neverFails_ask quiet) ?_
  intro _
  refine neverFails_ask_bind quiet ?_
  intro w answer after served
  obtain ⟨⟨dbIndex, -, rfl⟩, -⟩ := quiet.sem_allPaths.mp served
  refine NeverFails.bind neverFails_pure ?_
  intro dbIndex
  refine NeverFails.bind (neverFails_compareFiles quiet) ?_
  intro toSync
  refine NeverFails.bind (neverFails_sendFiles quiet) ?_
  intro _
  refine NeverFails.bind (neverFails_forM _ (fun _ _ => neverFails_orphanRow quiet)) ?_
  intro _
  refine NeverFails.bind (neverFails_forM _ (fun _ _ => neverFails_orphanRemote quiet)) ?_
  intro _
  exact neverFails_reportWhen quiet

/-- A scan ends well if the provider can make folders. -/
theorem neverFails_scan (configured : ctx.cfg.getPrimaryPair = some primary)
    (makes
      : ∀ parent name disk remote answer after,
          env.provider (.mkdir parent name) disk remote answer after
          → ∃ id, answer = .ok id)
    : NeverFails env (scan ctx ignore) := by
  unfold scan
  simp only [orError, configured, propagate, Prog.ok_bind]
  refine NeverFails.bind (neverFails_listRemote quiet) (fun index => ?_)
  refine NeverFails.bind (neverFails_fillCache quiet) (fun _ => ?_)
  intro w running
  refine always_takeInventory_bind quiet running
    (fun state agrees => agrees.running.trans running) ?_
  intro inventory state files dirs agrees _
  have inside : ∀ dir ∈ inventory.localDirs, ∃ rel, dir = primary.localPath ++ rel := by
    intro dir member
    obtain ⟨-, name, rest, rfl⟩ := mem_walkedDirs.mp (dirs ▸ member)
    exact ⟨_, rfl⟩
  exact NeverFails.bind (neverFails_createFolders quiet makes inside)
    (fun _ => neverFails_reconcile quiet) state (agrees.running.trans running)

end Phases

end SyncGDrive
