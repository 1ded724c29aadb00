import SyncGDrive.Data.Concat
import SyncGDrive.Loop.Channel
import SyncGDrive.Loop.Control
import SyncGDrive.Loop.Reload

/-! Which sync pair the records of the engine belong to: every row of the index, every entry of
the cache and every row of the offline queue comes from somewhere that worked for one pair.
-/

namespace SyncGDrive

open Program

-----------------------------------------------------------------------------------------
-- Origins
-----------------------------------------------------------------------------------------

/-- What the records depend on: the local directory and the remote folder. -/
def AppConfig.pairId (cfg : AppConfig) : Option (Path × DriveId) :=
  cfg.getPrimaryPair.map (fun pair => (pair.localPath, pair.remoteFolderId))

/-- The pair for which each record has been written. -/
structure Origins where
  rows : String → Option (Path × DriveId)
  entries : String → Option (Path × DriveId)
  queued : Nat → Option (Path × DriveId)

/-- The records of earlier sessions belong to the pair of the launch. -/
def Origins.of (cfg : AppConfig) : Origins :=
  ⟨fun _ => cfg.pairId, fun _ => cfg.pairId, fun _ => cfg.pairId⟩

/-- What a scan or a worker records for its pair. A row that is renamed keeps its origin. -/
def Origins.write (note : Origins) (origin : Option (Path × DriveId)) (w after : World)
    : Op → Origins
  | .upsert entry => { note with rows := Function.update note.rows entry.path origin }
  | .renameRow source target =>
      if (w.db.row target).isNone ∧ (after.db.row target).isSome then
        { note with rows := Function.update note.rows target (note.rows source) }
      else note
  | .insert key .. => { note with entries := Function.update note.entries key origin }
  | _ => note

/-- Everything recorded belongs to the pair. -/
structure Isolated (note : Origins) (pair : Option (Path × DriveId)) (w : World) : Prop where
  rows : ∀ path columns, w.db.row path = some columns → note.rows path = pair
  entries : ∀ key entry, w.pathCache.lookup key = some entry → note.entries key = pair
  queued : ∀ row ∈ w.db.getOfflineTasks, note.queued row.id = pair

theorem Isolated.of_same {note : Origins} {pair : Option (Path × DriveId)} {w after : World}
    (isolated : Isolated note pair w) (db : after.db = w.db)
    (pathCache : after.pathCache = w.pathCache)
    : Isolated note pair after :=
  ⟨db ▸ isolated.rows, pathCache ▸ isolated.entries, db ▸ isolated.queued⟩

/-- What is recorded for the pair belongs to it. -/
theorem Isolated.served {env : Environment} {note : Origins} {pair : Option (Path × DriveId)}
    {op : Op} {answer : op.Answer} {w after : World} (isolated : Isolated note pair w)
    (served : env.sem op w answer after)
    (other : ∀ action path extra, op ≠ .pushOfflineTask action path extra)
    : Isolated (note.write pair w after op) pair after := by
  by_cases stores : op.writes = some .db
  · cases op <;> simp [Op.writes] at stores
    case upsert entry =>
      refine ⟨?_, ?_, ?_⟩
      · intro path columns found
        by_cases same : path = entry.path
        · subst same
          exact Function.update_self ..
        · refine (Function.update_of_ne same ..).trans (isolated.rows path columns ?_)
          rcases served with ⟨-, rfl⟩ | ⟨-, -, rfl⟩
          · simpa [Database.row_upsert, same] using found
          · exact found
      · rcases served with ⟨-, rfl⟩ | ⟨-, -, rfl⟩ <;> exact isolated.entries
      · rcases served with ⟨-, rfl⟩ | ⟨-, -, rfl⟩ <;> exact isolated.queued
    case deleteRow path =>
      rcases served with ⟨-, rfl⟩ | ⟨-, -, rfl⟩
      · refine ⟨fun other columns found => ?_, isolated.entries, isolated.queued⟩
        rw [Database.row_delete] at found
        split at found
        · cases found
        · exact isolated.rows other columns found
      · exact isolated
    case renameRow source target =>
      have still {after : World} (same : after.db = w.db)
          : Isolated (note.write pair w after (.renameRow source target)) pair w := by
        have none : note.write pair w after (.renameRow source target) = note := by
          simp only [Origins.write, same]
          cases w.db.row target <;> simp
        rw [none]
        exact isolated
      simp only [Environment.sem] at served
      split at served
      · rename_i db renames
        have queue := Database.rename_offlineQueue renames
        rcases served with ⟨-, rfl⟩ | ⟨-, -, rfl⟩
        · rcases Database.row_rename renames with rfl | ⟨columns, differs, found, free, rows⟩
          · exact still rfl
          · have moves
                : note.write pair w { w with db } (.renameRow source target)
                  = { note with rows := Function.update note.rows target (note.rows source) } := by
              simp [Origins.write, free, rows]
            rw [moves]
            refine ⟨fun path columns' there => ?_, isolated.entries, ?_⟩
            · change Function.update note.rows target (note.rows source) path = pair
              by_cases same : path = target
              · subst same
                rw [Function.update_self]
                exact isolated.rows source columns found
              · rw [Function.update_of_ne same]
                rw [rows, if_neg same] at there
                split at there
                · cases there
                · exact isolated.rows path columns' there
            · intro row member
              rw [Database.getOfflineTasks, queue] at member
              exact isolated.queued row member
        · exact still rfl
      · have same : after = w := by
          rcases served with ⟨-, rfl⟩ | ⟨-, -, rfl⟩ <;> rfl
        rw [same]
        exact still rfl
    case removeOfflineTask id =>
      rcases served with ⟨-, rfl⟩ | ⟨-, -, rfl⟩
      · exact ⟨isolated.rows, isolated.entries,
          fun row member => isolated.queued row (List.mem_of_mem_filter member)⟩
      · exact isolated
    case pushOfflineTask action path extra => exact absurd rfl (other action path extra)
  · have db := (env.sem_keeps served).db stores
    by_cases caches : op.writes = some .pathCache
    · cases op <;> simp [Op.writes] at caches
      case insert key driveId parentId =>
        obtain rfl : after = _ := served
        refine ⟨isolated.rows, fun other entry found => ?_, isolated.queued⟩
        by_cases same : other = key
        · subst same
          exact Function.update_self ..
        · refine (Function.update_of_ne same ..).trans (isolated.entries other entry ?_)
          simpa [PathCache.lookup_insert, same] using found
      case removeCascades key =>
        obtain rfl : after = _ := served
        refine ⟨isolated.rows, fun other entry found => ?_, isolated.queued⟩
        simp only [PathCache.lookup_removeCascades] at found
        split at found
        · cases found
        · exact isolated.entries other entry found
    · have unseen : note.write pair w after op = note := by
        cases op <;> first | rfl | simp [Op.writes] at stores caches
      rw [unseen]
      exact isolated.of_same db ((env.sem_keeps served).pathCache caches)

-----------------------------------------------------------------------------------------
-- What keeps the pairs apart
-----------------------------------------------------------------------------------------

/-- The main loop has been entered. -/
def Phase.launched : Phase → Bool
  | .scanning .initial | .starting | .ended => false
  | _ => true

/-- The main loop is entered when the watcher starts. -/
theorem Control.Step.launched {c c' : Control} {label : Label} (step : c.Step label c')
    (after : c'.phase.launched = true)
    : c.phase.launched = true ∨ ∃ answer, label = .watching answer := by
  cases step with
  | @scanned site result phase fine =>
      cases site <;> simp_all [Phase.launched, ScanSite.next]
  | @interrupted site cmd phase interrupts =>
      cases site <;> simp_all [Phase.launched, ScanSite.next]
  | watching => exact .inr ⟨_, rfl⟩
  | ends ended => simp [ended, Phase.launched] at after
  | failed => simp [Phase.launched] at after
  | _ => simp_all [Phase.launched]

/-- A dispatcher that has been stopped, and has nothing to do any more. -/
structure Dispatcher.Inert (dispatcher : Dispatcher) : Prop where
  watched : dispatcher.watched = false
  inbox : dispatcher.inbox = []
  pending : dispatcher.pending = ∅
  busy : ∃ result, dispatcher.busy = .done result

namespace SyncEngine

variable {host : Host} {note : Origins} {e e' : SyncEngine} {label : Label}

/-- The pair that a dispatcher records for: it only knows the local directory. -/
def recording (e : SyncEngine) (index : Nat) : Option (Path × DriveId) :=
  match e.dispatchers[index]?, e.cfg.pairId with
  | some dispatcher, some pair => some (dispatcher.localRoot, pair.2)
  | _, _ => none

/-- What the origins make of a step. -/
def origins : Watch SyncEngine Label Origins := fun note e label e' =>
  match label with
  | .main op => note.write e.ctx.cfg.pairId e.world e'.world op
  | .worker index op =>
      note.write (e.workers[index]?.bind (fun worker => worker.ctx.cfg.pairId)) e.world e'.world op
  | .dispatcher index (.pushOfflineTask ..) =>
      { note with
        queued :=
          Function.update note.queued e.world.db.offlineQueue.nextId (e.recording index) }
  | _ => note

/-- Nothing is recorded that outlives a reload, and nobody is left to record something. -/
structure Clean (e : SyncEngine) (new : AppConfig) : Prop where
  rows : e.changesRoot new = true ∨ ∀ path, e.world.db.row path = none
  entries : ∀ key, e.world.pathCache.lookup key = none
  queued : e.world.db.getOfflineTasks = []
  workers : e.workers = []
  dispatchers
    : e.changesRoot new = true
      → ∀ dispatcher ∈ e.dispatchers,
          dispatcher.inbox = [] ∧ dispatcher.pending = ∅
          ∧ ∃ result, dispatcher.busy = .done result

/-- Another pair only comes when nothing is recorded, and a scan starts only for the pair that
the engine has been launched with.
-/
structure KeepsPairs (_note : Origins) (e : SyncEngine) (label : Label) (e' : SyncEngine)
    : Prop where
  clean
    : ∀ new pair,
        label = .command (.applyConfig new) → e.mode = .selecting → new.pairId = some pair
        → e.cfg.pairId ≠ some pair → e.Clean new
  scans : e.StartsScan label → e'.cfg.pairId = e.ctx.cfg.pairId

-----------------------------------------------------------------------------------------
-- Reloads
-----------------------------------------------------------------------------------------

/-- What a reload that succeeds does to what is recorded, and to the dispatchers. -/
structure Reloaded (e : SyncEngine) (new : AppConfig) (e' : SyncEngine) : Prop where
  cfg : e'.cfg = new
  ctx : e'.ctx = e.ctx
  root : ∀ primary, new.getPrimaryPair = some primary → e'.currentLocalRoot = primary.localPath
  workers : e'.workers = e.workers
  pathCache : e'.world.pathCache = e.world.pathCache
  queue : e'.world.db.offlineQueue = e.world.db.offlineQueue
  rows
    : ∀ path, e'.world.db.row path = if e.changesRoot new then none else e.world.db.row path
  kept : e.changesRoot new = false → e'.dispatchers = e.dispatchers
  stopped
    : e.changesRoot new = true
      → ∀ dispatcher ∈ e'.dispatchers,
          dispatcher ∈ e.stopWatcher.dispatchers
          ∨ ∀ primary, new.getPrimaryPair = some primary → dispatcher.localRoot = primary.localPath

theorem Reloaded.of_same {new : AppConfig} {e'' : SyncEngine} (reloaded : Reloaded e new e')
    (same : e'.SameStores e'')
    : Reloaded e new e'' :=
  ⟨same.cfg.trans reloaded.cfg, same.ctx.trans reloaded.ctx,
    fun primary configured => same.currentLocalRoot.trans (reloaded.root primary configured),
    same.workers.trans reloaded.workers, same.pathCache.trans reloaded.pathCache,
    same.db ▸ reloaded.queue, same.db ▸ reloaded.rows,
    fun kept => same.dispatchers.trans (reloaded.kept kept),
    fun changed => same.dispatchers ▸ reloaded.stopped changed⟩

theorem reloaded_of_ok {answers : ReloadAnswers} {missing : String} {new : AppConfig}
    {changed : Bool} (reloads : e.reload answers missing new = (e', .ok changed))
    : Reloaded e new e' := by
  unfold reload at reloads
  split at reloads
  · cases reloads
  · rename_i primary configured
    have only {other : SyncPair} (found : new.getPrimaryPair = some other) : primary = other :=
      Option.some.inj (configured.symm.trans found)
    split at reloads
    · rename_i same
      have keeps : e.changesRoot new = false := by simp [changesRoot, configured, same]
      cases reloads
      refine ⟨rfl, rfl, fun other found => ?_, rfl, rfl, rfl, fun path => by simp [keeps],
        fun _ => rfl, fun changes => ?_⟩
      · rw [← only found, same]
      · rw [keeps] at changes
        cases changes
    · rename_i differs
      have changes : e.changesRoot new = true := by simp [changesRoot, configured, differs]
      simp only [changeRoot] at reloads
      split at reloads
      · cases reloads
      · split at reloads
        · cases reloads
        · split at reloads
          · cases reloads
          · cases reloads
            refine ⟨rfl, rfl, fun other found => ?_, rfl, rfl, rfl, fun path => ?_, ?_, ?_⟩
            · rw [← only found]
              rfl
            · rw [changes]
              rfl
            · intro kept
              rw [changes] at kept
              cases kept
            · intro _
              refine List.forall_mem_concat.mpr ⟨fun dispatcher earlier => .inl earlier, .inr ?_⟩
              intro other found
              rw [← only found]
              rfl

/-- A configuration that is received while the engine goes on is discarded during a scan, and
otherwise put in force.
-/
theorem MainStep.reloaded {new : AppConfig}
    (step : MainStep host e (.command (.applyConfig new)) e') (receiving : e'.Receiving)
    : e.mode.Scanning ∧ e' = e ∨ e.mode = .selecting ∧ Reloaded e new e' := by
  cases step with
  | interrupted mode listens biased => exact .inl ⟨⟨_, _, mode⟩, rfl⟩
  | @paused cmd answers mode paused running possible =>
      refine .inr ⟨mode, ?_⟩
      have same := (@sameStores_applyConfig host e answers new).1
      cases reloads : e.reload answers "Aucun dossier n'est configuré!" new with
      | mk after result =>
          rw [reloads] at same
          cases result with
          | ok changed => exact (reloaded_of_ok reloads).of_same same
          | error error =>
              simp only [commandPaused, reloads] at receiving
              exact absurd receiving id
  | @command cmd answers mode resumed running possible =>
      refine .inr ⟨mode, ?_⟩
      have same := (@sameStores_applyConfig host e answers new).2
      cases reloads : e.reload answers "Pas de dossier" new with
      | mk after result =>
          rw [reloads] at same
          cases result with
          | ok changed => exact (reloaded_of_ok reloads).of_same same
          | error error =>
              simp only [commandRunning, reloads] at receiving
              exact absurd receiving id

-----------------------------------------------------------------------------------------
-- The invariant
-----------------------------------------------------------------------------------------

/-- In the main loop, the root in force is that of the configuration in force. -/
def Rooted (e : SyncEngine) : Prop :=
  e.control.phase.launched = true
  → ∀ primary, e.cfg.getPrimaryPair = some primary → e.currentLocalRoot = primary.localPath

theorem receiving_of_launched (launched : e.control.phase.launched = true) : e.Receiving := by
  cases mode : e.mode with
  | ended ending => simp [control, mode, Mode.phase, Phase.launched] at launched
  | _ => simp [Receiving, mode]

theorem Rooted.step (rooted : Rooted e) (step : Step host e label e') : Rooted e' := by
  intro launched primary configured
  rcases step.control with main | same | ended
  · by_cases applies : ∃ new, label = .command (.applyConfig new)
    · obtain ⟨new, rfl⟩ := applies
      rcases main.reloaded (receiving_of_launched launched) with ⟨-, rfl⟩ | ⟨-, reloaded⟩
      · exact rooted launched primary configured
      · exact reloaded.root primary (reloaded.cfg ▸ configured)
    · have cfg := (main.employs (fun new same => applies ⟨new, same⟩)).1
      rcases main.control_step.launched launched with before | ⟨answer, rfl⟩
      · rw [cfg] at configured
        have kept := rooted before primary configured
        cases main.touches with
        | none same => exact same.currentLocalRoot.trans kept
        | worked awaits served =>
            rcases awaits with ⟨site, next, -, rfl⟩ | ⟨next, -, rfl⟩ <;> exact kept
        | reloaded => exact absurd ⟨_, rfl⟩ applies
        | watching mode => simp [control, mode, Mode.phase, Phase.launched] at before
        | received | spawned | unconfigured => exact kept
      · cases main with
        | watching mode started =>
            simp only [startWatching] at launched configured ⊢
            split
            · rename_i none
              simp only [none] at launched
              cases launched
            · rename_i pair found
              simp only [found] at launched configured ⊢
              cases answer with
              | error error => cases launched
              | ok value =>
                  have same : pair = primary := Option.some.inj (found.symm.trans configured)
                  rw [← same]
                  rfl
  · rw [same.control] at launched
    rw [same.cfg] at configured
    exact same.currentLocalRoot.trans (rooted launched primary configured)
  · have finished := phase_of_mode ended
    rw [finished] at launched
    cases launched

/-- A dispatcher works for the pair in force, or not at all. -/
def Serving (cfg : AppConfig) (dispatcher : Dispatcher) : Prop :=
  (∀ primary, cfg.getPrimaryPair = some primary → dispatcher.localRoot = primary.localPath)
  ∨ dispatcher.Inert

/-- What holds between the steps of such a run, as long as the engine goes on. -/
structure Paired (note : Origins) (e : SyncEngine) : Prop where
  isolated : Isolated note e.cfg.pairId e.world
  workers : ∀ worker ∈ e.workers, worker.ctx.cfg.pairId = e.cfg.pairId
  dispatchers : ∀ dispatcher ∈ e.dispatchers, Serving e.cfg dispatcher
  scanning : e.mode.Scanning → e.cfg.pairId = e.ctx.cfg.pairId

/-- A reload keeps the pair, or finds nothing recorded. -/
theorem Paired.reloaded {new : AppConfig} (paired : Paired note e) (rooted : Rooted e)
    (configured : Configured e) (mode : e.mode = .selecting) (reloaded : Reloaded e new e')
    (clean : ∀ pair, new.pairId = some pair → e.cfg.pairId ≠ some pair → e.Clean new)
    (scanning : e'.mode.Scanning → e'.cfg.pairId = e'.ctx.cfg.pairId)
    (applied : new.getPrimaryPair ≠ none)
    : Paired note e' := by
  obtain ⟨primary, found⟩ := Option.ne_none_iff_exists'.mp applied
  obtain ⟨old, here⟩ :=
    Option.ne_none_iff_exists'.mp (configured (by simp [Receiving, mode] : e.Receiving))
  have pair : new.pairId = some (primary.localPath, primary.remoteFolderId) := by
    simp [AppConfig.pairId, found]
  have before : e.cfg.pairId = some (old.localPath, old.remoteFolderId) := by
    simp [AppConfig.pairId, here]
  have root : e.currentLocalRoot = old.localPath :=
    rooted (by simp [phase_of_mode mode, Mode.phase, Phase.launched]) old here
  have changes : e.changesRoot new = true ↔ primary.localPath ≠ old.localPath := by
    simp [changesRoot, found, root]
  by_cases same : e.cfg.pairId = some (primary.localPath, primary.remoteFolderId)
  · have path : old.localPath = primary.localPath :=
      congrArg Prod.fst (Option.some.inj (before.symm.trans same))
    have keeps : e.changesRoot new = false := by simp [changesRoot, found, root, path]
    have db : ∀ path, e'.world.db.row path = e.world.db.row path := by
      intro path
      rw [reloaded.rows, keeps]
      rfl
    refine ⟨⟨?_, ?_, ?_⟩, ?_, ?_, scanning⟩
    · intro path columns there
      rw [reloaded.cfg, pair, ← same]
      exact paired.isolated.rows path columns (db path ▸ there)
    · intro key entry there
      rw [reloaded.cfg, pair, ← same]
      exact paired.isolated.entries key entry (reloaded.pathCache ▸ there)
    · intro row member
      rw [reloaded.cfg, pair, ← same]
      rw [Database.getOfflineTasks, reloaded.queue] at member
      exact paired.isolated.queued row member
    · intro worker member
      rw [reloaded.cfg, pair, ← same]
      exact paired.workers worker (reloaded.workers ▸ member)
    · intro dispatcher member
      rw [reloaded.kept keeps] at member
      rcases paired.dispatchers dispatcher member with serves | inert
      · refine .inl (fun other there => ?_)
        rw [reloaded.cfg, found] at there
        cases there
        rw [serves old here, path]
      · exact .inr inert
  · have nothing := clean _ pair same
    refine ⟨⟨?_, ?_, ?_⟩, ?_, ?_, scanning⟩
    · intro path columns there
      rw [reloaded.rows] at there
      rcases nothing.rows with cleared | empty
      · simp [cleared] at there
      · rw [empty path] at there
        split at there <;> cases there
    · intro key entry there
      rw [reloaded.pathCache, nothing.entries key] at there
      cases there
    · intro row member
      have queued := nothing.queued
      rw [Database.getOfflineTasks, ← reloaded.queue] at queued
      rw [Database.getOfflineTasks, queued] at member
      cases member
    · intro worker member
      rw [reloaded.workers, nothing.workers] at member
      cases member
    · intro dispatcher member
      by_cases changed : e.changesRoot new = true
      · rcases reloaded.stopped changed dispatcher member with stopped | serves
        · obtain ⟨d, earlier, rfl⟩ := List.mem_map.mp stopped
          obtain ⟨inbox, pending, busy⟩ := nothing.dispatchers changed d earlier
          exact .inr ⟨rfl, inbox, pending, busy⟩
        · exact .inl (reloaded.cfg ▸ serves)
      · rw [reloaded.kept (by simpa using changed)] at member
        rcases paired.dispatchers dispatcher member with serves | inert
        · refine .inl (fun other there => ?_)
          rw [reloaded.cfg, found] at there
          cases there
          rw [serves old here]
          by_contra differs
          exact changed (changes.mpr (fun equal => differs equal.symm))
        · exact .inr inert

/-- The steps of the main task that receive no configuration. -/
theorem Paired.main (paired : Paired note e) (programs : Programs e)
    (step : MainStep host e label e') (other : ∀ new, label ≠ .command (.applyConfig new))
    (receiving : e'.Receiving) (fine : KeepsPairs note e label e')
    : Paired (origins note e label e') e' := by
  obtain ⟨cfg, ctx, -⟩ := step.employs other
  have scanning : e'.mode.Scanning → e'.cfg.pairId = e'.ctx.cfg.pairId := by
    rintro ⟨site, rest, mode⟩
    by_cases before : e.mode.Scanning
    · rw [cfg, ctx]
      exact paired.scanning before
    · rw [ctx]
      exact fine.scans (step.starts before mode).1
  have unseen (quiet : ∀ op, label ≠ .main op) : origins note e label e' = note := by
    cases step with
    | scan | flush => exact absurd rfl (quiet _)
    | _ => rfl
  cases step.touches with
  | none same quiet =>
      have notMain : ∀ op, label ≠ .main op := by
        rintro op rfl
        cases quiet
      rw [unseen notMain]
      refine ⟨?_, ?_, ?_, scanning⟩
      · rw [cfg]
        exact paired.isolated.of_same same.db same.pathCache
      · rw [cfg, same.workers]
        exact paired.workers
      · rw [cfg, same.dispatchers]
        exact paired.dispatchers
  | @worked _ op answer after awaits served =>
      have sound := programs.mode
      rcases awaits with ⟨site, next, mode, rfl⟩ | ⟨next, mode, rfl⟩
      · rw [mode] at sound
        refine ⟨?_, paired.workers, paired.dispatchers, scanning⟩
        have same : e.cfg.pairId = e.ctx.cfg.pairId := paired.scanning ⟨_, _, mode⟩
        change Isolated (note.write e.ctx.cfg.pairId e.world after op) e.cfg.pairId after
        rw [← same]
        exact paired.isolated.served served.1 (sound.1.leavesQueue).2
      · rw [mode] at sound
        have nothing : note.write e.ctx.cfg.pairId e.world after op
            = note.write e.cfg.pairId e.world after op := by
          cases sound.1 <;> rfl
        refine ⟨?_, paired.workers, paired.dispatchers, scanning⟩
        change Isolated (note.write e.ctx.cfg.pairId e.world after op) e.cfg.pairId after
        rw [nothing]
        refine paired.isolated.served served.1 ?_
        rintro action path extra rfl
        cases sound.1
  | reloaded => exact absurd rfl (other _)
  | watching mode configured =>
      refine ⟨paired.isolated, paired.workers, ?_, scanning⟩
      refine List.forall_mem_concat.mpr ⟨paired.dispatchers, .inl (fun other found => ?_)⟩
      exact congrArg SyncPair.localPath (Option.some.inj (configured.symm.trans found))
  | received =>
      exact ⟨paired.isolated.of_same rfl rfl, paired.workers, paired.dispatchers, scanning⟩
  | spawned mode configured =>
      exact ⟨paired.isolated, List.forall_mem_concat.mpr ⟨paired.workers, rfl⟩, paired.dispatchers,
        scanning⟩
  | unconfigured => exact absurd receiving id

theorem Paired.worker (paired : Paired note e) (programs : Programs e)
    (step : WorkerStep host e label e') (receiving : e'.Receiving)
    : Paired (origins note e label e') e' := by
  have retires (e : SyncEngine) (index : Nat)
      : (e.retire index).world.db = e.world.db
          ∧ (e.retire index).world.pathCache = e.world.pathCache
        ∧ (∀ worker ∈ (e.retire index).workers, worker ∈ e.workers)
        ∧ (e.retire index).dispatchers = e.dispatchers := by
    simp only [retire]
    split <;> exact ⟨rfl, rfl, fun worker => List.mem_of_mem_eraseIdx, rfl⟩
  have retired {e' : SyncEngine} (same : e.SameControl e')
      (fewer
        : e'.world.db = e.world.db ∧ e'.world.pathCache = e.world.pathCache
          ∧ (∀ worker ∈ e'.workers, worker ∈ e.workers) ∧ e'.dispatchers = e.dispatchers)
      : Paired note e' := by
    obtain ⟨db, pathCache, workers, dispatchers⟩ := fewer
    refine ⟨?_, ?_, ?_, ?_⟩
    · rw [same.cfg]
      exact paired.isolated.of_same db pathCache
    · rw [same.cfg]
      exact fun worker member => paired.workers worker (workers worker member)
    · rw [same.cfg, dispatchers]
      exact paired.dispatchers
    · rw [same.cfg, same.ctx, same.mode]
      exact paired.scanning
  have advanced {index : Nat} {worker : Worker} {stage : Stage}
      (found : e.workers[index]? = some worker)
      : ∀ other ∈ e.workers.set index { worker with stage },
          other.ctx.cfg.pairId = e.cfg.pairId := by
    intro other member
    rcases List.mem_or_eq_of_mem_set member with earlier | rfl
    · exact paired.workers other earlier
    · exact paired.workers worker (List.mem_of_getElem? found)
  cases step with
  | spared => exact retired (sameControl_retire _ _) (retires _ _)
  | begun found => exact ⟨paired.isolated, advanced found, paired.dispatchers, paired.scanning⟩
  | panicked => exact absurd receiving id
  | @worked index worker op next answer after found handling served =>
      have uses := programs.worker worker (List.mem_of_getElem? found) _ handling
      refine ⟨?_, advanced found, paired.dispatchers, paired.scanning⟩
      have same := paired.workers worker (List.mem_of_getElem? found)
      simp only [origins, found, Option.bind_some, same]
      exact paired.isolated.served served.1 (uses.1.leavesQueue).2
  | @handled index worker result found handling =>
      refine retired (sameControl_handled _ _ _) ?_
      cases result with
      | ok value => exact retires _ _
      | error error =>
          simp only [SyncEngine.handled]
          split
          · exact retires _ _
          · exact retires _ _

theorem Paired.dispatcher (paired : Paired note e) (programs : Programs e)
    (configured : Configured e) (step : DispatcherStep host e label e') (receiving : e.Receiving)
    : Paired (origins note e label e') e' := by
  have advanced {index : Nat} {before after : Dispatcher}
      (found : e.dispatchers[index]? = some before) (root : after.localRoot = before.localRoot)
      (inert : before.Inert → after.Inert)
      : ∀ other ∈ e.dispatchers.set index after, Serving e.cfg other := by
    intro other member
    rcases List.mem_or_eq_of_mem_set member with earlier | rfl
    · exact paired.dispatchers other earlier
    · rcases paired.dispatchers before (List.mem_of_getElem? found) with serves | stopped
      · exact .inl (fun primary here => root.trans (serves primary here))
      · exact .inr (inert stopped)
  cases step with
  | taken found idle running waiting =>
      refine ⟨paired.isolated, paired.workers, advanced found rfl ?_, paired.scanning⟩
      intro inert
      rw [inert.inbox] at waiting
      cases waiting
  | ticked found idle running order =>
      refine ⟨paired.isolated, paired.workers, advanced found rfl ?_, paired.scanning⟩
      intro inert
      rw [inert.pending] at order
      rw [List.perm_nil.mp order]
      exact ⟨inert.watched, inert.inbox, inert.pending, _, rfl⟩
  | left found idle finished =>
      refine ⟨paired.isolated, paired.workers, advanced found rfl ?_, paired.scanning⟩
      exact fun inert => ⟨inert.watched, inert.inbox, inert.pending, _, rfl⟩
  | @worked index dispatcher op next answer after found busy served =>
      have uses := programs.dispatcher dispatcher (List.mem_of_getElem? found)
      rw [busy] at uses
      have active : ¬ dispatcher.Inert := by
        rintro ⟨-, -, -, result, done⟩
        rw [busy] at done
        cases done
      refine ⟨?_, paired.workers, advanced found rfl (fun inert => absurd inert active),
        paired.scanning⟩
      cases uses.1 with
      | pushOfflineTask action path extra =>
          obtain ⟨primary, here⟩ := Option.ne_none_iff_exists'.mp (configured receiving)
          have root : dispatcher.localRoot = primary.localPath := by
            rcases paired.dispatchers dispatcher (List.mem_of_getElem? found) with serves | inert
            · exact serves primary here
            · exact absurd inert active
          have records : e.recording index = e.cfg.pairId := by
            simp [recording, found, AppConfig.pairId, here, root]
          rcases served.1 with ⟨-, rfl⟩ | ⟨-, -, rfl⟩
          · refine ⟨paired.isolated.rows, paired.isolated.entries, fun row member => ?_⟩
            simp only [origins]
            rcases List.mem_append.mp member with earlier | last
            · rw [Function.update_of_ne
                (Nat.ne_of_lt (e.world.db.offlineQueue.fresh row earlier))]
              exact paired.isolated.queued row earlier
            · rw [List.mem_singleton.mp last, Function.update_self]
              exact records
          · refine ⟨paired.isolated.rows, paired.isolated.entries, fun row member => ?_⟩
            simp only [origins]
            rw [Function.update_of_ne (Nat.ne_of_lt (e.world.db.offlineQueue.fresh row member))]
            exact paired.isolated.queued row member
      | isOffline | metadata path | addTotals files bytes | send task =>
          exact paired.isolated.of_same
            ((host.env.sem_keeps served.1).db (by simp [Op.writes]))
            ((host.env.sem_keeps served.1).pathCache (by simp [Op.writes]))

theorem Paired.outside (paired : Paired note e) (step : OutsideStep e label e')
    : Paired (origins note e label e') e' := by
  cases step with
  | @observed index dispatcher event found watched =>
      refine ⟨paired.isolated, paired.workers, ?_, paired.scanning⟩
      intro other member
      rcases List.mem_or_eq_of_mem_set member with earlier | rfl
      · exact paired.dispatchers other earlier
      · rcases paired.dispatchers dispatcher (List.mem_of_getElem? found) with serves | inert
        · refine .inl ?_
          unfold Dispatcher.observe
          split <;> exact serves
        · rw [inert.watched] at watched
          cases watched
  | published =>
      simp only [publish]
      split <;>
        exact ⟨⟨paired.isolated.rows, paired.isolated.entries, paired.isolated.queued⟩,
          paired.workers, paired.dispatchers, paired.scanning⟩
  | _ =>
      exact ⟨⟨paired.isolated.rows, paired.isolated.entries, paired.isolated.queued⟩,
        paired.workers, paired.dispatchers, paired.scanning⟩

theorem Paired.step (paired : Paired note e) (programs : Programs e) (rooted : Rooted e)
    (configured : Configured e) (step : Step host e label e') (receiving : e.Receiving)
    (still : e'.Receiving) (fine : KeepsPairs note e label e')
    : Paired (origins note e label e') e' := by
  cases step with
  | main main =>
      by_cases applies : ∃ new, label = .command (.applyConfig new)
      · obtain ⟨new, rfl⟩ := applies
        rcases main.reloaded still with ⟨-, rfl⟩ | ⟨mode, reloaded⟩
        · exact paired
        · have scanning : e'.mode.Scanning → e'.cfg.pairId = e'.ctx.cfg.pairId := by
            rintro ⟨site, rest, started⟩
            have before : ¬ e.mode.Scanning := by
              rintro ⟨site, rest, scans⟩
              rw [mode] at scans
              cases scans
            rw [reloaded.ctx]
            exact fine.scans (main.starts before started).1
          have applied : new.getPrimaryPair ≠ none := by
            rw [← reloaded.cfg]
            exact configured.step (.main main) still
          exact paired.reloaded rooted configured mode reloaded
            (fun pair => fine.clean new pair rfl mode) scanning applied
      · exact paired.main programs main (fun new same => applies ⟨new, same⟩) still fine
  | worker alive step => exact paired.worker programs step still
  | dispatcher alive step => exact paired.dispatcher programs configured step receiving
  | outside step => exact paired.outside step

theorem Step.receiving (step : Step host e label e') (still : e'.Receiving) : e.Receiving := by
  rcases step.others with main | ⟨-, receiving, -⟩
  · exact main.receiving
  · exact (receiving still).1

theorem paired_launch (host : Host) (w : World) (cfg : AppConfig) (dryRun : Bool)
    : Paired (.of cfg) (launch host w cfg dryRun) ∧ Rooted (launch host w cfg dryRun) := by
  have shape
      : (launch host w cfg dryRun).cfg = cfg ∧ (launch host w cfg dryRun).ctx.cfg = cfg
        ∧ (launch host w cfg dryRun).workers = [] ∧ (launch host w cfg dryRun).dispatchers = []
        ∧ (launch host w cfg dryRun).control.phase.launched = false := by
    simp only [launch]
    split
    · exact ⟨rfl, rfl, rfl, rfl, rfl⟩
    · split <;> exact ⟨rfl, rfl, rfl, rfl, rfl⟩
  obtain ⟨same, context, workers, dispatchers, phase⟩ := shape
  refine ⟨⟨?_, by simp [workers], by simp [dispatchers], fun _ => by rw [same, context]⟩, ?_⟩
  · rw [same]
    exact ⟨fun _ _ _ => rfl, fun _ _ _ => rfl, fun _ _ => rfl⟩
  · intro launched
    rw [phase] at launched
    cases launched

/-- In every run of the discipline, whatever a running engine has recorded belongs to the pair
in force.
-/
theorem isolates_pairs {host : Host} {w : World} {cfg : AppConfig} {dryRun : Bool}
    {note : Origins} {e : SyncEngine}
    (run : Runs host origins KeepsPairs (.of cfg) (launch host w cfg dryRun) note e)
    (receiving : e.Receiving)
    : Isolated note e.cfg.pairId e.world := by
  have kept : Programs e ∧ Rooted e ∧ Configured e ∧ (e.Receiving → Paired note e) := by
    refine run.invariant
      (fun note e => Programs e ∧ Rooted e ∧ Configured e ∧ (e.Receiving → Paired note e)) ?_ ?_
    · obtain ⟨paired, rooted⟩ := paired_launch host w cfg dryRun
      exact ⟨programs_launch host w cfg dryRun, rooted, configured_launch host w cfg dryRun,
        fun _ => paired⟩
    · rintro note e label e' ⟨programs, rooted, configured, paired⟩ step fine
      refine ⟨programs.step step, rooted.step step, configured.step step, fun still => ?_⟩
      have before := step.receiving still
      exact (paired before).step programs rooted configured step before still fine
  exact (kept.2.2.2 receiving).isolated

-----------------------------------------------------------------------------------------
-- A remote folder that is changed
-----------------------------------------------------------------------------------------

/-- The steps that the discipline says nothing about. -/
theorem keepsPairs_of_other {note : Origins} {e e' : SyncEngine} {label : Label}
    (other : ∀ cmd, label ≠ .command cmd) (tick : label ≠ .rescanTick)
    : KeepsPairs note e label e' := by
  refine ⟨fun new _ same => absurd same (other _), ?_⟩
  intro starts
  unfold StartsScan at starts
  split at starts
  · exact absurd rfl (other _)
  · exact absurd rfl (other _)
  · exact absurd rfl (other _)
  · exact absurd rfl tick
  · exact starts.elim

/-- The row of a file, from an earlier session. -/
def notedRow : Database := ({} : Database).upsert ⟨"notes.txt", "", 0⟩

/-- Offline, another directory is taken over: the row of the old one goes, and the deletion that is
recorded afterwards is one of the new pair.
-/
theorem relocation_isolates
    : ∃ (note : Origins) (e : SyncEngine),
        Runs (.plain (· = .database)) origins KeepsPairs (.of backupConfig)
          (launch (.plain (· = .database)) { disk := emptyDisk, db := notedRow } backupConfig false)
          note e
        ∧ notedRow.row "notes.txt" ≠ none ∧ e.world.db.row "notes.txt" = none
        ∧ e.cfg = relocatedConfig ∧ e.cfg.pairId ≠ backupConfig.pairId
        ∧ e.world.db.getOfflineTasks = [⟨1, "delete", "a", none⟩]
        ∧ Isolated note e.cfg.pairId e.world := by
  let host : Host := .plain (· = .database)
  let start := launch host { disk := emptyDisk, db := notedRow } backupConfig false
  have scanned : Runs host origins KeepsPairs (.of backupConfig) start (.of backupConfig) _ :=
    runs_scan_among (@scan_fails (· = .database) Op.Surveys rfl start.world rfl (fun _ => id))
      .start rfl (fun same => by cases same) (Nat.zero_le _)
      (fun note e op e' surveys => by cases op <;> first | rfl | cases surveys)
      (fun _ _ _ _ _ => keepsPairs_of_other (by simp) (by simp))
  have failed := scanned.step (.main (.scanned rfl)) (keepsPairs_of_other (by simp) (by simp))
  rw [scanned_initial locked_isShutdownErr] at failed
  have watching :=
    failed.step (.main (@MainStep.watching _ _ (.ok ()) rfl (fun _ _ => rfl)))
      (keepsPairs_of_other (by simp) (by simp))
  have moved :=
    watching.step
      (.main (@MainStep.command _ _ (.applyConfig relocatedConfig) {} rfl rfl rfl
        (fun _ _ _ _ => ⟨.inl rfl, .inl rfl, rfl⟩)))
      ⟨by
        rintro _ _ ⟨⟩ _ _ _
        refine ⟨.inl rfl, fun _ => rfl, rfl, rfl, ?_⟩
        intro _ dispatcher member
        rw [List.mem_singleton.mp member]
        exact ⟨rfl, rfl, _, rfl⟩, by rintro ⟨-, -, -, ⟨⟩⟩⟩
  have observed :=
    moved.step
      (.outside (@OutsideStep.observed _ 1 _ (.deleted [.utf8 "elsewhere", .utf8 "a"]) rfl rfl))
      (keepsPairs_of_other (by simp) (by simp))
  have taken :=
    observed.step
      (.dispatcher (by rintro ⟨⟩)
        (@DispatcherStep.taken _ _ 1 _ (.deleted [.utf8 "elsewhere", .utf8 "a"])
          [] rfl rfl rfl rfl))
      (keepsPairs_of_other (by simp) (by simp))
  have answered :=
    taken.step
      (.dispatcher (by rintro ⟨⟩)
        (@DispatcherStep.worked _ _ 1 _ .isOffline _ true _ rfl rfl ⟨⟨rfl, rfl⟩, trivial⟩))
      (keepsPairs_of_other (by simp) (by simp))
  have recorded :=
    answered.step
      (.dispatcher (by rintro ⟨⟩)
        (@DispatcherStep.worked _ _ 1 _ (.pushOfflineTask "delete" "a" none) _ (.ok ()) _ rfl rfl
          ⟨.inl ⟨rfl, rfl⟩, trivial⟩))
      (keepsPairs_of_other (by simp) (by simp))
  exact ⟨_, _, recorded, by decide, rfl, rfl, by decide, rfl, isolates_pairs recorded trivial⟩

/-- The rows of the old remote folder remain, and count for the new one. -/
theorem rows_outlive_move
    : ¬ ∀ host w cfg dryRun note e,
        Runs host origins anyStep (.of cfg) (launch host w cfg dryRun) note e
        → e.Receiving → Isolated note e.cfg.pairId e.world := by
  intro isolated
  let host : Host := .plain (fun _ => False)
  let start := launch host { disk := emptyDisk, db := notedRow } backupConfig false
  have launched : Runs host origins anyStep (.of backupConfig) start (.of backupConfig) start :=
    .start
  have paused := launched.step
    (.main (@MainStep.interrupted _ _ _ _ .pause rfl (by rintro ⟨⟩) (fun _ => rfl))) trivial
  have watching := paused.step
    (.main (@MainStep.watching _ _ (.ok ()) rfl (fun _ _ => rfl))) trivial
  have moved := watching.step
    (.main (@MainStep.paused _ _ (.applyConfig movedConfig) {} rfl rfl rfl
      (fun _ _ _ _ => ⟨.inl rfl, .inl rfl, rfl⟩))) trivial
  have origin := (isolated _ _ _ _ _ _ moved trivial).rows "notes.txt" ⟨"", 0⟩ rfl
  exact absurd origin (by decide)

end SyncEngine

end SyncGDrive
