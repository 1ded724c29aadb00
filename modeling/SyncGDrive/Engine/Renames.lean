import SyncGDrive.Engine.Calls

/-! Renaming as one step: what a failed one may leave behind, and what a finished one has moved.
-/

namespace SyncGDrive

open Program

-----------------------------------------------------------------------------------------
-- The property
-----------------------------------------------------------------------------------------

/-- The item has a new name and a new parent, and no other item has changed. -/
def Remote.Renamed (remote : Remote) (id : DriveId) (name : String) (parent : DriveId)
    (after : Remote)
    : Prop :=
  ∃ item,
    remote.item? id = some item
    ∧ ∀ other,
        after.item? other
          = if other = id then some { item with name, parent } else remote.item? other

/-- An error of the provider means that the remote is as it was, and a rename that is answered well
has been made.
-/
structure Environment.Truthful (env : Environment) : Prop where
  rename
    : ∀ id name parent disk remote after,
        env.provider (.rename id name parent) disk remote (.ok ()) after
        → remote.Renamed id name parent after
  renameFailed
    : ∀ id name parent disk remote error after,
        env.provider (.rename id name parent) disk remote (.error error) after → after = remote
  uploadFailed
    : ∀ path parent name existing disk remote error after,
        env.provider (.upload path parent name existing) disk remote (.error error) after
        → after = remote

/-- The three stores are as they were. -/
structure World.SameStores (w last : World) : Prop where
  remote : last.remote = w.remote
  pathCache : last.pathCache = w.pathCache
  db : last.db = w.db

/-- The item, its cache entry and its row have gone from the source to the target. -/
structure RenameMoved (primary : SyncPair) (source target : Path) (w last : World) : Prop where
  item
    : ∃ entry newName newParentId,
        w.pathCache.lookup (keyOf primary source) = some entry
        ∧ target.fileName? = some newName
        ∧ w.folderId? primary (parentRelStr primary.localPath target) = some newParentId
        ∧ w.remote.Renamed entry.driveId newName newParentId last.remote
        ∧ last.pathCache.lookup (keyOf primary target) = some ⟨entry.driveId, newParentId⟩
  row : last.db.row (keyOf primary target) = w.db.row (keyOf primary source)
  gone
    : keyOf primary source ≠ keyOf primary target
      → last.pathCache.lookup (keyOf primary source) = none
        ∧ last.db.row (keyOf primary source) = none

/-- The call renames an item. -/
def ProviderCall.Renames (call : ProviderCall) : Prop :=
  ∃ id name parent, call = .rename id name parent

/-- A renaming that fails has changed nothing, and one that ends well after a rename call has moved
everything.
-/
structure RenameAtomic (env : Environment) (ctx : EngineContext) (ignore : IgnoreMatcher)
    (primary : SyncPair) (source target : Path) (w : World)
    : Prop where
  failed
    : Always env.sem (fun _ => True) (handle ctx ignore (.rename source target)) w
        (fun result last => ∀ error, result = .error error → w.SameStores last)
  moved
    : ∀ call next middle last,
        ProviderCall.Renames call
        → Reaches env.sem (handle ctx ignore (.rename source target)) w
            (.call (.provider call) next) middle
        → Reaches env.sem (.call (.provider call) next) middle (.done (.ok ())) last
        → RenameMoved primary source target w last

/-- The source is renamed to a key that has a row of its own. -/
def RowInTheWay (primary : SyncPair) (ignore : IgnoreMatcher) (w : World) (source target : Path)
    : Prop :=
  ∃ entry newName newParentId,
    RenameDue primary ignore w source target entry newName newParentId
    ∧ (w.remote.item? entry.driveId).isSome
    ∧ keyOf primary source ≠ keyOf primary target
    ∧ (w.db.row (keyOf primary target)).isSome

/-- The source is not known, and the target is uploaded instead. -/
def UploadedInstead (md5 : List UInt8 → String) (primary : SyncPair) (ignore : IgnoreMatcher)
    (w : World) (source target : Path)
    : Prop :=
  ¬ BothIgnored ignore w source target
  ∧ (∀ entry, ¬ SourceKnown primary w source entry)
  ∧ ∃ data key, UploadDue md5 primary ignore w target data key

-----------------------------------------------------------------------------------------
-- What an attempt leaves
-----------------------------------------------------------------------------------------

section Renaming

variable {env : Environment} {ctx : EngineContext} {ignore : IgnoreMatcher} {primary : SyncPair}
  {w : World} {source target : Path}

/-- Where failed attempts change nothing, a failed loop has changed nothing, and a finished one
leaves what its last attempt does.
-/
theorem always_retry_unchanged (quiet : env.Undisturbed) {α : Type}
    {operation : Eff (Except Error α)} {good : α → World → Prop}
    (attempt
      : Always env.sem (fun _ => True) operation w
          (fun result last =>
            ∃ answer,
              result = .ok answer ∧ (∀ error, answer = .error error → last = w)
              ∧ ∀ value, answer = .ok value → good value last))
    : Always env.sem (fun _ => True) (retry ctx.cfg operation) w
        (fun result last =>
          (∀ error, result = .error error → last = w)
          ∧ ∀ value, result = .ok value → good value last) := by
  apply always_retry (fun _ state => state = w) (fun _ _ state => state = w) _ _ _ rfl
  · rintro left state rfl
    refine ⟨trivial, fun cancelled after served => ?_⟩
    obtain ⟨-, rfl⟩ := quiet.sem_isCancelled.mp served
    cases cancelled with
    | true => exact ⟨trivial, fun _ _ => rfl, nofun⟩
    | false =>
        apply attempt.mono
        rintro result last - ⟨answer, rfl, failed, fine⟩
        cases answer with
        | ok value =>
            refine ⟨nofun, fun other told => ?_⟩
            cases told
            exact fine value rfl
        | error error => exact failed error rfl
  · rintro error last - rfl
    exact ⟨fun _ _ => rfl, nofun⟩
  · rintro left error state - rfl stopped after ⟨slept, -⟩
    obtain rfl := quiet.interrupts_iff.mp slept
    cases stopped with
    | true => exact ⟨trivial, fun _ _ => rfl, nofun⟩
    | false => rfl

/-- The row of the source goes to a free key. -/
theorem Database.rename_free {db : Database} {key key' : String}
    (row : (db.row key).isSome) (free : key ≠ key' → db.row key' = none)
    : ∃ after,
        db.rename key key' = .ok after
        ∧ after.row key' = db.row key
        ∧ (key ≠ key' → after.row key = none) := by
  obtain ⟨columns, found⟩ := Option.isSome_iff_exists.mp row
  by_cases same : key = key'
  · subst same
    exact ⟨db, by simp [Database.rename, found], rfl, fun differs => absurd rfl differs⟩
  · refine ⟨{ db with fileIndex := (db.fileIndex.erase key).insert key' columns }, ?_, ?_, ?_⟩
    · simp [Database.rename, found, same, free same]
    · rw [found]
      exact AList.lookup_insert _
    · intro _
      exact (AList.lookup_insert_ne same).trans (AList.lookup_erase _ _)

/-- An item that is renamed to a free key is moved in all stores, or nothing has changed. -/
theorem always_movingItem (quiet : env.Undisturbed) (truthful : env.Truthful) {entry : CacheEntry}
    {newName : String} {newParentId : DriveId}
    (due : RenameDue primary ignore w source target entry newName newParentId)
    (free : ¬ RowInTheWay primary ignore w source target)
    : Always env.sem (fun _ => True)
        (movingItem ctx primary source target entry.driveId newParentId newName) w
        (fun result last =>
          (∀ error, result = .error error → w.SameStores last)
          ∧ (result = .ok () → RenameMoved primary source target w last)) := by
  have called
      : Always env.sem (fun _ => True)
          (ask (.provider (.rename entry.driveId newName newParentId))) w
          (fun result last =>
            ∃ answer,
              result = .ok answer ∧ (∀ error, answer = .error error → last = w)
              ∧ ∀ value, answer = .ok value
                → ∃ remote,
                    w.remote.Renamed entry.driveId newName newParentId remote
                    ∧ last = { w with remote }) := by
    refine always_ask.mpr ⟨trivial, ?_⟩
    rintro answer after ⟨remote, answered, rfl⟩
    refine ⟨trivial, answer, rfl, ?_, ?_⟩
    · rintro error rfl
      rw [truthful.renameFailed _ _ _ _ _ _ _ answered]
    · rintro value rfl
      exact ⟨remote, truthful.rename _ _ _ _ _ _ answered, rfl⟩
  unfold movingItem
  refine (always_retry_unchanged quiet called).bind ?_ ?_
  · rintro value middle - ⟨-, fine⟩
    obtain ⟨remote, renamed, rfl⟩ := fine value rfl
    refine always_ask_bind.mpr ⟨trivial, ?_⟩
    rintro _ _ rfl
    refine always_ask_bind.mpr ⟨trivial, ?_⟩
    rintro _ _ rfl
    have row : (w.db.row (keyOf primary source)).isSome := by
      simpa [Database.get] using due.known.row.2
    have rowless (differs : keyOf primary source ≠ keyOf primary target)
        : w.db.row (keyOf primary target) = none := by
      by_contra taken
      obtain ⟨item, found, -⟩ := renamed
      refine free ⟨_, _, _, due, ?_, differs, Option.isSome_iff_ne_none.mpr taken⟩
      rw [found]
      rfl
    obtain ⟨db, moved, atTarget, atSource⟩ := Database.rename_free row rowless
    refine always_ask_bind.mpr ⟨trivial, ?_⟩
    intro answer after served
    simp only [Environment.sem, moved, quiet.stores_iff] at served
    obtain ⟨rfl, rfl⟩ := served
    refine ⟨trivial, by rintro _ ⟨⟩, fun _ => ⟨?_, atTarget, ?_⟩⟩
    · exact ⟨entry, newName, newParentId, due.known.cached, due.named, due.folder, renamed,
        by simp [PathCache.lookup_insert]⟩
    · intro differs
      refine ⟨?_, atSource differs⟩
      simp [PathCache.lookup_insert, PathCache.lookup_removeCascades, differs]
  · rintro error middle - ⟨failed, -⟩
    obtain rfl := failed error rfl
    exact ⟨fun _ _ => ⟨rfl, rfl, rfl⟩, by rintro ⟨⟩⟩

-----------------------------------------------------------------------------------------
-- A target that is synchronised instead
-----------------------------------------------------------------------------------------

/-- The cache and the database are as they were. -/
def World.SameTables (w state : World) : Prop := state.pathCache = w.pathCache ∧ state.db = w.db

/-- A program that writes neither the cache nor the database keeps them. -/
theorem always_sparing {α β : Type} {program : Eff α} {f : α → Eff β} {state : World}
    {post : Except Error β → World → Prop} (same : w.SameTables state)
    (spares : Uses (fun op : Op => op.writes ≠ some .pathCache ∧ op.writes ≠ some .db) program)
    (rest
      : ∀ value after,
          w.SameTables after → Always env.sem (fun _ => True) (f value) after post)
    (failed : ∀ error after, w.SameTables after → post (.error error) after)
    : Always env.sem (fun _ => True) (program >>= f) state post := by
  have onward (after : World) (kept : state.SameTables after) : w.SameTables after :=
    ⟨kept.1.trans same.1, kept.2.trans same.2⟩
  exact (always_sameTables spares).seq (fun _ _ => trivial)
    (fun value after kept _ => rest value after (onward after kept))
    (fun error after kept _ => failed error after (onward after kept))

/-- So does a single operation, which cannot fail. -/
theorem always_spares {α : Type} {op : Op} {f : op.Answer → Eff α} {state : World}
    {post : Except Error α → World → Prop} (same : w.SameTables state)
    (spares : op.writes ≠ some .pathCache ∧ op.writes ≠ some .db)
    (rest
      : ∀ answer after,
          w.SameTables after → Always env.sem (fun _ => True) (f answer) after post)
    : Always env.sem (fun _ => True) (ask op >>= f) state post := by
  refine always_ask_bind.mpr ⟨trivial, fun answer after served => rest answer after ?_⟩
  have keeps := env.sem_keeps served
  exact ⟨(keeps.pathCache spares.1).trans same.1, (keeps.db spares.2).trans same.2⟩

/-- A synchronisation that fails has entered nothing in the cache and the database. -/
theorem always_syncFile_failed (quiet : env.Undisturbed) {path : Path}
    : Always env.sem (fun _ => True) (syncFile ctx ignore path) w
        (fun result last => ∀ error, result = .error error → w.SameTables last) := by
  let post (result : Except Error Unit) (last : World) : Prop :=
    ∀ error, result = .error error → w.SameTables last
  have failed (error : Error) (state : World) (same : w.SameTables state)
      : post (.error error) state := fun _ _ => same
  have fine (state : World) : Always env.sem (fun _ => True) (.done (.ok ())) state post :=
    ⟨trivial, by rintro _ ⟨⟩⟩
  have written {entry : FileEntry} {state : World}
      : Always env.sem (fun _ => True) (do propagate (← ask (.upsert entry))) state post := by
    refine always_ask_bind.mpr ⟨trivial, ?_⟩
    rintro answer after served
    obtain ⟨rfl, rfl⟩ := quiet.sem_upsert.mp served
    exact fine _
  have recorded {key : String} {test : FileEntry → Bool} {f : Bool → Eff Unit} {state : World}
      (same : w.SameTables state)
      (rest
        : ∀ value after, w.SameTables after
            → Always env.sem (fun _ => True) (f value) after post)
      : Always env.sem (fun _ => True) (syncFile.recorded key test >>= f) state post :=
    always_sparing same (uses_recorded (by simp [Op.writes]) (by simp [Op.writes])) rest failed
  have onward {α : Type} {answer : Except Error α} {f : α → Eff Unit} {state : World}
      (same : w.SameTables state)
      (rest : ∀ value, answer = .ok value → Always env.sem (fun _ => True) (f value) state post)
      : Always env.sem (fun _ => True) (propagate answer >>= f) state post := by
    cases answer with
    | ok value => exact rest value rfl
    | error error => exact ⟨trivial, failed error state same⟩
  unfold syncFile
  refine always_spares ⟨rfl, rfl⟩ (by simp [Op.writes]) (fun answer state same => ?_)
  refine onward same (fun stat _ => ?_)
  split
  · exact fine state
  refine always_spares same (by simp [Op.writes]) (fun answer state same => ?_)
  refine onward same (fun metadata _ => ?_)
  split
  · exact fine state
  refine onward same (fun primary _ => onward same (fun key _ => ?_))
  refine always_sparing same (uses_mtime (by simp [Op.writes])) (fun time state same => ?_) failed
  refine recorded same (fun current state same => ?_)
  split
  · exact fine state
  refine always_spares same (by simp [Op.writes]) (fun stopped state same => ?_)
  split
  · exact fine state
  refine always_sparing same (Uses.bind (uses_ask (by simp [Op.writes])) (fun _ => uses_pure))
    (fun hashed state same => ?_) failed
  cases hashed with
  | error error =>
      refine always_sparing same (uses_isFile (by simp [Op.writes])) (fun there state same => ?_)
        failed
      split
      · exact fine state
      refine always_spares same (by simp [Op.writes]) (fun stopped state same => ?_)
      split
      · exact fine state
      · exact ⟨trivial, failed error state same⟩
  | ok hash =>
      refine recorded same (fun touched state same => ?_)
      split
      · exact written
      refine onward same (fun fileName _ => ?_)
      refine always_sparing same (uses_folderId (by simp [Op.writes]))
        (fun parentId state same => ?_) failed
      refine always_spares same (by simp [Op.writes]) (fun existing state same => ?_)
      refine always_spares same (by simp [Op.writes]) (fun _ state same => ?_)
      refine always_sparing same ?_ (fun stored state same => ?_) failed
      · exact uses_uploadLoop (by simp [Op.writes]) (by simp [Op.writes]) (by simp [Op.writes])
          (by simp [Op.writes])
      · refine always_ask_bind.mpr ⟨trivial, ?_⟩
        rintro _ entered rfl
        exact written

/-- Where no upload is due, or after a shutdown, the remote is left alone. -/
theorem comes_syncFile_nothing (quiet : env.Undisturbed) {path : Path}
    (configured : ctx.cfg.getPrimaryPair = some primary)
    (nothing
      : w.shutdown = true ∨ ∀ data key, ¬ UploadDue env.md5 primary ignore w path data key)
    : Comes env (fun program state => Ended program state ∧ state.remote = w.remote)
        (syncFile ctx ignore path) w := by
  have kept {op : Op} {state after : World} {answer : op.Answer} (here : op.Local)
      (served : env.sem op state answer after)
      (same : state.shutdown = w.shutdown ∧ state.remote = w.remote)
      : after.shutdown = w.shutdown ∧ after.remote = w.remote := by
    refine ⟨(env.sem_shutdown quiet served).trans same.1, ?_⟩
    refine ((env.sem_keeps served).remote ?_).trans same.2
    cases op <;> simp [Op.writes]
    exact here _ rfl
  refine ((comes_syncFile_orEnded configured).keeps (fun _ _ _ _ => kept) ⟨rfl, rfl⟩).mono ?_
  · rintro program state ⟨⟨-, reached⟩, shutdown, remote⟩
    refine ⟨?_, remote⟩
    rcases reached with (⟨result, -⟩ | ⟨due, -, -, running⟩) | ⟨ended, -⟩
    · exact ⟨result, rfl⟩
    · rcases nothing with stopped | notDue
      · rw [shutdown, stopped] at running
        cases running
      · exact absurd due (notDue _ _)
    · exact ended

/-- `sync_file` never renames. -/
theorem syncFile_never_renames {path : Path}
    : ¬ MayCall env ProviderCall.Renames (syncFile ctx ignore path) w := by
  have uses
      : Uses (fun op : Op => ∀ call, op = .provider call → ¬ call.Renames)
          (syncFile ctx ignore path) := by
    refine uses_syncFile_of ?_ ?_
    · rintro op observes call rfl
      cases observes
    · rintro primary key op - - stores call rfl ⟨id, name, parent, rfl⟩
      cases stores
  refine uses.not_mayRequest ?_
  rintro op state never ⟨call, rfl, renames⟩
  exact never call rfl renames

/-- After a shutdown the item is not renamed any more. -/
theorem always_movingItem_stopped (quiet : env.Undisturbed) (stopped : w.shutdown = true)
    {id newParentId : DriveId} {newName : String}
    : Always env.sem (fun _ => True) (movingItem ctx primary source target id newParentId newName) w
        (fun result last => (∃ error, result = .error error) ∧ last = w) := by
  simp only [movingItem, retry]
  cases ctx.cfg.retry.maxAttempts - 1
  all_goals
    refine always_known (fun _ _ served => quiet.sem_isCancelled.mp served) trivial ?_
    rw [stopped]
    exact ⟨trivial, ⟨_, rfl⟩, rfl⟩

-----------------------------------------------------------------------------------------
-- Where renaming is one step
-----------------------------------------------------------------------------------------

/-- A renaming that fails has changed nothing. -/
theorem always_rename_failed (quiet : env.Undisturbed) (truthful : env.Truthful)
    (configured : ctx.cfg.getPrimaryPair = some primary)
    (safe
      : w.shutdown = true
        ∨ ¬ RowInTheWay primary ignore w source target
          ∧ ¬ UploadedInstead env.md5 primary ignore w source target)
    : Always env.sem (fun _ => True) (rename ctx ignore source target) w
        (fun result last => ∀ error, result = .error error → w.SameStores last) := by
  refine (comes_rename quiet configured).always ?_
  rintro program state (⟨result, -⟩ | ⟨due⟩ | ⟨seen, unknown, there, kept⟩)
  · exact ⟨trivial, fun _ _ => ⟨rfl, rfl, rfl⟩⟩
  · rcases safe with stopped | ⟨free, -⟩
    · refine (always_movingItem_stopped quiet stopped).mono ?_
      rintro result last - ⟨-, rfl⟩ error -
      exact ⟨rfl, rfl, rfl⟩
    · exact (always_movingItem quiet truthful due free).mono (fun _ _ _ holds => holds.1)
  · have nothing
        : w.shutdown = true ∨ ∀ data key, ¬ UploadDue env.md5 primary ignore w target data key := by
      rcases safe with stopped | ⟨-, notSent⟩
      · exact .inl stopped
      · exact .inr (fun data key due => notSent ⟨seen, unknown, data, key, due⟩)
    have remote
        : Always env.sem (fun _ => True) (syncFile ctx ignore target) w
            (fun _ last => last.remote = w.remote) := by
      refine (comes_syncFile_nothing quiet configured nothing).always ?_
      rintro program state ⟨⟨result, rfl⟩, same⟩
      exact ⟨trivial, same⟩
    refine (remote.and (always_syncFile_failed quiet)).weaken (fun _ _ => trivial) |>.mono ?_
    rintro result last - ⟨-, remote, tables⟩ error failed
    exact ⟨remote, (tables error failed).1, (tables error failed).2⟩

/-- A renaming that makes its call and ends well has moved everything. -/
theorem rename_moves (quiet : env.Undisturbed) (truthful : env.Truthful)
    (configured : ctx.cfg.getPrimaryPair = some primary)
    (safe : w.shutdown = true ∨ ¬ RowInTheWay primary ignore w source target)
    {call : ProviderCall} {next : call.Answer → Eff Unit} {middle last : World}
    (renames : call.Renames)
    (calls
      : Reaches env.sem (rename ctx ignore source target) w (.call (.provider call) next) middle)
    (ends : Reaches env.sem (.call (.provider call) next) middle (.done (.ok ())) last)
    : RenameMoved primary source target w last := by
  by_cases due
      : ∃ entry newName newParentId,
          RenameDue primary ignore w source target entry newName newParentId
  · have moved
        : Always env.sem (fun _ => True) (rename ctx ignore source target) w
            (fun result last => result = .ok () → RenameMoved primary source target w last) := by
      obtain ⟨entry, newName, newParentId, due⟩ := due
      refine (comes_rename quiet configured).always ?_
      rintro program state (⟨result, settled⟩ | ⟨due'⟩ | ⟨-, unknown, -, -⟩)
      · rcases settled with both | ⟨-, notDue⟩ | ⟨unknown, -⟩
        · exact absurd both due.seen
        · exact absurd due (notDue _ _ _)
        · exact absurd due.known (unknown _)
      · rcases safe with stopped | free
        · refine (always_movingItem_stopped quiet stopped).mono ?_
          rintro result last - ⟨⟨error, rfl⟩, -⟩ ⟨⟩
        · exact (always_movingItem quiet truthful due' free).mono (fun _ _ _ holds => holds.2)
      · exact absurd due.known (unknown _)
    exact (moved.reaches (calls.trans ends)).2 rfl
  · have never : ¬ MayCall env ProviderCall.Renames (rename ctx ignore source target) w := by
      refine ((comes_rename quiet configured).mayRequest_iff
        (fun _ _ => Op.Local.not_requested) ?_).not.mpr not_false
      rintro program state (⟨result, -⟩ | ⟨due'⟩ | ⟨-, -, -, -⟩)
      · exact Iff.rfl
      · exact absurd ⟨_, _, _, due'⟩ due
      · exact iff_false_intro syncFile_never_renames
    exact absurd (mayRequest_iff_reaches.mpr ⟨_, _, _, calls, call, rfl, renames⟩) never

end Renaming

-----------------------------------------------------------------------------------------
-- Where it is not
-----------------------------------------------------------------------------------------

/-- Every upload stores one and the same item, and is answered with a digest of its own. -/
def Environment.rejecting (md5 : List UInt8 → String) (id : DriveId) (item : RemoteItem)
    (digest : String)
    : Environment where
  md5
  provider
    | .upload .., _, remote, answer, after =>
        answer = .ok ⟨id, digest, 0⟩ ∧ after = remote.put id item
    | .rename .., _, remote, answer, after => answer = .error Remote.notFound ∧ after = remote
    | _, _, remote, _, after => after = remote
  faults _ := False

section Rejecting

variable {md5 : List UInt8 → String} {id : DriveId} {item : RemoteItem} {digest : String}
  {ctx : EngineContext} {ignore : IgnoreMatcher} {primary : SyncPair} {w : World} {path : Path}

theorem rejecting_truthful : (Environment.rejecting md5 id item digest).Truthful where
  rename _ _ _ _ _ _ answered := by cases answered.1
  renameFailed _ _ _ _ _ _ _ answered := answered.2
  uploadFailed _ _ _ _ _ _ _ _ answered := by cases answered.1

theorem rejecting_quiet : (Environment.rejecting md5 id item digest).Undisturbed :=
  fun _ disturbed => disturbed

theorem rejecting_total (op : Op) (state : World)
    : ∃ answer after, (Environment.rejecting md5 id item digest).sem op state answer after := by
  refine Environment.sem_total _ state ?_ op
  intro call
  cases call with
  | upload => exact ⟨_, _, rfl, rfl⟩
  | rename => exact ⟨_, _, rfl, rfl⟩
  | listRemote | mkdir | delete => exact ⟨.error Remote.notFound, _, rfl⟩

/-- The item once stored stays. -/
theorem always_rejecting_stored {α : Type} {program : Eff α} {state : World}
    (stored : state.remote.item? id = some item)
    : Always (Environment.rejecting md5 id item digest).sem
        (fun state => state.remote.item? id = some item) program state (fun _ _ => True) := by
  refine always_of_sem ?_ stored
  intro op state answer after stored served
  by_cases touches : op.writes = some .remote
  · cases op <;> simp [Op.writes] at touches
    rename_i call
    obtain ⟨remote, answered, rfl⟩ := served
    cases call with
    | upload =>
        obtain ⟨-, rfl⟩ := answered
        rw [Remote.item?_put, if_pos rfl]
    | rename =>
        obtain ⟨-, rfl⟩ := answered
        exact stored
    | listRemote | mkdir | delete =>
        obtain rfl := answered
        exact stored
  · rw [(Environment.sem_keeps served).remote touches]
    exact stored

/-- No upload passes the check, so the loop fails: by induction on the attempts left. -/
theorem always_uploadLoop_rejected {retry : RetryConfig} {parentId : DriveId} {fileName : String}
    {existing : Option DriveId} {left : Nat} {disk : Disk} (same : w.disk = disk)
    (differs : ∀ content, disk.read path = some content → md5 content ≠ digest)
    : Always (Environment.rejecting md5 id item digest).sem (fun _ => True)
        (uploadLoop retry path parentId fileName existing left) w
        (fun result _ => ∃ error, result = .error error) := by
  let post (result : Except Error UploadResult) (_ : World) : Prop := ∃ error, result = .error error
  have attempt (existing : Option DriveId) (again : Option (Option DriveId → Eff UploadResult))
      (rest
        : ∀ next ∈ again, ∀ existing state,
            state.disk = disk
            → Always (Environment.rejecting md5 id item digest).sem (fun _ => True) (next existing)
                state post)
      (state : World) (same : state.disk = disk)
      : Always (Environment.rejecting md5 id item digest).sem (fun _ => True)
          (uploadAttempt retry path parentId fileName existing again) state post := by
    unfold uploadAttempt
    refine always_known (fun _ _ served => rejecting_quiet.sem_isCancelled.mp served) trivial ?_
    split
    · exact ⟨trivial, _, rfl⟩
    refine always_ask_bind.mpr ⟨trivial, ?_⟩
    rintro answer stored ⟨remote, ⟨rfl, rfl⟩, rfl⟩
    simp only [verifyUpload, bind_assoc]
    refine always_ask_bind.mpr ⟨trivial, ?_⟩
    rintro hashed read ⟨rfl, answered⟩
    -- The attempt is refused, whether the file has another digest or cannot be read.
    have refused
        : Always (Environment.rejecting md5 id item digest).sem (fun _ => True)
            (uploadAttempt.orNext retry again
              (.msg ("mismatch md5 détecté post-upload après "
                ++ toString retry.maxAttempts ++ " essais"))
              (some id))
            { state with remote := state.remote.put id item } post := by
      cases again with
      | none => exact ⟨trivial, _, rfl⟩
      | some next =>
          refine always_ask_bind.mpr ⟨trivial, ?_⟩
          rintro stopped slept ⟨here, -⟩
          obtain rfl := rejecting_quiet.interrupts_iff.mp here
          split
          · exact ⟨trivial, _, rfl⟩
          · exact rest next rfl _ _ same
    cases hashed with
    | error error => exact refused
    | ok hash =>
        have other : hash ≠ digest := by
          split at answered
          · rename_i content found
            cases answered
            exact differs content (same ▸ found)
          · obtain ⟨error, ⟨⟩⟩ := answered
        simp only [other, if_false]
        exact refused
  induction left generalizing existing w with
  | zero => exact attempt existing none (by rintro _ ⟨⟩) w same
  | succ left ih =>
      refine attempt existing _ ?_ w same
      rintro next ⟨⟩ existing state same
      exact ih same

/-- A file that is due leaves its item behind, and the error of its last attempt. -/
theorem UploadDue.leaves {data : FileData} {key : String}
    (due : UploadDue md5 primary ignore w path data key)
    (configured : ctx.cfg.getPrimaryPair = some primary) (running : w.shutdown = false)
    (differs : ∀ content, w.disk.read path = some content → md5 content ≠ digest)
    : ∃ error last,
        Reaches (Environment.rejecting md5 id item digest).sem (syncFile ctx ignore path) w
          (.done (.error error)) last
        ∧ last.remote.item? id = some item := by
  have comes
      : Comes (.rejecting md5 id item digest)
          (fun program state =>
            SyncStage md5 ctx primary ignore w path program state ∧ state.disk = w.disk)
          (syncFile ctx ignore path) w :=
    (comes_syncFile rejecting_quiet running configured).keeps
      (fun _ _ _ _ _ served same => (Environment.sem_keeps served).disk.trans same) rfl
  obtain ⟨rest, state, toUpload, stage, sameDisk⟩ := comes.reaches
  cases stage with
  | finished result notDue => exact absurd due (notDue _ _)
  | @uploads _ stored key' fileName parentId _ _ _ running =>
      obtain ⟨_, before, toCall, next, rfl⟩ := (comes_uploading rejecting_quiet running).reaches
      obtain ⟨result, last, tail⟩ :=
        exists_run (@rejecting_total md5 id item digest) (next (.ok ⟨id, digest, 0⟩))
          { before with remote := before.remote.put id item }
      have onward := toCall.trans (.step ⟨_, ⟨rfl, rfl⟩, rfl⟩ tail)
      have refused
          : Always (Environment.rejecting md5 id item digest).sem (fun _ => True)
              (uploading ctx path key' (md5 stored.content) (stored.modified / 1000000000) parentId
                fileName ((w.pathCache.lookup key').map CacheEntry.driveId))
              state (fun result _ => ∃ error, result = .error error) :=
        (always_uploadLoop_rejected sameDisk differs).bind (by rintro _ _ _ ⟨_, ⟨⟩⟩)
          (fun error _ _ _ => ⟨error, rfl⟩)
      obtain ⟨error, rfl⟩ := (refused.reaches onward).2
      refine ⟨error, last, toUpload.trans onward, ?_⟩
      exact ((always_rejecting_stored (by rw [Remote.item?_put, if_pos rfl])).reaches tail).here

end Rejecting

section Exactly

variable {md5 : List UInt8 → String} {ctx : EngineContext} {ignore : IgnoreMatcher}
  {primary : SyncPair} {w : World} {source target : Path}

theorem calm_truthful {root : DriveId} : (Environment.calm md5 root).Truthful where
  rename id name parent disk remote after answered := by
    have answered : (Except.ok (), after) = remote.rename id name parent := answered
    unfold Remote.rename at answered
    split at answered
    · rename_i item found
      cases answered
      exact ⟨item, found, fun other => Remote.item?_put ..⟩
    · cases answered
  renameFailed id name parent disk remote error after answered := by
    have answered : (Except.error error, after) = remote.rename id name parent := answered
    unfold Remote.rename at answered
    split at answered <;> cases answered
    rfl
  uploadFailed path parent name existing disk remote error after answered := by
    simp only [Environment.calm, honestProvider] at answered
    split at answered
    · exact answered.2
    · obtain ⟨fresh, -, answer, rfl⟩ := answered
      unfold Remote.upload at answer ⊢
      split at answer
      · cases answer
      · split at answer
        · cases answer
        · rfl

/-- An execution in which SQLite refuses the row of an item that has been renamed. -/
theorem reaches_movingItem_refused {item : RemoteItem} {entry : CacheEntry} {newName : String}
    {newParentId root : DriveId} (found : w.remote.item? entry.driveId = some item)
    (running : w.shutdown = false) {error : Error}
    (refused : w.db.rename (keyOf primary source) (keyOf primary target) = .error error)
    : Reaches (Environment.calm md5 root).sem
        (movingItem ctx primary source target entry.driveId newParentId newName) w
        (.done (.error error))
        { w with
          remote :=
            w.remote.put entry.driveId { item with name := newName, parent := newParentId }
          pathCache :=
            (w.pathCache.removeCascades (keyOf primary source)).insert (keyOf primary target)
              entry.driveId newParentId } := by
  have renamed
      : w.remote.rename entry.driveId newName newParentId
        = (.ok (), w.remote.put entry.driveId
            { item with name := newName, parent := newParentId }) := by
    simp [Remote.rename, found]
  simp only [movingItem, retry]
  cases ctx.cfg.retry.maxAttempts - 1
  all_goals
    refine reaches_call false w ⟨.inl rfl, running.symm⟩ ?_
    refine reaches_call (.ok ()) _ ⟨_, renamed.symm, rfl⟩ ?_
    refine reaches_call () _ rfl ?_
    refine reaches_call () _ rfl ?_
    refine reaches_call (.error error) _ ?_ .refl
    simp only [Environment.sem, refused]
    exact .inl ⟨rfl, rfl⟩

/-- With a row in the way, the renaming fails when the item and the cache have moved already. -/
theorem RowInTheWay.not_atomic (taken : RowInTheWay primary ignore w source target)
    (configured : ctx.cfg.getPrimaryPair = some primary) (real : ctx.dryRun = false)
    (running : w.shutdown = false)
    : ¬ RenameAtomic (.calm md5 primary.remoteFolderId) ctx ignore primary source target w := by
  intro atomic
  obtain ⟨entry, newName, newParentId, due, there, differs, taken⟩ := taken
  obtain ⟨item, found⟩ := Option.isSome_iff_exists.mp there
  have quiet : (Environment.calm md5 primary.remoteFolderId).Undisturbed := fun _ faulty => faulty
  obtain ⟨rest, state, path, stage⟩ :=
    (@comes_rename _ w ctx primary ignore quiet source target configured).reaches
  cases stage with
  | finished result settled =>
      rcases settled with both | ⟨-, notDue⟩ | ⟨unknown, -⟩
      · exact due.seen both
      · exact notDue _ _ _ due
      · exact unknown _ due.known
  | synchronises seen unknown there kept => exact unknown _ due.known
  | @renames entry' newName' newParentId' due' =>
      obtain rfl : entry = entry' :=
        Option.some.inj (due.known.cached.symm.trans due'.known.cached)
      have row : (w.db.row (keyOf primary source)).isSome := by
        simpa [Database.get] using due.known.row.2
      obtain ⟨columns, stored⟩ := Option.isSome_iff_exists.mp row
      have refused
          : w.db.rename (keyOf primary source) (keyOf primary target)
            = .error (.msg "UNIQUE constraint failed: file_index.path") := by
        simp [Database.rename, stored, differs, taken]
      have failing := path.trans (reaches_movingItem_refused found running refused)
      have always := atomic.failed
      simp only [handle, real, Bool.false_eq_true, if_false] at always
      have same := ((always.reaches failing).2 _ rfl).pathCache
      have gone := congrArg (fun cache => cache.lookup (keyOf primary source)) same
      simp [PathCache.lookup_insert, PathCache.lookup_removeCascades, differs, due.known.cached]
        at gone

/-- Some item is not the one at an identifier. -/
theorem Remote.exists_other (remote : Remote) (id : DriveId)
    : ∃ item, remote.item? id ≠ some item := by
  by_contra every
  push Not at every
  have first := every ⟨"", "", .folder, false⟩
  rw [every ⟨"", "", .file [], false⟩] at first
  cases first

/-- A target that is uploaded instead may fail when its content has been stored already. -/
theorem UploadedInstead.not_atomic (instead : UploadedInstead md5 primary ignore w source target)
    (configured : ctx.cfg.getPrimaryPair = some primary) (real : ctx.dryRun = false)
    (running : w.shutdown = false)
    : ∃ env : Environment,
        env.md5 = md5 ∧ env.Truthful ∧ env.Undisturbed
        ∧ ¬ RenameAtomic env ctx ignore primary source target w := by
  obtain ⟨seen, unknown, data, key, due⟩ := instead
  obtain ⟨item, other⟩ := w.remote.exists_other "new"
  refine ⟨.rejecting md5 "new" item (md5 data.content ++ "!"), rfl, rejecting_truthful,
    rejecting_quiet, ?_⟩
  intro atomic
  have differs (content : List UInt8) (read : w.disk.read target = some content)
      : md5 content ≠ md5 data.content ++ "!" := by
    obtain rfl : data.content = content := by
      simpa [Disk.read, due.file, due.readable] using read
    intro same
    have lengths := congrArg String.length same
    simp at lengths
  obtain ⟨rest, state, path, stage⟩ :=
    (@comes_rename _ w ctx primary ignore rejecting_quiet source target configured).reaches
  cases stage with
  | finished result settled =>
      rcases settled with both | ⟨⟨entry, known⟩, -⟩ | ⟨-, absent | ignored⟩
      · exact seen both
      · exact unknown _ known
      · simp [Disk.isFile, Disk.metadata, due.file, Node.metadata] at absent
      · have kept := due.kept
        simp [Disk.isDir, Disk.metadata, due.file, Node.metadata, kept] at ignored
  | renames due' => exact unknown _ due'.known
  | synchronises =>
      obtain ⟨error, last, onward, stored⟩ := due.leaves configured running differs
      have always := atomic.failed
      simp only [handle, real, Bool.false_eq_true, if_false] at always
      have same := ((always.reaches (path.trans onward)).2 _ rfl).remote
      exact other (same ▸ stored)

/-- Whatever a truthful provider does, renaming is one step exactly where no row is in the way and
the target is not uploaded instead.
-/
theorem rename_atomic_iff (configured : ctx.cfg.getPrimaryPair = some primary)
    : (∀ env : Environment,
          env.md5 = md5 → env.Truthful → env.Undisturbed
          → RenameAtomic env ctx ignore primary source target w)
      ↔ ctx.dryRun = true ∨ w.shutdown = true
        ∨ ¬ RowInTheWay primary ignore w source target
          ∧ ¬ UploadedInstead md5 primary ignore w source target := by
  constructor
  · intro atomic
    by_contra broken
    simp only [not_or, Bool.not_eq_true] at broken
    obtain ⟨real, running, conflict⟩ := broken
    refine conflict ⟨fun taken => ?_, fun instead => ?_⟩
    · exact taken.not_atomic configured real running
        (atomic (.calm md5 _) rfl calm_truthful (fun _ faulty => faulty))
    · obtain ⟨env, same, truthful, quiet, torn⟩ := instead.not_atomic configured real running
      exact torn (atomic env same truthful quiet)
  · rintro safe env rfl truthful quiet
    cases real : ctx.dryRun with
    | true =>
        refine ⟨?_, ?_⟩
        · simp only [handle, real, if_true]
          exact ⟨trivial, by rintro _ ⟨⟩⟩
        · intro call next middle last _ calls
          simp only [handle, real, if_true] at calls
          cases calls
    | false =>
        have safe := safe.resolve_left (by simp [real])
        refine ⟨?_, ?_⟩
        · simpa only [handle, real, Bool.false_eq_true, if_false]
            using always_rename_failed quiet truthful configured safe
        · intro call next middle last renames calls ends
          simp only [handle, real, Bool.false_eq_true, if_false] at calls
          exact rename_moves quiet truthful configured (safe.imp id And.left) renames calls ends

end Exactly

-----------------------------------------------------------------------------------------
-- A file renamed onto another one
-----------------------------------------------------------------------------------------

/-- `a.txt` is synchronised, and nothing else is. -/
def soleWorld : World where
  disk := .backup .empty (fun _ => .special)
  db := ({} : Database).upsert ⟨"a.txt", "h", 1⟩
  pathCache := ({} : PathCache).insert "a.txt" "1" "root"
  remote := ({} : Remote).put "1" ⟨"a.txt", "root", .file [1], false⟩

/-- `b.txt` has a row too. -/
def occupiedWorld : World := { soleWorld with db := soleWorld.db.upsert ⟨"b.txt", "h'", 1⟩ }

theorem sole_known
    : SourceKnown backupPair soleWorld [.utf8 "backup", .utf8 "a.txt"] ⟨"1", "root"⟩ :=
  ⟨by decide +kernel, by decide +kernel, by decide +kernel⟩

/-- The item and the cache entry have moved when SQLite refuses the row. -/
theorem occupied_row_fails_late
    : ¬ ∀ (env : Environment) ctx (ignore : IgnoreMatcher) (primary : SyncPair) (w : World)
          (source target : Path),
          ctx.cfg.getPrimaryPair = some primary → env.Truthful → env.Undisturbed
          → RenameAtomic env ctx ignore primary source target w := by
  intro claim
  have taken
      : RowInTheWay backupPair .nothing occupiedWorld [.utf8 "backup", .utf8 "a.txt"]
          [.utf8 "backup", .utf8 "b.txt"] := by
    refine ⟨⟨"1", "root"⟩, "b.txt", "root", ⟨?_, ?_, rfl, rfl⟩, ?_, by decide +kernel,
      by decide +kernel⟩
    · rintro ⟨ignored, -⟩
      exact absurd ignored (by simp [Excluded, IgnoreMatcher.nothing_isIgnored])
    · exact ⟨by decide +kernel, by decide +kernel, by decide +kernel⟩
    · decide +kernel
  exact @RowInTheWay.not_atomic (fun _ => "") ⟨backupConfig, false⟩ _ _ _ _ _ taken rfl rfl rfl
    (claim (.calm (fun _ => "") "root") ⟨backupConfig, false⟩ .nothing backupPair occupiedWorld _ _
      rfl calm_truthful (fun _ faulty => faulty))

/-- While `b.txt` has no row, renaming `a.txt` to it is one step. -/
theorem free_row_atomic
    : RenameAtomic (.calm (fun _ => "") "root") ⟨backupConfig, false⟩ .nothing backupPair
        [.utf8 "backup", .utf8 "a.txt"] [.utf8 "backup", .utf8 "b.txt"] soleWorld := by
  refine (@rename_atomic_iff (fun _ => "") ⟨backupConfig, false⟩ .nothing backupPair soleWorld _ _
    rfl).mpr (.inr (.inr ⟨?_, ?_⟩)) _ rfl calm_truthful (fun _ faulty => faulty)
  · rintro ⟨-, -, -, -, -, -, row⟩
    exact absurd row (by decide +kernel)
  · rintro ⟨-, unknown, -⟩
    exact unknown _ sole_known

end SyncGDrive
