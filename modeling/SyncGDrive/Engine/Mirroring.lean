import SyncGDrive.Engine.Exclusion
import SyncGDrive.Remote.Mirror

/-! The path cache as an exact mirror of the remote while tasks are handled one at a time: what
each task has to find for the mirror to stay exact.
-/

namespace SyncGDrive

open Program

-----------------------------------------------------------------------------------------
-- States with an exact mirror
-----------------------------------------------------------------------------------------

/-- A provider that never fails, serving the folder `root`; anything else may go wrong. -/
def Environment.unfailing (md5 : List UInt8 → String) (root : DriveId) (faults : Fault → Prop)
    : Environment where
  md5
  provider := honestProvider md5 root
  faults

/-- Remote paths are unique, and the cache maps exactly these to their items. -/
structure World.Mirrored (w : World) (root : DriveId) : Prop where
  sound : w.remote.Sound root
  mirrors : w.pathCache.Mirrors w.remote root

/-- Equal in the disk, the remote and the cache. -/
structure World.Matches (w state : World) : Prop where
  disk : state.disk = w.disk
  remote : state.remote = w.remote
  pathCache : state.pathCache = w.pathCache

theorem World.Matches.refl (w : World) : w.Matches w := ⟨rfl, rfl, rfl⟩

theorem World.Matches.trans {w state after : World} (first : w.Matches state)
    (second : state.Matches after)
    : w.Matches after :=
  ⟨second.disk.trans first.disk, second.remote.trans first.remote,
    second.pathCache.trans first.pathCache⟩

theorem World.Matches.mirrored {w state : World} {root : DriveId} (same : w.Matches state)
    (mirrored : w.Mirrored root)
    : state.Mirrored root := by
  obtain ⟨sound, mirrors⟩ := mirrored
  rw [← same.remote] at sound mirrors
  rw [← same.pathCache] at mirrors
  exact ⟨sound, mirrors⟩

/-- An operation that writes neither the remote nor the cache keeps both. -/
theorem Environment.sem_matches {env : Environment} {op : Op} {w after : World}
    {answer : op.Answer} (served : env.sem op w answer after)
    (spares : op.writes ≠ some .remote ∧ op.writes ≠ some .pathCache)
    : w.Matches after :=
  have keeps := env.sem_keeps served
  ⟨keeps.disk, keeps.remote spares.1, keeps.pathCache spares.2⟩

/-- A path below the root has names that a directory can hold. -/
def ProperBelow (primary : SyncPair) (path : Path) : Prop :=
  ∀ rel, Path.stripPrefix primary.localPath path = some rel → ProperNames rel

/-- What the directory of a path is cached as is no file. -/
def InFolder (primary : SyncPair) (w : World) (path : Path) : Prop :=
  ∀ id item,
    w.folderId? primary (parentRelStr primary.localPath path) = some id
    → w.remote.item? id = some item → item.kind = .folder

/-- A path with a key other than the root's has a name below the root. -/
theorem ProperBelow.concat {primary : SyncPair} {path : Path} (proper : ProperBelow primary path)
    (below : keyOf primary path ≠ "")
    : ∃ above name,
        Path.stripPrefix primary.localPath path = some (above ++ [name])
        ∧ ProperNames (above ++ [name]) ∧ keyOf primary path = relKey (above ++ [name]) := by
  cases inRoot : Path.stripPrefix primary.localPath path with
  | none => simp [keyOf, relStr, inRoot, Except.toOption] at below
  | some rel =>
      have key : keyOf primary path = relKey rel := by
        simp [keyOf, relStr, inRoot, Except.toOption]
      rcases List.eq_nil_or_concat' rel with rfl | ⟨above, name, rfl⟩
      · rw [key, relKey_nil] at below
        exact absurd rfl below
      · exact ⟨above, name, rfl, proper _ inRoot, key⟩

section Places

variable {w : World} {root : DriveId} {primary : SyncPair} {path above : Path} {name : OsString}
  {id parent : DriveId} {item : RemoteItem}

/-- The folder that a key leads to, by the cache, is one on the remote. -/
theorem World.Mirrored.folderAt (mirrored : w.Mirrored root)
    (configured : primary.remoteFolderId = root)
    (folder : w.folderId? primary (relKey above) = some parent)
    (isFolder : ∀ item, w.remote.item? parent = some item → item.kind = .folder)
    : w.remote.FolderAt root parent (relKey above) := by
  unfold World.folderId? at folder
  split at folder
  · rename_i top
    obtain rfl := Option.some.inj folder
    rw [top, configured]
    exact .root
  · obtain ⟨entry, cached, rfl⟩ := Option.map_eq_some_iff.mp folder
    obtain ⟨item, itemAt, -⟩ := mirrored.mirrors.lookup_some cached
    exact itemAt.folderAt (isFolder item itemAt.1)

/-- An item has the name that its path ends in, and the cached folder above as parent. -/
theorem World.Mirrored.item_push (mirrored : w.Mirrored root)
    (configured : primary.remoteFolderId = root) (proper : ProperNames (above ++ [name]))
    (itemAt : w.remote.ItemAt root id item (relKey (above ++ [name])))
    (folder : w.folderId? primary (relKey above) = some parent)
    : item.name = name.toStringLossy ∧ item.parent = parent
      ∧ w.remote.FolderAt root parent (relKey above) := by
  have plain := proper.plain (by simp)
  rw [Path.lossy_append] at plain
  obtain ⟨above', plain', spelled, there⟩ := mirrored.sound.item_key itemAt
  rw [← relKey_lossy, Path.lossy_append] at spelled
  have same := List.append_inj' (relKey_inj plain plain' spelled) rfl
  rw [← same.1, relKey_lossy] at there
  have named : item.name = name.toStringLossy := by
    simpa [Path.lossy, eq_comm] using same.2
  have sameParent : item.parent = parent := by
    unfold World.folderId? at folder
    split at folder
    · rename_i top
      obtain rfl := Option.some.inj folder
      rw [top] at there
      exact mirrored.sound.folder_unique there (configured ▸ .root)
    · rename_i below
      obtain ⟨entry, cached, rfl⟩ := Option.map_eq_some_iff.mp folder
      obtain ⟨item', itemAt', -⟩ := mirrored.mirrors.lookup_some cached
      rcases there.itemAt with ⟨-, top⟩ | ⟨item'', itemAt'', -⟩
      · exact absurd top below
      · exact mirrored.sound.unique _ _ _ _ _ itemAt'' itemAt'
  exact ⟨named, sameParent, sameParent ▸ there⟩

end Places

-----------------------------------------------------------------------------------------
-- What changes the mirror
-----------------------------------------------------------------------------------------

section Changes

variable {w last : World} {root : DriveId} {primary : SyncPair} {path above : Path}
  {name : OsString} {fresh id parent : DriveId} {content : List UInt8} {key : String}

/-- Where an upload without a copy goes to, no file may stand for the directory. -/
theorem World.Mirrored.uploaded (mirrored : w.Mirrored root)
    (configured : primary.remoteFolderId = root) (proper : ProperNames (above ++ [name]))
    (folder : w.folderId? primary (relKey above) = some parent)
    (inFolder
      : w.pathCache.lookup (relKey (above ++ [name])) = none
        → ∀ item, w.remote.item? parent = some item → item.kind = .folder)
    (unused : w.remote.Unused root fresh)
    (stored
      : w.remote.upload fresh parent name.toStringLossy
          ((w.pathCache.lookup (relKey (above ++ [name]))).map CacheEntry.driveId) content
        = (.ok id, last.remote))
    (cached : last.pathCache = w.pathCache.insert (relKey (above ++ [name])) id parent)
    : last.Mirrored root := by
  have plain := proper.plain (by simp)
  rw [Path.lossy_append] at plain
  have lossyKey
      : relKey (above ++ [name]) = relKey (above.lossy ++ [.utf8 name.toStringLossy]) := by
    rw [← relKey_lossy, Path.lossy_append]
    rfl
  cases found : w.pathCache.lookup (relKey (above ++ [name])) with
  | none =>
      have there := mirrored.folderAt configured folder (inFolder found)
      have free := mirrored.mirrors.lookup_none found
      rw [lossyKey] at free
      rw [← relKey_lossy] at there
      simp only [found, Option.map_none, Remote.upload, Prod.mk.injEq, Except.ok.injEq] at stored
      obtain ⟨rfl, stored⟩ := stored
      have sound
          : (w.remote.put fresh ⟨name.toStringLossy, parent, .file content, false⟩).Sound root :=
        mirrored.sound.added unused plain there free
      have mirrors :=
        @PathCache.Mirrors.added w.pathCache w.remote root fresh parent above.lossy
          name.toStringLossy (.file content) mirrored.mirrors mirrored.sound.rooted plain unused
          there free
      rw [stored] at sound mirrors
      rw [← lossyKey, ← cached] at mirrors
      exact ⟨sound, mirrors⟩
  | some entry =>
      obtain ⟨item, itemAt, -⟩ := mirrored.mirrors.lookup_some found
      obtain ⟨named, sameParent, -⟩ := mirrored.item_push configured proper itemAt folder
      obtain ⟨itemName, itemParent, kind, trashed⟩ := item
      obtain rfl : itemName = name.toStringLossy := named
      obtain rfl : itemParent = parent := sameParent
      cases kind with
      | folder =>
          simp only [found, Option.map_some, Remote.upload, itemAt.1, Prod.mk.injEq] at stored
          cases stored.1
      | file old =>
          simp only [found, Option.map_some, Remote.upload, itemAt.1, Prod.mk.injEq,
            Except.ok.injEq] at stored
          obtain ⟨rfl, stored⟩ := stored
          have sound :=
            @Remote.Sound.updated _ _ _ _ content mirrored.sound itemAt.1 (by simp)
          have mirrors :=
            @PathCache.Mirrors.updated _ _ _ _ _ _ content mirrored.mirrors mirrored.sound itemAt
              (by simp)
          simp only [stored] at sound mirrors
          rw [← cached] at mirrors
          exact ⟨sound, mirrors⟩

/-- An item that is deleted leaves the mirror, with what is below it. -/
theorem World.Mirrored.deleted {entry : CacheEntry} (mirrored : w.Mirrored root)
    (found : w.pathCache.lookup key = some entry)
    (deleted : w.remote.delete entry.driveId = (.ok (), last.remote))
    (cached : last.pathCache = w.pathCache.removeCascades key)
    : last.Mirrored root := by
  obtain ⟨item, itemAt, -⟩ := mirrored.mirrors.lookup_some found
  obtain ⟨above, plain, rfl, -⟩ := mirrored.sound.item_key itemAt
  simp only [Remote.delete, itemAt.1, Prod.mk.injEq, true_and] at deleted
  have sound := mirrored.sound.trashed_subtree plain itemAt
  have mirrors := mirrored.mirrors.trashed mirrored.sound plain itemAt
  rw [deleted] at sound mirrors
  rw [← cached] at mirrors
  exact ⟨sound, mirrors⟩

/-- What a renaming has to find: a free target in a folder, and nothing below the source. -/
structure Movable (primary : SyncPair) (w : World) (source target : Path)
    (id newParentId : DriveId)
    : Prop where
  below : keyOf primary target ≠ ""
  inFolder : InFolder primary w target
  free
    : ∀ entry, w.pathCache.lookup (keyOf primary target) = some entry → entry.driveId = id
  nothing
    : ∀ key entry,
        w.pathCache.lookup key = some entry
        → PathCache.isBelow (keyOf primary source) key = false
  elsewhere : newParentId ≠ id

/-- And then the mirror moves with the item. -/
theorem World.Mirrored.moved {source target : Path} {entry : CacheEntry} {newName : String}
    (mirrored : w.Mirrored root) (configured : primary.remoteFolderId = root)
    (proper : ProperBelow primary target)
    (found : w.pathCache.lookup (keyOf primary source) = some entry)
    (named : target.fileName? = some newName)
    (folder : w.folderId? primary (parentRelStr primary.localPath target) = some parent)
    (movable : Movable primary w source target entry.driveId parent)
    (moved : w.remote.rename entry.driveId newName parent = (.ok (), last.remote))
    (cached
      : last.pathCache
        = (w.pathCache.removeCascades (keyOf primary source)).insert (keyOf primary target)
            entry.driveId parent)
    : last.Mirrored root := by
  obtain ⟨item, itemAt, -⟩ := mirrored.mirrors.lookup_some found
  obtain ⟨above, name, stripped, names, targetKey⟩ := proper.concat movable.below
  obtain ⟨fileName, parentRel⟩ := names_of_stripped names stripped
  rw [fileName] at named
  obtain rfl := Option.some.inj named
  rw [parentRel] at folder
  have inFolder := movable.inFolder parent
  rw [parentRel] at inFolder
  have there := mirrored.folderAt configured folder (fun item => inFolder item folder)
  have plainTarget := names.plain (by simp)
  rw [Path.lossy_append] at plainTarget
  have lossyKey
      : relKey (above ++ [name]) = relKey (Path.lossy above ++ [.utf8 name.toStringLossy]) := by
    rw [← relKey_lossy, Path.lossy_append]
    rfl
  obtain ⟨rest, plain, sourceKey, -⟩ := mirrored.sound.item_key itemAt
  rw [sourceKey] at itemAt cached
  rw [targetKey, lossyKey] at cached
  rw [← relKey_lossy] at there
  have nothing (id' : DriveId) (item' : RemoteItem) (key : String)
      (other : w.remote.ItemAt root id' item' key)
      : PathCache.isBelow (relKey (rest ++ [.utf8 item.name])) key = false := by
    have known := (mirrored.mirrors key id' item'.parent).mpr ⟨item', other, rfl⟩
    exact sourceKey ▸ movable.nothing key _ known
  have free (id' : DriveId) (item' : RemoteItem)
      (other
        : w.remote.ItemAt root id' item' (relKey (Path.lossy above ++ [.utf8 name.toStringLossy])))
      : id' = entry.driveId := by
    have known := (mirrored.mirrors _ id' item'.parent).mpr ⟨item', other, rfl⟩
    exact movable.free ⟨id', item'.parent⟩ (by rw [targetKey, lossyKey]; exact known)
  have alone := PathCache.alone_of_nothing_below mirrored.sound plain itemAt nothing
  simp only [Remote.rename, itemAt.1, Prod.mk.injEq, true_and] at moved
  have sound :=
    mirrored.sound.moved itemAt alone movable.elsewhere plainTarget there free
  have mirrors :=
    mirrored.mirrors.moved mirrored.sound plain itemAt nothing movable.elsewhere plainTarget there
      free
  rw [moved] at sound mirrors
  rw [← cached] at mirrors
  exact ⟨sound, mirrors⟩

end Changes

-----------------------------------------------------------------------------------------
-- Handling a task
-----------------------------------------------------------------------------------------

section Tasks

variable {md5 : List UInt8 → String} {root : DriveId} {faults : Fault → Prop} {w : World}
  {ctx : EngineContext} {primary : SyncPair} {ignore : IgnoreMatcher} {path : Path}

/-- How an upload loop ends: it has stored the file, or it has failed and stored nothing. -/
inductive UploadEnd (root : DriveId) (w : World) (parent : DriveId) (name : String)
    (existing : Option DriveId) (content : List UInt8)
    : Except Error UploadResult → World → Prop
  | failed {error : Error} {last : World} (same : w.Matches last)
    : UploadEnd root w parent name existing content (.error error) last
  | stored {result : UploadResult} {last : World} {fresh : DriveId}
    (unused : w.remote.Unused root fresh)
    (uploaded
      : w.remote.upload fresh parent name existing content = (.ok result.driveId, last.remote))
    (cache : last.pathCache = w.pathCache)
    : UploadEnd root w parent name existing content (.ok result) last

/-- An upload that fails changes nothing. -/
theorem Remote.upload_failed {remote after : Remote} {fresh parent : DriveId} {name : String}
    {existing : Option DriveId} {content : List UInt8} {error : Error}
    (failed : remote.upload fresh parent name existing content = (.error error, after))
    : after = remote := by
  unfold upload at failed
  split at failed
  · cases failed
  · split at failed
    · cases failed
    · exact (Prod.mk.inj failed).2.symm

/-- The upload loop stores a file that can be read at most once, by induction on the attempts. -/
theorem always_uploadLoop_ends {config : RetryConfig} {parent : DriveId} {name : String}
    {existing : Option DriveId} {content : List UInt8} {left : Nat} {state : World}
    (read : w.disk.read path = some content) (same : w.Matches state)
    : Always (Environment.unfailing md5 root faults).sem (fun _ => True)
        (uploadLoop config path parent name existing left) state
        (UploadEnd root w parent name existing content) := by
  have attempt (again : Option (Option DriveId → Eff UploadResult)) (state : World)
      (same : w.Matches state)
      (onward
        : ∀ next ∈ again, ∀ after, w.Matches after
            → Always (Environment.unfailing md5 root faults).sem (fun _ => True) (next existing)
                after (UploadEnd root w parent name existing content))
      : Always (Environment.unfailing md5 root faults).sem (fun _ => True)
          (uploadAttempt config path parent name existing again) state
          (UploadEnd root w parent name existing content) := by
    unfold uploadAttempt
    refine always_ask_bind.mpr ⟨trivial, fun cancelled asked served => ?_⟩
    have same := same.trans (Environment.sem_matches served (by simp [Op.writes]))
    clear served
    cases cancelled with
    | true => exact ⟨trivial, .failed same⟩
    | false =>
        simp only [Bool.false_eq_true, if_false]
        refine always_ask_bind.mpr ⟨trivial, ?_⟩
        rintro answer stored ⟨remote, answered, rfl⟩
        simp only [Environment.unfailing, honestProvider, same.disk, read, same.remote] at answered
        obtain ⟨fresh, unused, rfl, rfl⟩ := answered
        cases uploaded : w.remote.upload fresh parent name existing content with
        | mk given after =>
            cases given with
            | ok id =>
                simp only [Except.map, verifyUpload, bind_assoc]
                refine always_ask_bind.mpr ⟨trivial, ?_⟩
                rintro digest checked ⟨rfl, digested⟩
                simp only [same.disk, read] at digested
                subst digested
                simp only [Environment.unfailing, if_true, Prog.pure_eq, Prog.ok_bind]
                exact ⟨trivial, .stored unused uploaded same.pathCache⟩
            | error error =>
                simp only [Except.map]
                have unchanged : w.Matches { asked with remote := after } :=
                  ⟨same.disk, Remote.upload_failed uploaded, same.pathCache⟩
                cases again with
                | none => exact ⟨trivial, .failed unchanged⟩
                | some next =>
                    refine always_ask_bind.mpr ⟨trivial, fun stopped slept served => ?_⟩
                    have same :=
                      unchanged.trans (Environment.sem_matches served (by simp [Op.writes]))
                    cases stopped with
                    | true => exact ⟨trivial, .failed same⟩
                    | false => exact onward next rfl slept same
  induction left generalizing state with
  | zero => exact attempt none state same (by rintro _ ⟨⟩)
  | succ left ih =>
      refine attempt _ state same ?_
      rintro next ⟨⟩ after same
      exact ih same

/-- The file at a path is sent to a place below the root, and a new one into a folder. -/
def Uploadable (md5 : List UInt8 → String) (primary : SyncPair) (ignore : IgnoreMatcher) (w : World)
    (path : Path)
    : Prop :=
  ∀ data key,
    UploadDue md5 primary ignore w path data key
    → key ≠ "" ∧ (w.pathCache.lookup key = none → InFolder primary w path)

/-- What a task has to find for the mirror to stay exact. -/
def Task.KeepsMirror (md5 : List UInt8 → String) (primary : SyncPair) (ignore : IgnoreMatcher)
    (w : World)
    : Task → Prop
  | .syncFile path => Uploadable md5 primary ignore w path
  | .delete _ => True
  | .rename source target =>
      (∀ entry newName newParentId,
        RenameDue primary ignore w source target entry newName newParentId
        → Movable primary w source target entry.driveId newParentId)
      ∧ ((∀ entry, ¬ SourceKnown primary w source entry)
          → Uploadable md5 primary ignore w target)

/-- The names below the root are ones that a directory can hold. -/
def Task.Proper (primary : SyncPair) : Task → Prop
  | .syncFile path | .delete path => ProperBelow primary path
  | .rename source target => ProperBelow primary source ∧ ProperBelow primary target

/-- A call that cannot fail is made once, unless a shutdown comes first. -/
theorem always_retry_once {cfg : AppConfig} {operation : Eff (Except Error Unit)} {after : Remote}
    (once
      : ∀ state,
          w.Matches state
          → Always (Environment.unfailing md5 root faults).sem (fun _ => True) operation state
              (fun result last =>
                result = .ok (.ok ()) ∧ last.remote = after ∧ last.pathCache = w.pathCache))
    : Always (Environment.unfailing md5 root faults).sem (fun _ => True) (retry cfg operation) w
        (fun result last =>
          (∃ error, result = .error error) ∧ w.Matches last
          ∨ result = .ok () ∧ last.remote = after ∧ last.pathCache = w.pathCache) := by
  apply always_retry (fun _ => w.Matches) (fun _ _ _ => False) _ nofun nofun (.refl w)
  intro left state same
  refine ⟨trivial, fun cancelled asked served => ?_⟩
  have same := same.trans (Environment.sem_matches served (by simp [Op.writes]))
  cases cancelled with
  | true => exact ⟨trivial, .inl ⟨⟨_, rfl⟩, same⟩⟩
  | false =>
      apply (once asked same).mono
      rintro result last - ⟨rfl, made⟩
      exact .inr ⟨rfl, made⟩

variable (configured : ctx.cfg.getPrimaryPair = some primary)

include configured

/-- A deletion keeps the mirror. -/
theorem always_delete_mirrored (mirrored : w.Mirrored root)
    : Always (Environment.unfailing md5 root faults).sem (fun _ => True) (delete ctx ignore path) w
        (fun _ last => last.Mirrored root) := by
  have row {state : World} {key : String} (here : state.Mirrored root)
      : Always (Environment.unfailing md5 root faults).sem (fun _ => True)
          (do propagate (← ask (.deleteRow key))) state (fun _ last => last.Mirrored root) := by
    refine always_ask_bind.mpr ⟨trivial, fun answer after served => ?_⟩
    have last := (Environment.sem_matches served (by simp [Op.writes])).mirrored here
    cases answer <;> exact ⟨trivial, last⟩
  unfold delete
  refine always_isDir_bind trivial ?_
  split
  · exact ⟨trivial, mirrored⟩
  simp only [configured, orError, propagate, Prog.ok_bind]
  split
  · exact ⟨trivial, mirrored⟩
  rename_i key _
  simp only [deleteItem, bind_assoc]
  refine always_known (fun _ _ served => served) trivial ?_
  cases found : w.pathCache.lookup key with
  | none => exact row mirrored
  | some entry =>
      obtain ⟨item, itemAt, -⟩ := mirrored.mirrors.lookup_some found
      have deleted := show w.remote.delete entry.driveId
          = (.ok (), w.remote.put entry.driveId { item with trashed := true })
        by simp [Remote.delete, itemAt.1]
      simp only [bind_assoc]
      have removed :=
        @always_retry_once md5 root faults w ctx.cfg (ask (.provider (.delete entry.driveId)))
          (w.remote.put entry.driveId { item with trashed := true }) (fun state same => by
            refine always_ask.mpr ⟨trivial, ?_⟩
            rintro answer after ⟨remote, answered, rfl⟩
            have answered : (answer, remote) = state.remote.delete entry.driveId := answered
            rw [same.remote, deleted, Prod.mk.injEq] at answered
            exact ⟨trivial, by rw [answered.1], answered.2, same.pathCache⟩)
      apply removed.bind
      · rintro _ middle - (⟨⟨error, failed⟩, -⟩ | ⟨-, remote, cache⟩)
        · cases failed
        refine always_ask_bind.mpr ⟨trivial, ?_⟩
        rintro _ _ rfl
        exact row (mirrored.deleted found (by rw [deleted, remote]) (by rw [cache]))
      · rintro error middle - (⟨-, same⟩ | ⟨failed, -⟩)
        · exact same.mirrored mirrored
        · cases failed

/-- Synchronising a file that can be sent keeps the mirror. -/
theorem always_syncFile_mirrored (proper : ProperBelow primary path)
    (mirrored : w.Mirrored primary.remoteFolderId)
    (uploadable : Uploadable md5 primary ignore w path)
    : Always (Environment.unfailing md5 primary.remoteFolderId faults).sem (fun _ => True)
        (syncFile ctx ignore path) w (fun _ last => last.Mirrored primary.remoteFolderId) := by
  have comes :=
    (@comes_syncFile_orEnded (.unfailing md5 primary.remoteFolderId faults) w ctx primary ignore
      path configured).keeps
      (fun op state answer after here served
        (same : state.disk = w.disk ∧ state.remote = w.remote) =>
        have keeps := Environment.sem_keeps served
        have spares : op.writes ≠ some .remote := by
          intro writes
          cases op <;> simp [Op.writes] at writes
          exact here _ rfl
        ⟨keeps.disk.trans same.1, (keeps.remote spares).trans same.2⟩)
      ⟨rfl, rfl⟩
  refine comes.always ?_
  rintro program state ⟨⟨pathCache, arrived⟩, disk, remote⟩
  have same : w.Matches state := ⟨disk, remote, pathCache⟩
  rcases arrived with (⟨result, -⟩ | ⟨due, named, folder, running⟩) | ⟨⟨result, rfl⟩, -⟩
  · exact ⟨trivial, same.mirrored mirrored⟩
  · rename_i data key fileName parentId
    obtain ⟨below, inFolder⟩ := uploadable data key due
    have sameKey : keyOf primary path = key := by simp [keyOf, due.inRoot, Except.toOption]
    obtain ⟨above, name, stripped, names, spelled⟩ := proper.concat (sameKey ▸ below)
    obtain ⟨fileName', parentRel⟩ := names_of_stripped names stripped
    obtain rfl : name.toStringLossy = fileName := Option.some.inj (fileName'.symm.trans named)
    obtain rfl : relKey (above ++ [name]) = key := spelled.symm.trans sameKey
    have read : w.disk.read path = some data.content := by
      simp [Disk.read, due.file, due.readable]
    unfold uploading
    refine (always_uploadLoop_ends read same).bind ?_ ?_
    · intro result stored _ ended
      cases ended with
      | @stored _ _ fresh unused uploaded cache =>
          refine always_ask_bind.mpr ⟨trivial, ?_⟩
          rintro _ _ rfl
          have kept
              : ({ stored with
                    pathCache :=
                      stored.pathCache.insert (relKey (above ++ [name])) result.driveId
                        parentId } : World).Mirrored primary.remoteFolderId := by
            rw [parentRel] at folder
            refine mirrored.uploaded rfl names folder (fun missing item found => ?_) unused uploaded
              (by rw [cache])
            exact inFolder missing parentId item (by rw [parentRel]; exact folder) found
          refine always_ask_bind.mpr ⟨trivial, fun answer recorded served => ?_⟩
          have last := (Environment.sem_matches served (by simp [Op.writes])).mirrored kept
          cases answer <;> exact ⟨trivial, last⟩
    · intro error stored _ ended
      cases ended with
      | failed same => exact same.mirrored mirrored
  · exact ⟨trivial, same.mirrored mirrored⟩

/-- And so does a renaming that finds what it has to. -/
theorem always_rename_mirrored {source target : Path} (proper : ProperBelow primary target)
    (mirrored : w.Mirrored primary.remoteFolderId)
    (keeps : (Task.rename source target).KeepsMirror md5 primary ignore w)
    : Always (Environment.unfailing md5 primary.remoteFolderId faults).sem (fun _ => True)
        (rename ctx ignore source target) w
        (fun _ last => last.Mirrored primary.remoteFolderId) := by
  obtain ⟨movable, uploadable⟩ := keeps
  have comes :=
    (@comes_rename_orEnded (.unfailing md5 primary.remoteFolderId faults) w ctx primary ignore
      source target configured).keeps
      (fun op state answer after here served
        (same : state.disk = w.disk ∧ state.remote = w.remote) =>
        have keeps := Environment.sem_keeps served
        have spares : op.writes ≠ some .remote := by
          intro writes
          cases op <;> simp [Op.writes] at writes
          exact here _ rfl
        ⟨keeps.disk.trans same.1, (keeps.remote spares).trans same.2⟩)
      ⟨rfl, rfl⟩
  refine comes.always ?_
  rintro program state ⟨⟨pathCache, arrived⟩, disk, remote⟩
  have same : w.Matches state := ⟨disk, remote, pathCache⟩
  rcases arrived with arrived | ⟨⟨result, rfl⟩, -⟩
  · cases arrived with
    | finished result settled => exact ⟨trivial, mirrored⟩
    | synchronises seen unknown there kept =>
        exact always_syncFile_mirrored configured proper mirrored (uploadable unknown)
    | @renames entry newName newParentId due =>
        obtain ⟨item, itemAt, -⟩ := mirrored.mirrors.lookup_some due.known.cached
        have renamed := show w.remote.rename entry.driveId newName newParentId
            = (.ok (),
                w.remote.put entry.driveId { item with name := newName, parent := newParentId })
          by simp [Remote.rename, itemAt.1]
        unfold movingItem
        have called :=
          @always_retry_once md5 primary.remoteFolderId faults w ctx.cfg
            (ask (.provider (.rename entry.driveId newName newParentId)))
            (w.remote.put entry.driveId { item with name := newName, parent := newParentId })
            (fun state same => by
              refine always_ask.mpr ⟨trivial, ?_⟩
              rintro answer after ⟨remote, answered, rfl⟩
              have answered
                  : (answer, remote) = state.remote.rename entry.driveId newName newParentId :=
                answered
              rw [same.remote, renamed, Prod.mk.injEq] at answered
              exact ⟨trivial, by rw [answered.1], answered.2, same.pathCache⟩)
        apply called.bind
        · rintro _ middle - (⟨⟨error, failed⟩, -⟩ | ⟨-, remote, cache⟩)
          · cases failed
          refine always_ask_bind.mpr ⟨trivial, ?_⟩
          rintro _ _ rfl
          refine always_ask_bind.mpr ⟨trivial, ?_⟩
          rintro _ moved rfl
          have here :=
            @World.Mirrored.moved w
              { middle with
                pathCache :=
                  (middle.pathCache.removeCascades (keyOf primary source)).insert
                    (keyOf primary target) entry.driveId newParentId }
              _ primary _ source target entry newName mirrored rfl proper due.known.cached
              due.named due.folder (movable _ _ _ due) (by rw [renamed, remote]) (by rw [cache])
          refine always_ask_bind.mpr ⟨trivial, fun answer after served => ?_⟩
          have last := (Environment.sem_matches served (by simp [Op.writes])).mirrored here
          cases answer <;> exact ⟨trivial, last⟩
        · rintro error middle - (⟨-, same⟩ | ⟨failed, -⟩)
          · exact same.mirrored mirrored
          · cases failed
  · exact ⟨trivial, same.mirrored mirrored⟩

/-- One task, handled in any state with an exact mirror. -/
theorem always_handle_mirrored {task : Task} (proper : task.Proper primary)
    (mirrored : w.Mirrored primary.remoteFolderId)
    (keeps : task.KeepsMirror md5 primary ignore w)
    : Always (Environment.unfailing md5 primary.remoteFolderId faults).sem (fun _ => True)
        (handle ctx ignore task) w (fun _ last => last.Mirrored primary.remoteFolderId) := by
  unfold handle
  split
  · exact ⟨trivial, mirrored⟩
  cases task with
  | syncFile path => exact always_syncFile_mirrored configured proper mirrored keeps
  | delete path => exact always_delete_mirrored configured mirrored
  | rename source target => exact always_rename_mirrored configured proper.2 mirrored keeps

end Tasks

-----------------------------------------------------------------------------------------
-- Sessions of tasks
-----------------------------------------------------------------------------------------

/-- In every session of tasks, each of which finds what it has to, the mirror stays exact. By
induction on the session.
-/
theorem mirror_stays_exact (md5 : List UInt8 → String) (faults : Fault → Prop)
    {ctx : EngineContext} {primary : SyncPair} {ignore : IgnoreMatcher} {start w : World}
    {begun : List Begun} (configured : ctx.cfg.getPrimaryPair = some primary)
    (session
      : Session (.unfailing md5 primary.remoteFolderId faults) ctx ignore start begun w)
    (tasks : ∀ item ∈ begun, ∃ task, item.1 = .task task ∧ task.Proper primary)
    (exact_ : start.Mirrored primary.remoteFolderId)
    (finds
      : ∀ item ∈ begun, ∀ task,
          item.1 = .task task → task.KeepsMirror md5 primary ignore item.2)
    : w.Mirrored primary.remoteFolderId := by
  induction session with
  | start => exact exact_
  | outside run disk ih =>
      obtain ⟨sound, mirrors⟩ := ih tasks finds
      exact ⟨sound, mirrors⟩
  | @job begun w after job result run executes ih =>
      have before :=
        ih (fun item member => tasks item (List.mem_append_left _ member))
          (fun item member => finds item (List.mem_append_left _ member))
      obtain ⟨task, rfl, proper⟩ := tasks (job, w) (by simp)
      have keeps := finds (.task task, w) (by simp) task rfl
      exact ((always_handle_mirrored configured proper before keeps).reaches executes).2

-----------------------------------------------------------------------------------------
-- A file moved over a synchronised one
-----------------------------------------------------------------------------------------

/-- Two synchronised files, `a` and `b`, after one of them has been given another name. -/
def twinsWorld (moved : String) (proper : OsString.Proper (.utf8 moved)) : World where
  disk := .backup (.single (.utf8 moved) proper) (fun _ => .file ⟨[1], 0, true⟩)
  db := (({} : Database).upsert ⟨"a", "", 0⟩).upsert ⟨"b", "", 0⟩
  pathCache := (({} : PathCache).insert "a" "1" "root").insert "b" "2" "root"
  remote :=
    (({} : Remote).put "1" ⟨"a", "root", .file [1], false⟩).put "2" ⟨"b", "root", .file [2], false⟩

def backupFile (name : String) : Path := backupPair.localPath ++ [.utf8 name]

theorem stripPrefix_backupFile {name : String} (proper : OsString.Proper (.utf8 name))
    : Path.stripPrefix backupPair.localPath (backupFile name) = some [.utf8 name] := by
  apply Clean.stripPrefix
  intro other inside
  rw [List.mem_singleton.mp inside]
  exact proper.named

theorem keyOf_backupFile {name : String} (proper : OsString.Proper (.utf8 name))
    : keyOf backupPair (backupFile name) = name := by
  simp [keyOf, relStr, stripPrefix_backupFile proper, Except.toOption, OsString.toStringLossy]

theorem Remote.empty_mirrored {w : World} {root : DriveId} (empty : w.remote = {})
    (cache : w.pathCache = {})
    : w.Mirrored root := by
  have nothing (id : DriveId) (item : RemoteItem) (key : String)
      : ¬ w.remote.ItemAt root id item key := by
    rintro ⟨found, -⟩
    simp [empty, item?] at found
  refine ⟨⟨?_, ?_, ?_⟩, ?_⟩
  · simp [Rooted, empty, item?]
  · exact fun id _ item _ key itemAt => absurd itemAt (nothing id item key)
  · exact fun id item key itemAt => absurd itemAt (nothing id item key)
  · intro key id parent
    constructor
    · intro found
      rw [cache] at found
      cases found
    · rintro ⟨item, itemAt, -⟩
      exact absurd itemAt (nothing id item key)

/-- The state before the renaming has an exact mirror: two files were added to nothing. -/
theorem twins_mirrored (moved : String) (proper : OsString.Proper (.utf8 moved))
    : (twinsWorld moved proper).Mirrored "root" := by
  have named (name : String) (plain : OsString.Proper (.utf8 name))
      : ProperNames ([] ++ [OsString.utf8 name]) := by
    intro other inside
    obtain rfl := List.mem_singleton.mp inside
    exact plain
  have key (name : String) : relKey ([] ++ [.utf8 name]) = name := by
    simp [relKey, OsString.toStringLossy]
  have top : (twinsWorld moved proper).folderId? backupPair (relKey []) = some "root" := by
    simp [World.folderId?, relKey_nil, backupPair]
  let empty : World := { twinsWorld moved proper with remote := {}, pathCache := {} }
  let first : World :=
    { twinsWorld moved proper with
      remote := ({} : Remote).put "1" ⟨"a", "root", .file [1], false⟩
      pathCache := ({} : PathCache).insert "a" "1" "root" }
  have one : first.Mirrored "root" := by
    refine @World.Mirrored.uploaded empty first "root" backupPair [] (.utf8 "a") "1" "1" "root" [1]
      (Remote.empty_mirrored rfl rfl) rfl (named "a" (by decide)) top ?_ ?_ ?_ ?_
    · rintro - item found
      simp [empty, Remote.item?] at found
    · exact ⟨by decide, rfl, by rintro id item found; simp [empty, Remote.item?] at found⟩
    · rw [key]
      rfl
    · rw [key]
  refine @World.Mirrored.uploaded first (twinsWorld moved proper) "root" backupPair []
    (.utf8 "b") "2" "2" "root" [2] one rfl (named "b" (by decide)) top ?_ ?_ ?_ ?_
  · rintro - item found
    rw [show first.remote = ({} : Remote).put "1" ⟨"a", "root", .file [1], false⟩ from rfl,
      Remote.item?_put] at found
    simp [Remote.item?] at found
  · refine ⟨by decide, ?_, ?_⟩
    · rw [show first.remote = ({} : Remote).put "1" ⟨"a", "root", .file [1], false⟩ from rfl,
        Remote.item?_put]
      simp [Remote.item?]
    · intro id item found
      simp only [first, Remote.item?_put] at found
      split at found
      · obtain rfl := Option.some.inj found
        decide
      · simp [Remote.item?] at found
  · rw [key]
    simp [first, PathCache.lookup_insert, twinsWorld, Remote.upload, OsString.toStringLossy]
  · rw [key]
    rfl

theorem backupFile_proper {name : String} (proper : OsString.Proper (.utf8 name))
    : ProperBelow backupPair (backupFile name) := by
  intro rel inRoot
  obtain rfl := Option.some.inj ((stripPrefix_backupFile proper).symm.trans inRoot)
  intro other inside
  obtain rfl := List.mem_singleton.mp inside
  exact proper

theorem backupFile_names {name : String} (proper : OsString.Proper (.utf8 name))
    : (backupFile name).fileName? = some name
      ∧ parentRelStr backupPair.localPath (backupFile name) = "" := by
  have names : ProperNames ([] ++ [OsString.utf8 name]) := by
    intro other inside
    obtain rfl := List.mem_singleton.mp inside
    exact proper
  obtain ⟨named, parentRel⟩ := names_of_proper backupPair.localPath names
  exact ⟨named, parentRel.trans relKey_nil⟩

/-- The first file is known, and moving it is due. -/
theorem twins_due (moved : String) (proper : OsString.Proper (.utf8 moved))
    : RenameDue backupPair .nothing (twinsWorld moved proper) (backupFile "a") (backupFile moved)
        ⟨"1", "root"⟩ moved "root" where
  seen both := by
    simp [BothIgnored, Excluded, IgnoreMatcher.isIgnored, IgnoreMatcher.nothing] at both
  known := by
    constructor <;>
      simp [keyOf_backupFile OsString.proper_a, twinsWorld, PathCache.lookup_insert, Database.get,
        Database.row_upsert]
  named := (backupFile_names proper).1
  folder := by
    rw [(backupFile_names proper).2]
    rfl

/-- A session in which the item is moved, whatever SQLite makes of its row. -/
theorem twins_session (moved : String) (proper : OsString.Proper (.utf8 moved))
    : ∃ last,
        Session (.unfailing (fun _ => "") "root" (fun _ => False)) ⟨backupConfig, false⟩ .nothing
          (twinsWorld moved proper)
          [(.task (.rename (backupFile "a") (backupFile moved)), twinsWorld moved proper)] last
        ∧ last.remote
          = (twinsWorld moved proper).remote.put "1" ⟨moved, "root", .file [1], false⟩ := by
  let env := Environment.unfailing (fun _ => "") "root" (fun _ => False)
  have due := twins_due moved proper
  have configured : backupConfig.getPrimaryPair = some backupPair := rfl
  have quiet : env.Undisturbed := fun _ faulty => faulty
  obtain ⟨rest, state, path, stage⟩ :=
    (@comes_rename env (twinsWorld moved proper) ⟨backupConfig, false⟩ backupPair .nothing quiet
      (backupFile "a") (backupFile moved) configured).reaches
  cases stage with
  | finished result settled =>
      rcases settled with both | ⟨-, notDue⟩ | ⟨unknown, -⟩
      · exact absurd both due.seen
      · exact absurd due (notDue _ _ _)
      · exact absurd due.known (unknown _)
  | synchronises seen unknown there kept => exact absurd due.known (unknown _)
  | @renames entry newName newParentId due' =>
      obtain rfl : ⟨"1", "root"⟩ = entry :=
        Option.some.inj (due.known.cached.symm.trans due'.known.cached)
      obtain rfl : moved = newName := Option.some.inj (due.named.symm.trans due'.named)
      obtain rfl : "root" = newParentId := Option.some.inj (due.folder.symm.trans due'.folder)
      have renamed
          : (twinsWorld moved proper).remote.rename "1" moved "root"
            = (.ok (),
                (twinsWorld moved proper).remote.put "1" ⟨moved, "root", .file [1], false⟩) := by
        simp [twinsWorld, Remote.rename, Remote.item?_put]
      have stored (w : World) (source target : String)
          : ∃ answer after,
              env.sem (.renameRow source target) w answer after ∧ after.remote = w.remote := by
        simp only [Environment.sem]
        split <;> exact ⟨_, _, .inl ⟨rfl, rfl⟩, rfl⟩
      obtain ⟨answer, last, recorded, remote⟩ :=
        stored
          { twinsWorld moved proper with
            remote := (twinsWorld moved proper).remote.put "1" ⟨moved, "root", .file [1], false⟩
            pathCache :=
              ((twinsWorld moved proper).pathCache.removeCascades
                (keyOf backupPair (backupFile "a"))).insert
                (keyOf backupPair (backupFile moved)) "1" "root" }
          (keyOf backupPair (backupFile "a")) (keyOf backupPair (backupFile moved))
      have moves
          : Reaches env.sem
              (movingItem ⟨backupConfig, false⟩ backupPair (backupFile "a") (backupFile moved) "1"
                "root" moved)
              (twinsWorld moved proper) (.done answer) last := by
        refine reaches_call false _ ⟨.inl rfl, rfl⟩ ?_
        refine reaches_call (.ok ()) _ ⟨_, renamed.symm, rfl⟩ ?_
        refine reaches_call () _ rfl ?_
        refine reaches_call () _ rfl ?_
        refine reaches_call answer last recorded ?_
        cases answer <;> exact .refl
      let job : Job := .task (.rename (backupFile "a") (backupFile moved))
      have handled
          : Reaches env.sem (job.program ⟨backupConfig, false⟩ .nothing)
              (twinsWorld moved proper) (.done answer) last :=
        path.trans moves
      exact ⟨last, .job .start handled, remote⟩

/-- Moved over a synchronised file, the item shares its path with the one that was there. -/
theorem overwriting_twins
    : ¬ ∀ (begun : List Begun) (w : World),
          Session (.unfailing (fun _ => "") "root" (fun _ => False)) ⟨backupConfig, false⟩ .nothing
            (twinsWorld "b" (by decide)) begun w
          → (∀ item ∈ begun, ∃ task, item.1 = .task task ∧ task.Proper backupPair)
          → w.Mirrored "root" := by
  intro stays
  obtain ⟨last, session, remote⟩ := twins_session "b" (by decide)
  have mirrored := stays _ last session (by
    intro item member
    obtain rfl := List.mem_singleton.mp member
    exact ⟨_, rfl, backupFile_proper (by decide), backupFile_proper (by decide)⟩)
  have there (id : DriveId) (item : RemoteItem) (found : last.remote.item? id = some item)
      (live : item.trashed = false) (parent : item.parent = "root")
      : last.remote.ItemAt "root" id item (pushKey "" item.name) :=
    ⟨found, live, "", parent ▸ .root, rfl⟩
  have first := there "1" ⟨"b", "root", .file [1], false⟩
    (by rw [remote, Remote.item?_put, if_pos rfl]) rfl rfl
  have second := there "2" ⟨"b", "root", .file [2], false⟩
    (by rw [remote, Remote.item?_put, if_neg (by decide), twinsWorld, Remote.item?_put, if_pos rfl])
    rfl rfl
  exact absurd (mirrored.sound.unique _ _ _ _ _ first second) (by decide)

/-- Moved to a free name, it takes its cache entry along. -/
theorem moved_aside
    : ∃ begun w,
        Session (.unfailing (fun _ => "") "root" (fun _ => False)) ⟨backupConfig, false⟩ .nothing
          (twinsWorld "c" (by decide)) begun w
        ∧ begun ≠ [] ∧ w.Mirrored "root" := by
  obtain ⟨last, session, -⟩ := twins_session "c" (by decide)
  refine ⟨_, last, session, by simp, ?_⟩
  refine @mirror_stays_exact (fun _ => "") (fun _ => False) ⟨backupConfig, false⟩ backupPair
    .nothing _ _ _ rfl session ?_ (twins_mirrored "c" (by decide)) ?_
  · intro item member
    obtain rfl := List.mem_singleton.mp member
    exact ⟨_, rfl, backupFile_proper (by decide), backupFile_proper (by decide)⟩
  · intro item member task same
    obtain rfl := List.mem_singleton.mp member
    obtain rfl := Job.task.inj same
    refine ⟨fun entry newName newParentId due => ?_, fun unknown => ?_⟩
    · have expected := twins_due "c" (by decide)
      obtain rfl : entry = ⟨"1", "root"⟩ :=
        Option.some.inj (due.known.cached.symm.trans expected.known.cached)
      obtain rfl : newParentId = "root" := Option.some.inj (due.folder.symm.trans expected.folder)
      refine ⟨?_, ?_, ?_, ?_, by decide⟩
      · rw [keyOf_backupFile (by decide)]
        decide
      · intro id item folder found
        obtain rfl : id = "root" := Option.some.inj (folder.symm.trans expected.folder)
        rw [twinsWorld, Remote.item?_put, Remote.item?_put] at found
        simp [Remote.item?] at found
      · intro entry cached
        rw [keyOf_backupFile (by decide)] at cached
        simp [twinsWorld, PathCache.lookup_insert] at cached
      · intro key entry cached
        rw [keyOf_backupFile OsString.proper_a]
        simp only [twinsWorld, PathCache.lookup_insert] at cached
        split at cached
        · rename_i same
          subst same
          decide +kernel
        · split at cached
          · rename_i same
            subst same
            decide +kernel
          · cases cached
    · exact absurd (twins_due "c" (by decide)).known (unknown _)

end SyncGDrive
