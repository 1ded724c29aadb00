import SyncGDrive.Engine.Cascades
import SyncGDrive.Reconciliation.Foreign

/-! Directories that are renamed. The rows are those of files, so a directory never counts as
known, and `rename` takes its target for a new file.
-/

namespace SyncGDrive

open Program

-----------------------------------------------------------------------------------------
-- A renamed directory
-----------------------------------------------------------------------------------------

/-- The folder at one path is found at another one with everything below it, on the remote and
in both stores, and nothing else has changed there.
-/
structure DirectoryMoved (primary : SyncPair) (source target : Path) (w last : World) : Prop where
  item
    : ∀ id item,
        w.remote.ItemAt primary.remoteFolderId id item (relKey source)
        → ∃ item', last.remote.ItemAt primary.remoteFolderId id item' (relKey target)
  entry
    : ∀ entry,
        w.pathCache.lookup (relKey source) = some entry
        → ∃ parentId,
            w.folderId? primary (parentRelStr primary.localPath (primary.localPath ++ target))
              = some parentId
            ∧ last.pathCache.lookup (relKey target) = some ⟨entry.driveId, parentId⟩
  below
    : ∀ rest,
        rest ≠ []
        → last.pathCache.lookup (relKey (target ++ rest))
          = w.pathCache.lookup (relKey (source ++ rest))
  rows : ∀ rest, last.db.row (relKey (target ++ rest)) = w.db.row (relKey (source ++ rest))
  gone
    : ∀ key,
        Covers (relKey source) key → last.pathCache.lookup key = none ∧ last.db.row key = none
  others
    : ∀ key,
        ¬ Covers (relKey source) key → ¬ Covers (relKey target) key
        → last.pathCache.lookup key = w.pathCache.lookup key ∧ last.db.row key = w.db.row key

/-- The remote folder is renamed, and the handling leaves it and both stores moved. -/
structure DirectoryRenamed (env : Environment) (ctx : EngineContext) (ignore : IgnoreMatcher)
    (primary : SyncPair) (source target : Path) (w : World)
    : Prop where
  called
    : MustCall env
        (RenameCall primary w (primary.localPath ++ source) (primary.localPath ++ target))
        (handle ctx ignore (.rename (primary.localPath ++ source) (primary.localPath ++ target))) w
  moved
    : Always env.sem (fun _ => True)
        (handle ctx ignore (.rename (primary.localPath ++ source) (primary.localPath ++ target))) w
        (fun result last => result = .ok () ∧ DirectoryMoved primary source.trim target.trim w last)

section Directories

variable {md5 : List UInt8 → String} {env : Environment} {ctx : EngineContext}
  {ignore : IgnoreMatcher} {primary : SyncPair} {w : World} {source target : Path}

theorem keyOf_append {rel : Path}
    : keyOf primary (primary.localPath ++ rel) = relKey rel.trim := by
  simp [keyOf, relStr, Except.toOption]

/-- A folder has no row, since each row is that of a remote file at its path. -/
theorem Synced.folder_rowless (synced : Synced md5 primary.remoteFolderId w) {id : DriveId}
    {item : RemoteItem} {key : String}
    (itemAt : w.remote.ItemAt primary.remoteFolderId id item key) (folder : item.kind = .folder)
    : w.db.row key = none := by
  cases row : w.db.row key with
  | none => rfl
  | some columns =>
      obtain ⟨hash, mtime⟩ := columns
      obtain ⟨content, ⟨id', item', itemAt', kind⟩, -⟩ := (synced.rows key hash).mp ⟨mtime, row⟩
      obtain rfl := synced.unique _ _ _ _ _ itemAt itemAt'
      have same : item = item' := Option.some.inj (itemAt.1.symm.trans itemAt'.1)
      rw [← same, folder] at kind
      cases kind

/-- So no synchronised directory is known as the source of a renaming. -/
theorem Synced.folder_unknown (synced : Synced md5 primary.remoteFolderId w) {id : DriveId}
    {item : RemoteItem}
    (itemAt : w.remote.ItemAt primary.remoteFolderId id item (relKey source.trim))
    (folder : item.kind = .folder) (entry : CacheEntry)
    : ¬ SourceKnown primary w (primary.localPath ++ source) entry := by
  intro known
  have row := known.row.2
  rw [keyOf_append, Database.get, synced.folder_rowless itemAt folder] at row
  cases row

/-- Without a known source and a file at the target, a renaming is over without any call. -/
theorem comes_rename_nothing (quiet : env.Undisturbed) {source target : Path}
    (configured : ctx.cfg.getPrimaryPair = some primary)
    (unknown : ∀ entry, ¬ SourceKnown primary w source entry)
    (absent : w.disk.isFile target = false)
    : Comes env (fun program state => program = .done (.ok ()) ∧ state = w)
        (rename ctx ignore source target) w := by
  have fallback
      : Comes env (fun program state => program = .done (.ok ()) ∧ state = w)
          (do
            if ← isFile target then
              if ignore.isIgnored target (← isDir target) then return ()
              else syncFile ctx ignore target
            else return ())
          w := by
    refine comes_isFile ?_
    rw [absent]
    exact .here ⟨rfl, rfl⟩
  unfold rename
  refine comes_bothIgnored (fun _ => .here ⟨rfl, rfl⟩) (fun _ => ?_)
  simp only [configured, orError, propagate, Prog.ok_bind, Bool.false_eq_true, if_false]
  refine comes_lookup ?_
  change Comes env _ (rename.inDb (keyOf primary source) >>= _) w
  refine comes_inDb ?_ (fun disturbed => absurd quiet disturbed)
  cases cached : w.pathCache.lookup (keyOf primary source) with
  | none =>
      rw [show w.pathCache.lookup ((relStr primary.localPath source).toOption.getD "") = none
        from cached]
      exact fallback
  | some entry =>
      rw [show w.pathCache.lookup ((relStr primary.localPath source).toOption.getD "") = some entry
        from cached, decide_eq_false (fun row => unknown entry ⟨cached, row⟩)]
      exact fallback

/-- The renaming of a synchronised directory changes nothing and calls nobody: neither is the
remote folder renamed nor are its entries moved.
-/
theorem directory_not_renamed (quiet : env.Undisturbed)
    (configured : ctx.cfg.getPrimaryPair = some primary)
    (synced : Synced md5 primary.remoteFolderId w)
    (directory
      : ∃ id item,
          w.remote.ItemAt primary.remoteFolderId id item (relKey source.trim)
          ∧ item.kind = .folder)
    (free : w.disk.isFile (primary.localPath ++ target) = false)
    : ¬ DirectoryRenamed env ctx ignore primary source target w
      ∧ ¬ MayCall env (fun _ => True)
          (handle ctx ignore (.rename (primary.localPath ++ source) (primary.localPath ++ target)))
          w
      ∧ Always env.sem (fun _ => True)
          (handle ctx ignore (.rename (primary.localPath ++ source) (primary.localPath ++ target)))
          w
          (fun result last =>
            result = .ok () ∧ last = w
            ∧ ¬ DirectoryMoved primary source.trim target.trim w last) := by
  obtain ⟨id, item, itemAt, folder⟩ := directory
  have comes
      : Comes env (fun program state => program = .done (.ok ()) ∧ state = w)
          (handle ctx ignore (.rename (primary.localPath ++ source) (primary.localPath ++ target)))
          w := by
    unfold handle
    split
    · exact .here ⟨rfl, rfl⟩
    · exact comes_rename_nothing quiet configured (synced.folder_unknown itemAt folder) free
  have stays : ¬ DirectoryMoved primary source.trim target.trim w w := by
    intro moved
    have cached := (synced.cached _ id item.parent).mpr ⟨item, itemAt, rfl⟩
    have gone := (moved.gone _ (covers_self _)).1
    rw [cached] at gone
    cases gone
  refine ⟨?_, ?_, ?_⟩
  · intro renamed
    refine ((comes.mustRequest_iff (fun _ _ => Op.Local.not_requested) ?_).mp renamed.called :
      False)
    rintro program state ⟨rfl, rfl⟩
    exact Iff.rfl
  · intro called
    refine ((comes.mayRequest_iff (fun _ _ => Op.Local.not_requested) ?_).mp called : False)
    rintro program state ⟨rfl, rfl⟩
    exact Iff.rfl
  · refine comes.always ?_
    rintro program state ⟨rfl, rfl⟩
    exact ⟨trivial, rfl, rfl, stays⟩

end Directories

-----------------------------------------------------------------------------------------
-- A folder with one photo
-----------------------------------------------------------------------------------------

def tripFolder : RemoteItem := ⟨"trip", "root", .folder, false⟩

def tripPhoto : RemoteItem := ⟨"photo", "1", .file [1], false⟩

/-- `trip` has been synchronised; on the disk it is called `album` by now. -/
def tripWorld : World where
  disk :=
    .backup (.single (.utf8 "album") (by decide))
      (fun _ => .dir (.single (.utf8 "photo") (by decide)) (fun _ => .file ⟨[1], 1000000000, true⟩))
  remote := (({} : Remote).put "1" tripFolder).put "2" tripPhoto
  pathCache := (({} : PathCache).insert "trip" "1" "root").insert "trip/photo" "2" "1"
  db := ({} : Database).upsert ⟨"trip/photo", plainDigest [1], 1⟩

theorem itemAt_trip {id : DriveId} {item : RemoteItem} {key : String}
    : tripWorld.remote.ItemAt "root" id item key
      ↔ id = "1" ∧ item = tripFolder ∧ key = "trip"
        ∨ id = "2" ∧ item = tripPhoto ∧ key = "trip/photo" := by
  have unused : ({} : Remote).Unused "root" "1" :=
    ⟨by decide, rfl, fun id item found => by cases found⟩
  have bare : ({} : Remote).Rooted "root" := rfl
  have first {id : DriveId} {item : RemoteItem} {key : String}
      : (({} : Remote).put "1" tripFolder).ItemAt "root" id item key
        ↔ id = "1" ∧ item = tripFolder ∧ key = "trip" := by
    rw [tripFolder, Remote.itemAt_added bare unused .root]
    simp [itemAt_empty, pushKey]
  have rooted : (({} : Remote).put "1" tripFolder).Rooted "root" := by
    rw [Remote.Rooted, Remote.item?_put, if_neg (by decide)]
    rfl
  have unused' : (({} : Remote).put "1" tripFolder).Unused "root" "2" := by
    refine ⟨by decide, ?_, ?_⟩
    · rw [Remote.item?_put, if_neg (by decide)]
      rfl
    · intro id item found
      rw [Remote.item?_put] at found
      split at found
      · cases found
        decide
      · cases found
  have folder : (({} : Remote).put "1" tripFolder).FolderAt "root" "1" "trip" :=
    (first.mpr ⟨rfl, rfl, rfl⟩).folderAt rfl
  rw [tripWorld, tripPhoto, Remote.itemAt_added rooted unused' folder, first]
  simp [pushKey]

theorem trip_synced : Synced plainDigest "root" tripWorld where
  unique id id' item item' key first second := by
    rw [itemAt_trip] at first second
    rcases first with ⟨rfl, -, rfl⟩ | ⟨rfl, -, rfl⟩ <;>
      rcases second with ⟨rfl, -, same⟩ | ⟨rfl, -, same⟩ <;> simp_all
  cached key id parent := by
    have found
        : tripWorld.pathCache.lookup key
          = if key = "trip/photo" then some ⟨"2", "1"⟩
            else if key = "trip" then some ⟨"1", "root"⟩ else none := by
      simp only [tripWorld, PathCache.lookup_insert]
      rfl
    rw [found]
    simp only [itemAt_trip]
    constructor
    · intro cached
      split at cached
      · rename_i photo
        cases cached
        exact ⟨tripPhoto, .inr ⟨rfl, rfl, photo⟩, rfl⟩
      split at cached
      · rename_i folder
        cases cached
        exact ⟨tripFolder, .inl ⟨rfl, rfl, folder⟩, rfl⟩
      · cases cached
    · rintro ⟨item, ⟨rfl, rfl, rfl⟩ | ⟨rfl, rfl, rfl⟩, rfl⟩ <;> simp [tripFolder, tripPhoto]
  rows key hash := by
    have found
        : tripWorld.db.row key
          = if key = "trip/photo" then some ⟨plainDigest [1], 1⟩ else none := by
      simp only [tripWorld, Database.row_upsert]
      rfl
    rw [found]
    simp only [Remote.FileAt, itemAt_trip]
    constructor
    · rintro ⟨mtime, row⟩
      split at row
      · rename_i photo
        cases row
        exact ⟨[1], ⟨"2", tripPhoto, .inr ⟨rfl, rfl, photo⟩, rfl⟩, rfl⟩
      · cases row
    · rintro ⟨content, ⟨id, item, ⟨rfl, rfl, rfl⟩ | ⟨rfl, rfl, rfl⟩, kind⟩, rfl⟩
      · cases kind
      · cases kind
        exact ⟨1, by simp⟩

theorem trip_free : tripWorld.disk.isFile [.utf8 "backup", .utf8 "album"] = false := by
  simp [tripWorld, Disk.isFile, Disk.metadata, Disk.node?, Disk.backup, Disk.entry?, Node.locate,
    Node.follow, Node.metadata, Listing.single]

/-- What the renaming of `trip` to `album` comes to. -/
theorem trip_stays
    : ¬ DirectoryRenamed (.calm plainDigest "root") ⟨backupConfig, false⟩ .nothing backupPair
          [.utf8 "trip"] [.utf8 "album"] tripWorld
      ∧ ¬ MayCall (.calm plainDigest "root") (fun _ => True)
          (handle ⟨backupConfig, false⟩ .nothing
            (.rename [.utf8 "backup", .utf8 "trip"] [.utf8 "backup", .utf8 "album"]))
          tripWorld
      ∧ Always (Environment.calm plainDigest "root").sem (fun _ => True)
          (handle ⟨backupConfig, false⟩ .nothing
            (.rename [.utf8 "backup", .utf8 "trip"] [.utf8 "backup", .utf8 "album"]))
          tripWorld
          (fun result last =>
            result = .ok () ∧ last = tripWorld
            ∧ ¬ DirectoryMoved backupPair [.utf8 "trip"] [.utf8 "album"] tripWorld last) :=
  directory_not_renamed Environment.calm_undisturbed rfl trip_synced
    ⟨"1", tripFolder, itemAt_trip.mpr (.inl ⟨rfl, rfl, rfl⟩), rfl⟩ trip_free

/-- A synchronised directory gets a free name, and the remote folder keeps its old one. -/
theorem trip_not_renamed
    : ¬ ∀ (md5 : List UInt8 → String) cfg (ignore : IgnoreMatcher) (primary : SyncPair) (w : World)
            (source target : Path),
          cfg.getPrimaryPair = some primary
          → Synced md5 primary.remoteFolderId w
          → (∃ id item,
              w.remote.ItemAt primary.remoteFolderId id item (relKey source)
              ∧ item.kind = .folder)
          → (w.folderId? primary
              (parentRelStr primary.localPath (primary.localPath ++ target))).isSome
          → (∀ key,
              Covers (relKey target) key
              → w.pathCache.lookup key = none
                ∧ ∀ id item, ¬ w.remote.ItemAt primary.remoteFolderId id item key)
          → w.disk.isFile (primary.localPath ++ target) = false
          → DirectoryRenamed (.calm md5 primary.remoteFolderId) ⟨cfg, false⟩ ignore primary
              source target w := by
  intro claim
  have apart : ¬ Covers (relKey [.utf8 "album"]) "trip" := by unfold Covers; decide +kernel
  have apart' : ¬ Covers (relKey [.utf8 "album"]) "trip/photo" := by unfold Covers; decide +kernel
  refine trip_stays.1 (claim plainDigest backupConfig .nothing backupPair tripWorld [.utf8 "trip"]
    [.utf8 "album"] rfl trip_synced ⟨"1", tripFolder, itemAt_trip.mpr (.inl ⟨rfl, rfl, rfl⟩), rfl⟩
    rfl ?_ trip_free)
  intro key covered
  have free (id : DriveId) (item : RemoteItem) : ¬ tripWorld.remote.ItemAt "root" id item key := by
    intro itemAt
    rcases itemAt_trip.mp itemAt with ⟨-, -, rfl⟩ | ⟨-, -, rfl⟩
    · exact apart covered
    · exact apart' covered
  refine ⟨?_, free⟩
  cases found : tripWorld.pathCache.lookup key with
  | none => rfl
  | some entry =>
      obtain ⟨item, itemAt, -⟩ := (trip_synced.cached key entry.driveId entry.parentId).mp found
      exact absurd itemAt (free _ _)

end SyncGDrive
