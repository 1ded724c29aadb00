import SyncGDrive.Reconciliation.View

/-! What the operations of a worker do to the slots, and when the cache remains the map of
the remote items.
-/

namespace SyncGDrive

namespace Setting

variable {s : Setting} {w state after : World} {rel above : Path} {view : View}
  {name : String} {id parent fresh : DriveId} {item : RemoteItem} {content : List UInt8}

-----------------------------------------------------------------------------------------
-- Steps that leave the slots alone
-----------------------------------------------------------------------------------------

/-- What changes neither the disk nor the remote nor the rows is no move. -/
theorem Moves.same (moves : s.Moves w rel view state) (agrees : state.Agrees after)
    : s.Moves w rel view after where
  disk := agrees.disk.trans moves.disk
  tasks := agrees.tasks.trans moves.tasks
  running := agrees.running.trans moves.running
  sound := agrees.remote ▸ moves.sound
  here := (slot_congr agrees.disk agrees.remote agrees.db).trans moves.here
  others rel' plain' other :=
    (slot_congr agrees.disk agrees.remote agrees.db).trans (moves.others rel' plain' other)
  folders id key := by rw [agrees.remote, moves.folders]
  rows key other := by rw [agrees.db, moves.rows key other]

/-- The cache remains the map of the items when neither changes. -/
theorem Cached.same (cached : s.Cached state) (remote : after.remote = state.remote)
    (pathCache : after.pathCache = state.pathCache)
    : s.Cached after := by
  unfold Cached
  rw [pathCache, remote]
  exact cached

/-- The stores are the remote and the rows. -/
theorem Stored.same (stored : s.Stored state) (remote : after.remote = state.remote)
    (db : after.db = state.db)
    : s.Stored after where
  sound := remote ▸ stored.sound
  kinds := remote ▸ stored.kinds
  copies := remote ▸ stored.copies
  rows := db ▸ stored.rows

/-- A consistent state remains one when the cache or the reports change. -/
theorem Consistent.same {goal : Path → View} (consistent : s.Consistent goal state)
    (disk : after.disk = state.disk) (remote : after.remote = state.remote)
    (db : after.db = state.db)
    : s.Consistent goal after where
  fits := disk ▸ consistent.fits
  closed := consistent.closed
  stored := consistent.stored.same remote db
  coherent rel plain := by
    rw [slot_congr disk remote db]
    exact consistent.coherent rel plain
  headed rel plain := by
    rw [slot_congr disk remote db]
    exact consistent.headed rel plain

theorem Consistent.agrees {goal : Path → View} (consistent : s.Consistent goal state)
    (agrees : state.Agrees after)
    : s.Consistent goal after :=
  consistent.same agrees.disk agrees.remote agrees.db

-----------------------------------------------------------------------------------------
-- Rows
-----------------------------------------------------------------------------------------

/-- A new row for the path. -/
theorem Moves.upserted (moves : s.Moves w rel view state) (plain : Plain rel) (hash : String)
    (mtime : Int)
    : s.Moves w rel { view with record := some (hash, mtime) }
        { state with db := state.db.upsert ⟨relKey rel, hash, mtime⟩ } where
  disk := moves.disk
  tasks := moves.tasks
  running := moves.running
  sound := moves.sound
  here := by
    rw [← moves.here]
    simp [slot, Database.row_upsert]
  others rel' plain' other := by
    rw [← moves.others rel' plain' other]
    have keys : relKey rel' ≠ relKey rel := fun same => other (relKey_inj plain' plain same)
    simp [slot, Database.row_upsert, keys]
  folders := moves.folders
  rows key other := by
    rw [← moves.rows key other, Database.row_upsert, if_neg other]

/-- The row of the path is gone. -/
theorem Moves.deletedRow (moves : s.Moves w rel view state) (plain : Plain rel)
    : s.Moves w rel { view with record := none }
        { state with db := state.db.delete (relKey rel) } where
  disk := moves.disk
  tasks := moves.tasks
  running := moves.running
  sound := moves.sound
  here := by
    rw [← moves.here]
    simp [slot, Database.row_delete]
  others rel' plain' other := by
    rw [← moves.others rel' plain' other]
    have keys : relKey rel' ≠ relKey rel := fun same => other (relKey_inj plain' plain same)
    simp [slot, Database.row_delete, keys]
  folders := moves.folders
  rows key other := by
    rw [← moves.rows key other, Database.row_delete, if_neg other]

-----------------------------------------------------------------------------------------
-- Copies
-----------------------------------------------------------------------------------------

/-- A remote that differs in the file at one path only moves the slot of that path. -/
theorem Moves.ofRemote {remote : Remote} {copy : Option (List UInt8)}
    (moves : s.Moves w rel view state) (plain : Plain rel) (sound : remote.Sound s.folder)
    (here : remote.contentAt s.folder (relKey rel) = copy)
    (others
      : ∀ key content,
          key ≠ relKey rel
          → (remote.FileAt s.folder key content ↔ state.remote.FileAt s.folder key content))
    (folders
      : ∀ id key,
          remote.FolderAt s.folder id key ↔ state.remote.FolderAt s.folder id key)
    : s.Moves w rel { view with copy } { state with remote } where
  disk := moves.disk
  tasks := moves.tasks
  running := moves.running
  sound := sound
  here := by
    rw [← moves.here]
    simp [slot, here]
  others rel' plain' other := by
    rw [← moves.others rel' plain' other]
    have keys : relKey rel' ≠ relKey rel := fun same => other (relKey_inj plain' plain same)
    have copies := Remote.contentAt_congr (fun content => others (relKey rel') content keys)
    simp [slot, copies]
  folders id key := (folders id key).trans (moves.folders id key)
  rows := moves.rows

/-- A file uploaded to a free path. -/
theorem Moves.added (moves : s.Moves w rel view state) (spelled : rel = above ++ [.utf8 name])
    (plain : Plain rel) (unused : state.remote.Unused s.folder fresh)
    (folder : state.remote.FolderAt s.folder parent (relKey above))
    (free : ∀ id item, ¬ state.remote.ItemAt s.folder id item (relKey rel))
    : s.Moves w rel { view with copy := some content }
        { state with
          remote := state.remote.put fresh ⟨name, parent, .file content, false⟩ } := by
  subst spelled
  have key := relKey_pushText (PlainNames.append.mp plain.2).1 name
  have sound
      : (state.remote.put fresh ⟨name, parent, .file content, false⟩).Sound s.folder :=
    moves.sound.added unused plain folder free
  have files {key' content'} :=
    @Remote.fileAt_addedFile state.remote s.folder fresh parent (relKey above) name content
      moves.sound.rooted unused folder key' content'
  refine moves.ofRemote plain sound ?_ ?_ ?_
  · exact (Remote.contentAt_eq_some sound.unique).mpr (files.mpr (.inr ⟨key, rfl⟩))
  · intro key' content' other
    rw [files, ← key]
    simp [other]
  · intro id key'
    rw [Remote.folderAt_added moves.sound.rooted unused folder]
    simp

/-- New content for the file at the path. -/
theorem Moves.updated (moves : s.Moves w rel view state) (plain : Plain rel)
    (itemAt : state.remote.ItemAt s.folder id item (relKey rel)) (file : item.kind ≠ .folder)
    : s.Moves w rel { view with copy := some content }
        { state with
          remote :=
            state.remote.put id ⟨item.name, item.parent, .file content, item.trashed⟩ } := by
  have sound
      : (state.remote.put id ⟨item.name, item.parent, .file content, item.trashed⟩).Sound
          s.folder :=
    moves.sound.updated itemAt.1 file
  have files {key' content'} :=
    @Remote.fileAt_updated state.remote s.folder id item content (relKey rel) moves.sound itemAt
      file key' content'
  refine moves.ofRemote plain sound ?_ ?_ ?_
  · exact (Remote.contentAt_eq_some sound.unique).mpr (files.mpr (.inr ⟨rfl, rfl⟩))
  · intro key' content' other
    rw [files]
    simp [other]
  · intro id' key'
    exact Remote.folderAt_replaced itemAt.1 file (by simp)

/-- The file at the path goes to the trash. -/
theorem Moves.trashed (moves : s.Moves w rel view state) (plain : Plain rel)
    (itemAt : state.remote.ItemAt s.folder id item (relKey rel)) (file : item.kind ≠ .folder)
    : s.Moves w rel { view with copy := none }
        { state with remote := state.remote.put id { item with trashed := true } } := by
  have files {key' content'} :=
    @Remote.fileAt_trashed state.remote s.folder id item (relKey rel) moves.sound itemAt file
      key' content'
  refine moves.ofRemote plain (moves.sound.trashed itemAt.1 file) ?_ ?_ ?_
  · refine Remote.contentAt_eq_none.mpr ?_
    intro content' found
    exact (files.mp found).1 rfl
  · intro key' content' other
    rw [files]
    simp [other]
  · intro id' key'
    exact Remote.folderAt_replaced itemAt.1 file (by simpa using file)

-----------------------------------------------------------------------------------------
-- The cache
-----------------------------------------------------------------------------------------

/-- A cached identifier belongs to the item at its key. -/
theorem Cached.lookup_some {key : String} {entry : CacheEntry} (cached : s.Cached state)
    (found : state.pathCache.lookup key = some entry)
    : ∃ item, state.remote.ItemAt s.folder entry.driveId item key
      ∧ item.parent = entry.parentId :=
  (cached key entry.driveId entry.parentId).mp found

/-- What is not cached is not on the remote. -/
theorem Cached.lookup_none {key : String} (cached : s.Cached state)
    (absent : state.pathCache.lookup key = none) (id : DriveId) (item : RemoteItem)
    : ¬ state.remote.ItemAt s.folder id item key := by
  intro itemAt
  have found := (cached key id item.parent).mpr ⟨item, itemAt, rfl⟩
  rw [absent] at found
  cases found

/-- An item that is cached where it was added. -/
theorem Cached.added {kind : ItemKind} (cached : s.Cached state)
    (rooted : state.remote.Rooted s.folder) (spelled : rel = above ++ [.utf8 name])
    (plain : Plain rel) (unused : state.remote.Unused s.folder fresh)
    (folder : state.remote.FolderAt s.folder parent (relKey above))
    (free : ∀ id item, ¬ state.remote.ItemAt s.folder id item (relKey rel))
    (remote : after.remote = state.remote.put fresh ⟨name, parent, kind, false⟩)
    (pathCache : after.pathCache = state.pathCache.insert (relKey rel) fresh parent)
    : s.Cached after := by
  subst spelled
  intro key id parent'
  have pushed := relKey_pushText (PlainNames.append.mp plain.2).1 name
  rw [pathCache, PathCache.lookup_insert, remote]
  simp only [Remote.itemAt_added rooted unused folder, ← pushed]
  by_cases same : key = relKey (above ++ [.utf8 name])
  · subst same
    simp only [if_true, Option.some.injEq, CacheEntry.mk.injEq, and_true]
    constructor
    · rintro ⟨rfl, rfl⟩
      exact ⟨_, .inr ⟨rfl, rfl⟩, rfl⟩
    · rintro ⟨item, itemAt | ⟨rfl, rfl⟩, rfl⟩
      · exact absurd itemAt (free _ _)
      · exact ⟨rfl, rfl⟩
  · simp only [same, if_false, and_false, or_false]
    exact cached key id parent'

/-- A file that is cached where it was updated. -/
theorem Cached.updated (cached : s.Cached state) (sound : state.remote.Sound s.folder)
    (itemAt : state.remote.ItemAt s.folder id item (relKey rel)) (file : item.kind ≠ .folder)
    (remote
      : after.remote
        = state.remote.put id ⟨item.name, item.parent, .file content, item.trashed⟩)
    (pathCache : after.pathCache = state.pathCache.insert (relKey rel) id item.parent)
    : s.Cached after := by
  intro key id' parent'
  rw [pathCache, PathCache.lookup_insert, remote]
  simp only [Remote.itemAt_updated itemAt.1 file]
  by_cases same : key = relKey rel
  · subst same
    simp only [if_true, Option.some.injEq, CacheEntry.mk.injEq]
    constructor
    · rintro ⟨rfl, rfl⟩
      exact ⟨_, .inr ⟨rfl, rfl, itemAt⟩, rfl⟩
    · rintro ⟨item', ⟨other, itemAt'⟩ | ⟨rfl, rfl, -⟩, rfl⟩
      · exact absurd (sound.unique _ _ _ _ _ itemAt' itemAt) other
      · exact ⟨rfl, rfl⟩
  · simp only [same, if_false]
    refine (cached key id' parent').trans ?_
    constructor
    · rintro ⟨item', itemAt', rfl⟩
      refine ⟨item', .inl ⟨?_, itemAt'⟩, rfl⟩
      rintro rfl
      rw [Option.some.inj (itemAt'.1.symm.trans itemAt.1)] at itemAt'
      exact same (sound.rooted.itemAt_unique itemAt' itemAt)
    · rintro ⟨item', ⟨-, itemAt'⟩ | ⟨rfl, rfl, itemAt'⟩, rfl⟩
      · exact ⟨item', itemAt', rfl⟩
      · exact absurd (sound.rooted.itemAt_unique itemAt' itemAt) same

/-- A file that left the cache when it went to the trash. -/
theorem Cached.trashed (cached : s.Cached state) (sound : state.remote.Sound s.folder)
    (plain : Plain rel) (itemAt : state.remote.ItemAt s.folder id item (relKey rel))
    (file : item.kind ≠ .folder)
    (remote : after.remote = state.remote.put id { item with trashed := true })
    (pathCache : after.pathCache = state.pathCache.removeCascades (relKey rel))
    : s.Cached after := by
  intro key id' parent'
  rw [pathCache, PathCache.lookup_removeCascades, remote]
  simp only [Remote.itemAt_trashed itemAt.1 file]
  split
  · rename_i covered
    simp only [reduceCtorEq, false_iff]
    rintro ⟨item', ⟨other, itemAt'⟩, -⟩
    rcases covered with rfl | below
    · exact other (sound.unique _ _ _ _ _ itemAt' itemAt)
    · rw [sound.not_below_file plain itemAt file itemAt'] at below
      cases below
  · rename_i uncovered
    refine (cached key id' parent').trans ?_
    constructor
    · rintro ⟨item', itemAt', rfl⟩
      refine ⟨item', ⟨?_, itemAt'⟩, rfl⟩
      rintro rfl
      rw [Option.some.inj (itemAt'.1.symm.trans itemAt.1)] at itemAt'
      exact uncovered (.inl (sound.rooted.itemAt_unique itemAt' itemAt))
    · rintro ⟨item', ⟨-, itemAt'⟩, rfl⟩
      exact ⟨item', itemAt', rfl⟩

end Setting

end SyncGDrive
