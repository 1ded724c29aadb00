import SyncGDrive.Remote.Subtrees

/-! The path cache as a mirror of the remote: every path with its item and the parent of that
item, and nothing else. Each change of the remote has the change of the cache that keeps the
mirror exact.
-/

namespace SyncGDrive

namespace PathCache

/-- The cache maps exactly the paths of the remote to their items and the parents of these. -/
def Mirrors (cache : PathCache) (remote : Remote) (root : DriveId) : Prop :=
  ∀ key id parent,
    cache.lookup key = some ⟨id, parent⟩
    ↔ ∃ item, remote.ItemAt root id item key ∧ item.parent = parent

variable {cache : PathCache} {remote : Remote} {root id fresh parent : DriveId} {above rel : Path}
  {item : RemoteItem} {name key : String}

-----------------------------------------------------------------------------------------
-- Reading
-----------------------------------------------------------------------------------------

/-- A cached identifier belongs to the item at its key. -/
theorem Mirrors.lookup_some {entry : CacheEntry} (mirrors : cache.Mirrors remote root)
    (found : cache.lookup key = some entry)
    : ∃ item, remote.ItemAt root entry.driveId item key ∧ item.parent = entry.parentId :=
  (mirrors key entry.driveId entry.parentId).mp found

/-- What is not cached is not on the remote. -/
theorem Mirrors.lookup_none (mirrors : cache.Mirrors remote root)
    (absent : cache.lookup key = none) (id : DriveId) (item : RemoteItem)
    : ¬ remote.ItemAt root id item key := by
  intro itemAt
  have found := (mirrors key id item.parent).mpr ⟨item, itemAt, rfl⟩
  rw [absent] at found
  cases found

-----------------------------------------------------------------------------------------
-- Writing
-----------------------------------------------------------------------------------------

/-- A new leaf is cached where it was added. -/
theorem Mirrors.added {kind : ItemKind} (mirrors : cache.Mirrors remote root)
    (rooted : remote.Rooted root) (plain : Plain (above ++ [.utf8 name]))
    (unused : remote.Unused root fresh) (folder : remote.FolderAt root parent (relKey above))
    (free : ∀ id item, ¬ remote.ItemAt root id item (relKey (above ++ [.utf8 name])))
    : (cache.insert (relKey (above ++ [.utf8 name])) fresh parent).Mirrors
        (remote.put fresh ⟨name, parent, kind, false⟩) root := by
  intro key id parent'
  have pushed := relKey_pushText (PlainNames.append.mp plain.2).1 name
  rw [PathCache.lookup_insert]
  simp only [Remote.itemAt_added rooted unused folder, ← pushed]
  by_cases same : key = relKey (above ++ [.utf8 name])
  · subst same
    simp only [if_true, Option.some.injEq, CacheEntry.mk.injEq, and_true]
    constructor
    · rintro ⟨rfl, rfl⟩
      exact ⟨_, .inr ⟨rfl, rfl⟩, rfl⟩
    · rintro ⟨item, itemAt | ⟨rfl, rfl⟩, rfl⟩
      · exact absurd itemAt (free _ _)
      · exact ⟨rfl, rfl⟩
  · simp only [same, if_false, and_false, or_false]
    exact mirrors key id parent'


/-- A file is cached again where it was updated. -/
theorem Mirrors.updated {content : List UInt8} (mirrors : cache.Mirrors remote root)
    (sound : remote.Sound root) (itemAt : remote.ItemAt root id item key)
    (file : item.kind ≠ .folder)
    : (cache.insert key id item.parent).Mirrors
        (remote.put id ⟨item.name, item.parent, .file content, item.trashed⟩) root := by
  intro key' id' parent'
  rw [PathCache.lookup_insert]
  simp only [Remote.itemAt_updated itemAt.1 file]
  by_cases same : key' = key
  · subst same
    simp only [if_true, Option.some.injEq, CacheEntry.mk.injEq]
    constructor
    · rintro ⟨rfl, rfl⟩
      exact ⟨_, .inr ⟨rfl, rfl, itemAt⟩, rfl⟩
    · rintro ⟨item', ⟨other, itemAt'⟩ | ⟨rfl, rfl, -⟩, rfl⟩
      · exact absurd (sound.unique _ _ _ _ _ itemAt' itemAt) other
      · exact ⟨rfl, rfl⟩
  · simp only [same, if_false]
    refine (mirrors key' id' parent').trans ?_
    constructor
    · rintro ⟨item', itemAt', rfl⟩
      refine ⟨item', .inl ⟨?_, itemAt'⟩, rfl⟩
      rintro rfl
      rw [Option.some.inj (itemAt'.1.symm.trans itemAt.1)] at itemAt'
      exact same (sound.rooted.itemAt_unique itemAt' itemAt)
    · rintro ⟨item', ⟨-, itemAt'⟩ | ⟨rfl, rfl, itemAt'⟩, rfl⟩
      · exact ⟨item', itemAt', rfl⟩
      · exact absurd (sound.rooted.itemAt_unique itemAt' itemAt) same

/-- An item in the trash leaves the cache together with everything below it. -/
theorem Mirrors.trashed (mirrors : cache.Mirrors remote root) (sound : remote.Sound root)
    (plain : Plain rel) (itemAt : remote.ItemAt root id item (relKey rel))
    : (cache.removeCascades (relKey rel)).Mirrors (remote.put id { item with trashed := true })
        root := by
  intro key' id' parent'
  rw [PathCache.lookup_removeCascades]
  simp only [Remote.itemAt_trashed_subtree sound plain itemAt]
  split
  · rename_i covered
    simp [covered]
  · rename_i uncovered
    simp only [uncovered, not_false_eq_true, and_true]
    exact mirrors key' id' parent'

/-- An item with nothing below it is directly above no item. -/
theorem alone_of_nothing_below (sound : remote.Sound root) (plain : Plain rel)
    (itemAt : remote.ItemAt root id item (relKey rel))
    (nothing : ∀ id' item' key, remote.ItemAt root id' item' key → isBelow (relKey rel) key = false)
    : remote.Alone root id := by
  rintro id' item' _ there rfl
  obtain ⟨above, plain', rfl, folder⟩ := sound.item_key there
  have outside := nothing _ _ _ there
  rcases folder.itemAt with ⟨same, -⟩ | ⟨item'', itemAt'', -⟩
  · rw [same] at itemAt
    have found := itemAt.1
    rw [sound.rooted] at found
    cases found
  · obtain rfl := Option.some.inj (itemAt''.1.symm.trans itemAt.1)
    have same := sound.rooted.itemAt_unique itemAt'' itemAt
    rw [relKey_push (PlainNames.append.mp plain'.2).1, same,
      ← relKey_push plain.2, isBelow_append plain.1 (by simp)] at outside
    cases outside

/-- A moved item with nothing below it is cached where it has gone, and nowhere else. -/
theorem Mirrors.moved (mirrors : cache.Mirrors remote root) (sound : remote.Sound root)
    (plain : Plain rel) (itemAt : remote.ItemAt root id item (relKey rel))
    (nothing : ∀ id' item' key, remote.ItemAt root id' item' key → isBelow (relKey rel) key = false)
    (elsewhere : parent ≠ id) (plainTarget : Plain (above ++ [.utf8 name]))
    (folder : remote.FolderAt root parent (relKey above))
    (free : ∀ id' item', remote.ItemAt root id' item' (relKey (above ++ [.utf8 name])) → id' = id)
    : ((cache.removeCascades (relKey rel)).insert (relKey (above ++ [.utf8 name])) id
        parent).Mirrors (remote.put id { item with name, parent }) root := by
  have alone := alone_of_nothing_below sound plain itemAt nothing
  have pushed := relKey_pushText (PlainNames.append.mp plainTarget.2).1 name
  intro key' id' parent'
  rw [PathCache.lookup_insert, PathCache.lookup_removeCascades]
  simp only [Remote.itemAt_moved sound itemAt alone elsewhere folder, ← pushed]
  by_cases same : key' = relKey (above ++ [.utf8 name])
  · subst same
    simp only [if_true, Option.some.injEq, CacheEntry.mk.injEq, and_true]
    constructor
    · rintro ⟨rfl, rfl⟩
      exact ⟨_, .inr ⟨rfl, rfl⟩, rfl⟩
    · rintro ⟨item', ⟨other, itemAt'⟩ | ⟨rfl, rfl⟩, rfl⟩
      · exact absurd (free _ _ itemAt') other
      · exact ⟨rfl, rfl⟩
  · simp only [same, if_false, and_false, or_false]
    split
    · rename_i covered
      simp only [reduceCtorEq, false_iff]
      rintro ⟨item', ⟨other, itemAt'⟩, -⟩
      rcases covered with rfl | below
      · exact other (sound.unique _ _ _ _ _ itemAt' itemAt)
      · rw [nothing _ _ _ itemAt'] at below
        cases below
    · rename_i uncovered
      refine (mirrors key' id' parent').trans ?_
      constructor
      · rintro ⟨item', itemAt', rfl⟩
        refine ⟨item', ⟨?_, itemAt'⟩, rfl⟩
        rintro rfl
        obtain rfl := Option.some.inj (itemAt'.1.symm.trans itemAt.1)
        exact uncovered (.inl (sound.rooted.itemAt_unique itemAt' itemAt))
      · rintro ⟨item', ⟨-, itemAt'⟩, rfl⟩
        exact ⟨item', itemAt', rfl⟩

end PathCache

end SyncGDrive
