import SyncGDrive.Local.Lossy
import SyncGDrive.Remote.Subtrees

/-! A cache that places the items of a remote: it has every item at its path, and what else it has
stands nowhere on the remote. Whatever a scan or a worker does keeps it so.
-/

namespace SyncGDrive

-----------------------------------------------------------------------------------------
-- Keys below keys
-----------------------------------------------------------------------------------------

/-- What lies below a key, as texts, lies below a path with that key. -/
theorem PathCache.isBelow_front {key : String} {rel : Path} (plain : Plain rel)
    (below : isBelow key (relKey rel) = true)
    : ∃ front back, rel = front ++ back ∧ front ≠ [] ∧ back ≠ [] ∧ key = relKey front := by
  obtain ⟨tail, text⟩ : ∃ tail, (relKey rel).toList = key.toList ++ '/' :: tail := by
    obtain ⟨tail, same⟩ := List.isPrefixOf_iff_prefix.mp below
    exact ⟨tail, by simpa using same.symm⟩
  have split := plain.2.utf8Path.solid.split_relKey plain.1
  rw [text, List.splitOn_append_cons_self, List.map_map] at split
  obtain ⟨front, back, rfl, first, second⟩ := List.map_eq_append_iff.mp split.symm
  refine ⟨front, back, rfl, ?_, ?_, ?_⟩
  · rintro rfl
    exact List.splitOn_ne_nil _ _ first.symm
  · rintro rfl
    exact List.splitOn_ne_nil _ _ second.symm
  · rw [← String.toList_inj, relKey, String.toList_intercalate, List.map_map, first]
    exact (List.intercalate_splitOn _).symm

namespace PathCache

/-- Every item on the remote is cached at its path, and what is cached at a path is an item that
stands nowhere else.
-/
structure Places (cache : PathCache) (remote : Remote) (root : DriveId) : Prop where
  rooted : remote.Rooted root
  ordinary : ∀ id item key, remote.ItemAt root id item key → PlainName item.name
  listed
    : ∀ id item key,
        remote.ItemAt root id item key → ∃ parent, cache.lookup key = some ⟨id, parent⟩
  known
    : ∀ key entry, cache.lookup key = some entry → ∃ item, remote.item? entry.driveId = some item
  placed
    : ∀ key entry item key',
        cache.lookup key = some entry → remote.ItemAt root entry.driveId item key' → key' = key

variable {cache : PathCache} {remote : Remote} {root id fresh parent : DriveId} {name key : String}

theorem Places.unique (places : cache.Places remote root) : remote.UniquePaths root := by
  intro id id' item item' key itemAt itemAt'
  obtain ⟨parent, cached⟩ := places.listed _ _ _ itemAt
  obtain ⟨parent', cached'⟩ := places.listed _ _ _ itemAt'
  rw [cached] at cached'
  cases cached'
  rfl

theorem Places.sound (places : cache.Places remote root) : remote.Sound root :=
  ⟨places.rooted, places.unique, places.ordinary⟩

/-- What is not cached is free. -/
theorem Places.free (places : cache.Places remote root) (absent : cache.lookup key = none)
    (id : DriveId) (item : RemoteItem)
    : ¬ remote.ItemAt root id item key := by
  intro itemAt
  obtain ⟨parent, cached⟩ := places.listed _ _ _ itemAt
  rw [absent] at cached
  cases cached

/-- The configured folder is cached nowhere. -/
theorem Places.ne_root {entry : CacheEntry} (places : cache.Places remote root)
    (cached : cache.lookup key = some entry)
    : entry.driveId ≠ root := by
  intro same
  obtain ⟨item, found⟩ := places.known key entry cached
  rw [same, places.rooted] at found
  cases found

/-- A cached folder stands at its key. -/
theorem Places.folder_key {entry : CacheEntry} {key' : String}
    (places : cache.Places remote root) (cached : cache.lookup key = some entry)
    (folder : remote.FolderAt root entry.driveId key')
    : key' = key := by
  rcases folder.itemAt with ⟨same, -⟩ | ⟨item, itemAt, -⟩
  · exact absurd same (places.ne_root cached)
  · exact places.placed _ _ _ _ cached itemAt

-----------------------------------------------------------------------------------------
-- Changes
-----------------------------------------------------------------------------------------

/-- A new leaf is cached where it is added, or at the key of a path that leads nowhere. -/
theorem Places.added {kind : ItemKind} {parent' : DriveId} {above : String}
    (places : cache.Places remote root) (unused : remote.Unused root fresh)
    (plain : PlainName name) (other : parent ≠ fresh)
    (folder : ∀ key, remote.FolderAt root parent key → key = above)
    (absent : cache.lookup (pushKey above name) = none)
    : (cache.insert (pushKey above name) fresh parent').Places
        (remote.put fresh ⟨name, parent, kind, false⟩) root := by
  have items {id : DriveId} {item : RemoteItem} {key : String} :=
    @Remote.itemAt_leaf remote root fresh parent name kind unused other id item key
  have old {key : String} {entry : CacheEntry} (cached : cache.lookup key = some entry)
      : entry.driveId ≠ fresh := by
    intro same
    obtain ⟨item, found⟩ := places.known key entry cached
    rw [same, unused.unknown] at found
    cases found
  refine ⟨?_, ?_, ?_, ?_, ?_⟩
  · rw [Remote.Rooted, Remote.item?_put, if_neg unused.notRoot.symm]
    exact places.rooted
  · intro id item key itemAt
    rcases items.mp itemAt with before | ⟨-, rfl, -⟩
    · exact places.ordinary id item key before
    · exact plain
  · intro id item key itemAt
    rw [lookup_insert]
    rcases items.mp itemAt with before | ⟨rfl, rfl, above', there, rfl⟩
    · rw [if_neg]
      · exact places.listed id item key before
      · rintro rfl
        exact places.free absent id item before
    · rw [folder above' there, if_pos rfl]
      exact ⟨parent', rfl⟩
  · intro key entry cached
    rw [lookup_insert] at cached
    split at cached
    · obtain rfl := Option.some.inj cached
      exact ⟨_, by rw [Remote.item?_put, if_pos rfl]⟩
    · rw [Remote.item?_put, if_neg (old cached)]
      exact places.known key entry cached
  · intro key entry item key' cached itemAt
    rw [lookup_insert] at cached
    split at cached
    · rename_i same
      obtain rfl := Option.some.inj cached
      rcases items.mp itemAt with ⟨found, -⟩ | ⟨-, -, above', there, rfl⟩
      · rw [unused.unknown] at found
        cases found
      · rw [same, folder above' there]
    · rcases items.mp itemAt with before | ⟨same, -⟩
      · exact places.placed key entry item key' cached before
      · exact absurd same (old cached)

/-- A known item that stands nowhere is cached at a free key. -/
theorem Places.noted {parent' : DriveId} {item : RemoteItem} (places : cache.Places remote root)
    (found : remote.item? id = some item)
    (nowhere : ∀ item key, ¬ remote.ItemAt root id item key) (absent : cache.lookup key = none)
    : (cache.insert key id parent').Places remote root := by
  refine ⟨places.rooted, places.ordinary, ?_, ?_, ?_⟩
  · intro id' item' key' itemAt
    rw [lookup_insert, if_neg]
    · exact places.listed id' item' key' itemAt
    · rintro rfl
      exact places.free absent id' item' itemAt
  · intro key' entry cached
    rw [lookup_insert] at cached
    split at cached
    · obtain rfl := Option.some.inj cached
      exact ⟨item, found⟩
    · exact places.known key' entry cached
  · intro key' entry item' key'' cached itemAt
    rw [lookup_insert] at cached
    split at cached
    · obtain rfl := Option.some.inj cached
      exact absurd itemAt (nowhere _ _)
    · exact places.placed key' entry item' key'' cached itemAt

/-- New content for a cached file, under the name that its key spells: it stands where it stood. -/
theorem Places.updated {parent' : DriveId} {above : Path} {name : OsString} {item : RemoteItem}
    {content : List UInt8} (places : cache.Places remote root)
    (names : ProperNames (above ++ [name]))
    (cached : cache.lookup (relKey (above ++ [name])) = some ⟨id, parent⟩)
    (found : remote.item? id = some item) (file : item.kind ≠ .folder)
    : (cache.insert (relKey (above ++ [name])) id parent').Places
          (remote.put id ⟨name.toStringLossy, item.parent, .file content, item.trashed⟩) root
      ∧ ∀ id' item' key,
          (remote.put id ⟨name.toStringLossy, item.parent, .file content, item.trashed⟩).ItemAt root
            id' item' key
          → key = relKey (above ++ [name]) ∨ remote.ItemAt root id' item' key := by
  let new : RemoteItem := ⟨name.toStringLossy, item.parent, .file content, item.trashed⟩
  have plain := names.plain (by simp)
  rw [Path.lossy_append] at plain
  -- Where the item stands, it bears the name already.
  have named {key : String} (itemAt : remote.ItemAt root id item key)
      : item.name = name.toStringLossy ∧ remote.FolderAt root item.parent (relKey above) := by
    obtain rfl := places.placed _ _ _ _ cached itemAt
    obtain ⟨above', plain', same, folder⟩ := places.sound.item_key itemAt
    rw [← relKey_lossy, Path.lossy_append] at same
    have same := relKey_inj plain plain' same
    have whole := List.append_inj' same (by simp [Path.lossy])
    refine ⟨?_, ?_⟩
    · simpa [Path.lossy] using whole.2.symm
    · rw [← relKey_lossy, whole.1]
      exact folder
  have folders {id' : DriveId} {key : String} :=
    @Remote.folderAt_replaced remote root id item new found file (by simp [new]) id' key
  have items {id' : DriveId} {item' : RemoteItem} {key : String}
      (itemAt : (remote.put id new).ItemAt root id' item' key)
      : key = relKey (above ++ [name]) ∧ id' = id ∧ (remote.ItemAt root id item key)
        ∨ id' ≠ id ∧ remote.ItemAt root id' item' key := by
    obtain ⟨found', live, above', folder, rfl⟩ := itemAt
    rw [folders] at folder
    rw [Remote.item?_put] at found'
    split at found'
    · rename_i same
      obtain rfl := Option.some.inj found'
      have before : remote.ItemAt root id item (pushKey above' item.name) :=
        ⟨found, live, above', folder, rfl⟩
      have spelled := places.placed _ _ _ _ cached before
      rw [(named before).1] at before spelled
      exact .inl ⟨spelled, same, before⟩
    · rename_i other
      exact .inr ⟨other, found', live, above', folder, rfl⟩
  refine ⟨⟨?_, ?_, ?_, ?_, ?_⟩, ?_⟩
  · rw [Remote.Rooted, Remote.item?_put, if_neg (places.ne_root cached).symm]
    exact places.rooted
  · intro id' item' key itemAt
    rcases items itemAt with ⟨-, rfl, before⟩ | ⟨-, before⟩
    · rw [Remote.ItemAt, Remote.item?_put, if_pos rfl] at itemAt
      obtain rfl := Option.some.inj itemAt.1
      exact (names name (by simp)).plainName
    · exact places.ordinary id' item' key before
  · intro id' item' key itemAt
    rw [lookup_insert]
    rcases items itemAt with ⟨rfl, rfl, -⟩ | ⟨other, before⟩
    · exact ⟨parent', if_pos rfl⟩
    · rw [if_neg]
      · exact places.listed id' item' key before
      · rintro rfl
        obtain ⟨parent, cached'⟩ := places.listed id' item' _ before
        rw [cached] at cached'
        cases cached'
        exact other rfl
  · intro key entry cached'
    rw [Remote.item?_put]
    split
    · exact ⟨_, rfl⟩
    · rename_i other
      rw [lookup_insert] at cached'
      split at cached'
      · obtain rfl := Option.some.inj cached'
        exact absurd rfl other
      · exact places.known key entry cached'
  · intro key entry item' key' cached' itemAt
    rw [lookup_insert] at cached'
    rcases items itemAt with ⟨same, here, before⟩ | ⟨other, before⟩
    · split at cached'
      · rename_i same'
        rw [same, same']
      · exact places.placed key entry item key' cached' (here ▸ before)
    · split at cached'
      · obtain rfl := Option.some.inj cached'
        exact absurd rfl other
      · exact places.placed key entry item' key' cached' before
  · intro id' item' key itemAt
    rcases items itemAt with ⟨same, -⟩ | ⟨-, before⟩
    · exact .inl same
    · exact .inr before

/-- What stands on the remote once an item is in the trash stood there before. -/
theorem itemAt_of_trashed {item item' : RemoteItem} {id' : DriveId}
    (itemAt : (remote.put id { item with trashed := true }).ItemAt root id' item' key)
    : id' ≠ id ∧ remote.ItemAt root id' item' key := by
  have folders {id' : DriveId} {key : String}
      (folder : (remote.put id { item with trashed := true }).FolderAt root id' key)
      : remote.FolderAt root id' key := by
    induction folder with
    | root => exact .root
    | @child id' item' above found kind live under ih =>
        rw [Remote.item?_put] at found
        split at found
        · obtain rfl := Option.some.inj found
          cases live
        · exact .child found kind live ih
  obtain ⟨found, live, above, folder, rfl⟩ := itemAt
  rw [Remote.item?_put] at found
  split at found
  · obtain rfl := Option.some.inj found
    cases live
  · rename_i other
    exact ⟨other, found, live, above, folders folder, rfl⟩

/-- A cached item goes to the trash and leaves the cache, with everything below its key. -/
theorem Places.trashed {entry : CacheEntry} {item : RemoteItem}
    (places : cache.Places remote root) (cached : cache.lookup key = some entry)
    (found : remote.item? entry.driveId = some item)
    : (cache.removeCascades key).Places
        (remote.put entry.driveId { item with trashed := true }) root := by
  let after := remote.put entry.driveId { item with trashed := true }
  have rooted : after.Rooted root := by
    rw [Remote.Rooted, Remote.item?_put, if_neg (places.ne_root cached).symm]
    exact places.rooted
  have sound : after.Sound root := by
    refine ⟨rooted, ?_, ?_⟩
    · intro id id' item item' key itemAt itemAt'
      exact places.unique _ _ _ _ _ (itemAt_of_trashed itemAt).2 (itemAt_of_trashed itemAt').2
    · intro id item key itemAt
      exact places.ordinary _ _ _ (itemAt_of_trashed itemAt).2
  have remains {key' : String} {entry' : CacheEntry}
      (cached' : (cache.removeCascades key).lookup key' = some entry')
      : cache.lookup key' = some entry' := by
    rw [lookup_removeCascades] at cached'
    split at cached'
    · cases cached'
    · exact cached'
  -- Nothing is left at the key: what stood there was the item.
  have gone {id' : DriveId} {item' : RemoteItem} : ¬ after.ItemAt root id' item' key := by
    intro itemAt
    obtain ⟨other, before⟩ := itemAt_of_trashed itemAt
    obtain ⟨parent, cached'⟩ := places.listed _ _ _ before
    rw [cached] at cached'
    cases cached'
    exact other rfl
  refine ⟨rooted, sound.plain, ?_, ?_, ?_⟩
  · intro id' item' key' itemAt
    obtain ⟨parent, cached'⟩ := places.listed _ _ _ (itemAt_of_trashed itemAt).2
    refine ⟨parent, ?_⟩
    rw [lookup_removeCascades, if_neg]
    · exact cached'
    · rintro (rfl | below)
      · exact gone itemAt
      · obtain ⟨above, plain, rfl, folder⟩ := sound.item_key itemAt
        obtain ⟨front, back, split, nonempty, inside, rfl⟩ := isBelow_front plain below
        obtain ⟨back, last, rfl⟩ := List.eq_nil_or_concat back |>.resolve_left inside
        rw [List.concat_eq_append, ← List.append_assoc] at split
        obtain ⟨rfl, -⟩ := List.append_inj' split rfl
        have names := (PlainNames.append.mp plain.2).1
        obtain ⟨id₁, folder₁⟩ := sound.folder_above folder names rfl
        have plainFront : Plain front := ⟨nonempty, (PlainNames.append.mp names).1⟩
        rcases folder₁.itemAt with ⟨-, empty⟩ | ⟨item₁, itemAt₁, -⟩
        · exact relKey_ne_empty plainFront empty
        · exact gone itemAt₁
  · intro key' entry' cached'
    rw [Remote.item?_put]
    split
    · exact ⟨_, rfl⟩
    · exact places.known key' entry' (remains cached')
  · intro key' entry' item' key'' cached' itemAt
    exact places.placed _ _ _ _ (remains cached') (itemAt_of_trashed itemAt).2

end PathCache

end SyncGDrive
