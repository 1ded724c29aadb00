import SyncGDrive.Remote.Paths

/-! An item in the trash with everything below it, and an item that is moved: what is left at
every path.
-/

namespace SyncGDrive

-----------------------------------------------------------------------------------------
-- Keys below a key
-----------------------------------------------------------------------------------------

/-- A longer path spells a key below. -/
theorem PathCache.isBelow_append {rel rest : Path} (nonempty : rel ≠ []) (more : rest ≠ [])
    : isBelow (relKey rel) (relKey (rel ++ rest)) = true := by
  rw [isBelow, List.isPrefixOf_iff_prefix, relKey, relKey, List.map_append,
    String.intercalate_append_of_ne_nil (by simpa using nonempty) (by simpa using more)]
  simp

/-- Between plain paths, a key and the keys below it are those of its extensions. -/
theorem PathCache.covers_iff {rel rel' : Path} (plain : Plain rel) (plain' : Plain rel')
    : relKey rel' = relKey rel ∨ isBelow (relKey rel) (relKey rel') = true ↔ rel <+: rel' := by
  constructor
  · rintro (same | below)
    · exact relKey_inj plain' plain same ▸ List.prefix_rfl
    · obtain ⟨name, rest, rfl⟩ := isBelow_relKey plain plain' below
      exact List.prefix_append _ _
  · rintro ⟨rest, rfl⟩
    cases rest with
    | nil => exact .inl (by rw [List.append_nil])
    | cons name rest => exact .inr (isBelow_append plain.1 (by simp))

namespace Remote

variable {remote : Remote} {root target : DriveId} {old : RemoteItem} {rel : Path}

-----------------------------------------------------------------------------------------
-- An item in the trash
-----------------------------------------------------------------------------------------

/-- In a sound tree one plain path leads to an item, and ends in its name. -/
theorem Sound.path_eq (sound : remote.Sound root) {id : DriveId} {item : RemoteItem}
    {above path : Path} (folder : remote.FolderAt root item.parent (relKey above))
    (namesAbove : PlainNames above) (found : remote.item? id = some item)
    (live : item.trashed = false) (names : PlainNames path)
    (spelled : pushKey (relKey above) item.name = relKey path)
    : path = above ++ [.utf8 item.name] := by
  have itemAt : remote.ItemAt root id item (pushKey (relKey above) item.name) :=
    ⟨found, live, _, folder, rfl⟩
  have ordinary := sound.plain _ _ _ itemAt
  have plain : Plain (above ++ [.utf8 item.name]) :=
    ⟨by simp, plainNames_concat.mpr ⟨namesAbove, ordinary⟩⟩
  rw [← relKey_pushText namesAbove] at spelled
  have nonempty : path ≠ [] := by
    rintro rfl
    rw [relKey_nil] at spelled
    exact relKey_ne_empty plain spelled
  exact relKey_inj ⟨nonempty, names⟩ plain spelled.symm

section Trashed

variable (sound : remote.Sound root) (plain : Plain rel)
  (itemAt : remote.ItemAt root target old (relKey rel))

include sound itemAt

/-- What is at or below a path is the item there, or lies in a folder at or below it. -/
theorem Sound.prefix_folder {id : DriveId} {item : RemoteItem} {above : Path}
    (other : id ≠ target)
    (there : remote.ItemAt root id item (relKey (above ++ [.utf8 item.name])))
    (under : rel <+: above ++ [.utf8 item.name])
    : rel <+: above := by
  rcases List.prefix_concat_iff.mp under with same | shorter
  · rw [← same] at there
    exact absurd (sound.unique _ _ _ _ _ there itemAt) other
  · exact shorter

include plain

/-- A live folder that is left was there, and not at or below the item, by induction on the way
to it.
-/
theorem folderAt_of_trashed {id : DriveId} {key : String}
    (folder : (remote.put target { old with trashed := true }).FolderAt root id key)
    : remote.FolderAt root id key
      ∧ ∀ path, PlainNames path → key = relKey path → ¬ rel <+: path := by
  induction folder with
  | root =>
      refine ⟨.root, fun path names empty under => ?_⟩
      have nothing : path = [] := by
        by_contra nonempty
        exact relKey_ne_empty ⟨nonempty, names⟩ empty.symm
      exact plain.1 (List.prefix_nil.mp (nothing ▸ under))
  | @child id item above found kind live parent ih =>
      obtain ⟨before, outside⟩ := ih
      rw [item?_put] at found
      split at found
      · obtain rfl := Option.some.inj found
        cases live
      · rename_i other
        obtain ⟨above', namesAbove, rfl⟩ := sound.folder_key before
        refine ⟨.child found kind live before, fun path names spelled under => ?_⟩
        obtain rfl := sound.path_eq before namesAbove found live names spelled
        refine outside above' namesAbove rfl (sound.prefix_folder itemAt other ?_ under)
        exact ⟨found, live, _, before, spelled.symm⟩

/-- Folders elsewhere are left, by induction on the way to them. -/
theorem folderAt_trashed {id : DriveId} {path : Path} (names : PlainNames path)
    : (remote.put target { old with trashed := true }).FolderAt root id (relKey path)
      ↔ remote.FolderAt root id (relKey path) ∧ ¬ rel <+: path := by
  constructor
  · intro folder
    obtain ⟨before, outside⟩ := folderAt_of_trashed sound plain itemAt folder
    exact ⟨before, outside path names rfl⟩
  · rintro ⟨folder, outside⟩
    generalize spelled : relKey path = key at folder
    induction folder generalizing path with
    | root => exact .root
    | @child id item above found kind live parent ih =>
        obtain ⟨above', namesAbove, rfl⟩ := sound.folder_key parent
        obtain rfl := sound.path_eq parent namesAbove found live names spelled.symm
        have other : id ≠ target := by
          rintro rfl
          have there : remote.ItemAt root id item (relKey (above' ++ [.utf8 item.name])) :=
            ⟨found, live, _, parent, spelled⟩
          obtain rfl := Option.some.inj (found.symm.trans itemAt.1)
          have same := sound.rooted.itemAt_unique there itemAt
          have plain' : Plain (above' ++ [.utf8 item.name]) := ⟨by simp, names⟩
          exact outside (relKey_inj plain' plain same ▸ List.prefix_rfl)
        refine .child ?_ kind live
          (ih namesAbove (fun under => outside (under.trans (List.prefix_append _ _))) rfl)
        rw [item?_put, if_neg other]
        exact found

/-- Items elsewhere are left, and no others. -/
theorem itemAt_trashed_subtree {id : DriveId} {item : RemoteItem} {key : String}
    : (remote.put target { old with trashed := true }).ItemAt root id item key
      ↔ remote.ItemAt root id item key
        ∧ ¬ (key = relKey rel ∨ PathCache.isBelow (relKey rel) key = true) := by
  constructor
  · rintro ⟨found, live, above, folder, rfl⟩
    rw [item?_put] at found
    split at found
    · obtain rfl := Option.some.inj found
      cases live
    · rename_i other
      obtain ⟨before, outside⟩ := folderAt_of_trashed sound plain itemAt folder
      have there : remote.ItemAt root id item (pushKey above item.name) :=
        ⟨found, live, above, before, rfl⟩
      refine ⟨there, ?_⟩
      obtain ⟨above', names, rfl⟩ := sound.folder_key before
      obtain ⟨path, plain', spelled, -⟩ := sound.item_key there
      obtain rfl : path = above' := by
        have whole := sound.path_eq before names found live plain'.2 spelled
        exact List.append_cancel_right whole
      rw [spelled, PathCache.covers_iff plain plain']
      intro under
      exact outside path names rfl
        (sound.prefix_folder itemAt other (spelled ▸ there) under)
  · rintro ⟨there, outside⟩
    obtain ⟨path, plain', rfl, folder⟩ := sound.item_key there
    rw [PathCache.covers_iff plain plain'] at outside
    have other : id ≠ target := by
      rintro rfl
      obtain rfl := Option.some.inj (there.1.symm.trans itemAt.1)
      have same := sound.rooted.itemAt_unique there itemAt
      exact outside (relKey_inj plain' plain same ▸ List.prefix_rfl)
    have names := (PlainNames.append.mp plain'.2).1
    refine ⟨?_, there.2.1, relKey path, ?_, relKey_pushText names item.name⟩
    · rw [item?_put, if_neg other]
      exact there.1
    · exact (folderAt_trashed sound plain itemAt names).mpr
        ⟨folder, fun under => outside (under.trans (List.prefix_append _ _))⟩

/-- The tree stays sound. -/
theorem Sound.trashed_subtree
    : (remote.put target { old with trashed := true }).Sound root := by
  refine ⟨?_, ?_, ?_⟩
  · rw [Rooted, item?_put, if_neg]
    · exact sound.rooted
    · rintro rfl
      have found := itemAt.1
      rw [sound.rooted] at found
      cases found
  · intro id id' item item' key first second
    rw [itemAt_trashed_subtree sound plain itemAt] at first second
    exact sound.unique _ _ _ _ _ first.1 second.1
  · intro id item key there
    rw [itemAt_trashed_subtree sound plain itemAt] at there
    exact sound.plain _ _ _ there.1

end Trashed

-----------------------------------------------------------------------------------------
-- An item that is moved
-----------------------------------------------------------------------------------------

/-- Nothing lies directly below the item. -/
def Alone (remote : Remote) (root target : DriveId) : Prop :=
  ∀ id item key, remote.ItemAt root id item key → item.parent ≠ target

section Moved

variable {parent : DriveId} {above name key : String}
  (sound : remote.Sound root) (itemAt : remote.ItemAt root target old key)
  (alone : remote.Alone root target) (elsewhere : parent ≠ target)
  (folder : remote.FolderAt root parent above)

include sound itemAt alone elsewhere folder

/-- Folders after an item with nothing below it has been moved, by induction on the way to
them.
-/
theorem folderAt_moved {id : DriveId} {key' : String}
    : (remote.put target { old with name, parent }).FolderAt root id key'
      ↔ id ≠ target ∧ remote.FolderAt root id key'
        ∨ id = target ∧ old.kind = .folder ∧ key' = pushKey above name := by
  have notRoot : root ≠ target := by
    rintro rfl
    have found := itemAt.1
    rw [sound.rooted] at found
    cases found
  have keeps {id : DriveId} {key' : String} (before : remote.FolderAt root id key')
      (other : id ≠ target)
      : (remote.put target { old with name, parent }).FolderAt root id key' := by
    induction before with
    | root => exact .root
    | @child id item above' found kind live under ih =>
        refine .child ?_ kind live (ih (alone id item _ ⟨found, live, _, under, rfl⟩))
        rw [item?_put, if_neg other]
        exact found
  constructor
  · intro folderAt
    induction folderAt with
    | root => exact .inl ⟨notRoot, .root⟩
    | @child id item above' found kind live under ih =>
        rw [item?_put] at found
        split at found
        · rename_i same
          obtain rfl := Option.some.inj found
          refine .inr ⟨same, kind, ?_⟩
          rcases ih with ⟨-, before⟩ | ⟨inside, -⟩
          · rw [sound.rooted.folderAt_unique before folder]
          · exact absurd inside elsewhere
        · rename_i other
          rcases ih with ⟨-, before⟩ | ⟨inside, isFolder, -⟩
          · exact .inl ⟨other, .child found kind live before⟩
          · refine absurd inside (alone id item _ ⟨found, live, key, ?_, rfl⟩)
            exact inside ▸ itemAt.folderAt isFolder
  · rintro (⟨other, before⟩ | ⟨rfl, kind, rfl⟩)
    · exact keeps before other
    · have found
          : (remote.put id { old with name, parent }).item? id
              = some { old with name, parent } := by
        rw [item?_put, if_pos rfl]
      exact .child found kind itemAt.2.1 (keeps folder elsewhere)

/-- The moved item is at its new path, and nothing else changes. -/
theorem itemAt_moved {id : DriveId} {item : RemoteItem} {key' : String}
    : (remote.put target { old with name, parent }).ItemAt root id item key'
      ↔ id ≠ target ∧ remote.ItemAt root id item key'
        ∨ id = target ∧ item = { old with name, parent } ∧ key' = pushKey above name := by
  have folders {id : DriveId} {key' : String} :=
    @folderAt_moved remote root target old parent above name key sound itemAt alone elsewhere folder
      id key'
  simp only [ItemAt, item?_put, folders]
  by_cases same : id = target
  · subst same
    simp only [if_true, ne_eq, not_true, false_and, false_or, true_and]
    constructor
    · rintro ⟨⟨⟩, -, above', ⟨-, before⟩ | ⟨inside, -⟩, rfl⟩
      · rw [sound.rooted.folderAt_unique before folder]
        exact ⟨rfl, rfl⟩
      · exact absurd inside elsewhere
    · rintro ⟨rfl, rfl⟩
      exact ⟨rfl, itemAt.2.1, above, .inl ⟨elsewhere, folder⟩, rfl⟩
  · simp only [same, if_false, ne_eq, not_false_eq_true, true_and, false_and, or_false]
    constructor
    · rintro ⟨found, live, above', ⟨-, before⟩ | ⟨inside, isFolder, -⟩, rfl⟩
      · exact ⟨found, live, above', before, rfl⟩
      · refine absurd inside (alone id item _ ⟨found, live, key, ?_, rfl⟩)
        exact inside ▸ itemAt.folderAt isFolder
    · rintro ⟨found, live, above', before, rfl⟩
      refine ⟨found, live, above', .inl ⟨?_, before⟩, rfl⟩
      exact alone id item _ ⟨found, live, above', before, rfl⟩

omit folder in
/-- Moved to a free path with a plain name, it keeps the tree sound. -/
theorem Sound.moved {above : Path} (plain : Plain (above ++ [.utf8 name]))
    (folder : remote.FolderAt root parent (relKey above))
    (free
      : ∀ id item, remote.ItemAt root id item (relKey (above ++ [.utf8 name])) → id = target)
    : (remote.put target { old with name, parent }).Sound root := by
  obtain ⟨namesAbove, ordinary⟩ := plainNames_concat.mp plain.2
  have pushed : pushKey (relKey above) name = relKey (above ++ [.utf8 name]) :=
    (relKey_pushText namesAbove name).symm
  have items {id : DriveId} {item : RemoteItem} {path : String} :=
    @itemAt_moved remote root target old parent (relKey above) name key sound itemAt alone elsewhere
      folder id item path
  refine ⟨?_, ?_, ?_⟩
  · rw [Rooted, item?_put, if_neg]
    · exact sound.rooted
    · rintro rfl
      have found := itemAt.1
      rw [sound.rooted] at found
      cases found
  · intro id id' item item' path first second
    rw [items] at first second
    rcases first with ⟨other, first⟩ | ⟨rfl, -, rfl⟩
    · rcases second with ⟨-, second⟩ | ⟨rfl, -, rfl⟩
      · exact sound.unique _ _ _ _ _ first second
      · exact free _ _ (pushed ▸ first)
    · rcases second with ⟨other, second⟩ | ⟨rfl, -, -⟩
      · exact (free _ _ (pushed ▸ second)).symm
      · rfl
  · intro id item path there
    rw [items] at there
    rcases there with ⟨-, before⟩ | ⟨rfl, rfl, rfl⟩
    · exact sound.plain _ _ _ before
    · exact ordinary

end Moved

end Remote

end SyncGDrive
