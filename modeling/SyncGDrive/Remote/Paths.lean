import SyncGDrive.Remote.Store

/-! How provider calls move the items along paths: a new leaf, new content in place, and an
item put in the trash.
-/

namespace SyncGDrive

namespace Remote

variable {remote : Remote} {root : DriveId}

-----------------------------------------------------------------------------------------
-- Sound trees
-----------------------------------------------------------------------------------------

/-- Below the configured folder every path has one item, and plain names spell it. -/
structure Sound (remote : Remote) (root : DriveId) : Prop where
  rooted : remote.Rooted root
  unique : remote.UniquePaths root
  plain : ∀ id item key, remote.ItemAt root id item key → PlainName item.name

/-- A folder stands at one path only, by induction on the way to it. -/
theorem Rooted.folderAt_unique (rooted : remote.Rooted root) {id : DriveId} {key key' : String}
    (first : remote.FolderAt root id key) (second : remote.FolderAt root id key')
    : key = key' := by
  induction first generalizing key' with
  | root =>
      cases second with
      | root => rfl
      | child found _ _ _ => rw [rooted] at found; cases found
  | child found folder live parent ih =>
      cases second with
      | root => rw [rooted] at found; cases found
      | child found' folder' live' parent' =>
          rw [found, Option.some.injEq] at found'
          subst found'
          rw [ih parent']

/-- An item stands at one path only. -/
theorem Rooted.itemAt_unique (rooted : remote.Rooted root) {id : DriveId} {item : RemoteItem}
    {key key' : String} (first : remote.ItemAt root id item key)
    (second : remote.ItemAt root id item key')
    : key = key' := by
  obtain ⟨-, -, above, parent, rfl⟩ := first
  obtain ⟨-, -, above', parent', rfl⟩ := second
  rw [rooted.folderAt_unique parent parent']

/-- A live folder is an item at its path. -/
theorem FolderAt.itemAt {id : DriveId} {key : String} (folder : remote.FolderAt root id key)
    : id = root ∧ key = ""
      ∨ ∃ item, remote.ItemAt root id item key ∧ item.kind = .folder := by
  cases folder with
  | root => exact .inl ⟨rfl, rfl⟩
  | child found folder live parent => exact .inr ⟨_, ⟨found, live, _, parent, rfl⟩, folder⟩

/-- A folder item is a live folder at its path. -/
theorem ItemAt.folderAt {id : DriveId} {item : RemoteItem} {key : String}
    (itemAt : remote.ItemAt root id item key) (folder : item.kind = .folder)
    : remote.FolderAt root id key := by
  obtain ⟨found, live, above, parent, rfl⟩ := itemAt
  exact .child found folder live parent

/-- In a sound tree the key of a folder spells a plain path, by induction on the way. -/
theorem Sound.folder_key (sound : remote.Sound root) {id : DriveId} {key : String}
    (folder : remote.FolderAt root id key)
    : ∃ rel, PlainNames rel ∧ key = relKey rel := by
  induction folder with
  | root => exact ⟨[], by simp [PlainNames], by simp⟩
  | @child id item above found kind live parent ih =>
      obtain ⟨rel, names, rfl⟩ := ih
      have ordinary := sound.plain id item _ ⟨found, live, _, parent, rfl⟩
      exact ⟨rel ++ [.utf8 item.name], plainNames_concat.mpr ⟨names, ordinary⟩,
        (relKey_pushText names item.name).symm⟩

/-- In a sound tree the key of an item spells a plain path that ends in its name. -/
theorem Sound.item_key (sound : remote.Sound root) {id : DriveId} {item : RemoteItem}
    {key : String} (itemAt : remote.ItemAt root id item key)
    : ∃ above, Plain (above ++ [.utf8 item.name]) ∧ key = relKey (above ++ [.utf8 item.name])
      ∧ remote.FolderAt root item.parent (relKey above) := by
  obtain ⟨found, live, above, parent, rfl⟩ := itemAt
  have ordinary := sound.plain id item _ ⟨found, live, above, parent, rfl⟩
  obtain ⟨rel, names, rfl⟩ := sound.folder_key parent
  have plain : Plain (rel ++ [.utf8 item.name]) :=
    ⟨by simp, plainNames_concat.mpr ⟨names, ordinary⟩⟩
  exact ⟨rel, plain, (relKey_pushText names item.name).symm, parent⟩

/-- In a sound tree one folder stands at each path. -/
theorem Sound.folder_unique (sound : remote.Sound root) {id id' : DriveId} {key : String}
    (first : remote.FolderAt root id key) (second : remote.FolderAt root id' key)
    : id = id' := by
  rcases first.itemAt with ⟨rfl, rfl⟩ | ⟨item, itemAt, -⟩
  · rcases second.itemAt with ⟨rfl, -⟩ | ⟨item', itemAt', -⟩
    · rfl
    · obtain ⟨above, plain, empty, -⟩ := sound.item_key itemAt'
      exact absurd empty.symm (relKey_ne_empty plain)
  · rcases second.itemAt with ⟨rfl, rfl⟩ | ⟨item', itemAt', -⟩
    · obtain ⟨above, plain, empty, -⟩ := sound.item_key itemAt
      exact absurd empty.symm (relKey_ne_empty plain)
    · exact sound.unique _ _ _ _ _ itemAt itemAt'

/-- In a sound tree an item has the name and the parent that its path spells. -/
theorem Sound.item_push (sound : remote.Sound root) {id parent : DriveId} {item : RemoteItem}
    {above : Path} {name : String} (plain : Plain (above ++ [.utf8 name]))
    (folder : remote.FolderAt root parent (relKey above))
    (itemAt : remote.ItemAt root id item (relKey (above ++ [.utf8 name])))
    : item.name = name ∧ item.parent = parent := by
  obtain ⟨above', plain', same, folder'⟩ := sound.item_key itemAt
  have same := relKey_inj plain plain' same
  rw [List.append_inj_left same (by simpa using congrArg List.length same)] at folder
  have named : OsString.utf8 name = .utf8 item.name := by
    simpa using congrArg List.getLast? same
  exact ⟨(OsString.utf8.inj named).symm, (sound.folder_unique folder folder').symm⟩

/-- Above a folder there are folders at every prefix of its path, by induction on the way.
-/
theorem Sound.folder_above (sound : remote.Sound root) {id : DriveId} {key : String}
    (folder : remote.FolderAt root id key) {rel rest : Path} (names : PlainNames (rel ++ rest))
    (spelled : key = relKey (rel ++ rest))
    : ∃ id', remote.FolderAt root id' (relKey rel) := by
  induction folder generalizing rest with
  | root =>
      have empty : rel ++ rest = [] := by
        by_contra nonempty
        exact relKey_ne_empty ⟨nonempty, names⟩ spelled.symm
      rw [(List.append_eq_nil_iff.mp empty).1, relKey_nil]
      exact ⟨root, .root⟩
  | @child id item above found kind live parent ih =>
      rcases List.eq_nil_or_concat rest with rfl | ⟨rest, name, rfl⟩
      · rw [List.append_nil] at spelled
        exact ⟨id, spelled ▸ .child found kind live parent⟩
      · rw [List.concat_eq_append, ← List.append_assoc] at names spelled
        have whole : Plain ((rel ++ rest) ++ [name]) := ⟨by simp, names⟩
        obtain ⟨above', namesAbove, rfl⟩ := sound.folder_key parent
        have ordinary := sound.plain id item _ ⟨found, live, _, parent, rfl⟩
        have plain : Plain (above' ++ [.utf8 item.name]) :=
          ⟨by simp, plainNames_concat.mpr ⟨namesAbove, ordinary⟩⟩
        rw [← relKey_pushText namesAbove] at spelled
        have same := relKey_inj plain whole spelled
        rw [List.append_inj_left' same rfl] at ih
        exact ih (PlainNames.append.mp names).1 rfl

/-- In a sound tree nothing lies below a file. -/
theorem Sound.not_below_file (sound : remote.Sound root) {id : DriveId} {item : RemoteItem}
    {rel : Path} (plain : Plain rel) (itemAt : remote.ItemAt root id item (relKey rel))
    (file : item.kind ≠ .folder) {id' : DriveId} {item' : RemoteItem} {key : String}
    (other : remote.ItemAt root id' item' key)
    : PathCache.isBelow (relKey rel) key = false := by
  by_contra below
  obtain ⟨above, plain', rfl, folder⟩ := sound.item_key other
  obtain ⟨name, rest, same⟩ :=
    PathCache.isBelow_relKey plain plain' (Bool.not_eq_false _ ▸ below)
  obtain ⟨init, last, whole⟩ := List.eq_nil_or_concat (name :: rest) |>.resolve_left (by simp)
  rw [whole, List.concat_eq_append, ← List.append_assoc] at same
  have prefixed := List.append_inj_left' same rfl
  rw [prefixed] at folder plain'
  obtain ⟨id₁, above₁⟩ := sound.folder_above folder (PlainNames.append.mp plain'.2).1 rfl
  rcases above₁.itemAt with ⟨-, empty⟩ | ⟨item₁, itemAt₁, folder₁⟩
  · exact relKey_ne_empty plain empty
  · have unique := sound.unique _ _ _ _ _ itemAt itemAt₁
    subst unique
    have unique := itemAt.1.symm.trans itemAt₁.1
    rw [Option.some.injEq] at unique
    exact file (unique ▸ folder₁)

-----------------------------------------------------------------------------------------
-- A new leaf
-----------------------------------------------------------------------------------------

section Added

variable {fresh parent : DriveId} {above name : String} {kind : ItemKind}

/-- Folders after a new leaf has been put under whatever its parent is. -/
theorem folderAt_leaf (unused : remote.Unused root fresh) (other : parent ≠ fresh) {id : DriveId}
    {key : String}
    : (remote.put fresh ⟨name, parent, kind, false⟩).FolderAt root id key
      ↔ remote.FolderAt root id key
        ∨ kind = .folder ∧ id = fresh
          ∧ ∃ above, remote.FolderAt root parent above ∧ key = pushKey above name := by
  constructor
  · intro folderAt
    induction folderAt with
    | root => exact .inl .root
    | @child id item above' found folderKind live under ih =>
        rw [item?_put] at found
        split at found
        · rename_i same
          obtain rfl := Option.some.inj found
          rcases ih with old | ⟨-, new, -⟩
          · exact .inr ⟨folderKind, same, above', old, rfl⟩
          · exact absurd new other
        · rcases ih with old | ⟨-, new, -⟩
          · exact .inl (.child found folderKind live old)
          · exact absurd new (unused.childless id item found)
  · have keeps {id : DriveId} {key : String} (old : remote.FolderAt root id key)
        : (remote.put fresh ⟨name, parent, kind, false⟩).FolderAt root id key := by
      induction old with
      | root => exact .root
      | @child id item above found folderKind live under ih =>
          refine .child ?_ folderKind live ih
          rw [item?_put, if_neg]
          · exact found
          · rintro rfl
            rw [unused.unknown] at found; cases found
    rintro (old | ⟨rfl, rfl, above, folder, rfl⟩)
    · exact keeps old
    · exact .child (by rw [item?_put, if_pos rfl]) rfl rfl (keeps folder)

/-- Items after a new leaf has been put under whatever its parent is. -/
theorem itemAt_leaf (unused : remote.Unused root fresh) (other : parent ≠ fresh) {id : DriveId}
    {item : RemoteItem} {key : String}
    : (remote.put fresh ⟨name, parent, kind, false⟩).ItemAt root id item key
      ↔ remote.ItemAt root id item key
        ∨ id = fresh ∧ item = ⟨name, parent, kind, false⟩
          ∧ ∃ above, remote.FolderAt root parent above ∧ key = pushKey above name := by
  simp only [ItemAt, folderAt_leaf unused other, item?_put]
  constructor
  · rintro ⟨found, live, above', under, rfl⟩
    split at found
    · rename_i same
      obtain rfl := Option.some.inj found
      rcases under with old | ⟨-, new, -⟩
      · exact .inr ⟨same, rfl, above', old, rfl⟩
      · exact absurd new other
    · rcases under with old | ⟨-, new, -⟩
      · exact .inl ⟨found, live, above', old, rfl⟩
      · exact absurd new (unused.childless id item found)
  · rintro (⟨found, live, above', under, rfl⟩ | ⟨rfl, rfl, above', folder, rfl⟩)
    · refine ⟨?_, live, above', .inl under, rfl⟩
      rw [if_neg]
      · exact found
      · rintro rfl
        rw [unused.unknown] at found; cases found
    · exact ⟨if_pos rfl, rfl, above', .inl folder, rfl⟩

/-- A live folder is not the new leaf. -/
theorem FolderAt.ne_unused (folder : remote.FolderAt root parent above)
    (unused : remote.Unused root fresh)
    : parent ≠ fresh := by
  rintro rfl
  rcases folder.itemAt with ⟨same, -⟩ | ⟨item, ⟨found, -⟩, -⟩
  · exact unused.notRoot same
  · rw [unused.unknown] at found; cases found

/-- A folder has one path to push a name on. -/
theorem Rooted.pushed_iff (rooted : remote.Rooted root)
    (folder : remote.FolderAt root parent above) {key : String}
    : (∃ above', remote.FolderAt root parent above' ∧ key = pushKey above' name)
      ↔ key = pushKey above name := by
  constructor
  · rintro ⟨above', folder', rfl⟩
    rw [rooted.folderAt_unique folder' folder]
  · rintro rfl
    exact ⟨above, folder, rfl⟩

/-- Folders after a new leaf has been added. -/
theorem folderAt_added (rooted : remote.Rooted root) (unused : remote.Unused root fresh)
    (folder : remote.FolderAt root parent above) {id : DriveId} {key : String}
    : (remote.put fresh ⟨name, parent, kind, false⟩).FolderAt root id key
      ↔ remote.FolderAt root id key
        ∨ kind = .folder ∧ id = fresh ∧ key = pushKey above name := by
  rw [folderAt_leaf unused (folder.ne_unused unused), rooted.pushed_iff folder]

/-- Items after a new leaf has been added. -/
theorem itemAt_added (rooted : remote.Rooted root) (unused : remote.Unused root fresh)
    (folder : remote.FolderAt root parent above) {id : DriveId} {item : RemoteItem}
    {key : String}
    : (remote.put fresh ⟨name, parent, kind, false⟩).ItemAt root id item key
      ↔ remote.ItemAt root id item key
        ∨ id = fresh ∧ item = ⟨name, parent, kind, false⟩ ∧ key = pushKey above name := by
  rw [itemAt_leaf unused (folder.ne_unused unused), rooted.pushed_iff folder]

end Added

-----------------------------------------------------------------------------------------
-- A file changed in place
-----------------------------------------------------------------------------------------

section Replaced

variable {target : DriveId} {old new : RemoteItem}

/-- Folders do not notice a file, be it new or changed. -/
theorem folderAt_put (file : ∀ item, remote.item? target = some item → item.kind ≠ .folder)
    (newFile : new.kind ≠ .folder) {id : DriveId} {key : String}
    : (remote.put target new).FolderAt root id key ↔ remote.FolderAt root id key := by
  constructor
  · intro folderAt
    induction folderAt with
    | root => exact .root
    | @child id item above found folder live under ih =>
        rw [item?_put] at found
        split at found
        · obtain rfl := Option.some.inj found
          exact absurd folder newFile
        · exact .child found folder live ih
  · intro folderAt
    induction folderAt with
    | root => exact .root
    | @child id item above found folder live under ih =>
        refine .child ?_ folder live ih
        rw [item?_put, if_neg]
        · exact found
        · rintro rfl
          exact file item found folder

theorem folderAt_replaced (found : remote.item? target = some old)
    (oldFile : old.kind ≠ .folder) (newFile : new.kind ≠ .folder) {id : DriveId} {key : String}
    : (remote.put target new).FolderAt root id key ↔ remote.FolderAt root id key :=
  folderAt_put (fun _ found' => Option.some.inj (found.symm.trans found') ▸ oldFile) newFile

/-- New content leaves a file where it is. -/
theorem itemAt_updated (found : remote.item? target = some old) {content : List UInt8}
    (oldFile : old.kind ≠ .folder) {id : DriveId} {item : RemoteItem} {key : String}
    : (remote.put target ⟨old.name, old.parent, .file content, old.trashed⟩).ItemAt root id item key
      ↔ id ≠ target ∧ remote.ItemAt root id item key
        ∨ id = target ∧ item = ⟨old.name, old.parent, .file content, old.trashed⟩
          ∧ remote.ItemAt root target old key := by
  have newFile
      : (⟨old.name, old.parent, .file content, old.trashed⟩ : RemoteItem).kind ≠ .folder := by
    simp
  simp only [ItemAt, folderAt_replaced found oldFile newFile, item?_put]
  by_cases same : id = target
  · subst same
    simp only [if_true, ne_eq, not_true, false_and, false_or, true_and, found]
    constructor
    · rintro ⟨⟨⟩, live, there⟩
      exact ⟨rfl, live, there⟩
    · rintro ⟨rfl, live, there⟩
      exact ⟨rfl, live, there⟩
  · simp [same]

/-- A file in the trash is no longer at its path. -/
theorem itemAt_trashed (found : remote.item? target = some old) (oldFile : old.kind ≠ .folder)
    {id : DriveId} {item : RemoteItem} {key : String}
    : (remote.put target { old with trashed := true }).ItemAt root id item key
      ↔ id ≠ target ∧ remote.ItemAt root id item key := by
  have newFile : ({ old with trashed := true } : RemoteItem).kind ≠ .folder := oldFile
  simp only [ItemAt, folderAt_replaced found oldFile newFile, item?_put]
  by_cases same : id = target
  · subst same
    simp only [if_true, ne_eq, not_true, false_and, iff_false, not_and]
    rintro ⟨⟩ live
    cases live
  · simp [same]

end Replaced

-----------------------------------------------------------------------------------------
-- Sound trees stay sound
-----------------------------------------------------------------------------------------

/-- A new leaf at a free path with a plain name keeps the tree sound. -/
theorem Sound.added {fresh parent : DriveId} {above : Path} {name : String} {kind : ItemKind}
    (sound : remote.Sound root) (unused : remote.Unused root fresh)
    (plain : Plain (above ++ [.utf8 name]))
    (folder : remote.FolderAt root parent (relKey above))
    (free : ∀ id item, ¬ remote.ItemAt root id item (relKey (above ++ [.utf8 name])))
    : (remote.put fresh ⟨name, parent, kind, false⟩).Sound root := by
  obtain ⟨namesAbove, ordinary⟩ := plainNames_concat.mp plain.2
  have key : pushKey (relKey above) name = relKey (above ++ [.utf8 name]) :=
    (relKey_pushText namesAbove name).symm
  have items := @itemAt_added remote root fresh parent (relKey above) name kind sound.rooted
    unused folder
  refine ⟨?_, ?_, ?_⟩
  · rw [Rooted, item?_put, if_neg unused.notRoot.symm]
    exact sound.rooted
  · intro id id' item item' path first second
    rw [items] at first second
    rcases first with first | ⟨rfl, rfl, rfl⟩
    · rcases second with second | ⟨rfl, rfl, rfl⟩
      · exact sound.unique _ _ _ _ _ first second
      · exact absurd (key ▸ first) (free _ _)
    · rcases second with second | ⟨rfl, rfl, -⟩
      · exact absurd (key ▸ second) (free _ _)
      · rfl
  · intro id item path itemAt
    rw [items] at itemAt
    rcases itemAt with old | ⟨rfl, rfl, rfl⟩
    · exact sound.plain _ _ _ old
    · exact ordinary

/-- New content keeps the tree sound. -/
theorem Sound.updated {target : DriveId} {old : RemoteItem} {content : List UInt8}
    (sound : remote.Sound root) (found : remote.item? target = some old)
    (oldFile : old.kind ≠ .folder)
    : (remote.put target ⟨old.name, old.parent, .file content, old.trashed⟩).Sound root := by
  refine ⟨?_, ?_, ?_⟩
  · rw [Rooted, item?_put, if_neg]
    · exact sound.rooted
    · rintro rfl
      rw [sound.rooted] at found
      cases found
  · intro id id' item item' path first second
    rw [itemAt_updated found oldFile] at first second
    rcases first with ⟨-, first⟩ | ⟨rfl, -, first⟩ <;>
      rcases second with ⟨-, second⟩ | ⟨rfl, -, second⟩ <;>
      exact sound.unique _ _ _ _ _ first second
  · intro id item path itemAt
    rw [itemAt_updated found oldFile] at itemAt
    rcases itemAt with ⟨-, itemAt⟩ | ⟨rfl, rfl, itemAt⟩
    · exact sound.plain _ _ _ itemAt
    · have ordinary := sound.plain _ _ _ itemAt
      exact ordinary

/-- Removing a file keeps the tree sound. -/
theorem Sound.trashed {target : DriveId} {old : RemoteItem} (sound : remote.Sound root)
    (found : remote.item? target = some old) (oldFile : old.kind ≠ .folder)
    : (remote.put target { old with trashed := true }).Sound root := by
  refine ⟨?_, ?_, ?_⟩
  · rw [Rooted, item?_put, if_neg]
    · exact sound.rooted
    · rintro rfl
      rw [sound.rooted] at found
      cases found
  · intro id id' item item' path first second
    rw [itemAt_trashed found oldFile] at first second
    exact sound.unique _ _ _ _ _ first.2 second.2
  · intro id item path itemAt
    rw [itemAt_trashed found oldFile] at itemAt
    exact sound.plain _ _ _ itemAt.2

-----------------------------------------------------------------------------------------
-- Files at their paths
-----------------------------------------------------------------------------------------

/-- A new folder changes no file. -/
theorem fileAt_addedFolder {fresh parent : DriveId} {above name : String}
    (rooted : remote.Rooted root) (unused : remote.Unused root fresh)
    (folder : remote.FolderAt root parent above) {key : String} {content : List UInt8}
    : (remote.put fresh ⟨name, parent, .folder, false⟩).FileAt root key content
      ↔ remote.FileAt root key content := by
  simp only [FileAt, itemAt_added rooted unused folder]
  constructor
  · rintro ⟨id, item, old | ⟨rfl, rfl, rfl⟩, kind⟩
    · exact ⟨id, item, old, kind⟩
    · cases kind
  · rintro ⟨id, item, old, kind⟩
    exact ⟨id, item, .inl old, kind⟩

/-- A new file is the only change to the files. -/
theorem fileAt_addedFile {fresh parent : DriveId} {above name : String}
    {content : List UInt8} (rooted : remote.Rooted root) (unused : remote.Unused root fresh)
    (folder : remote.FolderAt root parent above) {key : String} {content' : List UInt8}
    : (remote.put fresh ⟨name, parent, .file content, false⟩).FileAt root key content'
      ↔ remote.FileAt root key content' ∨ key = pushKey above name ∧ content' = content := by
  simp only [FileAt, itemAt_added rooted unused folder]
  constructor
  · rintro ⟨id, item, old | ⟨rfl, rfl, rfl⟩, kind⟩
    · exact .inl ⟨id, item, old, kind⟩
    · exact .inr ⟨rfl, (ItemKind.file.inj kind).symm⟩
  · rintro (⟨id, item, old, kind⟩ | ⟨rfl, rfl⟩)
    · exact ⟨id, item, .inl old, kind⟩
    · exact ⟨fresh, _, .inr ⟨rfl, rfl, rfl⟩, rfl⟩

/-- New content shows at the path of its file only. -/
theorem fileAt_updated {target : DriveId} {old : RemoteItem} {content : List UInt8}
    {key : String} (sound : remote.Sound root) (itemAt : remote.ItemAt root target old key)
    (oldFile : old.kind ≠ .folder) {key' : String} {content' : List UInt8}
    : (remote.put target ⟨old.name, old.parent, .file content, old.trashed⟩).FileAt root key'
        content'
      ↔ key' ≠ key ∧ remote.FileAt root key' content' ∨ key' = key ∧ content' = content := by
  simp only [FileAt, itemAt_updated itemAt.1 oldFile]
  constructor
  · rintro ⟨id, item, ⟨other, old⟩ | ⟨rfl, rfl, old⟩, kind⟩
    · refine .inl ⟨?_, id, item, old, kind⟩
      rintro rfl
      exact other (sound.unique _ _ _ _ _ old itemAt)
    · exact .inr ⟨sound.rooted.itemAt_unique old itemAt, (ItemKind.file.inj kind).symm⟩
  · rintro (⟨other, id, item, old', kind⟩ | ⟨rfl, rfl⟩)
    · refine ⟨id, item, .inl ⟨?_, old'⟩, kind⟩
      rintro rfl
      rw [Option.some.inj (old'.1.symm.trans itemAt.1)] at old'
      exact other (sound.rooted.itemAt_unique old' itemAt)
    · exact ⟨target, _, .inr ⟨rfl, rfl, itemAt⟩, rfl⟩

/-- A removed file is missing from its path only. -/
theorem fileAt_trashed {target : DriveId} {old : RemoteItem} {key : String}
    (sound : remote.Sound root) (itemAt : remote.ItemAt root target old key)
    (oldFile : old.kind ≠ .folder) {key' : String} {content : List UInt8}
    : (remote.put target { old with trashed := true }).FileAt root key' content
      ↔ key' ≠ key ∧ remote.FileAt root key' content := by
  simp only [FileAt, itemAt_trashed itemAt.1 oldFile]
  constructor
  · rintro ⟨id, item, ⟨other, old⟩, kind⟩
    refine ⟨?_, id, item, old, kind⟩
    rintro rfl
    exact other (sound.unique _ _ _ _ _ old itemAt)
  · rintro ⟨other, id, item, old', kind⟩
    refine ⟨id, item, ⟨?_, old'⟩, kind⟩
    rintro rfl
    rw [Option.some.inj (old'.1.symm.trans itemAt.1)] at old'
    exact other (sound.rooted.itemAt_unique old' itemAt)

end Remote

end SyncGDrive
