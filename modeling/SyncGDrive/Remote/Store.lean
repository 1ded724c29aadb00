import SyncGDrive.Config
import SyncGDrive.Remote.PathCache

/-! The remote tree behind `RemoteProvider`: items with a name and a parent, addressed by
identifier. A path is what the names spell on the way down from the configured folder, so
several items may share one.
-/

namespace SyncGDrive

-----------------------------------------------------------------------------------------
-- Items and provider calls
-----------------------------------------------------------------------------------------

inductive ItemKind
  | folder
  | file (content : List UInt8)
  deriving DecidableEq

structure RemoteItem where
  name : String
  parent : DriveId
  kind : ItemKind
  trashed : Bool := false
  deriving DecidableEq

structure Remote where
  items : AList (fun _ : DriveId => RemoteItem) := ∅

namespace Remote

def item? (remote : Remote) (id : DriveId) : Option RemoteItem := remote.items.lookup id

def put (remote : Remote) (id : DriveId) (item : RemoteItem) : Remote :=
  ⟨remote.items.insert id item⟩

/-- The answer for an identifier the service does not know. -/
def notFound : Error := .msg "Erreur API : 404 Not Found"

/-- A live folder of the given name directly under `parent`, as the search query asks. -/
def folderNamed (remote : Remote) (parent : DriveId) (name : String) : Option DriveId :=
  (remote.items.entries.find? (fun entry =>
    entry.2.kind = .folder ∧ entry.2.parent = parent ∧ entry.2.name = name
      ∧ entry.2.trashed = false)).map (·.1)

/-- `mkdir`: reuse a folder of that name, or create one under the identifier `fresh`. -/
def mkdir (remote : Remote) (fresh parent : DriveId) (name : String) : DriveId × Remote :=
  match remote.folderNamed parent name with
  | some id => (id, remote)
  | none => (fresh, remote.put fresh ⟨name, parent, .folder, false⟩)

/-- `upload`: with an identifier, new content for that file where it stands; without one, a
new file under `fresh`.
-/
def upload (remote : Remote) (fresh parent : DriveId) (name : String)
    (existing : Option DriveId) (content : List UInt8)
    : Except Error DriveId × Remote :=
  match existing with
  | none => (.ok fresh, remote.put fresh ⟨name, parent, .file content, false⟩)
  | some id =>
      match remote.item? id with
      | some ⟨_, standing, .file _, trashed⟩ =>
          (.ok id, remote.put id ⟨name, standing, .file content, trashed⟩)
      | _ => (.error notFound, remote)

/-- `delete` in its default mode: the item goes to the trash, and stays there if it was. -/
def delete (remote : Remote) (id : DriveId) : Except Error Unit × Remote :=
  match remote.item? id with
  | some item => (.ok (), remote.put id { item with trashed := true })
  | none => (.error notFound, remote)

/-- `rename`: a new name and a new parent for an item. -/
def rename (remote : Remote) (id : DriveId) (name : String) (parent : DriveId)
    : Except Error Unit × Remote :=
  match remote.item? id with
  | some item => (.ok (), remote.put id { item with name, parent })
  | none => (.error notFound, remote)

-----------------------------------------------------------------------------------------
-- Paths of items
-----------------------------------------------------------------------------------------

/-- The live folder `id` is reached from `root` along the names that `key` spells. -/
inductive FolderAt (remote : Remote) (root : DriveId) : DriveId → String → Prop
  | root : FolderAt remote root root ""
  | child {id : DriveId} {item : RemoteItem} {above : String}
    (found : remote.item? id = some item) (folder : item.kind = .folder)
    (live : item.trashed = false) (parent : FolderAt remote root item.parent above)
    : FolderAt remote root id (pushKey above item.name)

/-- The live item `id` is reached from `root` along the names that `key` spells. -/
def ItemAt (remote : Remote) (root id : DriveId) (item : RemoteItem) (key : String) : Prop :=
  remote.item? id = some item ∧ item.trashed = false
  ∧ ∃ above, remote.FolderAt root item.parent above ∧ key = pushKey above item.name

/-- Some live file with this content is at `key`. -/
def FileAt (remote : Remote) (root : DriveId) (key : String) (content : List UInt8) : Prop :=
  ∃ id item, remote.ItemAt root id item key ∧ item.kind = .file content

/-- No two items share a path. -/
def UniquePaths (remote : Remote) (root : DriveId) : Prop :=
  ∀ id id' item item' key,
    remote.ItemAt root id item key → remote.ItemAt root id' item' key → id = id'

/-- The configured folder is not one of the items found below it. -/
def Rooted (remote : Remote) (root : DriveId) : Prop := remote.item? root = none

/-- An identifier the service has never handed out. -/
structure Unused (remote : Remote) (root fresh : DriveId) : Prop where
  notRoot : fresh ≠ root
  unknown : remote.item? fresh = none
  childless : ∀ id item, remote.item? id = some item → item.parent ≠ fresh

/-- An index lists every live item below `root`, and nothing else. -/
structure Lists (md5 : List UInt8 → String) (remote : Remote) (root : DriveId)
    (index : RemoteIndex) : Prop where
  files
    : ∀ file ∈ index.files,
        ∃ item content,
          remote.ItemAt root file.driveId item file.relativePath ∧ item.parent = file.parentId
          ∧ item.kind = .file content ∧ file.md5 = md5 content ∧ file.size = content.length
  dirs
    : ∀ dir ∈ index.dirs,
        ∃ item,
          remote.ItemAt root dir.driveId item dir.relativePath ∧ item.parent = dir.parentId
          ∧ item.kind = .folder
  everyFile
    : ∀ id item key content,
        remote.ItemAt root id item key → item.kind = .file content
        → ∃ file ∈ index.files, file.driveId = id ∧ file.relativePath = key
  everyDir
    : ∀ id item key,
        remote.ItemAt root id item key → item.kind = .folder
        → ∃ dir ∈ index.dirs, dir.driveId = id ∧ dir.relativePath = key

@[simp] theorem item?_put (remote : Remote) (id other : DriveId) (item : RemoteItem)
    : (remote.put id item).item? other = if other = id then some item else remote.item? other := by
  by_cases same : other = id
  · subst same
    simp [item?, put]
  · simp [item?, put, same, AList.lookup_insert_ne same]

/-- The folder that is found is a live one, as the search query asks. -/
theorem folderNamed_found {remote : Remote} {parent id : DriveId} {name : String}
    (named : remote.folderNamed parent name = some id)
    : ∃ item,
        remote.item? id = some item ∧ item.kind = .folder ∧ item.parent = parent
        ∧ item.name = name ∧ item.trashed = false := by
  obtain ⟨⟨_, item⟩, first, rfl⟩ := Option.map_eq_some_iff.mp named
  have holds := List.find?_some first
  simp only [decide_eq_true_eq] at holds
  exact ⟨item, AList.mem_lookup_iff.mpr (List.mem_of_find?_eq_some first), holds⟩

end Remote

end SyncGDrive
