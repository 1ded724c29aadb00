import SyncGDrive.Data.Retain
import SyncGDrive.Local.Path

/-! The in-memory map from relative keys to remote identifiers. -/

namespace SyncGDrive

/-- An identifier that the remote service assigns. -/
abbrev DriveId := String

structure CacheEntry where
  driveId : DriveId
  parentId : DriveId
  deriving DecidableEq

/-- `RemoteFile`. -/
structure RemoteFile where
  relativePath : String
  driveId : DriveId
  parentId : DriveId
  md5 : String
  size : Nat
  modifiedTime : Int
  deriving DecidableEq

/-- `RemoteDir`. -/
structure RemoteDir where
  relativePath : String
  driveId : DriveId
  parentId : DriveId
  deriving DecidableEq

/-- The flat image of a remote tree. -/
structure RemoteIndex where
  files : List RemoteFile
  dirs : List RemoteDir
  deriving DecidableEq

structure PathCache where
  entries : AList (fun _ : String => CacheEntry) := ∅

namespace PathCache

def lookup (cache : PathCache) (relativePath : String) : Option CacheEntry :=
  cache.entries.lookup relativePath

def insert (cache : PathCache) (relativePath : String) (driveId parentId : DriveId)
    : PathCache :=
  ⟨cache.entries.insert relativePath ⟨driveId, parentId⟩⟩

/-- The listed folders first, then the listed files. -/
def rebuildFromIndex (_ : PathCache) (index : RemoteIndex) : PathCache :=
  let folders := index.dirs.foldl
    (fun cache dir => cache.insert dir.relativePath dir.driveId dir.parentId)
    (⟨∅⟩ : PathCache)
  index.files.foldl
    (fun cache file => cache.insert file.relativePath file.driveId file.parentId) folders

/-- Does `key` lie below `relativePath`, as texts: does it start with `relativePath/`? -/
def isBelow (relativePath key : String) : Bool :=
  (relativePath ++ "/").toList.isPrefixOf key.toList

/-- Drop the key itself and every key that starts with it and a `/`. -/
def removeCascades (cache : PathCache) (relativePath : String) : PathCache :=
  ⟨(cache.entries.erase relativePath).retain (fun key => !isBelow relativePath key)⟩

@[simp] theorem lookup_empty (key : String) : (⟨∅⟩ : PathCache).lookup key = none := rfl

theorem lookup_insert (cache : PathCache) (key other : String) (driveId parentId : DriveId)
    : (cache.insert key driveId parentId).lookup other
      = if other = key then some ⟨driveId, parentId⟩ else cache.lookup other := by
  by_cases same : other = key
  · subst same
    simp [lookup, insert]
  · simp [lookup, insert, same, AList.lookup_insert_ne same]

theorem lookup_removeCascades (cache : PathCache) (key other : String)
    : (cache.removeCascades key).lookup other
      = if other = key ∨ isBelow key other then none else cache.lookup other := by
  simp only [lookup, removeCascades, AList.lookup_retain]
  by_cases same : other = key
  · subst same
    simp
  · cases below : isBelow key other <;> simp [same, AList.lookup_erase_ne same]

/-- Between keys of plain paths, lying below as texts is lying below as paths. -/
theorem isBelow_relKey {rel rel' : Path} (plain : Plain rel) (plain' : Plain rel')
    (below : isBelow (relKey rel) (relKey rel') = true)
    : ∃ name rest, rel' = rel ++ name :: rest := by
  obtain ⟨tail, text⟩ : ∃ tail, (relKey rel').toList = (relKey rel).toList ++ '/' :: tail := by
    obtain ⟨tail, same⟩ := List.isPrefixOf_iff_prefix.mp below
    exact ⟨tail, by simpa using same.symm⟩
  have split := components_relKey plain'
  rw [components, pieces, text, List.splitOn_append_cons_self, List.map_append, Path.named,
    List.filter_append, ← pieces, ← Path.named, ← components, components_relKey plain] at split
  cases rest : Path.named ((tail.splitOn '/').map (fun piece => .utf8 (String.ofList piece))) with
  | nil =>
      rw [← Path.named, rest, List.append_nil] at split
      have lengths := congrArg List.length text
      simp [split] at lengths
  | cons name more => exact ⟨name, more, by rw [← split, ← Path.named, rest]⟩

end PathCache

end SyncGDrive
