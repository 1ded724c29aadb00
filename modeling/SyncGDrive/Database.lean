import SyncGDrive.Config
import SyncGDrive.Remote.PathCache

/-! The SQLite tables the engine keeps between runs: `file_index`, `dir_index` and the
queue of operations recorded while the remote is out of reach.
-/

namespace SyncGDrive

/-- A row of `file_index`. -/
structure FileEntry where
  path : String
  hash : String
  mtime : Int
  deriving DecidableEq

/-- The columns of `file_index` behind its primary key. -/
structure FileColumns where
  hash : String
  mtime : Int
  deriving DecidableEq

/-- A row of `offline_queue`. -/
structure OfflineTask where
  id : Nat
  action : String
  relativePath : String
  extra : Option String
  deriving DecidableEq

/-- The table `offline_queue`, in ascending order of its `AUTOINCREMENT` key. -/
structure OfflineQueue where
  rows : List OfflineTask
  nextId : Nat
  ascending : rows.Pairwise (fun earlier later => earlier.id < later.id)
  fresh : ∀ row ∈ rows, row.id < nextId

namespace OfflineQueue

def empty : OfflineQueue := ⟨[], 1, .nil, by simp⟩

def push (queue : OfflineQueue) (action relativePath : String) (extra : Option String)
    : OfflineQueue where
  rows := queue.rows ++ [⟨queue.nextId, action, relativePath, extra⟩]
  nextId := queue.nextId + 1
  ascending := by
    refine List.pairwise_append.mpr ⟨queue.ascending, List.pairwise_singleton _ _, ?_⟩
    intro row member last same
    rw [List.mem_singleton.mp same]
    exact queue.fresh row member
  fresh := by
    intro row member
    rcases List.mem_append.mp member with earlier | last
    · exact Nat.lt_succ_of_lt (queue.fresh row earlier)
    · rw [List.mem_singleton.mp last]
      exact Nat.lt_succ_self _

def remove (queue : OfflineQueue) (id : Nat) : OfflineQueue where
  rows := queue.rows.filter (fun row => row.id ≠ id)
  nextId := queue.nextId
  ascending := queue.ascending.sublist List.filter_sublist
  fresh := fun row member => queue.fresh row (List.mem_of_mem_filter member)

end OfflineQueue

structure Database where
  fileIndex : AList (fun _ : String => FileColumns) := ∅
  dirIndex : List String := []
  offlineQueue : OfflineQueue := .empty

namespace Database

/-- The columns stored for a path. -/
def row (db : Database) (path : String) : Option FileColumns := db.fileIndex.lookup path

def get (db : Database) (path : String) : Option FileEntry :=
  (db.row path).map (fun columns => ⟨path, columns.hash, columns.mtime⟩)

def upsert (db : Database) (entry : FileEntry) : Database :=
  { db with fileIndex := db.fileIndex.insert entry.path ⟨entry.hash, entry.mtime⟩ }

def delete (db : Database) (path : String) : Database :=
  { db with fileIndex := db.fileIndex.erase path }

/-- `UPDATE file_index SET path = to WHERE path = from`: it fails on the primary key when
another row already has the new path.
-/
def rename (db : Database) (source target : String) : Except Error Database :=
  match db.row source with
  | none => .ok db
  | some columns =>
      if source = target then .ok db
      else if (db.row target).isSome then
        .error (.msg "UNIQUE constraint failed: file_index.path")
      else
        .ok { db with fileIndex := (db.fileIndex.erase source).insert target columns }

def clear (db : Database) : Database := { db with fileIndex := ∅ }

def clearDirs (db : Database) : Database := { db with dirIndex := [] }

/-- The paths of `file_index`; the source collects them in a `HashSet`. -/
def allPaths (db : Database) : List String := db.fileIndex.keys

def pushOfflineTask (db : Database) (action path : String) (extra : Option String)
    : Database :=
  { db with offlineQueue := db.offlineQueue.push action path extra }

def getOfflineTasks (db : Database) : List OfflineTask := db.offlineQueue.rows

def removeOfflineTask (db : Database) (id : Nat) : Database :=
  { db with offlineQueue := db.offlineQueue.remove id }

theorem row_upsert (db : Database) (entry : FileEntry) (path : String)
    : (db.upsert entry).row path
      = if path = entry.path then some ⟨entry.hash, entry.mtime⟩ else db.row path := by
  by_cases same : path = entry.path
  · subst same
    simp [row, upsert]
  · simp [row, upsert, same, AList.lookup_insert_ne same]

theorem row_delete (db : Database) (path other : String)
    : (db.delete path).row other = if other = path then none else db.row other := by
  by_cases same : other = path
  · subst same
    simp [row, delete]
  · simp [row, delete, same, AList.lookup_erase_ne same]

/-- A renaming that succeeds changes nothing, or moves the columns to a path that had none. -/
theorem row_rename {db renamed : Database} {source target : String}
    (renames : db.rename source target = .ok renamed)
    : renamed = db
      ∨ ∃ columns, source ≠ target ∧ db.row source = some columns ∧ db.row target = none
        ∧ ∀ path,
            renamed.row path
            = if path = target then some columns else if path = source then none
              else db.row path := by
  unfold rename at renames
  split at renames
  · cases renames
    exact .inl rfl
  · rename_i columns found
    split at renames
    · cases renames
      exact .inl rfl
    · rename_i differs
      split at renames
      · cases renames
      · rename_i free
        cases renames
        refine .inr ⟨columns, differs, found, by simpa using free, fun path => ?_⟩
        by_cases same : path = target
        · subst same
          simp [row]
        · by_cases old : path = source
          · subst old
            simp [row, same, AList.lookup_insert_ne same]
          · simp [row, same, old, AList.lookup_insert_ne same, AList.lookup_erase_ne old]

theorem mem_allPaths {db : Database} {path : String}
    : path ∈ db.allPaths ↔ (db.row path).isSome := by
  rw [allPaths, row, AList.lookup_isSome, AList.mem_keys]

theorem allPaths_nodup (db : Database) : db.allPaths.Nodup := db.fileIndex.keys_nodup

end Database

end SyncGDrive
