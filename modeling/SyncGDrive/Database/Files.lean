import SyncGDrive.Database
import SyncGDrive.Database.Migration
import SyncGDrive.Sqlite.Rows

/-! The statements by which the engine reads and changes `file_index` and `dir_index`, and what they
do to the rows when these are the entries of a map of paths.
-/

namespace SyncGDrive

open Sqlite

-----------------------------------------------------------------------------------------
-- The functions of the database
-----------------------------------------------------------------------------------------

namespace Connection

/-- `row.get` for a text. -/
def getText (index : Nat) (column : String) : Value → Except Error String
  | .text value => .ok value
  | other =>
      .error (.msg
        ("Invalid column type " ++ typeName other ++ " at index: " ++ toString index ++ ", name: "
          ++ column))

/-- `row.get` for an `i64`. -/
def getI64 (index : Nat) (column : String) : Value → Except Error Int
  | .integer value => .ok value
  | other =>
      .error (.msg
        ("Invalid column type " ++ typeName other ++ " at index: " ++ toString index ++ ", name: "
          ++ column))

def readFileEntry (row : List Value) : Except Error FileEntry := do
  return {
    path := ← getText 0 "path" (row.getD 0 .null)
    hash := ← getText 1 "hash" (row.getD 1 .null)
    mtime := ← getI64 2 "mtime" (row.getD 2 .null) }

/-- `conn.execute`, behind the mutex. -/
def execute (conn : Connection) (statement : Contents → Except String Contents)
    : Except Error Unit × Connection :=
  match conn.lock with
  | .error error => (.error error, conn)
  | .ok db =>
      match statement db with
      | .error message => (.error (.msg message), conn)
      | .ok after => (.ok (), { conn with contents := after })

def get (conn : Connection) (path : String) : Except Error (Option FileEntry) := do
  let db ← conn.lock
  let rows ←
    sqliteError (db.select "file_index" ["path", "hash", "mtime"] (some ("path", .text path)))
  match rows with
  | [] => return none
  | row :: _ => return some (← readFileEntry row)

def upsert (conn : Connection) (entry : FileEntry) : Except Error Unit × Connection :=
  conn.execute (fun db =>
    db.upsert "file_index" "path" (.text entry.path)
      [("hash", .text entry.hash), ("mtime", .integer entry.mtime)])

def delete (conn : Connection) (path : String) : Except Error Unit × Connection :=
  conn.execute (fun db => db.remove "file_index" (some ("path", .text path)))

def rename (conn : Connection) (source target : String) : Except Error Unit × Connection :=
  conn.execute (fun db =>
    db.assignKey "file_index" "path" (.text target) (some ("path", .text source)))

def clear (conn : Connection) : Except Error Unit × Connection :=
  conn.execute (fun db => db.remove "file_index" none)

def allPaths (conn : Connection) : Except Error (List String) := do
  let db ← conn.lock
  let rows ← sqliteError (db.select "file_index" ["path"] none)
  rows.mapM (fun row => getText 0 "path" (row.getD 0 .null))

def clearDirs (conn : Connection) : Except Error Unit × Connection :=
  conn.execute (fun db => db.remove "dir_index" none)

end Connection

-----------------------------------------------------------------------------------------
-- The rows of the files
-----------------------------------------------------------------------------------------

/-- The columns of `file_index`, as they are created. -/
def fileColumns : List Column :=
  [⟨"path", "TEXT PRIMARY KEY"⟩, ⟨"hash", "TEXT NOT NULL"⟩, ⟨"mtime", "INTEGER NOT NULL"⟩]

def FileEntry.values (entry : FileEntry) : List Value :=
  [.text entry.path, .text entry.hash, .integer entry.mtime]

/-- The rows are the entries of the map, each once. -/
structure HoldsFiles (table : Table) (db : Database) (entries : List FileEntry) : Prop where
  columns : table.columns = fileColumns
  rows : table.rows = entries.map FileEntry.values
  apart : (entries.map FileEntry.path).Nodup
  known : ∀ entry, entry ∈ entries ↔ db.get entry.path = some entry

section Files

variable {table : Table} {db : Database} {entries : List FileEntry} {path : String}

theorem Database.get_path {entry : FileEntry} (found : db.get path = some entry)
    : entry.path = path := by
  unfold Database.get at found
  obtain ⟨columns, -, same⟩ := Option.map_eq_some_iff.mp found
  rw [← same]

theorem Database.get_upsert (db : Database) (entry : FileEntry) (path : String)
    : (db.upsert entry).get path = if path = entry.path then some entry else db.get path := by
  unfold Database.get
  rw [Database.row_upsert]
  split
  · rename_i same
    rw [same]
    rfl
  · rfl

theorem Database.get_delete (db : Database) (path other : String)
    : (db.delete path).get other = if other = path then none else db.get other := by
  unfold Database.get
  rw [Database.row_delete]
  split <;> rfl

theorem Database.get_renamed (db : Database) {source target : String} (columns : FileColumns)
    (moves : source ≠ target) (path : String)
    : Database.get { db with fileIndex := (db.fileIndex.erase source).insert target columns } path
      = if path = target then some ⟨target, columns.hash, columns.mtime⟩
        else if path = source then none else db.get path := by
  unfold Database.get Database.row
  by_cases new : path = target
  · subst new
    simp
  · by_cases old : path = source
    · subst old
      simp [new, AList.lookup_insert_ne new]
    · simp [new, old, AList.lookup_insert_ne new, AList.lookup_erase_ne old]

/-- The columns stand where they were created. -/
theorem positions_files (columns : table.columns = fileColumns)
    : table.position? "path" = some 0 ∧ table.position? "hash" = some 1
      ∧ table.position? "mtime" = some 2 := by
  unfold Table.position?
  rw [columns]
  decide

theorem means_path (columns : table.columns = fileColumns) (entry : FileEntry)
    : table.means (some ("path", .text path)) entry.values = decide (entry.path = path) := by
  simp [Table.means, Table.valueIn, (positions_files columns).1, FileEntry.values]

/-- Without the rows of a path, the entries of the others are left. -/
theorem HoldsFiles.remove (holds : HoldsFiles table db entries) (path : String)
    : HoldsFiles (table.remove (some ("path", .text path))) (db.delete path)
        (entries.filter (fun entry => entry.path ≠ path)) where
  columns := holds.columns
  rows := by
    simp only [Table.remove, holds.rows, List.filter_map, Function.comp_def,
      means_path holds.columns]
    simp
  apart := holds.apart.sublist (List.filter_sublist.map _)
  known := by
    intro entry
    rw [Database.get_delete, List.mem_filter, holds.known]
    by_cases same : entry.path = path <;> simp [same]

theorem HoldsFiles.clear (holds : HoldsFiles table db entries)
    : HoldsFiles (table.remove none) db.clear [] where
  columns := holds.columns
  rows := by simp [Table.remove, Table.means]
  apart := List.nodup_nil
  known := by
    intro entry
    simp [Database.get, Database.row, Database.clear]

/-- A path has a row when it has an entry. -/
theorem HoldsFiles.any_means (holds : HoldsFiles table db entries) (path : String)
    : table.rows.any (table.means (some ("path", .text path))) = (db.get path).isSome := by
  rw [Bool.eq_iff_iff, List.any_eq_true, Option.isSome_iff_exists, holds.rows]
  constructor
  · intro there
    obtain ⟨row, member, meant⟩ := there
    obtain ⟨entry, entered, same⟩ := List.mem_map.mp member
    subst same
    rw [means_path holds.columns, decide_eq_true_iff] at meant
    subst meant
    exact ⟨entry, (holds.known entry).mp entered⟩
  · intro there
    obtain ⟨entry, found⟩ := there
    have same := Database.get_path found
    subst same
    refine ⟨entry.values, List.mem_map_of_mem ((holds.known entry).mpr found), ?_⟩
    rw [means_path holds.columns]
    simp

/-- The names of the columns differ, also without their case. -/
theorem columns_apart
    : fold "path" ≠ fold "hash" ∧ fold "path" ≠ fold "mtime" ∧ fold "hash" ≠ fold "mtime" := by
  decide

theorem assigned_columns (columns : table.columns = fileColumns) (entry other : FileEntry)
    : table.assigned [("hash", .text other.hash), ("mtime", .integer other.mtime)] entry.values
      = FileEntry.values { entry with hash := other.hash, mtime := other.mtime } := by
  obtain ⟨hash, mtime, others⟩ := columns_apart
  unfold Table.assigned
  rw [columns]
  simp [fileColumns, FileEntry.values, hash.symm, mtime.symm, others]

theorem assigned_path (columns : table.columns = fileColumns) (entry : FileEntry) (target : String)
    : table.assigned [("path", .text target)] entry.values
      = FileEntry.values { entry with path := target } := by
  obtain ⟨hash, mtime, -⟩ := columns_apart
  unfold Table.assigned
  rw [columns]
  simp [fileColumns, FileEntry.values, hash, mtime]

theorem insert_entry (columns : table.columns = fileColumns) (entry : FileEntry)
    : (table.insert [("path", .text entry.path), ("hash", .text entry.hash),
        ("mtime", .integer entry.mtime)]).rows
      = table.rows ++ [entry.values] := by
  obtain ⟨hash, mtime, others⟩ := columns_apart
  simp only [Table.insert, columns]
  simp [fileColumns, FileEntry.values, hash, mtime, others]

/-- The entry of a path replaced, the others as they are. -/
def replaceEntry (entry : FileEntry) (entries : List FileEntry) : List FileEntry :=
  entries.map (fun other => if other.path = entry.path then entry else other)

/-- A path without an entry is none of the paths. -/
theorem HoldsFiles.absent (holds : HoldsFiles table db entries) (missing : db.get path = none)
    {entry : FileEntry} (member : entry ∈ entries)
    : entry.path ≠ path := by
  intro same
  have stored := (holds.known entry).mp member
  rw [same, missing] at stored
  cases stored

/-- The paths stay when an entry is replaced. -/
theorem replaceEntry_paths (entry : FileEntry) (entries : List FileEntry)
    : (replaceEntry entry entries).map FileEntry.path = entries.map FileEntry.path := by
  rw [replaceEntry, List.map_map]
  apply List.map_congr_left
  intro other _
  simp only [Function.comp_apply]
  split
  · rename_i same
    exact same.symm
  · rfl

theorem HoldsFiles.replace (holds : HoldsFiles table db entries) (entry : FileEntry)
    {old : FileEntry} (stored : db.get entry.path = some old)
    : HoldsFiles
        (table.assign [("hash", .text entry.hash), ("mtime", .integer entry.mtime)]
          (some ("path", .text entry.path)))
        (db.upsert entry) (replaceEntry entry entries) := by
  constructor
  · exact holds.columns
  · simp only [Table.assign, holds.rows, replaceEntry, List.map_map]
    apply List.map_congr_left
    intro other _
    simp only [Function.comp_apply, means_path holds.columns, decide_eq_true_eq,
      assigned_columns holds.columns]
    split
    · rename_i same
      rw [same]
    · rfl
  · rw [replaceEntry_paths]
    exact holds.apart
  · intro other
    rw [Database.get_upsert, replaceEntry, List.mem_map]
    constructor
    · intro there
      obtain ⟨before, member, same⟩ := there
      split at same
      · subst same
        rw [if_pos rfl]
      · rename_i apart
        subst same
        rw [if_neg apart]
        exact (holds.known before).mp member
    · intro there
      split at there
      · rename_i path
        obtain rfl := Option.some.inj there
        have called := Database.get_path stored
        refine ⟨old, (holds.known old).mpr (by rw [called]; exact stored), ?_⟩
        rw [if_pos called]
      · rename_i apart
        exact ⟨other, (holds.known other).mpr there, if_neg apart⟩

theorem HoldsFiles.add (holds : HoldsFiles table db entries) (entry : FileEntry)
    (missing : db.get entry.path = none)
    : HoldsFiles
        (table.insert [("path", .text entry.path), ("hash", .text entry.hash),
          ("mtime", .integer entry.mtime)])
        (db.upsert entry) (entries ++ [entry]) := by
  constructor
  · exact holds.columns
  · rw [insert_entry holds.columns, holds.rows, List.map_append]
    rfl
  · rw [List.map_append, List.nodup_append]
    refine ⟨holds.apart, List.nodup_singleton _, ?_⟩
    intro path member other last same
    obtain ⟨known, entered, named⟩ := List.mem_map.mp member
    rw [List.map_singleton, List.mem_singleton] at last
    exact holds.absent missing entered (named.trans (same.trans last))
  · intro other
    rw [Database.get_upsert, List.mem_append, List.mem_singleton]
    constructor
    · intro there
      rcases there with member | same
      · rw [if_neg (holds.absent missing member)]
        exact (holds.known other).mp member
      · subst same
        rw [if_pos rfl]
    · intro there
      split at there
      · exact .inr (Option.some.inj there).symm
      · exact .inl ((holds.known other).mpr there)

/-- An entry replaces the one of its path, or comes to the others. -/
theorem HoldsFiles.upsert (holds : HoldsFiles table db entries) (entry : FileEntry)
    : ∃ entries',
        HoldsFiles
          (table.upsert "path" (.text entry.path)
            [("hash", .text entry.hash), ("mtime", .integer entry.mtime)])
          (db.upsert entry) entries' := by
  unfold Table.upsert
  rw [holds.any_means entry.path]
  cases found : db.get entry.path with
  | some old => exact ⟨_, holds.replace entry found⟩
  | none => exact ⟨_, holds.add entry found⟩

/-- The key keeps the paths apart. -/
theorem keyed_iff {entries : List FileEntry} (columns : table.columns = fileColumns)
    (rows : table.rows = entries.map FileEntry.values)
    : table.keyed "path" = true ↔ (entries.map FileEntry.path).Nodup := by
  unfold Table.keyed
  rw [(positions_files columns).1, decide_eq_true_iff, List.nodup_iff_pairwise_ne]
  simp only [Option.map_some, Option.getD_some, Table.values, rows, List.map_map, List.pairwise_map]
  simp [FileEntry.values]

/-- The entry of a path under another. -/
def renameEntry (source target : String) (entries : List FileEntry) : List FileEntry :=
  entries.map (fun entry => if entry.path = source then { entry with path := target } else entry)

theorem HoldsFiles.renamed_rows (holds : HoldsFiles table db entries) (source target : String)
    : (table.assign [("path", .text target)] (some ("path", .text source))).rows
      = (renameEntry source target entries).map FileEntry.values := by
  simp only [Table.assign, holds.rows, renameEntry, List.map_map]
  apply List.map_congr_left
  intro entry _
  simp only [Function.comp_apply, means_path holds.columns, decide_eq_true_eq,
    assigned_path holds.columns]
  split <;> rfl

/-- A row has an entry. -/
theorem HoldsFiles.entry_of_row (holds : HoldsFiles table db entries) {columns : FileColumns}
    (found : db.row path = some columns)
    : ⟨path, columns.hash, columns.mtime⟩ ∈ entries := by
  rw [holds.known]
  simp [Database.get, found]

theorem renameEntry_absent {source : String} (target : String)
    (absent : ∀ entry ∈ entries, entry.path ≠ source)
    : renameEntry source target entries = entries := by
  apply (List.map_congr_left _).trans (List.map_id entries)
  intro entry member
  exact if_neg (absent entry member)

theorem renameEntry_self (path : String) (entries : List FileEntry)
    : renameEntry path path entries = entries := by
  apply (List.map_congr_left _).trans (List.map_id entries)
  intro entry _
  split
  · rename_i same
    rw [← same]
    rfl
  · rfl

/-- Two entries would have the path. -/
theorem HoldsFiles.clash (holds : HoldsFiles table db entries) {source target : String}
    {columns others : FileColumns} (moves : source ≠ target) (found : db.row source = some columns)
    (taken : db.row target = some others)
    : (table.assign [("path", .text target)] (some ("path", .text source))).keyed "path"
      = false := by
  have moved := holds.entry_of_row found
  have there := holds.entry_of_row taken
  have kept
      : (table.assign [("path", .text target)] (some ("path", .text source))).columns
        = fileColumns :=
    holds.columns
  rw [Bool.eq_false_iff]
  intro keyed
  rw [keyed_iff kept (holds.renamed_rows source target), renameEntry, List.map_map] at keyed
  have same := List.inj_on_of_nodup_map keyed moved there (by simp)
  exact moves (congrArg FileEntry.path same)

/-- Renamed to a path that is free, the entries have paths of their own. -/
theorem HoldsFiles.renamed_apart (holds : HoldsFiles table db entries) {source target : String}
    (free : ∀ entry ∈ entries, entry.path ≠ target)
    : ((renameEntry source target entries).map FileEntry.path).Nodup := by
  rw [renameEntry, List.map_map]
  refine holds.apart.of_map _ |>.map_on ?_
  intro left first right second same
  have equal : left.path = right.path := by
    simp only [Function.comp_apply] at same
    split at same <;> split at same
    · rename_i old old'
      exact old.trans old'.symm
    · exact absurd same.symm (free right second)
    · exact absurd same (free left first)
    · exact same
  exact List.inj_on_of_nodup_map holds.apart first second equal

theorem HoldsFiles.move (holds : HoldsFiles table db entries) {source target : String}
    {columns : FileColumns} (moves : source ≠ target) (found : db.row source = some columns)
    (free : ∀ entry ∈ entries, entry.path ≠ target)
    : HoldsFiles (table.assign [("path", .text target)] (some ("path", .text source)))
        { db with fileIndex := (db.fileIndex.erase source).insert target columns }
        (renameEntry source target entries) where
  columns := holds.columns
  rows := holds.renamed_rows source target
  apart := holds.renamed_apart free
  known := by
    intro entry
    rw [Database.get_renamed db columns moves, renameEntry, List.mem_map]
    constructor
    · intro there
      obtain ⟨before, member, same⟩ := there
      split at same
      · rename_i old
        subst same
        have stored := (holds.known before).mp member
        rw [old] at stored
        simp only [Database.get, found, Option.map_some, Option.some.injEq] at stored
        rw [if_pos rfl, ← stored]
      · rename_i apart
        subst same
        rw [if_neg (free before member), if_neg apart]
        exact (holds.known before).mp member
    · intro there
      split at there
      · rw [← Option.some.inj there]
        exact ⟨_, holds.entry_of_row found, if_pos rfl⟩
      · split at there
        · cases there
        · rename_i apart
          exact ⟨entry, (holds.known entry).mpr there, if_neg apart⟩

/-- Renaming fails on the key exactly when it does in the map, and does the same otherwise. -/
theorem HoldsFiles.rename (holds : HoldsFiles table db entries) (source target : String)
    : (∃ renamed entries', db.rename source target = .ok renamed
        ∧ HoldsFiles (table.assign [("path", .text target)] (some ("path", .text source))) renamed
            entries')
      ∨ db.rename source target = .error (.msg "UNIQUE constraint failed: file_index.path")
        ∧ (table.assign [("path", .text target)] (some ("path", .text source))).keyed "path"
          = false := by
  have unchanged (same : renameEntry source target entries = entries)
      : HoldsFiles (table.assign [("path", .text target)] (some ("path", .text source))) db
          entries :=
    ⟨holds.columns, (holds.renamed_rows source target).trans (by rw [same]), holds.apart,
      holds.known⟩
  unfold Database.rename
  cases found : db.row source with
  | none =>
      have missing : db.get source = none := by simp [Database.get, found]
      have same := renameEntry_absent target (fun entry member => holds.absent missing member)
      exact .inl ⟨db, entries, rfl, unchanged same⟩
  | some columns =>
      by_cases stays : source = target
      · subst stays
        exact .inl ⟨db, entries, if_pos rfl, unchanged (renameEntry_self source entries)⟩
      · cases taken : db.row target with
        | some others => exact .inr ⟨by simp [stays], holds.clash stays found taken⟩
        | none =>
            have missing : db.get target = none := by simp [Database.get, taken]
            refine .inl ⟨_, renameEntry source target entries, by simp only [stays]; rfl, ?_⟩
            exact holds.move stays found (fun entry member => holds.absent missing member)

end Files

end SyncGDrive
