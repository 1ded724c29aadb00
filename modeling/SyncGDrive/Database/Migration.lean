import SyncGDrive.Config
import SyncGDrive.Sqlite.Tables

/-! The migration of the database: whatever tables it is opened with, all of it or none is done, and
once is enough.
-/

namespace SyncGDrive

open Sqlite

-----------------------------------------------------------------------------------------
-- The connection
-----------------------------------------------------------------------------------------

/-- The connection to SQLite behind its mutex, which a panic poisons. -/
structure Connection where
  contents : Contents
  poisoned : Bool := false

/-- A failure of SQLite, as an error. -/
def sqliteError {α : Type} (answer : Except String α) : Except Error α :=
  answer.mapError Error.msg

namespace Connection

/-- `lock`. -/
def lock (conn : Connection) : Except Error Contents :=
  if conn.poisoned then .error (.msg "Mutex SQLite empoisonné suite à un crash précédent")
  else .ok conn.contents

/-- The name of a type, as an error shows it. -/
def typeName : Value → String
  | .null => "Null"
  | .integer _ => "Integer"
  | .real _ => "Real"
  | .text _ => "Text"
  | .blob _ => "Blob"

/-- `r.get(0)` for an `i32`. -/
def getI32 (column : String) : Value → Except Error Int
  | .integer value =>
      if -2 ^ 31 ≤ value ∧ value < 2 ^ 31 then .ok value
      else .error (.msg ("Integer " ++ toString value ++ " out of range at index 0"))
  | other =>
      .error (.msg
        ("Invalid column type " ++ typeName other ++ " at index: 0, name: " ++ column))

/-- `schema_version`. -/
def schemaVersion (conn : Connection) : Except Error Int := do
  let db ← conn.lock
  if !db.listed "schema_version" then
    -- without the table of versions, a `file_index` is that of the first version
    return if db.listed "file_index" then 1 else 0
  else getI32 "MAX(version)" (← sqliteError (db.selectMax "schema_version" "version"))

-----------------------------------------------------------------------------------------
-- The migration
-----------------------------------------------------------------------------------------

def createFileIndex : Statement :=
  .createTable "file_index"
    [⟨"path", "TEXT PRIMARY KEY"⟩, ⟨"hash", "TEXT NOT NULL"⟩, ⟨"mtime", "INTEGER NOT NULL"⟩]

def createDirIndex : Statement :=
  .createTable "dir_index" [⟨"path", "TEXT PRIMARY KEY"⟩, ⟨"drive_id", "TEXT"⟩]

def createSchemaVersion : Statement :=
  .createTable "schema_version" [⟨"version", "INTEGER NOT NULL"⟩]

def insertVersion : Statement := .insert "schema_version" [("version", .integer 2)]

def driveIdColumn : Column := ⟨"drive_id", "TEXT"⟩

def alterDirIndex : Statement := .addColumn "dir_index" driveIdColumn

def createPathCache : Statement :=
  .createTable "path_cache"
    [⟨"relative_path", "TEXT PRIMARY KEY"⟩, ⟨"drive_id", "TEXT NOT NULL"⟩,
      ⟨"parent_id", "TEXT NOT NULL"⟩, ⟨"is_folder", "INTEGER NOT NULL DEFAULT 0"⟩,
      ⟨"updated_at", "INTEGER NOT NULL"⟩]

def createOfflineQueue : Statement :=
  .createTable "offline_queue"
    [⟨"id", "INTEGER PRIMARY KEY AUTOINCREMENT"⟩, ⟨"action", "TEXT NOT NULL"⟩,
      ⟨"relative_path", "TEXT NOT NULL"⟩, ⟨"extra", "TEXT"⟩, ⟨"created_at", "INTEGER NOT NULL"⟩]
    true

/-- The first creation, right in the second version. -/
def creation : List Statement :=
  [createFileIndex, createDirIndex, createSchemaVersion, insertVersion, createPathCache,
    createOfflineQueue]

/-- From the first version to the second. -/
def upgrade : List Statement :=
  [createSchemaVersion, insertVersion, alterDirIndex, createPathCache, createOfflineQueue]

/-- Run a batch in a transaction of its own. -/
def migrate (conn : Connection) (statements : List Statement)
    : Except Error Unit × Connection :=
  match conn.lock with
  | .error error => (.error error, conn)
  | .ok db =>
      let (answer, after) := transaction db statements
      (sqliteError answer, { conn with contents := after })

/-- `init_and_migrate`. -/
def initAndMigrate (conn : Connection) : Except Error Unit × Connection :=
  match conn.schemaVersion with
  | .error error => (.error error, conn)
  | .ok version =>
      if version = 0 then conn.migrate creation
      else if version = 1 then conn.migrate upgrade
      else (.ok (), conn)

end Connection

-----------------------------------------------------------------------------------------
-- The second version
-----------------------------------------------------------------------------------------

/-- The tables of the program with their columns. -/
def secondVersion : List (String × List String) :=
  [("file_index", ["path", "hash", "mtime"]), ("dir_index", ["path", "drive_id"]),
    ("schema_version", ["version"]),
    ("path_cache", ["relative_path", "drive_id", "parent_id", "is_folder", "updated_at"]),
    ("offline_queue", ["id", "action", "relative_path", "extra", "created_at"])]

/-- What may be assumed of a database that is opened: its indexes, where they are there, are those
of one of the two versions.
-/
structure Recognisable (db : Contents) : Prop where
  files
    : ∀ table ∈ db.table? "file_index", table.HasColumns ["path", "hash", "mtime"]
  dirs
    : ∀ table ∈ db.table? "dir_index",
        table.HasColumns ["path"] ∨ table.HasColumns ["path", "drive_id"]

/-- A database that was brought to the second version, with what it had before. -/
structure Upgraded (before after : Contents) : Prop where
  complete
    : ∀ entry ∈ secondVersion, ∃ table ∈ after.table? entry.1, table.HasColumns entry.2
  files : ∀ table ∈ before.table? "file_index", after.table? "file_index" = some table
  dirs
    : ∀ table ∈ before.table? "dir_index",
        after.table? "dir_index" = some (table.addColumn Connection.driveIdColumn)
  others
    : ∀ name,
        (∀ entry ∈ secondVersion, fold entry.1 ≠ fold name)
        → fold "sqlite_sequence" ≠ fold name
        → after.table? name = before.table? name

-----------------------------------------------------------------------------------------
-- The batches
-----------------------------------------------------------------------------------------

section Batches

open Connection Statement

variable {db after : Contents}

/-- The table of versions as the migration leaves it. -/
def versionTable : Table :=
  (Table.empty "schema_version" [⟨"version", "INTEGER NOT NULL"⟩]).insert
    [("version", .integer 2)]

/-- A table that is made with the columns of the second version has them. -/
theorem made_complete {name : String} {columns : List Column}
    (made : after.table? name = some (.empty name columns))
    : ∃ table ∈ after.table? name, table.HasColumns (columns.map Column.name) :=
  ⟨_, made, Table.hasColumns_empty name columns⟩

/-- The table of versions is made with one row, wherever in a batch that comes. -/
theorem version_inserted (front back : List Statement)
    (done : executeBatch db (front ++ createSchemaVersion :: insertVersion :: back) = .ok after)
    (early : Statement.Untouched front "schema_version")
    (late : Statement.Untouched back "schema_version")
    : db.table? "schema_version" = none ∧ after.table? "schema_version" = some versionTable := by
  obtain ⟨before, middle, begun, created, rest⟩ := executeBatch_split front done
  obtain ⟨free, made⟩ := execute_createTable created (by decide)
  rw [executeBatch_elsewhere begun early] at free
  refine ⟨free, ?_⟩
  obtain ⟨_, last, nothing, inserted, rest⟩ := executeBatch_split [] rest
  cases nothing
  rw [executeBatch_elsewhere rest late, execute_insert inserted, made]
  rfl

/-- The batch is about the tables of the program only. -/
def Own (batch : List Statement) : Prop :=
  ∀ statement ∈ batch, ∀ subject ∈ statement.subjects,
    subject ∈ secondVersion.map Prod.fst ∨ subject = "sqlite_sequence"

instance (batch : List Statement) : Decidable (Own batch) :=
  inferInstanceAs (Decidable (∀ statement ∈ batch, ∀ subject ∈ statement.subjects, _))

/-- Such a batch is about no other table. -/
theorem untouched_foreign {batch : List Statement} {name : String} (own : Own batch)
    (programs : ∀ entry ∈ secondVersion, fold entry.1 ≠ fold name)
    (counters : fold "sqlite_sequence" ≠ fold name)
    : Statement.Untouched batch name := by
  intro statement member subject about
  rcases own statement member subject about with program | rfl
  · obtain ⟨entry, known, rfl⟩ := List.mem_map.mp program
    exact programs entry known
  · exact counters

/-- The creation makes every table, so none was there. -/
theorem creation_upgrades (done : executeBatch db creation = .ok after)
    : Upgraded db after ∧ after.table? "schema_version" = some versionTable := by
  obtain ⟨noFiles, files⟩ :=
    executeBatch_makes [] done (by decide) (by decide) (by decide)
  obtain ⟨noDirs, dirs⟩ :=
    executeBatch_makes [createFileIndex] done (by decide) (by decide) (by decide)
  obtain ⟨_, versions⟩ :=
    version_inserted [createFileIndex, createDirIndex] [createPathCache, createOfflineQueue] done
      (by decide) (by decide)
  obtain ⟨_, cache⟩ :=
    executeBatch_makes [createFileIndex, createDirIndex, createSchemaVersion, insertVersion] done
      (by decide) (by decide) (by decide)
  obtain ⟨_, queue⟩ :=
    executeBatch_makes
      [createFileIndex, createDirIndex, createSchemaVersion, insertVersion, createPathCache] done
      (by decide) (by decide) (by decide)
  refine ⟨⟨?_, ?_, ?_, ?_⟩, versions⟩
  · intro entry member
    simp only [secondVersion, List.mem_cons, List.not_mem_nil, or_false] at member
    rcases member with rfl | rfl | rfl | rfl | rfl
    · exact made_complete files
    · exact made_complete dirs
    · exact ⟨versionTable, versions, .refl _⟩
    · exact made_complete cache
    · exact made_complete queue
  · intro table known
    simp [noFiles] at known
  · intro table known
    simp [noDirs] at known
  · intro name programs counters
    exact executeBatch_elsewhere done (untouched_foreign (by decide) programs counters)

/-- The upgrade keeps both indexes, with one column more in the second. -/
theorem upgrade_upgrades (recognisable : Recognisable db)
    (known : (db.table? "file_index").isSome ∨ (db.table? "schema_version").isSome)
    (done : executeBatch db upgrade = .ok after)
    : Upgraded db after ∧ after.table? "schema_version" = some versionTable := by
  obtain ⟨unversioned, versions⟩ :=
    version_inserted [] [alterDirIndex, createPathCache, createOfflineQueue] done (by decide)
      (by decide)
  obtain ⟨before, middle, altered, found, left⟩ :=
    executeBatch_alone [createSchemaVersion, insertVersion] "dir_index" done (by decide) (by decide)
  obtain ⟨old, there, missing, added⟩ := execute_addColumn altered
  rw [found] at there
  rw [added] at left
  obtain ⟨_, cache⟩ :=
    executeBatch_makes [createSchemaVersion, insertVersion, alterDirIndex] done (by decide)
      (by decide) (by decide)
  obtain ⟨_, queue⟩ :=
    executeBatch_makes [createSchemaVersion, insertVersion, alterDirIndex, createPathCache] done
      (by decide) (by decide) (by decide)
  have files : after.table? "file_index" = db.table? "file_index" :=
    executeBatch_elsewhere done (by decide)
  simp only [unversioned, Option.isSome_none, Bool.false_eq_true, or_false] at known
  obtain ⟨index, indexed⟩ := Option.isSome_iff_exists.mp known
  have dirs : (old.addColumn driveIdColumn).HasColumns ["path", "drive_id"] := by
    rcases recognisable.dirs old there with first | second
    · exact first.addColumn
    · exact absurd missing (second.found (by decide))
  refine ⟨⟨?_, ?_, ?_, ?_⟩, versions⟩
  · intro entry member
    simp only [secondVersion, List.mem_cons, List.not_mem_nil, or_false] at member
    rcases member with rfl | rfl | rfl | rfl | rfl
    · exact ⟨index, files.trans indexed, recognisable.files index indexed⟩
    · exact ⟨_, left, dirs⟩
    · exact ⟨versionTable, versions, .refl _⟩
    · exact made_complete cache
    · exact made_complete queue
  · intro table same
    exact files.trans same
  · intro table same
    obtain rfl : old = table := Option.some.inj (there.symm.trans same)
    exact left
  · intro name programs counters
    exact executeBatch_elsewhere done (untouched_foreign (by decide) programs counters)

end Batches

-----------------------------------------------------------------------------------------
-- Versions
-----------------------------------------------------------------------------------------

section Versions

open Connection

variable {db : Contents} {conn : Connection}

/-- A table that is listed under a name is meant by it. -/
theorem table?_of_listed {name : String} (listed : db.listed name = true)
    : (db.table? name).isSome := by
  obtain ⟨table, member, called⟩ := List.any_eq_true.mp listed
  apply List.find?_isSome.mpr
  exact ⟨table, member, by simpa using congrArg fold (of_decide_eq_true called)⟩

/-- And what a name means may be listed. -/
theorem listed_of_table? {name : String} {table : Table} (found : db.table? name = some table)
    (called : table.name = name)
    : db.listed name = true :=
  List.any_eq_true.mpr ⟨table, List.mem_of_find?_eq_some found, by simpa using called⟩

/-- After the migration the version is the second one. -/
theorem schemaVersion_eq_two (sound : conn.poisoned = false)
    (versions : conn.contents.table? "schema_version" = some versionTable)
    : conn.schemaVersion = .ok 2 := by
  have listed := listed_of_table? versions rfl
  have latest : conn.contents.selectMax "schema_version" "version" = .ok (.integer 2) := by
    rw [Contents.selectMax, versions]
    rfl
  have locked : conn.lock = .ok conn.contents := by simp [lock, sound]
  simp [schemaVersion, locked, bind, Except.bind, listed, latest, sqliteError, Except.mapError,
    getI32]

/-- A first version that is told by its index, or by a row that cannot be made again. -/
theorem index_or_versions (version : conn.schemaVersion = .ok 1)
    : (conn.contents.table? "file_index").isSome
      ∨ (conn.contents.table? "schema_version").isSome := by
  by_cases versioned : conn.contents.listed "schema_version" = true
  · exact Or.inr (table?_of_listed versioned)
  · by_cases indexed : conn.contents.listed "file_index" = true
    · exact Or.inl (table?_of_listed indexed)
    · cases poisoned : conn.poisoned <;>
        simp [schemaVersion, lock, poisoned, bind, Except.bind, versioned, indexed] at version
      cases version

/-- A migration is all done or not at all. -/
theorem migrate_cases (statements : List Statement)
    : (∃ error, conn.migrate statements = (.error error, conn))
      ∨ ∃ after,
          Statement.executeBatch conn.contents statements = .ok after
          ∧ conn.poisoned = false
          ∧ conn.migrate statements = (.ok (), { conn with contents := after }) := by
  obtain ⟨db, poisoned⟩ := conn
  cases poisoned with
  | true => exact Or.inl ⟨_, rfl⟩
  | false =>
      cases done : Statement.executeBatch db statements with
      | error message =>
          refine Or.inl ⟨.msg message, ?_⟩
          simp [migrate, lock, transaction, done, sqliteError, Except.mapError]
      | ok after =>
          refine Or.inr ⟨after, rfl, rfl, ?_⟩
          simp [migrate, lock, transaction, done, sqliteError, Except.mapError]

/-- A connection at another version has nothing to do. -/
theorem initAndMigrate_idle {version : Int} (detected : conn.schemaVersion = .ok version)
    (other : version ≠ 0 ∧ version ≠ 1)
    : conn.initAndMigrate = (.ok (), conn) := by
  unfold initAndMigrate
  rw [detected]
  simp [other.1, other.2]

end Versions

/-- What one call of `init_and_migrate` has done that succeeds. -/
structure Migrated (conn after : Connection) : Prop where
  detected
    : ∃ version,
        conn.schemaVersion = .ok version
        ∧ (version = 0 ∨ version = 1
          → Upgraded conn.contents after.contents ∧ after.schemaVersion = .ok 2)
        ∧ (version ≠ 0 → version ≠ 1 → after = conn)
  again : after.initAndMigrate = (.ok (), after)

/-- The migration fails and leaves everything as it was, or it is complete and a second one has
nothing to do.
-/
theorem initAndMigrate_all_or_nothing (conn : Connection)
    (recognisable : Recognisable conn.contents)
    : (∃ error, conn.initAndMigrate = (.error error, conn))
      ∨ ∃ after, conn.initAndMigrate = (.ok (), after) ∧ Migrated conn after := by
  cases detected : conn.schemaVersion with
  | error error => exact Or.inl ⟨error, by rw [Connection.initAndMigrate, detected]⟩
  | ok version =>
      -- a batch that goes through brings the tables to the second version
      have migrated (statements : List Statement)
          (runs : conn.initAndMigrate = conn.migrate statements)
          (early : version = 0 ∨ version = 1)
          (upgrades
            : ∀ after,
                Statement.executeBatch conn.contents statements = .ok after
                → Upgraded conn.contents after
                  ∧ after.table? "schema_version" = some versionTable)
          : (∃ error, conn.initAndMigrate = (.error error, conn))
            ∨ ∃ after, conn.initAndMigrate = (.ok (), after) ∧ Migrated conn after := by
        rw [runs]
        rcases migrate_cases statements with failed | ⟨after, done, sound, answered⟩
        · exact Or.inl failed
        · obtain ⟨upgraded, versions⟩ := upgrades after done
          have second : Connection.schemaVersion { conn with contents := after } = .ok 2 :=
            schemaVersion_eq_two sound versions
          refine Or.inr ⟨_, answered, ⟨version, detected, fun _ => ⟨upgraded, second⟩, ?_⟩, ?_⟩
          · intro notFirst notSecond
            omega
          · exact initAndMigrate_idle second (by decide)
      by_cases none_yet : version = 0
      · apply migrated Connection.creation _ (Or.inl none_yet)
        · exact fun _ done => creation_upgrades done
        · rw [Connection.initAndMigrate, detected]
          exact if_pos none_yet
      · by_cases first : version = 1
        · apply migrated Connection.upgrade _ (Or.inr first)
          · intro after done
            exact upgrade_upgrades recognisable (index_or_versions (first ▸ detected)) done
          · rw [Connection.initAndMigrate, detected]
            exact (if_neg none_yet).trans (if_pos first)
        · have idle := initAndMigrate_idle detected ⟨none_yet, first⟩
          refine Or.inr ⟨conn, idle, ⟨version, detected, ?_, fun _ _ => rfl⟩, idle⟩
          intro early
          omega

/-- A database of the first version, with a file and a folder. -/
def firstVersion : Connection where
  contents :=
    { tables :=
        [⟨"file_index", [⟨"path", "TEXT"⟩, ⟨"hash", "TEXT"⟩, ⟨"mtime", "INTEGER"⟩],
            [[.text "note.txt", .text "empreinte", .integer 5]], by simp⟩,
          ⟨"dir_index", [⟨"path", "TEXT"⟩], [[.text "dossier"]], by simp⟩]
      distinct := by decide }

theorem first_version_migrated
    : ∃ after, firstVersion.initAndMigrate = (.ok (), after) ∧ Migrated firstVersion after := by
  have recognisable : Recognisable firstVersion.contents := by
    constructor
    · intro table known
      obtain rfl := Option.some.inj known
      exact .refl _
    · intro table known
      obtain rfl := Option.some.inj known
      exact Or.inl (.refl _)
  rcases initAndMigrate_all_or_nothing _ recognisable with ⟨error, failed⟩ | migrated
  · have succeeded : firstVersion.initAndMigrate.1 = .ok () := by rfl
    rw [failed] at succeeded
    cases succeeded
  · exact migrated

/-- It is at the second version then. -/
example : firstVersion.initAndMigrate.2.schemaVersion = .ok 2 := by rfl

end SyncGDrive
