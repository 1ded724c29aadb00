import SyncGDrive.Database.Queue

/-! The statements on the tables answer as the map of paths and the queue do, from the creation of
the database on and over every start of the program.
-/

namespace SyncGDrive

open Sqlite

-----------------------------------------------------------------------------------------
-- Operations and answers
-----------------------------------------------------------------------------------------

/-- What the program asks of the database. A start of the program asks for the migration. -/
inductive DbOp
  | get (path : String)
  | upsert (entry : FileEntry)
  | delete (path : String)
  | rename (source target : String)
  | clear
  | allPaths
  | clearDirs
  | pushOfflineTask (now : Int) (action path : String) (extra : Option String)
  | getOfflineTasks
  | removeOfflineTask (id : Nat)
  | initAndMigrate

inductive DbAnswer
  | done (answer : Except Error Unit)
  | entry (answer : Except Error (Option FileEntry))
  | paths (answer : Except Error (List String))
  | number (answer : Except Error Int)
  | tasks (answer : Except Error (List OfflineTask))

/-- Answers are the same; the paths are a set. -/
inductive DbAnswer.Alike : DbAnswer → DbAnswer → Prop
  | same (answer : DbAnswer) : Alike answer answer
  | paths {left right : List String} (permuted : left.Perm right)
    : Alike (.paths (.ok left)) (.paths (.ok right))

namespace Connection

/-- The operation on the tables. -/
def answer (conn : Connection) : DbOp → DbAnswer × Connection
  | .get path => (.entry (conn.get path), conn)
  | .upsert entry => (conn.upsert entry).map .done id
  | .delete path => (conn.delete path).map .done id
  | .rename source target => (conn.rename source target).map .done id
  | .clear => conn.clear.map .done id
  | .allPaths => (.paths conn.allPaths, conn)
  | .clearDirs => conn.clearDirs.map .done id
  | .pushOfflineTask now action path extra =>
      (conn.pushOfflineTask now action path extra).map .number id
  | .getOfflineTasks => (.tasks conn.getOfflineTasks, conn)
  | .removeOfflineTask task => (conn.removeOfflineTask task).map .done id
  | .initAndMigrate => conn.initAndMigrate.map .done id

end Connection

namespace Database

/-- The operation on the map and the queue. -/
def answer (db : Database) : DbOp → DbAnswer × Database
  | .get path => (.entry (.ok (db.get path)), db)
  | .upsert entry => (.done (.ok ()), db.upsert entry)
  | .delete path => (.done (.ok ()), db.delete path)
  | .rename source target =>
      match db.rename source target with
      | .error error => (.done (.error error), db)
      | .ok renamed => (.done (.ok ()), renamed)
  | .clear => (.done (.ok ()), db.clear)
  | .allPaths => (.paths (.ok db.allPaths), db)
  | .clearDirs => (.done (.ok ()), db.clearDirs)
  | .pushOfflineTask now action path extra =>
      if now < 0 then
        (.number (.error (.msg "second time provided was later than self")), db)
      else (.number (.ok db.offlineQueue.nextId), db.pushOfflineTask action path extra)
  | .getOfflineTasks => (.tasks (.ok db.getOfflineTasks), db)
  | .removeOfflineTask id => (.done (.ok ()), db.removeOfflineTask id)
  | .initAndMigrate => (.done (.ok ()), db)

end Database

-----------------------------------------------------------------------------------------
-- Runs
-----------------------------------------------------------------------------------------

/-- The answers to operations, one after the other. -/
def answers {State Op Answer : Type} (answer : State → Op → Answer × State)
    : State → List Op → List Answer
  | _, [] => []
  | state, op :: rest => (answer state op).1 :: answers answer (answer state op).2 rest

/-- Where each operation keeps two states related and answers alike, so does every sequence. -/
theorem answers_alike {State Other Op Answer : Type} {answer : State → Op → Answer × State}
    {answer' : Other → Op → Answer × Other} {Related : State → Other → Prop}
    {Alike : Answer → Answer → Prop}
    (step
      : ∀ state other op, Related state other
        → Alike (answer state op).1 (answer' other op).1
          ∧ Related (answer state op).2 (answer' other op).2)
    (ops : List Op) {state : State} {other : Other} (related : Related state other)
    : List.Forall₂ Alike (answers answer state ops) (answers answer' other ops) := by
  induction ops generalizing state other with
  | nil => exact .nil
  | cons op rest ih =>
      obtain ⟨alike, kept⟩ := step state other op related
      exact .cons alike (ih kept)

-----------------------------------------------------------------------------------------
-- The tables that hold the map and the queue
-----------------------------------------------------------------------------------------

/-- The rows of the folders, which have no identifier yet. -/
def dirRows (paths : List String) : List (List Value) :=
  paths.map (fun path => [.text path, .null])

/-- The tables of the database are those of the map and the queue, at the second version. -/
structure Holds (conn : Connection) (db : Database) : Prop where
  sound : conn.poisoned = false
  files
    : ∃ table entries,
        conn.contents.table? "file_index" = some table ∧ HoldsFiles table db entries
  dirs : ∃ table, conn.contents.table? "dir_index" = some table ∧ table.rows = dirRows db.dirIndex
  queue
    : ∃ table stamped,
        conn.contents.table? "offline_queue" = some table
        ∧ HoldsQueue table db.offlineQueue stamped
  counters
    : ∃ table,
        conn.contents.table? "sqlite_sequence" = some table ∧ Counts table db.offlineQueue
  versions : conn.contents.table? "schema_version" = some versionTable

/-- Files stay held where the map has the same entries. -/
theorem HoldsFiles.congr {table : Table} {db other : Database} {entries : List FileEntry}
    (holds : HoldsFiles table db entries) (same : ∀ path, other.get path = db.get path)
    : HoldsFiles table other entries where
  columns := holds.columns
  rows := holds.rows
  apart := holds.apart
  known := by
    intro entry
    rw [same, holds.known]

section Steps

variable {conn : Connection} {db : Database} {after : Contents}

theorem Holds.lock (holds : Holds conn db) : conn.lock = .ok conn.contents := by
  simp [Connection.lock, holds.sound]

theorem Holds.execute_ok (holds : Holds conn db) {statement : Contents → Except String Contents}
    (done : statement conn.contents = .ok after)
    : conn.execute statement = (.ok (), { conn with contents := after }) := by
  simp only [Connection.execute, holds.lock, done]

theorem Holds.execute_error (holds : Holds conn db)
    {statement : Contents → Except String Contents} {message : String}
    (failed : statement conn.contents = .error message)
    : conn.execute statement = (.error (.msg message), conn) := by
  simp only [Connection.execute, holds.lock, failed]

/-- A table of files that is left alone holds a map with the same entries. -/
theorem Holds.keep_files (holds : Holds conn db) {other : Database}
    (elsewhere : after.table? "file_index" = conn.contents.table? "file_index")
    (same : ∀ path, other.get path = db.get path)
    : ∃ table entries,
        after.table? "file_index" = some table ∧ HoldsFiles table other entries := by
  obtain ⟨table, entries, found, files⟩ := holds.files
  exact ⟨table, entries, elsewhere.trans found, files.congr same⟩

/-- A change of the files alone. -/
theorem Holds.change_files (holds : Holds conn db) {table : Table} {other : Database}
    {entries : List FileEntry} (found : after.table? "file_index" = some table)
    (files : HoldsFiles table other entries)
    (elsewhere
      : ∀ name, fold name ≠ fold "file_index" → after.table? name = conn.contents.table? name)
    (dirs : other.dirIndex = db.dirIndex) (queue : other.offlineQueue = db.offlineQueue)
    : Holds { conn with contents := after } other where
  sound := holds.sound
  files := ⟨table, entries, found, files⟩
  dirs := by
    rw [elsewhere "dir_index" (by decide), dirs]
    exact holds.dirs
  queue := by
    rw [elsewhere "offline_queue" (by decide), queue]
    exact holds.queue
  counters := by
    rw [elsewhere "sqlite_sequence" (by decide), queue]
    exact holds.counters
  versions := (elsewhere "schema_version" (by decide)).trans holds.versions

-----------------------------------------------------------------------------------------
-- Reading
-----------------------------------------------------------------------------------------

/-- Rows that are read each as what they stand for. -/
theorem mapM_eq_ok {α β γ : Type} {read : β → Except Error γ} {write : α → β} {value : α → γ}
    (reads : ∀ item, read (write item) = .ok (value item)) (items : List α)
    : (items.map write).mapM read = .ok (items.map value) := by
  induction items with
  | nil => rfl
  | cons item rest ih =>
      rw [List.map_cons, List.mapM_cons, reads, ih]
      rfl

/-- The rows of a path are those of its entry. -/
theorem HoldsFiles.select {table : Table} {entries : List FileEntry} {contents : Contents}
    (holds : HoldsFiles table db entries) (found : contents.table? "file_index" = some table)
    (path : String)
    : contents.select "file_index" ["path", "hash", "mtime"] (some ("path", .text path))
      = .ok ((db.get path).toList.map FileEntry.values) := by
  obtain ⟨first, second, third⟩ := positions_files holds.columns
  have known
      : ∀ column ∈ ["path", "hash", "mtime", "path"], (table.position? column).isSome = true := by
    simp [first, second, third]
  have meant
      : entries.filter (fun entry => decide (entry.path = path)) = (db.get path).toList := by
    have permuted
        : (entries.filter (fun entry => decide (entry.path = path))).Perm (db.get path).toList := by
      rw [List.perm_ext_iff_of_nodup (holds.apart.of_map.filter _) (by cases db.get path <;> simp)]
      intro entry
      rw [List.mem_filter, holds.known, decide_eq_true_iff, Option.mem_toList]
      constructor
      · intro there
        obtain ⟨stored, same⟩ := there
        rw [← same]
        exact stored
      · intro stored
        have same := Database.get_path stored
        exact ⟨by rw [same]; exact stored, same⟩
    cases got : db.get path with
    | none =>
        rw [got] at permuted
        exact permuted.eq_nil
    | some entry =>
        rw [got] at permuted
        exact List.perm_singleton.mp permuted
  simp only [Contents.select, Option.map_some, Option.toList_some, List.cons_append,
    List.nil_append, withColumns_eq_ok found known, bind, Except.bind, pure, Except.pure,
    holds.rows, List.filter_map, Function.comp_def, means_path holds.columns, meant, List.map_map]
  congr 1
  apply List.map_congr_left
  intro entry _
  simp [Table.valueIn, first, second, third, FileEntry.values]

theorem Holds.get (holds : Holds conn db) (path : String) : conn.get path = .ok (db.get path) := by
  obtain ⟨table, entries, found, files⟩ := holds.files
  simp only [Connection.get, holds.lock, bind, Except.bind, files.select found path]
  cases db.get path <;> rfl

theorem Holds.allPaths (holds : Holds conn db)
    : ∃ paths, conn.allPaths = .ok paths ∧ paths.Perm db.allPaths := by
  obtain ⟨table, entries, found, files⟩ := holds.files
  have first := (positions_files files.columns).1
  have known : ∀ column ∈ ["path"], (table.position? column).isSome = true := by simp [first]
  refine ⟨entries.map FileEntry.path, ?_, ?_⟩
  · have all : table.rows.filter (table.means none) = table.rows := by simp [Table.means]
    simp only [Connection.allPaths, holds.lock, Contents.select, Option.map_none,
      Option.toList_none, List.append_nil, withColumns_eq_ok found known, bind, Except.bind, pure,
      Except.pure, sqliteError, Except.mapError, all]
    rw [files.rows, List.map_map]
    apply mapM_eq_ok
    intro entry
    simp [Table.valueIn, first, FileEntry.values, Connection.getText]
  · rw [List.perm_ext_iff_of_nodup files.apart db.allPaths_nodup]
    intro path
    rw [Database.mem_allPaths, List.mem_map]
    constructor
    · intro there
      obtain ⟨entry, member, same⟩ := there
      have stored := (files.known entry).mp member
      rw [same] at stored
      cases row : db.row path with
      | none => simp [Database.get, row] at stored
      | some columns => rfl
    · intro there
      obtain ⟨columns, row⟩ := Option.isSome_iff_exists.mp there
      exact ⟨_, files.entry_of_row row, rfl⟩

theorem Holds.getOfflineTasks (holds : Holds conn db)
    : conn.getOfflineTasks = .ok db.getOfflineTasks := by
  obtain ⟨table, stamped, found, queue⟩ := holds.queue
  simp only [Connection.getOfflineTasks, holds.lock, bind, Except.bind, queue.select found,
    sqliteError, Except.mapError]
  rw [mapM_eq_ok readOfflineTask_values, queue.tasks]
  rfl

-----------------------------------------------------------------------------------------
-- Changing
-----------------------------------------------------------------------------------------

theorem Holds.upsert (holds : Holds conn db) (entry : FileEntry)
    : ∃ after, conn.upsert entry = (.ok (), after) ∧ Holds after (db.upsert entry) := by
  obtain ⟨table, entries, found, files⟩ := holds.files
  obtain ⟨entries', kept⟩ := files.upsert entry
  obtain ⟨after, done, told, elsewhere⟩ :=
    @upsert_eq_ok _ _ _ "path" (.text entry.path)
      [("hash", .text entry.hash), ("mtime", .integer entry.mtime)] found
      (by simp [positions_files files.columns])
  exact ⟨_, holds.execute_ok done, holds.change_files told kept elsewhere rfl rfl⟩

theorem Holds.delete (holds : Holds conn db) (path : String)
    : ∃ after, conn.delete path = (.ok (), after) ∧ Holds after (db.delete path) := by
  obtain ⟨table, entries, found, files⟩ := holds.files
  obtain ⟨after, done, told, elsewhere⟩ :=
    @remove_eq_ok _ _ _ (some ("path", .text path)) found
      (by simp [(positions_files files.columns).1])
  exact ⟨_, holds.execute_ok done, holds.change_files told (files.remove path) elsewhere rfl rfl⟩

theorem Holds.clear (holds : Holds conn db)
    : ∃ after, conn.clear = (.ok (), after) ∧ Holds after db.clear := by
  obtain ⟨table, entries, found, files⟩ := holds.files
  obtain ⟨after, done, told, elsewhere⟩ := @remove_eq_ok _ _ _ none found (by simp)
  exact ⟨_, holds.execute_ok done, holds.change_files told files.clear elsewhere rfl rfl⟩

/-- A renaming changes nothing but the files. -/
theorem Database.rename_elsewhere {renamed : Database} {source target : String}
    (done : db.rename source target = .ok renamed)
    : renamed.dirIndex = db.dirIndex ∧ renamed.offlineQueue = db.offlineQueue := by
  unfold Database.rename at done
  split at done
  · cases done
    exact ⟨rfl, rfl⟩
  · split at done
    · cases done
      exact ⟨rfl, rfl⟩
    · split at done
      · cases done
      · cases done
        exact ⟨rfl, rfl⟩

theorem Holds.rename (holds : Holds conn db) (source target : String)
    : (∃ renamed after, db.rename source target = .ok renamed
        ∧ conn.rename source target = (.ok (), after) ∧ Holds after renamed)
      ∨ ∃ error, db.rename source target = .error error
        ∧ conn.rename source target = (.error error, conn) := by
  obtain ⟨table, entries, found, files⟩ := holds.files
  have known : ∀ column ∈ ["path", "path"], (table.position? column).isSome = true := by
    simp [(positions_files files.columns).1]
  rcases files.rename source target with moved | clashes
  · obtain ⟨renamed, entries', renames, kept⟩ := moved
    obtain ⟨dirs, queue⟩ := Database.rename_elsewhere renames
    have keyed := (keyed_iff kept.columns kept.rows).mpr kept.apart
    obtain ⟨after, done, told, elsewhere⟩ := assignKey_eq_ok found known keyed
    exact .inl ⟨renamed, _, renames, holds.execute_ok done,
      holds.change_files told kept elsewhere dirs queue⟩
  · obtain ⟨fails, clash⟩ := clashes
    exact .inr ⟨_, fails, holds.execute_error (assignKey_eq_error found known clash)⟩

theorem Holds.clearDirs (holds : Holds conn db)
    : ∃ after, conn.clearDirs = (.ok (), after) ∧ Holds after db.clearDirs := by
  obtain ⟨table, found, -⟩ := holds.dirs
  obtain ⟨after, done, told, elsewhere⟩ := @remove_eq_ok _ _ _ none found (by simp)
  refine ⟨_, holds.execute_ok done, holds.sound, ?_, ?_, ?_, ?_, ?_⟩
  · exact holds.keep_files (elsewhere "file_index" (by decide)) (fun _ => rfl)
  · exact ⟨_, told, by simp [Table.remove, Table.means, dirRows, Database.clearDirs]⟩
  · rw [elsewhere "offline_queue" (by decide)]
    exact holds.queue
  · rw [elsewhere "sqlite_sequence" (by decide)]
    exact holds.counters
  · exact (elsewhere "schema_version" (by decide)).trans holds.versions

theorem Holds.removeOfflineTask (holds : Holds conn db) (id : Nat)
    : ∃ after, conn.removeOfflineTask id = (.ok (), after)
        ∧ Holds after (db.removeOfflineTask id) := by
  obtain ⟨table, stamped, found, queue⟩ := holds.queue
  obtain ⟨after, done, told, elsewhere⟩ :=
    @remove_eq_ok _ _ _ (some ("id", .integer id)) found
      (by simp [(positions_queue queue.columns).1])
  refine ⟨_, holds.execute_ok done, holds.sound, ?_, ?_, ?_, ?_, ?_⟩
  · exact holds.keep_files (elsewhere "file_index" (by decide)) (fun _ => rfl)
  · rw [elsewhere "dir_index" (by decide)]
    exact holds.dirs
  · exact ⟨_, _, told, queue.remove id⟩
  · obtain ⟨counters, there, counts⟩ := holds.counters
    exact ⟨counters, (elsewhere "sqlite_sequence" (by decide)).trans there, counts.columns,
      counts.begun, counts.counted⟩
  · exact (elsewhere "schema_version" (by decide)).trans holds.versions

theorem Holds.pushOfflineTask (holds : Holds conn db) {now : Int} (later : ¬now < 0)
    (action path : String) (extra : Option String)
    : ∃ after, conn.pushOfflineTask now action path extra = (.ok db.offlineQueue.nextId, after)
        ∧ Holds after (db.pushOfflineTask action path extra) := by
  obtain ⟨table, stamped, found, queue⟩ := holds.queue
  obtain ⟨counters, there, counts⟩ := holds.counters
  obtain ⟨after, table', counters', stamped', done, told, queued, toldCounters, counted, elsewhere⟩
    := queue.push counts found there now action path extra
  refine ⟨{ conn with contents := after }, ?_, holds.sound, ?_, ?_, ?_, ?_, ?_⟩
  · simp only [Connection.pushOfflineTask, holds.lock, later, if_false, done]
  · exact holds.keep_files (elsewhere "file_index" (by decide) (by decide)) (fun _ => rfl)
  · rw [elsewhere "dir_index" (by decide) (by decide)]
    exact holds.dirs
  · exact ⟨table', stamped', told, queued⟩
  · exact ⟨counters', toldCounters, counted⟩
  · exact (elsewhere "schema_version" (by decide) (by decide)).trans holds.versions

theorem Holds.initAndMigrate (holds : Holds conn db) : conn.initAndMigrate = (.ok (), conn) :=
  initAndMigrate_idle (schemaVersion_eq_two holds.sound holds.versions) (by decide)

end Steps

-----------------------------------------------------------------------------------------
-- The refinement
-----------------------------------------------------------------------------------------

/-- Every operation answers alike and keeps the tables those of the map and the queue. -/
theorem Holds.answer (conn : Connection) (db : Database) (op : DbOp) (holds : Holds conn db)
    : (conn.answer op).1.Alike (db.answer op).1 ∧ Holds (conn.answer op).2 (db.answer op).2 := by
  cases op with
  | get path =>
      simp only [Connection.answer, Database.answer, holds.get path]
      exact ⟨.same _, holds⟩
  | upsert entry =>
      obtain ⟨after, done, kept⟩ := holds.upsert entry
      simp only [Connection.answer, Database.answer, done]
      exact ⟨.same _, kept⟩
  | delete path =>
      obtain ⟨after, done, kept⟩ := holds.delete path
      simp only [Connection.answer, Database.answer, done]
      exact ⟨.same _, kept⟩
  | rename source target =>
      rcases holds.rename source target with renames | fails
      · obtain ⟨renamed, after, moved, done, kept⟩ := renames
        simp only [Connection.answer, Database.answer, moved, done]
        exact ⟨.same _, kept⟩
      · obtain ⟨error, clash, failed⟩ := fails
        simp only [Connection.answer, Database.answer, clash, failed]
        exact ⟨.same _, holds⟩
  | clear =>
      obtain ⟨after, done, kept⟩ := holds.clear
      simp only [Connection.answer, Database.answer, done]
      exact ⟨.same _, kept⟩
  | allPaths =>
      obtain ⟨paths, done, permuted⟩ := holds.allPaths
      simp only [Connection.answer, Database.answer, done]
      exact ⟨.paths permuted, holds⟩
  | clearDirs =>
      obtain ⟨after, done, kept⟩ := holds.clearDirs
      simp only [Connection.answer, Database.answer, done]
      exact ⟨.same _, kept⟩
  | pushOfflineTask now action path extra =>
      by_cases early : now < 0
      · simp only [Connection.answer, Database.answer, Connection.pushOfflineTask, holds.lock,
          early, if_true]
        exact ⟨.same _, holds⟩
      · obtain ⟨after, done, kept⟩ := holds.pushOfflineTask early action path extra
        simp only [Connection.answer, Database.answer, done, early, if_false]
        exact ⟨.same _, kept⟩
  | getOfflineTasks =>
      simp only [Connection.answer, Database.answer, holds.getOfflineTasks]
      exact ⟨.same _, holds⟩
  | removeOfflineTask id =>
      obtain ⟨after, done, kept⟩ := holds.removeOfflineTask id
      simp only [Connection.answer, Database.answer, done]
      exact ⟨.same _, kept⟩
  | initAndMigrate =>
      simp only [Connection.answer, Database.answer, holds.initAndMigrate]
      exact ⟨.same _, holds⟩

/-- A connection to a file that was not there. -/
def Connection.fresh : Connection := { contents := {} }

/-- The creation goes through there, and the counters are made for the queue. -/
theorem creation_counters
    : ∃ after,
        Statement.executeBatch {} Connection.creation = .ok after
        ∧ after.table? "sqlite_sequence" = some (.empty "sqlite_sequence" counterColumns) :=
  ⟨_, rfl, rfl⟩

/-- A batch that goes through is what the migration does. -/
theorem migrate_eq_ok {contents after : Contents} {statements : List Statement}
    (done : Statement.executeBatch contents statements = .ok after)
    : Connection.migrate { contents } statements = (.ok (), { contents := after }) := by
  simp [Connection.migrate, Connection.lock, transaction, done, sqliteError, Except.mapError]

/-- The tables that are created hold no entries and no tasks. -/
theorem fresh_holds
    : ∃ after, Connection.fresh.initAndMigrate = (.ok (), after) ∧ Holds after {} := by
  obtain ⟨after, done, counters⟩ := creation_counters
  have created : Connection.fresh.initAndMigrate = (.ok (), { contents := after }) :=
    migrate_eq_ok done
  obtain ⟨-, files⟩ := executeBatch_makes [] done (by decide) (by decide) (by decide)
  obtain ⟨-, dirs⟩ :=
    executeBatch_makes [Connection.createFileIndex] done (by decide) (by decide) (by decide)
  obtain ⟨-, queue⟩ :=
    executeBatch_makes
      [Connection.createFileIndex, Connection.createDirIndex, Connection.createSchemaVersion,
        Connection.insertVersion, Connection.createPathCache]
      done (by decide) (by decide) (by decide)
  refine ⟨_, created, rfl, ⟨_, [], files, ?_⟩, ⟨_, dirs, rfl⟩, ⟨_, [], queue, ?_⟩,
    ⟨_, counters, ?_⟩, (creation_upgrades done).2⟩
  · refine ⟨rfl, rfl, List.nodup_nil, ?_⟩
    intro entry
    simp [Database.get, Database.row]
  · exact ⟨rfl, rfl, rfl⟩
  · exact ⟨rfl, le_refl _, .inl ⟨rfl, rfl⟩⟩

/-- The indexes of the first version, beside tables that the program does not know. -/
structure HoldsFirst (contents : Contents) (db : Database) : Prop where
  files
    : ∃ table entries,
        contents.table? "file_index" = some table ∧ table.name = "file_index"
        ∧ HoldsFiles table db entries
  dirs
    : ∃ table,
        contents.table? "dir_index" = some table
        ∧ table.columns = [⟨"path", "TEXT PRIMARY KEY"⟩]
        ∧ table.rows = db.dirIndex.map (fun path => [.text path])
  queue : db.offlineQueue = .empty
  unversioned : contents.table? "schema_version" = none
  uncached : contents.table? "path_cache" = none
  unqueued : contents.table? "offline_queue" = none
  uncounted : contents.table? "sqlite_sequence" = none
  alone : contents.others = []

namespace HoldsFirst

open Connection

variable {contents : Contents} {db : Database}

/-- An index and no versions are the first version. -/
theorem schemaVersion (first : HoldsFirst contents db)
    : Connection.schemaVersion { contents } = .ok 1 := by
  obtain ⟨table, -, found, called, -⟩ := first.files
  have indexed := listed_of_table? found called
  have unversioned : contents.listed "schema_version" = false := by
    rw [Bool.eq_false_iff]
    intro listed
    have there := table?_of_listed listed
    rw [first.unversioned] at there
    cases there
  simp [Connection.schemaVersion, lock, bind, Except.bind, unversioned, indexed, pure, Except.pure]

theorem recognisable (first : HoldsFirst contents db) : Recognisable contents where
  files := by
    intro table there
    obtain ⟨files, entries, found, -, holds⟩ := first.files
    have same : files = table := Option.some.inj (found.symm.trans there)
    unfold Table.HasColumns
    rw [← same, holds.columns]
    exact .refl _
  dirs := by
    intro table there
    obtain ⟨dirs, found, columns, -⟩ := first.dirs
    have same : dirs = table := Option.some.inj (found.symm.trans there)
    left
    unfold Table.HasColumns
    rw [← same, columns]
    exact .refl _

/-- The upgrade goes through on these tables, and the counters are made for the queue. -/
theorem upgrade_counters (first : HoldsFirst contents db)
    : ∃ after,
        Statement.executeBatch contents upgrade = .ok after
        ∧ after.table? "sqlite_sequence" = some (.empty "sqlite_sequence" counterColumns) := by
  obtain ⟨one, create, alone⟩
      : ∃ after, createSchemaVersion.execute contents = .ok after ∧ after.others = [] :=
    createTable_eq_ok first.unversioned first.alone
  have begun : Statement.executeBatch contents [createSchemaVersion] = .ok one :=
    executeBatch_concat [] rfl create
  obtain ⟨-, versions⟩ := execute_createTable create (by decide)
  obtain ⟨two, insert, same⟩
      : ∃ after, insertVersion.execute one = .ok after ∧ after.others = one.others :=
    insert_eq_ok versions (by decide)
  rw [alone] at same
  have versioned : Statement.executeBatch contents [createSchemaVersion, insertVersion] = .ok two :=
    executeBatch_concat [createSchemaVersion] begun insert
  obtain ⟨table, found, columns, -⟩ := first.dirs
  have dirs : two.table? "dir_index" = some table :=
    (executeBatch_elsewhere versioned (by decide)).trans found
  have missing : table.position? driveIdColumn.name = none := by
    unfold Table.position?
    rw [columns]
    decide
  obtain ⟨three, alter, still⟩
      : ∃ after, alterDirIndex.execute two = .ok after ∧ after.others = two.others :=
    addColumn_eq_ok dirs missing
  rw [same] at still
  have altered
      : Statement.executeBatch contents [createSchemaVersion, insertVersion, alterDirIndex]
        = .ok three :=
    executeBatch_concat [createSchemaVersion, insertVersion] versioned alter
  have uncached : three.table? "path_cache" = none :=
    (executeBatch_elsewhere altered (by decide)).trans first.uncached
  obtain ⟨four, cache, yet⟩
      : ∃ after, createPathCache.execute three = .ok after ∧ after.others = [] :=
    createTable_eq_ok uncached still
  have cached
      : Statement.executeBatch contents
          [createSchemaVersion, insertVersion, alterDirIndex, createPathCache]
        = .ok four :=
    executeBatch_concat [createSchemaVersion, insertVersion, alterDirIndex] altered cache
  have unqueued : four.table? "offline_queue" = none :=
    (executeBatch_elsewhere cached (by decide)).trans first.unqueued
  have uncounted : four.table? "sqlite_sequence" = none :=
    (executeBatch_elsewhere cached (by decide)).trans first.uncounted
  obtain ⟨five, queue, -⟩
      : ∃ after, createOfflineQueue.execute four = .ok after ∧ after.others = [] :=
    createTable_eq_ok unqueued yet
  exact ⟨five,
    executeBatch_concat [createSchemaVersion, insertVersion, alterDirIndex, createPathCache] cached
      queue,
    counters_made queue (by decide) uncounted⟩

/-- The tables that are upgraded hold what they held. -/
theorem migrates (first : HoldsFirst contents db)
    : ∃ after, Connection.initAndMigrate { contents } = (.ok (), after) ∧ Holds after db := by
  obtain ⟨after, done, counters⟩ := first.upgrade_counters
  have upgraded : Connection.initAndMigrate { contents } = (.ok (), { contents := after }) := by
    rw [Connection.initAndMigrate, first.schemaVersion]
    exact migrate_eq_ok done
  obtain ⟨files, entries, found, -, holds⟩ := first.files
  obtain ⟨dirs, known, -, rows⟩ := first.dirs
  obtain ⟨kept, versions⟩ :=
    upgrade_upgrades first.recognisable (.inl (by rw [found]; rfl)) done
  obtain ⟨-, queue⟩ :=
    executeBatch_makes [createSchemaVersion, insertVersion, alterDirIndex, createPathCache] done
      (by decide) (by decide) (by decide)
  refine ⟨_, upgraded, rfl, ⟨files, entries, kept.files files found, holds⟩,
    ⟨_, kept.dirs dirs known, ?_⟩, ⟨_, [], queue, ?_⟩, ⟨_, counters, ?_⟩, versions⟩
  · simp only [Table.addColumn, rows, List.map_map, dirRows]
    rfl
  · rw [first.queue]
    exact ⟨rfl, rfl, rfl⟩
  · rw [first.queue]
    exact ⟨rfl, le_refl _, .inl ⟨rfl, rfl⟩⟩

end HoldsFirst

/-- A database that is opened, with what it holds: none yet, one of the first version, or one of the
second.
-/
inductive Opens : Connection → Database → Prop
  | fresh : Opens .fresh {}
  | first {contents : Contents} {db : Database} (holds : HoldsFirst contents db)
    : Opens { contents } db
  | second {conn : Connection} {db : Database} (holds : Holds conn db) : Opens conn db

theorem Opens.migrates {conn : Connection} {db : Database} (opens : Opens conn db)
    : ∃ after, conn.initAndMigrate = (.ok (), after) ∧ Holds after db := by
  cases opens with
  | fresh => exact fresh_holds
  | first holds => exact holds.migrates
  | second holds => exact ⟨conn, holds.initAndMigrate, holds⟩

/-- Whichever version is opened, the migration keeps what it holds, and through any operations and
starts of the program the tables answer as the map of paths and the queue.
-/
theorem database_refines {conn : Connection} {db : Database} (opens : Opens conn db)
    (ops : List DbOp)
    : ∃ after,
        conn.initAndMigrate = (.ok (), after)
        ∧ List.Forall₂ DbAnswer.Alike (answers Connection.answer after ops)
            (answers Database.answer db ops) := by
  obtain ⟨after, migrated, holds⟩ := opens.migrates
  exact ⟨after, migrated, answers_alike Holds.answer ops holds⟩

/-- The tables of the first version, with a file and a folder. -/
def notedTables : Contents where
  tables :=
    [⟨"file_index", fileColumns, [FileEntry.values ⟨"note.txt", "empreinte", 5⟩],
        by simp [fileColumns, FileEntry.values]⟩,
      ⟨"dir_index", [⟨"path", "TEXT PRIMARY KEY"⟩], [[.text "dossier"]], by simp⟩]
  distinct := by decide

def notedDatabase : Database :=
  { Database.upsert {} ⟨"note.txt", "empreinte", 5⟩ with dirIndex := ["dossier"] }

theorem noted_database_refines
    : ∃ after,
        Connection.initAndMigrate { contents := notedTables } = (.ok (), after)
        ∧ List.Forall₂ DbAnswer.Alike
            (answers Connection.answer after [.initAndMigrate, .get "note.txt"])
            (answers Database.answer notedDatabase [.initAndMigrate, .get "note.txt"]) := by
  apply database_refines
  apply Opens.first
  refine ⟨⟨_, [⟨"note.txt", "empreinte", 5⟩], rfl, rfl, ?_⟩, ⟨_, rfl, rfl, rfl⟩, rfl, rfl, rfl, rfl,
    rfl, rfl⟩
  refine ⟨rfl, rfl, List.nodup_singleton _, ?_⟩
  intro entry
  have stored (path : String)
      : notedDatabase.get path
        = if path = "note.txt" then some ⟨"note.txt", "empreinte", 5⟩ else none :=
    Database.get_upsert {} ⟨"note.txt", "empreinte", 5⟩ path
  rw [stored, List.mem_singleton]
  constructor
  · intro same
    rw [same]
    rfl
  · intro there
    split at there
    · exact (Option.some.inj there).symm
    · cases there

end SyncGDrive
