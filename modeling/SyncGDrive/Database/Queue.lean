import SyncGDrive.Database.Files

/-! The statements on `offline_queue`: its counter gives every task a number of its own, and the
rows in the order of these numbers are the queue.
-/

namespace SyncGDrive

open Sqlite

-----------------------------------------------------------------------------------------
-- The functions of the queue
-----------------------------------------------------------------------------------------

namespace Connection

/-- `row.get` for a text that may be missing. -/
def getOptionalText (index : Nat) (column : String) : Value → Except Error (Option String)
  | .null => .ok none
  | value => (getText index column value).map some

def readOfflineTask (row : List Value) : Except Error OfflineTask := do
  let id ← getI64 0 "id" (row.getD 0 .null)
  let action ← getText 1 "action" (row.getD 1 .null)
  let relativePath ← getText 2 "relative_path" (row.getD 2 .null)
  let extra ← getOptionalText 3 "extra" (row.getD 3 .null)
  let _createdAt ← getI64 4 "created_at" (row.getD 4 .null)
  return { id := id.toNat, action, relativePath, extra }

/-- `push_offline_task`, at a time in seconds; it gives the number of the row. -/
def pushOfflineTask (conn : Connection) (now : Int) (action path : String) (extra : Option String)
    : Except Error Int × Connection :=
  match conn.lock with
  | .error error => (.error error, conn)
  | .ok db =>
      if now < 0 then (.error (.msg "second time provided was later than self"), conn)
      else
        match db.insertCounted "offline_queue" "id"
            [("action", .text action), ("relative_path", .text path),
              ("extra", (extra.map Value.text).getD .null), ("created_at", .integer now)] with
        | .error message => (.error (.msg message), conn)
        | .ok (id, after) => (.ok id, { conn with contents := after })

def getOfflineTasks (conn : Connection) : Except Error (List OfflineTask) := do
  let db ← conn.lock
  let rows ←
    sqliteError (db.selectOrdered "offline_queue"
      ["id", "action", "relative_path", "extra", "created_at"] "id")
  rows.mapM readOfflineTask

def removeOfflineTask (conn : Connection) (id : Nat) : Except Error Unit × Connection :=
  conn.execute (fun db => db.remove "offline_queue" (some ("id", .integer id)))

end Connection

-----------------------------------------------------------------------------------------
-- The rows of the queue
-----------------------------------------------------------------------------------------

/-- The columns of `offline_queue`, as they are created. -/
def queueColumns : List Column :=
  [⟨"id", "INTEGER PRIMARY KEY AUTOINCREMENT"⟩, ⟨"action", "TEXT NOT NULL"⟩,
    ⟨"relative_path", "TEXT NOT NULL"⟩, ⟨"extra", "TEXT"⟩, ⟨"created_at", "INTEGER NOT NULL"⟩]

/-- The columns of the counters, as they are made. -/
def counterColumns : List Column := [⟨"name", ""⟩, ⟨"seq", ""⟩]

/-- A task with the time at which it was recorded. -/
def OfflineTask.values (stamped : OfflineTask × Int) : List Value :=
  [.integer stamped.1.id, .text stamped.1.action, .text stamped.1.relativePath,
    (stamped.1.extra.map Value.text).getD .null, .integer stamped.2]

structure HoldsQueue (table : Table) (queue : OfflineQueue) (stamped : List (OfflineTask × Int))
    : Prop where
  columns : table.columns = queueColumns
  rows : table.rows = stamped.map OfflineTask.values
  tasks : stamped.map Prod.fst = queue.rows

/-- The counter has counted up to the next number, or has not begun. -/
structure Counts (counters : Table) (queue : OfflineQueue) : Prop where
  columns : counters.columns = counterColumns
  begun : 1 ≤ queue.nextId
  counted
    : counters.rows = [] ∧ queue.nextId = 1
      ∨ counters.rows = [[.text "offline_queue", .integer (queue.nextId - 1)]]

section Queue

variable {table counters : Table} {queue : OfflineQueue} {stamped : List (OfflineTask × Int)}
  {db : Contents}

theorem positions_queue (columns : table.columns = queueColumns)
    : table.position? "id" = some 0 ∧ table.position? "action" = some 1
      ∧ table.position? "relative_path" = some 2 ∧ table.position? "extra" = some 3
      ∧ table.position? "created_at" = some 4 := by
  unfold Table.position?
  rw [columns]
  decide

theorem positions_counters (columns : counters.columns = counterColumns)
    : counters.position? "name" = some 0 ∧ counters.position? "seq" = some 1 := by
  unfold Table.position?
  rw [columns]
  decide

theorem HoldsQueue.remove (holds : HoldsQueue table queue stamped) (id : Nat)
    : HoldsQueue (table.remove (some ("id", .integer id))) (queue.remove id)
        (stamped.filter (fun entry => entry.1.id ≠ id)) where
  columns := holds.columns
  rows := by
    have positions := (positions_queue holds.columns).1
    simp only [Table.remove, holds.rows, List.filter_map, Function.comp_def, Table.means,
      Table.valueIn, positions]
    simp [OfflineTask.values]
  tasks := by
    simp only [OfflineQueue.remove, ← holds.tasks, List.filter_map, Function.comp_def]

/-- What no number of a row exceeds, the greatest does not. -/
theorem largest_le {values : List Value} {bound first : Int} (start : first ≤ bound)
    (all : ∀ number, Value.integer number ∈ values → number ≤ bound)
    : values.foldl
        (fun best value => match value with
          | .integer number => max best number
          | _ => best)
        first
      ≤ bound := by
  induction values generalizing first with
  | nil => exact start
  | cons value rest ih =>
      have others := fun number member => all number (List.mem_cons_of_mem value member)
      rw [List.foldl_cons]
      cases value with
      | integer number => exact ih (max_le start (all number (.head _))) others
      | null | real _ | text _ | blob _ => exact ih start others

theorem HoldsQueue.largest_le (holds : HoldsQueue table queue stamped) (begun : 1 ≤ queue.nextId)
    : table.largest "id" ≤ queue.nextId - 1 := by
  unfold Table.largest
  rw [(positions_queue holds.columns).1, Option.map_some, Option.getD_some]
  apply SyncGDrive.largest_le (by omega)
  intro number member
  simp only [Table.values, holds.rows, List.map_map, List.mem_map, Function.comp_apply] at member
  obtain ⟨entry, entered, same⟩ := member
  have listed : entry.1 ∈ queue.rows := holds.tasks ▸ List.mem_map_of_mem entered
  have less := queue.fresh entry.1 listed
  simp only [OfflineTask.values, List.getD_cons_zero, Value.integer.injEq] at same
  omega

/-- The last number that was given. -/
theorem Counts.sequence (counts : Counts counters queue)
    (found : db.table? "sqlite_sequence" = some counters)
    : db.sequence "offline_queue" = queue.nextId - 1 := by
  obtain ⟨name, seq⟩ := positions_counters counts.columns
  have known
      : ∀ column ∈ ["seq", "name"], (counters.position? column).isSome = true := by
    simp [name, seq]
  have selected
      : db.select "sqlite_sequence" ["seq"] (some ("name", .text "offline_queue"))
        = .ok ((counters.rows.filter
            (counters.means (some ("name", .text "offline_queue")))).map (fun row =>
              [counters.valueIn "seq" row])) := by
    simp only [Contents.select, Option.map_some, Option.toList_some, List.cons_append,
      List.nil_append, withColumns_eq_ok found known]
    rfl
  unfold Contents.sequence
  rw [selected]
  rcases counts.counted with none_ | one
  · obtain ⟨empty, first⟩ := none_
    simp [empty, first]
  · simp [one, Table.means, Table.valueIn, name, seq]

/-- The counter after a number has been given. -/
theorem Counts.push (counts : Counts counters queue) (action path : String) (extra : Option String)
    : Counts (counters.upsert "name" (.text "offline_queue") [("seq", .integer queue.nextId)])
        (queue.push action path extra) := by
  obtain ⟨name, seq⟩ := positions_counters counts.columns
  have apart : fold "name" ≠ fold "seq" := by decide
  have next : (((queue.nextId + 1 : ℕ) : ℤ) - 1) = queue.nextId := by omega
  constructor
  · unfold Table.upsert
    split <;> exact counts.columns
  · exact Nat.le_add_left 1 queue.nextId
  · right
    rcases counts.counted with none_ | one
    · simp only [Table.upsert, none_.1, List.any_nil, Bool.false_eq_true, if_false, Table.insert,
        counts.columns, List.nil_append, OfflineQueue.push, next]
      simp [counterColumns, apart]
    · have meant
          : counters.means (some ("name", .text "offline_queue"))
              [.text "offline_queue", .integer (queue.nextId - 1)]
            = true := by
        simp [Table.means, Table.valueIn, name]
      simp only [Table.upsert, one, List.any_cons, List.any_nil, meant, Bool.or_false, if_true,
        Table.assign, List.map_cons, List.map_nil, Table.assigned, counts.columns,
        OfflineQueue.push, next]
      simp [counterColumns, apart.symm]

/-- The row that a task gets. -/
theorem insert_task (columns : table.columns = queueColumns) (task : OfflineTask) (now : Int)
    : (table.insert [("id", .integer task.id), ("action", .text task.action),
        ("relative_path", .text task.relativePath),
        ("extra", (task.extra.map Value.text).getD .null), ("created_at", .integer now)]).rows
      = table.rows ++ [OfflineTask.values (task, now)] := by
  have apart
      : fold "id" ≠ fold "action" ∧ fold "id" ≠ fold "relative_path" ∧ fold "id" ≠ fold "extra"
        ∧ fold "id" ≠ fold "created_at" ∧ fold "action" ≠ fold "relative_path"
        ∧ fold "action" ≠ fold "extra" ∧ fold "action" ≠ fold "created_at"
        ∧ fold "relative_path" ≠ fold "extra" ∧ fold "relative_path" ≠ fold "created_at"
        ∧ fold "extra" ≠ fold "created_at" := by
    decide
  simp only [Table.insert, columns]
  simp [queueColumns, OfflineTask.values, apart]

/-- A task gets the next number, which no task has had before. -/
theorem HoldsQueue.push (holds : HoldsQueue table queue stamped) (counts : Counts counters queue)
    (found : db.table? "offline_queue" = some table)
    (foundCounters : db.table? "sqlite_sequence" = some counters) (now : Int)
    (action path : String) (extra : Option String)
    : ∃ after table' counters' stamped',
        db.insertCounted "offline_queue" "id"
            [("action", .text action), ("relative_path", .text path),
              ("extra", (extra.map Value.text).getD .null), ("created_at", .integer now)]
          = .ok ((queue.nextId : ℤ), after)
        ∧ after.table? "offline_queue" = some table'
        ∧ HoldsQueue table' (queue.push action path extra) stamped'
        ∧ after.table? "sqlite_sequence" = some counters'
        ∧ Counts counters' (queue.push action path extra)
        ∧ ∀ other, fold other ≠ fold "offline_queue" → fold other ≠ fold "sqlite_sequence"
            → after.table? other = db.table? other := by
  obtain ⟨id, actionAt, pathAt, extraAt, createdAt⟩ := positions_queue holds.columns
  obtain ⟨name, seq⟩ := positions_counters counts.columns
  have next : max (db.sequence "offline_queue") (table.largest "id") + 1 = queue.nextId := by
    have least := holds.largest_le counts.begun
    rw [counts.sequence foundCounters, max_eq_left least]
    omega
  have known
      : ∀ column ∈ ["id", "action", "relative_path", "extra", "created_at"],
          (table.position? column).isSome = true := by
    simp [id, actionAt, pathAt, extraAt, createdAt]
  obtain ⟨counted, done, told, elsewhere⟩ :=
    @upsert_eq_ok db "sqlite_sequence" counters "name" (.text "offline_queue")
      [("seq", .integer queue.nextId)] foundCounters (by simp [name, seq])
  have apart : fold "offline_queue" ≠ fold "sqlite_sequence" := by decide
  let row : List (String × Value) :=
    [("id", .integer queue.nextId), ("action", .text action), ("relative_path", .text path),
      ("extra", (extra.map Value.text).getD .null), ("created_at", .integer now)]
  refine ⟨counted.update "offline_queue" (fun table => table.insert row)
      (fun table => table.insert_name row),
    table.insert row,
    counters.upsert "name" (.text "offline_queue") [("seq", .integer queue.nextId)],
    stamped ++ [(⟨queue.nextId, action, path, extra⟩, now)], ?_, ?_, ?_, ?_,
    counts.push action path extra, ?_⟩
  · simp only [Contents.insertCounted, List.map_cons, List.map_nil,
      withColumns_eq_ok found known, bind, Except.bind, next, done]
    rfl
  · rw [table?_update, if_pos rfl, elsewhere _ apart, found]
    rfl
  · constructor
    · exact holds.columns
    · rw [insert_task holds.columns ⟨queue.nextId, action, path, extra⟩, holds.rows,
        List.map_append]
      rfl
    · rw [List.map_append, holds.tasks]
      rfl
  · rw [table?_update, if_neg apart.symm, told]
  · intro other queued countedApart
    rw [table?_update, if_neg queued, elsewhere other countedApart]

/-- The rows in the order of their numbers are the queue. -/
theorem HoldsQueue.select (holds : HoldsQueue table queue stamped)
    (found : db.table? "offline_queue" = some table)
    : db.selectOrdered "offline_queue"
        ["id", "action", "relative_path", "extra", "created_at"] "id"
      = .ok (stamped.map OfflineTask.values) := by
  obtain ⟨id, actionAt, pathAt, extraAt, createdAt⟩ := positions_queue holds.columns
  have known
      : ∀ column ∈ ["id", "id", "action", "relative_path", "extra", "created_at"],
          (table.position? column).isSome = true := by
    simp [id, actionAt, pathAt, extraAt, createdAt]
  have ascending : stamped.Pairwise (fun entry other => entry.1.id < other.1.id) := by
    have order := queue.ascending
    rw [← holds.tasks, List.pairwise_map] at order
    exact order
  have sorted
      : table.rows.Pairwise (fun row other =>
          (!(table.valueIn "id" other).below (table.valueIn "id" row)) = true) := by
    rw [holds.rows, List.pairwise_map]
    apply ascending.imp
    intro entry other before
    simp only [Table.valueIn, id, OfflineTask.values, Option.map_some, Option.getD_some,
      List.getD_cons_zero, Value.below_integer, Bool.not_eq_true', decide_eq_false_iff_not]
    omega
  simp only [Contents.selectOrdered, withColumns_eq_ok found known, bind, Except.bind, pure,
    Except.pure]
  rw [List.mergeSort_of_pairwise sorted, holds.rows, List.map_map]
  congr 1
  apply List.map_congr_left
  intro entry _
  simp [Table.valueIn, id, actionAt, pathAt, extraAt, createdAt, OfflineTask.values]

/-- Such a row is read as its task. -/
theorem readOfflineTask_values (entry : OfflineTask × Int)
    : Connection.readOfflineTask (OfflineTask.values entry) = .ok entry.1 := by
  obtain ⟨⟨id, action, path, extra⟩, created⟩ := entry
  cases extra <;> rfl

end Queue

end SyncGDrive
