import SyncGDrive.Sqlite.Tables

/-! Statements on the rows of a table: those that a condition means are read, changed or removed. A
key keeps the values of its column apart, and a counter numbers the rows.
-/

namespace Sqlite

-----------------------------------------------------------------------------------------
-- Conditions
-----------------------------------------------------------------------------------------

@[simp] theorem Value.below_integer (left right : Int)
    : (Value.integer left).below (.integer right) = decide (left < right) := by
  simp only [Value.below, Value.number?, WithBot.coe_lt_coe, WithTop.coe_lt_coe,
    Rat.intCast_lt_intCast]

/-- `=` in a condition, which a null never meets. -/
def Value.equals : Value → Value → Bool
  | .text left, .text right => decide (left = right)
  | .blob left, .blob right => decide (left = right)
  | left, right =>
      match left.number?, right.number? with
      | some left, some right => decide (left = right)
      | _, _ => false

@[simp] theorem Value.equals_text (left right : String)
    : (Value.text left).equals (.text right) = decide (left = right) := rfl

@[simp] theorem Value.equals_integer (left right : Int)
    : (Value.integer left).equals (.integer right) = decide (left = right) := by
  simp [Value.equals, Value.number?]

namespace Table

/-- The value of a row in a column. -/
def valueIn (table : Table) (column : String) (row : List Value) : Value :=
  ((table.position? column).map (fun position => row.getD position .null)).getD .null

/-- Whether a row has the value in the column; without a condition every row is meant. -/
def means (table : Table) : Option (String × Value) → List Value → Bool
  | none, _ => true
  | some (name, value), row => (table.valueIn name row).equals value

def remove (table : Table) (condition : Option (String × Value)) : Table where
  name := table.name
  columns := table.columns
  rows := table.rows.filter (fun row => !table.means condition row)
  filled row member := table.filled row (List.mem_of_mem_filter member)

/-- A row with the assigned values, the others as they were. -/
def assigned (table : Table) (values : List (String × Value)) (row : List Value) : List Value :=
  table.columns.zipWith (fun column old =>
    ((values.find? (fun pair => fold pair.1 = fold column.name)).map Prod.snd).getD old) row

def assign (table : Table) (values : List (String × Value)) (condition : Option (String × Value))
    : Table where
  name := table.name
  columns := table.columns
  rows :=
    table.rows.map (fun row => if table.means condition row then table.assigned values row else row)
  filled := by
    intro row member
    obtain ⟨old, known, same⟩ := List.mem_map.mp member
    have length := table.filled old known
    split at same
    · rw [← same, assigned, List.length_zipWith, length, Nat.min_self]
    · rw [← same, length]

/-- No two rows have equal values in the column. -/
def keyed (table : Table) (key : String) : Bool :=
  decide (((table.position? key).map table.values).getD []
    |>.Pairwise (fun left right => left.equals right = false))

/-- Insert a row, or give the assigned values to the one that has its key. -/
def upsert (table : Table) (key : String) (value : Value) (values : List (String × Value))
    : Table :=
  if table.rows.any (table.means (some (key, value))) then
    table.assign values (some (key, value))
  else table.insert ((key, value) :: values)

/-- The greatest number of a column, or zero. -/
def largest (table : Table) (key : String) : Int :=
  (((table.position? key).map table.values).getD []).foldl
    (fun best value => match value with
      | .integer number => max best number
      | _ => best)
    0

theorem remove_name (table : Table) (condition : Option (String × Value))
    : (table.remove condition).name = table.name := rfl

theorem assign_name (table : Table) (values : List (String × Value))
    (condition : Option (String × Value))
    : (table.assign values condition).name = table.name := rfl

theorem upsert_name (table : Table) (key : String) (value : Value) (values : List (String × Value))
    : (table.upsert key value values).name = table.name := by
  unfold upsert
  split <;> rfl

end Table

-----------------------------------------------------------------------------------------
-- Statements
-----------------------------------------------------------------------------------------

namespace Contents

/-- A table that has the columns which a statement names. -/
def withColumns (db : Contents) (name : String) (columns : List String) : Except String Table :=
  match db.table? name with
  | none => .error ("no such table: " ++ name)
  | some table =>
      match columns.find? (fun column => (table.position? column).isNone) with
      | some missing => .error ("no such column: " ++ missing)
      | none => .ok table

/-- `SELECT columns FROM name WHERE condition`. -/
def select (db : Contents) (name : String) (columns : List String)
    (condition : Option (String × Value))
    : Except String (List (List Value)) := do
  let table ← db.withColumns name (columns ++ (condition.map Prod.fst).toList)
  return (table.rows.filter (table.means condition)).map (fun row =>
    columns.map (fun column => table.valueIn column row))

/-- `SELECT columns FROM name ORDER BY key ASC`. -/
def selectOrdered (db : Contents) (name : String) (columns : List String) (key : String)
    : Except String (List (List Value)) := do
  let table ← db.withColumns name (key :: columns)
  let rows :=
    table.rows.mergeSort (fun row other =>
      !(table.valueIn key other).below (table.valueIn key row))
  return rows.map (fun row => columns.map (fun column => table.valueIn column row))

/-- `DELETE FROM name WHERE condition`. -/
def remove (db : Contents) (name : String) (condition : Option (String × Value))
    : Except String Contents := do
  let _ ← db.withColumns name (condition.map Prod.fst).toList
  return db.update name (fun table => table.remove condition) (fun table => table.remove_name _)

/-- `UPDATE name SET column = value WHERE condition`, of a column that is the key. -/
def assignKey (db : Contents) (name column : String) (value : Value)
    (condition : Option (String × Value))
    : Except String Contents := do
  let table ← db.withColumns name (column :: (condition.map Prod.fst).toList)
  if (table.assign [(column, value)] condition).keyed column then
    return db.update name (fun table => table.assign [(column, value)] condition)
      (fun table => table.assign_name _ _)
  else throw ("UNIQUE constraint failed: " ++ name ++ "." ++ column)

/-- `INSERT INTO name … ON CONFLICT(key) DO UPDATE SET` the other columns. -/
def upsert (db : Contents) (name key : String) (value : Value) (values : List (String × Value))
    : Except String Contents := do
  let _ ← db.withColumns name (key :: values.map Prod.fst)
  return db.update name (fun table => table.upsert key value values)
    (fun table => table.upsert_name _ _ _)

/-- The last number that a counted table has given. -/
def sequence (db : Contents) (name : String) : Int :=
  match db.select "sqlite_sequence" ["seq"] (some ("name", .text name)) with
  | .ok ([.integer last] :: _) => last
  | _ => 0

/-- `INSERT INTO name` with an `AUTOINCREMENT` key, and the number of the row: one more than all
that were ever given.
-/
def insertCounted (db : Contents) (name key : String) (values : List (String × Value))
    : Except String (Int × Contents) := do
  let table ← db.withColumns name (key :: values.map Prod.fst)
  let next := max (db.sequence name) (table.largest key) + 1
  let counted ← db.upsert "sqlite_sequence" "name" (.text name) [("seq", .integer next)]
  return (next, counted.update name (fun table => table.insert ((key, .integer next) :: values))
    (fun table => table.insert_name _))

end Contents

section Rules

variable {db : Contents} {name : String} {table : Table} {condition : Option (String × Value)}

theorem withColumns_eq_ok {columns : List String} (found : db.table? name = some table)
    (known : ∀ column ∈ columns, (table.position? column).isSome = true)
    : db.withColumns name columns = .ok table := by
  have all : columns.find? (fun column => (table.position? column).isNone) = none := by
    rw [List.find?_eq_none]
    intro column member missing
    rw [Option.isNone_iff_eq_none] at missing
    have there := known column member
    rw [missing] at there
    cases there
  simp only [Contents.withColumns, found, all]

theorem remove_eq_ok (found : db.table? name = some table)
    (known : ∀ column ∈ (condition.map Prod.fst).toList, (table.position? column).isSome = true)
    : ∃ after, db.remove name condition = .ok after
      ∧ after.table? name = some (table.remove condition)
      ∧ ∀ other, fold other ≠ fold name → after.table? other = db.table? other := by
  refine ⟨db.update name (fun table => table.remove condition)
    (fun table => table.remove_name condition), ?_, ?_, ?_⟩
  · simp only [Contents.remove, withColumns_eq_ok found known]
    rfl
  · rw [table?_update, if_pos rfl, found, Option.map_some]
  · intro other apart
    rw [table?_update, if_neg apart]

theorem upsert_eq_ok {key : String} {value : Value} {values : List (String × Value)}
    (found : db.table? name = some table)
    (known : ∀ column ∈ key :: values.map Prod.fst, (table.position? column).isSome = true)
    : ∃ after, db.upsert name key value values = .ok after
      ∧ after.table? name = some (table.upsert key value values)
      ∧ ∀ other, fold other ≠ fold name → after.table? other = db.table? other := by
  refine ⟨db.update name (fun table => table.upsert key value values)
    (fun table => table.upsert_name key value values), ?_, ?_, ?_⟩
  · simp only [Contents.upsert, withColumns_eq_ok found known]
    rfl
  · rw [table?_update, if_pos rfl, found, Option.map_some]
  · intro other apart
    rw [table?_update, if_neg apart]

theorem assignKey_eq_ok {column : String} {value : Value} (found : db.table? name = some table)
    (known
      : ∀ other ∈ column :: (condition.map Prod.fst).toList, (table.position? other).isSome = true)
    (keyed : (table.assign [(column, value)] condition).keyed column = true)
    : ∃ after, db.assignKey name column value condition = .ok after
      ∧ after.table? name = some (table.assign [(column, value)] condition)
      ∧ ∀ other, fold other ≠ fold name → after.table? other = db.table? other := by
  refine ⟨db.update name (fun table => table.assign [(column, value)] condition)
    (fun table => table.assign_name [(column, value)] condition), ?_, ?_, ?_⟩
  · simp only [Contents.assignKey, withColumns_eq_ok found known]
    exact if_pos keyed
  · rw [table?_update, if_pos rfl, found, Option.map_some]
  · intro other apart
    rw [table?_update, if_neg apart]

theorem assignKey_eq_error {column : String} {value : Value} (found : db.table? name = some table)
    (known
      : ∀ other ∈ column :: (condition.map Prod.fst).toList, (table.position? other).isSome = true)
    (clashes : (table.assign [(column, value)] condition).keyed column = false)
    : db.assignKey name column value condition
      = .error ("UNIQUE constraint failed: " ++ name ++ "." ++ column) := by
  simp only [Contents.assignKey, withColumns_eq_ok found known]
  exact if_neg (by simp [clashes])

end Rules

-----------------------------------------------------------------------------------------
-- Batches that go through
-----------------------------------------------------------------------------------------

section Batches

variable {db before after : Contents} {name : String} {table : Table} {statement : Statement}

@[simp] theorem others_count (db : Contents) : db.count.others = db.others := by
  unfold Contents.count
  split <;> rfl

theorem createTable_eq_ok {columns : List Column} {counted : Bool} (free : db.table? name = none)
    (alone : db.others = [])
    : ∃ after, Statement.execute db (.createTable name columns counted) = .ok after
      ∧ after.others = [] := by
  refine ⟨if counted then (db.make name columns free).count else db.make name columns free, ?_, ?_⟩
  · simp [Statement.execute, free, alone]
  · split
    · rw [others_count]
      exact alone
    · exact alone

/-- The first counted table makes the counters. -/
theorem counters_made {columns : List Column}
    (done : Statement.execute db (.createTable name columns true) = .ok after)
    (apart : fold name ≠ fold "sqlite_sequence") (none_yet : db.table? "sqlite_sequence" = none)
    : after.table? "sqlite_sequence"
      = some (.empty "sqlite_sequence" [⟨"name", ""⟩, ⟨"seq", ""⟩]) := by
  simp only [Statement.execute] at done
  split at done
  · rename_i free
    split at done
    · cases done
    · cases done
      have still : (db.make name columns free).table? "sqlite_sequence" = none := by
        rw [table?_make, if_neg apart, none_yet]
      rw [if_pos trivial, Contents.count, dif_pos still, table?_make, if_pos rfl]
  · cases done

theorem insert_eq_ok {assigned : List (String × Value)} (found : db.table? name = some table)
    (known : ∀ pair ∈ assigned, (table.position? pair.1).isSome = true)
    : ∃ after, Statement.execute db (.insert name assigned) = .ok after
      ∧ after.others = db.others := by
  refine ⟨db.update name (fun table => table.insert assigned)
    (fun table => table.insert_name assigned), ?_, ?_⟩
  · simp only [Statement.execute, found]
    exact if_pos (List.all_eq_true.mpr known)
  · rfl

theorem addColumn_eq_ok {column : Column} (found : db.table? name = some table)
    (missing : table.position? column.name = none)
    : ∃ after, Statement.execute db (.addColumn name column) = .ok after
      ∧ after.others = db.others := by
  refine ⟨db.update name (fun table => table.addColumn column)
    (fun table => table.addColumn_name column), ?_, ?_⟩
  · simp only [Statement.execute, found, missing]
    exact if_neg (by simp)
  · rfl

/-- One statement more. -/
theorem executeBatch_concat (front : List Statement)
    (begun : Statement.executeBatch db front = .ok before)
    (step : statement.execute before = .ok after)
    : Statement.executeBatch db (front ++ [statement]) = .ok after := by
  unfold Statement.executeBatch at begun ⊢
  rw [List.foldlM_append, bind_eq_ok]
  refine ⟨before, begun, ?_⟩
  rw [List.foldlM_cons, bind_eq_ok]
  exact ⟨after, step, rfl⟩

end Batches

end Sqlite
