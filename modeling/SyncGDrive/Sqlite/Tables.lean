import Mathlib.Data.List.Nodup
import Mathlib.Data.Rat.Defs
import Mathlib.Algebra.Order.Ring.Unbundled.Rat
import Mathlib.Order.WithBot

/-! Databases as tables with rows, and the statements that build them. Names are compared without
regard to ASCII case, and a batch that fails leaves what was there.
-/

namespace Sqlite

-----------------------------------------------------------------------------------------
-- Values
-----------------------------------------------------------------------------------------

/-- What a row may hold in a column. A real may be infinite. -/
inductive Value
  | null
  | integer (value : Int)
  | real (value : WithBot (WithTop ℚ))
  | text (value : String)
  | blob (bytes : List UInt8)

namespace Value

/-- A number, among all numbers. -/
def number? : Value → Option (WithBot (WithTop ℚ))
  | .integer value => some ((value : ℚ) : WithTop ℚ)
  | .real value => some value
  | _ => none

/-- The order of the types: nulls, numbers, texts, blobs. -/
def rank : Value → Nat
  | .null => 0
  | .integer _ | .real _ => 1
  | .text _ => 2
  | .blob _ => 3

/-- The order by which a maximum is taken. -/
def below (left right : Value) : Bool :=
  match left, right with
  | .text left, .text right => decide (left < right)
  | .blob left, .blob right => decide (left < right)
  | _, _ =>
      match left.number?, right.number? with
      | some left, some right => decide (left < right)
      | _, _ => decide (left.rank < right.rank)

/-- `MAX`: the first of the greatest values, and null if there is none. -/
def maximum (values : List Value) : Value :=
  values.foldl (fun best value => if best.below value then value else best) .null

end Value

-----------------------------------------------------------------------------------------
-- Tables
-----------------------------------------------------------------------------------------

/-- A name without its case. -/
def fold (name : String) : List Char :=
  name.toList.map Char.toLower

/-- A column with its type and constraints. -/
structure Column where
  name : String
  declaration : String

/-- A table, with a value in every column of a row. -/
structure Table where
  name : String
  columns : List Column
  rows : List (List Value)
  filled : ∀ row ∈ rows, row.length = columns.length

namespace Table

def empty (name : String) (columns : List Column) : Table where
  name
  columns
  rows := []
  filled := nofun

@[simp]
theorem empty_name (name : String) (columns : List Column) : (empty name columns).name = name :=
  rfl

/-- The columns are these, in some order. -/
def HasColumns (table : Table) (names : List String) : Prop :=
  (table.columns.map (fun column => fold column.name)).Perm (names.map fold)

/-- Where a column stands. -/
def position? (table : Table) (name : String) : Option Nat :=
  table.columns.findIdx? (fun column => fold column.name = fold name)

/-- The values of a column. -/
def values (table : Table) (position : Nat) : List Value :=
  table.rows.map (fun row => row.getD position .null)

/-- A row with the assigned values, and null elsewhere. -/
def insert (table : Table) (assigned : List (String × Value)) : Table where
  name := table.name
  columns := table.columns
  rows :=
    table.rows
      ++ [table.columns.map (fun column =>
          ((assigned.find? (fun pair => fold pair.1 = fold column.name)).map Prod.snd).getD .null)]
  filled := by
    intro row member
    rcases List.mem_append.mp member with old | new
    · exact table.filled row old
    · rw [List.mem_singleton.mp new, List.length_map]

/-- One more column, null in every row. -/
def addColumn (table : Table) (column : Column) : Table where
  name := table.name
  columns := table.columns ++ [column]
  rows := table.rows.map (fun row => row ++ [.null])
  filled := by
    intro row member
    obtain ⟨old, known, rfl⟩ := List.mem_map.mp member
    simp [table.filled old known]

theorem insert_name (table : Table) (assigned : List (String × Value))
    : (table.insert assigned).name = table.name :=
  rfl

theorem addColumn_name (table : Table) (column : Column)
    : (table.addColumn column).name = table.name :=
  rfl

theorem hasColumns_empty (name : String) (columns : List Column)
    : (empty name columns).HasColumns (columns.map Column.name) := by
  simp [HasColumns, empty, Function.comp_def]

theorem HasColumns.addColumn {table : Table} {names : List String} {column : Column}
    (columns : table.HasColumns names)
    : (table.addColumn column).HasColumns (names ++ [column.name]) := by
  unfold HasColumns Table.addColumn
  rw [List.map_append, List.map_append]
  exact columns.append (.refl _)

/-- A column that a table has is found. -/
theorem HasColumns.found {table : Table} {names : List String} {name : String}
    (columns : table.HasColumns names) (member : name ∈ names)
    : table.position? name ≠ none := by
  have known : fold name ∈ table.columns.map (fun column => fold column.name) :=
    columns.mem_iff.mpr (List.mem_map_of_mem member)
  obtain ⟨column, there, same⟩ := List.mem_map.mp known
  intro missing
  have other := List.findIdx?_eq_none_iff.mp missing column there
  simp [same] at other

end Table

/-- The tables of a database, no two of a name, and the names of its indexes and views. -/
structure Contents where
  tables : List Table := []
  others : List String := []
  distinct : (tables.map (fun table => fold table.name)).Nodup := by simp

namespace Contents

/-- The table that a statement means by a name. -/
def table? (db : Contents) (name : String) : Option Table :=
  db.tables.find? (fun table => fold table.name = fold name)

/-- Is a table listed under exactly this name? -/
def listed (db : Contents) (name : String) : Bool :=
  db.tables.any (fun table => table.name = name)

/-- Make a table, under a name that is free. -/
def make (db : Contents) (name : String) (columns : List Column) (free : db.table? name = none)
    : Contents where
  tables := db.tables ++ [.empty name columns]
  others := db.others
  distinct := by
    rw [List.map_append, List.map_singleton, List.nodup_append]
    refine ⟨db.distinct, List.nodup_singleton _, ?_⟩
    intro text member other same
    rw [List.mem_singleton.mp same]
    obtain ⟨found, known, rfl⟩ := List.mem_map.mp member
    have different := List.find?_eq_none.mp free found known
    simpa using different

/-- Change the table of a name, but not how it is called. -/
def update (db : Contents) (name : String) (change : Table → Table)
    (named : ∀ table, (change table).name = table.name)
    : Contents where
  tables := db.tables.map (fun table => if fold table.name = fold name then change table else table)
  others := db.others
  distinct := by
    have same
        : (db.tables.map (fun table =>
            if fold table.name = fold name then change table else table)).map
            (fun table => fold table.name)
          = db.tables.map (fun table => fold table.name) := by
      rw [List.map_map]
      apply List.map_congr_left
      intro table _
      by_cases meant : fold table.name = fold name <;> simp [meant, named]
    rw [same]
    exact db.distinct

end Contents

/-- `SELECT MAX(column) FROM table`. -/
def Contents.selectMax (db : Contents) (table column : String) : Except String Value :=
  match db.table? table with
  | none => .error ("no such table: " ++ table)
  | some found =>
      match found.position? column with
      | none => .error ("no such column: " ++ column)
      | some position => .ok (Value.maximum (found.values position))

-----------------------------------------------------------------------------------------
-- Statements
-----------------------------------------------------------------------------------------

inductive Statement
  /-- The rows of a table may be counted, in a table of its own that is made when needed. -/
  | createTable (name : String) (columns : List Column) (counted : Bool := false)
  | insert (table : String) (assigned : List (String × Value))
  | addColumn (table : String) (column : Column)

/-- Make the table of the counters, if it is not there. -/
def Contents.count (db : Contents) : Contents :=
  if free : db.table? "sqlite_sequence" = none then
    db.make "sqlite_sequence" [⟨"name", ""⟩, ⟨"seq", ""⟩] free
  else db

namespace Statement

/-- The names of the tables that a statement may make or change. -/
def subjects : Statement → List String
  | .createTable name _ counted => if counted then [name, "sqlite_sequence"] else [name]
  | .insert table _ => [table]
  | .addColumn table _ => [table]

/-- One statement. What is made must not be there yet, and what is used must be. -/
def execute (db : Contents) : Statement → Except String Contents
  | .createTable name columns counted =>
      if free : db.table? name = none then
        if db.others.any (fun other => fold other = fold name) then
          .error ("there is already another thing named " ++ name)
        else
          let made := db.make name columns free
          .ok (if counted then made.count else made)
      else .error ("table " ++ name ++ " already exists")
  | .insert table assigned =>
      match db.table? table with
      | none => .error ("no such table: " ++ table)
      | some found =>
          if assigned.all (fun pair => (found.position? pair.1).isSome) then
            .ok (db.update table (fun table => table.insert assigned)
              (fun table => table.insert_name assigned))
          else .error ("table " ++ table ++ " has no such column")
  | .addColumn table column =>
      match db.table? table with
      | none => .error ("no such table: " ++ table)
      | some found =>
          if (found.position? column.name).isSome then
            .error ("duplicate column name: " ++ column.name)
          else .ok (db.update table (fun table => table.addColumn column)
              (fun table => table.addColumn_name column))

/-- No statement of the batch is about the table. -/
def Untouched (batch : List Statement) (name : String) : Prop :=
  ∀ statement ∈ batch, ∀ subject ∈ statement.subjects, fold subject ≠ fold name

instance (batch : List Statement) (name : String) : Decidable (Untouched batch name) :=
  inferInstanceAs (Decidable (∀ statement ∈ batch, ∀ subject ∈ statement.subjects, _))

/-- Statements one after the other, up to the first that fails. -/
def executeBatch (db : Contents) (statements : List Statement) : Except String Contents :=
  statements.foldlM execute db

end Statement

/-- A batch in a transaction: if it fails, nothing has happened. -/
def transaction (db : Contents) (statements : List Statement) : Except String Unit × Contents :=
  match Statement.executeBatch db statements with
  | .ok after => (.ok (), after)
  | .error message => (.error message, db)

-----------------------------------------------------------------------------------------
-- What a statement does
-----------------------------------------------------------------------------------------

section Effects

variable {db after : Contents} {name other : String} {columns : List Column} {counted : Bool}
  {statement : Statement} {back : List Statement}

theorem table?_make (free : db.table? name = none)
    : (db.make name columns free).table? other
      = if fold name = fold other then some (.empty name columns) else db.table? other := by
  unfold Contents.table? Contents.make
  rw [List.find?_append]
  by_cases same : fold name = fold other
  · have absent : db.tables.find? (fun table => fold table.name = fold other) = none := by
      have := free
      rwa [Contents.table?, same] at this
    simp [absent, Table.empty, same]
  · simp [Table.empty, same]

theorem table?_count (elsewhere : fold "sqlite_sequence" ≠ fold other)
    : db.count.table? other = db.table? other := by
  unfold Contents.count
  split
  · rw [table?_make]
    exact if_neg elsewhere
  · rfl

theorem table?_update {change : Table → Table} (named : ∀ table, (change table).name = table.name)
    : (db.update name change named).table? other
      = if fold other = fold name then (db.table? other).map change else db.table? other := by
  have kept (table : Table)
      : (if fold table.name = fold name then change table else table).name = table.name := by
    split
    · exact named table
    · rfl
  unfold Contents.table? Contents.update
  simp only [List.find?_map, Function.comp_def, kept]
  cases found : db.tables.find? (fun table => fold table.name = fold other) with
  | none => simp
  | some table =>
      have called : fold table.name = fold other := by simpa using List.find?_some found
      by_cases same : fold other = fold name <;> simp [called, same]

/-- A table that is made was not there. -/
theorem execute_createTable
    (done : Statement.execute db (.createTable name columns counted) = .ok after)
    (own : fold "sqlite_sequence" ≠ fold name)
    : db.table? name = none ∧ after.table? name = some (.empty name columns) := by
  simp only [Statement.execute] at done
  split at done
  · rename_i free
    split at done
    · cases done
    · cases done
      refine ⟨free, ?_⟩
      cases counted with
      | true => simp [table?_count own, table?_make]
      | false => simp [table?_make]
  · cases done

theorem execute_insert {assigned : List (String × Value)}
    (done : Statement.execute db (.insert name assigned) = .ok after)
    : after.table? name = (db.table? name).map (fun table => table.insert assigned) := by
  simp only [Statement.execute] at done
  split at done
  · cases done
  · split at done
    · cases done
      rw [table?_update, if_pos rfl]
    · cases done

/-- A column that is added was not there. -/
theorem execute_addColumn {column : Column}
    (done : Statement.execute db (.addColumn name column) = .ok after)
    : ∃ table,
        db.table? name = some table
        ∧ table.position? column.name = none
        ∧ after.table? name = some (table.addColumn column) := by
  simp only [Statement.execute] at done
  split at done
  · cases done
  · rename_i table found
    split at done
    · cases done
    · rename_i missing
      cases done
      refine ⟨table, found, by simpa using missing, ?_⟩
      rw [table?_update, if_pos rfl, found]
      rfl

/-- What a statement is not about stays. -/
theorem execute_elsewhere (done : statement.execute db = .ok after)
    (elsewhere : ∀ subject ∈ statement.subjects, fold subject ≠ fold other)
    : after.table? other = db.table? other := by
  cases statement with
  | createTable name columns counted =>
      have apart := elsewhere name (by cases counted <;> simp [Statement.subjects])
      simp only [Statement.execute] at done
      split at done
      · split at done
        · cases done
        · cases done
          cases counted with
          | true =>
              have counters := elsewhere "sqlite_sequence" (by simp [Statement.subjects])
              rw [if_pos rfl, table?_count counters, table?_make, if_neg apart]
          | false => rw [if_neg nofun, table?_make, if_neg apart]
      · cases done
  | insert table assigned =>
      have apart := elsewhere table (by simp [Statement.subjects])
      simp only [Statement.execute] at done
      split at done
      · cases done
      · split at done
        · cases done
          rw [table?_update, if_neg apart.symm]
        · cases done
  | addColumn table column =>
      have apart := elsewhere table (by simp [Statement.subjects])
      simp only [Statement.execute] at done
      split at done
      · cases done
      · split at done
        · cases done
        · cases done
          rw [table?_update, if_neg apart.symm]

/-- A sequence is through when both its parts are. -/
theorem bind_eq_ok {α β : Type} {first : Except String α} {rest : α → Except String β} {last : β}
    : first >>= rest = .ok last ↔ ∃ middle, first = .ok middle ∧ rest middle = .ok last := by
  cases first <;> simp [bind, Except.bind]

/-- A batch that is through has taken each of its steps. -/
theorem executeBatch_split (front : List Statement)
    (done : Statement.executeBatch db (front ++ statement :: back) = .ok after)
    : ∃ before middle,
        Statement.executeBatch db front = .ok before
        ∧ statement.execute before = .ok middle
        ∧ Statement.executeBatch middle back = .ok after := by
  unfold Statement.executeBatch at done
  rw [List.foldlM_append] at done
  obtain ⟨before, early, done⟩ := bind_eq_ok.mp done
  rw [List.foldlM_cons] at done
  obtain ⟨middle, step, late⟩ := bind_eq_ok.mp done
  exact ⟨before, middle, early, step, late⟩

/-- What no statement of a batch is about stays, by induction on the batch. -/
theorem executeBatch_elsewhere {batch : List Statement}
    (done : Statement.executeBatch db batch = .ok after)
    (elsewhere : Statement.Untouched batch other)
    : after.table? other = db.table? other := by
  induction batch generalizing db with
  | nil =>
      cases done
      rfl
  | cons statement rest ih =>
      rw [Statement.executeBatch, List.foldlM_cons] at done
      obtain ⟨middle, step, late⟩ := bind_eq_ok.mp done
      rw [ih late (fun statement member => elsewhere statement (List.mem_cons_of_mem _ member)),
        execute_elsewhere step (elsewhere statement List.mem_cons_self)]

/-- Where only one statement of a batch is about a table, it finds the table as it was and leaves it
as it will be.
-/
theorem executeBatch_alone (front : List Statement) (other : String)
    (done : Statement.executeBatch db (front ++ statement :: back) = .ok after)
    (early : Statement.Untouched front other) (late : Statement.Untouched back other)
    : ∃ before middle,
        statement.execute before = .ok middle
        ∧ before.table? other = db.table? other
        ∧ after.table? other = middle.table? other := by
  obtain ⟨before, middle, begun, step, rest⟩ := executeBatch_split front done
  exact ⟨before, middle, step, executeBatch_elsewhere begun early,
    executeBatch_elsewhere rest late⟩

/-- A table that a batch makes, and nothing more, was not there and is empty. -/
theorem executeBatch_makes (front : List Statement)
    (done
      : Statement.executeBatch db (front ++ .createTable name columns counted :: back) = .ok after)
    (own : fold "sqlite_sequence" ≠ fold name) (early : Statement.Untouched front name)
    (late : Statement.Untouched back name)
    : db.table? name = none ∧ after.table? name = some (.empty name columns) := by
  obtain ⟨before, middle, step, found, left⟩ := executeBatch_alone front name done early late
  obtain ⟨free, made⟩ := execute_createTable step own
  exact ⟨found ▸ free, left.trans made⟩

end Effects

end Sqlite
