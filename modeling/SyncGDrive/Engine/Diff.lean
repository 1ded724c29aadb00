import SyncGDrive.Engine.Knowledge
import SyncGDrive.Engine.Sending
import SyncGDrive.Program.Notes

/-! The exact plan of a scan. Where nothing disturbs it, what it sends, records and counts is a
function of the files found, the rows, the cache and the index.
-/

namespace SyncGDrive

open Program

-----------------------------------------------------------------------------------------
-- Programs with one outcome
-----------------------------------------------------------------------------------------

/-- What is displayed does not matter. -/
def World.core (w : World) : World := { w with statuses := [] }

/-- The index that the listing gave, and the rows written since, in order. -/
structure ScanLog where
  index : RemoteIndex := ⟨[], []⟩
  upserts : List FileEntry := []

def ScanLog.note : Noting effects ScanLog
  | .provider (.listRemote _), .ok index, log => { log with index }
  | .upsert entry, .ok (), log => { log with upserts := log.upserts ++ [entry] }
  | _, _, log => log

/-- Every execution ends with the value, in the given world and with the given log. -/
def Yields {α : Type} (env : Environment) (program : Eff α) (w : World) (log : ScanLog)
    (value : α) (w' : World) (log' : ScanLog)
    : Prop :=
  ∀ state,
    state.core = w.core
    → Always (noted env.sem ScanLog.note) (fun _ => True) program (state, log)
        (fun result last => result = .ok value ∧ last.1.core = w'.core ∧ last.2 = log')

section Outcomes

variable {env : Environment} {α β : Type} {w w' w'' : World} {log log' log'' : ScanLog}
  {program : Eff α} {value : α}

/-- Two worlds that look alike agree in all that programs read. -/
theorem core_parts {state : World} (same : state.core = w.core)
    : state.disk = w.disk ∧ state.db = w.db ∧ state.pathCache = w.pathCache
      ∧ state.shutdown = w.shutdown :=
  ⟨(congrArg World.disk same :), (congrArg World.db same :), (congrArg World.pathCache same :),
    (congrArg World.shutdown same :)⟩

theorem yields_pure : Yields env (pure value) w log value w log :=
  fun _ same => ⟨trivial, rfl, same, rfl⟩

/-- Outcomes compose. -/
theorem Yields.bind {f : α → Eff β} {value' : β} (first : Yields env program w log value w' log')
    (second : Yields env (f value) w' log' value' w'' log'')
    : Yields env (program >>= f) w log value' w'' log'' := by
  intro state same
  refine (first state same).bind ?_ ?_
  · rintro _ ⟨middle, _⟩ - ⟨⟨⟩, same, rfl⟩
    exact second middle same
  · rintro _ _ - ⟨⟨⟩, -⟩

/-- An operation with one answer. -/
theorem yields_ask {op : Op} {answer : op.Answer}
    (known
      : ∀ state got after,
          state.core = w.core → env.sem op state got after
          → got = answer ∧ after.core = w'.core)
    (noted : ScanLog.note op answer log = log')
    : Yields env (ask op) w log answer w' log' := by
  intro state same
  refine always_noted.mpr ⟨trivial, fun got after served => ?_⟩
  obtain ⟨rfl, same⟩ := known state got after same served
  exact ⟨trivial, rfl, same, noted⟩

theorem yields_status {status : EngineStatus}
    : Yields env (reportStatus status) w log () w log := by
  refine yields_ask ?_ rfl
  rintro state ⟨⟩ _ same rfl
  exact ⟨rfl, same⟩

theorem yields_scanProgress {phase : ScanPhase} {done total : Nat} {current : String}
    : Yields env (scanProgress phase done total current) w log () w log :=
  yields_status

theorem yields_reportWhen {due : Prop} [Decidable due] {status : EngineStatus}
    : Yields env (reportWhen due status) w log () w log := by
  unfold reportWhen
  split
  · exact yields_status
  · exact yields_pure

/-- What is reported of the progress is kept. -/
theorem yields_report {report : Report}
    : Yields env (ask (.report report)) w log () (w.report report) log := by
  refine yields_ask ?_ rfl
  rintro state ⟨⟩ _ same rfl
  refine ⟨rfl, ?_⟩
  cases report with
  | status status => exact same
  | storeTotals files bytes => exact congrArg (World.report · (.storeTotals files bytes)) same
  | addTotals files bytes => exact congrArg (World.report · (.addTotals files bytes)) same
  | doneFile => exact congrArg (World.report · .doneFile) same
  | currentFile dir name size => exact congrArg (World.report · (.currentFile dir name size)) same

theorem yields_lookup {key : String}
    : Yields env (ask (.lookup key)) w log (w.pathCache.lookup key) w log := by
  refine yields_ask ?_ rfl
  rintro state got after same ⟨rfl, rfl⟩
  exact ⟨congrArg (PathCache.lookup · key) (core_parts same).2.2.1, same⟩

/-- Reading a file: its digest, or some error. -/
theorem yields_md5 {path : Path} {f : Except Error String → Eff β} {value : β}
    (read
      : ∀ content, w.disk.read path = some content
        → Yields env (f (.ok (env.md5 content))) w log value w' log')
    (unread : w.disk.read path = none → ∀ error, Yields env (f (.error error)) w log value w' log')
    : Yields env (ask (.md5 path) >>= f) w log value w' log' := by
  intro state same
  refine always_noted.mpr ⟨trivial, ?_⟩
  rintro got after ⟨rfl, answered⟩
  rw [(core_parts same).1] at answered
  cases found : w.disk.read path with
  | some content =>
      simp only [found] at answered
      subst answered
      exact read content found after same
  | none =>
      simp only [found] at answered
      obtain ⟨error, rfl⟩ := answered
      exact unread found error after same

/-- Looking at a file: its metadata, or some error. -/
theorem yields_metadata {path : Path} {f : Except Error Metadata → Eff β} {value : β}
    (found
      : ∀ metadata, w.disk.metadata path = some metadata
        → Yields env (f (.ok metadata)) w log value w' log')
    (missing
      : w.disk.metadata path = none → ∀ error, Yields env (f (.error error)) w log value w' log')
    : Yields env (ask (.metadata path) >>= f) w log value w' log' := by
  intro state same
  refine always_noted.mpr ⟨trivial, ?_⟩
  rintro got after ⟨rfl, answered⟩
  rw [(core_parts same).1] at answered
  cases there : w.disk.metadata path with
  | some metadata =>
      simp only [there] at answered
      subst answered
      exact found metadata there after same
  | none =>
      simp only [there] at answered
      obtain ⟨error, rfl⟩ := answered
      exact missing there error after same

/-- `mtime_of`, as the disk has it. -/
def Disk.mtimeOf (disk : Disk) (path : Path) : Int :=
  match disk.metadata path with
  | some metadata => if metadata.modified < 0 then 0 else metadata.seconds
  | none => 0

/-- The size of a file, zero where there is none. -/
def Disk.sizeOf (disk : Disk) (path : Path) : Nat :=
  match disk.metadata path with
  | some metadata => metadata.len
  | none => 0

theorem yields_mtimeOf {path : Path}
    : Yields env (mtimeOf path) w log (w.disk.mtimeOf path) w log := by
  refine yields_metadata ?_ ?_
  · intro metadata found
    simpa [Disk.mtimeOf, found] using yields_pure
  · intro missing error
    simpa [Disk.mtimeOf, missing] using yields_pure

theorem yields_sizeOf {path : Path}
    : Yields env (sizeOf path) w log (w.disk.sizeOf path) w log := by
  refine yields_metadata ?_ ?_
  · intro metadata found
    simpa [Disk.sizeOf, found] using yields_pure
  · intro missing error
    simpa [Disk.sizeOf, missing] using yields_pure

theorem yields_isDir {path : Path} : Yields env (isDir path) w log (w.disk.isDir path) w log := by
  refine yields_metadata ?_ ?_
  · intro metadata found
    simpa [Disk.isDir, found] using yields_pure
  · intro missing error
    simpa [Disk.isDir, missing] using yields_pure

/-- A loop that only looks. -/
theorem yields_foldlM {γ : Type} {body : α → γ → Eff α} (turn : α → γ → α)
    (step : ∀ acc item, Yields env (body acc item) w log (turn acc item) w log) (items : List γ)
    (acc value : α) (whole : items.foldl turn acc = value)
    : Yields env (items.foldlM body acc) w log value w log := by
  subst whole
  induction items generalizing acc with
  | nil => exact yields_pure
  | cons item rest ih =>
      rw [List.foldlM_cons, List.foldl_cons]
      exact (step acc item).bind (ih (turn acc item))

/-- A loop sends what its turns send, by induction on the items. -/
theorem yields_forM {γ : Type} {body : γ → Eff Unit} (reached : List Task → World)
    (plan : γ → List Task)
    (step
      : ∀ item sent,
          Yields env (body item) (reached sent) log () (reached (sent ++ plan item)) log)
    (items : List γ) (sent : List Task)
    : Yields env (items.forM body) (reached sent) log ()
        (reached (sent ++ items.flatMap plan)) log := by
  induction items generalizing sent with
  | nil => simpa using yields_pure
  | cons item rest ih =>
      have later := ih (sent ++ plan item)
      rw [List.append_assoc, ← List.flatMap_cons] at later
      exact (step item sent).bind later

section Quiet

variable (quiet : env.Undisturbed)

include quiet

theorem yields_get {key : String}
    : Yields env (ask (.get key)) w log (.ok (w.db.get key)) w log := by
  refine yields_ask ?_ rfl
  intro state got after same served
  obtain ⟨rfl, rfl⟩ := quiet.sem_get.mp served
  exact ⟨by rw [(core_parts same).2.1], same⟩

theorem yields_upsert {entry : FileEntry}
    : Yields env (ask (.upsert entry)) w log (.ok ()) { w with db := w.db.upsert entry }
        { log with upserts := log.upserts ++ [entry] } := by
  refine yields_ask ?_ rfl
  intro state got after same served
  obtain ⟨rfl, rfl⟩ := quiet.sem_upsert.mp served
  exact ⟨rfl, congrArg (fun w : World => { w with db := w.db.upsert entry }) same⟩

theorem yields_unlessShutdown {body : Eff α} (running : w.shutdown = false)
    (yields : Yields env body w log value w' log')
    : Yields env (unlessShutdown body) w log value w' log' := by
  have asked : Yields env (ask .isCancelled) w log false w log := by
    refine yields_ask ?_ rfl
    intro state got after same served
    obtain ⟨rfl, rfl⟩ := quiet.sem_isCancelled.mp served
    exact ⟨(core_parts same).2.2.2.trans running, same⟩
  exact asked.bind yields

theorem yields_enqueue {task : Task}
    : Yields env (enqueue task) w log () { w with tasks := w.tasks ++ [task] } log := by
  have sent
      : Yields env (ask (.send task)) w log true { w with tasks := w.tasks ++ [task] } log := by
    refine yields_ask ?_ rfl
    intro state got after same served
    obtain ⟨rfl, rfl⟩ := quiet.sem_send.mp served
    exact ⟨rfl, congrArg (fun w : World => { w with tasks := w.tasks ++ [task] }) same⟩
  exact sent.bind yields_pure

end Quiet

end Outcomes

-----------------------------------------------------------------------------------------
-- The comparison
-----------------------------------------------------------------------------------------

def Database.upsertAll (db : Database) (entries : List FileEntry) : Database :=
  entries.foldl Database.upsert db

theorem Database.upsertAll_append {db : Database} {first second : List FileEntry}
    : db.upsertAll (first ++ second) = (db.upsertAll first).upsertAll second :=
  List.foldl_append

/-- A loop that appends what it keeps is a filter. -/
theorem foldl_keep {α : Type} (keep : α → Prop) [DecidablePred keep] (items kept : List α)
    : items.foldl (fun kept item => if keep item then kept ++ [item] else kept) kept
      = kept ++ items.filter keep := by
  induction items generalizing kept with
  | nil => simp
  | cons item rest ih =>
      rw [List.foldl_cons, ih]
      by_cases keeps : keep item <;> simp [keeps]

/-- A loop that sends one task or none sends the tasks of a filter. -/
theorem flatMap_unless {α : Type} (leaves : α → Prop) [DecidablePred leaves] (task : α → Task)
    (items : List α)
    : items.flatMap (fun item => if leaves item then [] else [task item])
      = (items.filter (fun item => ¬ leaves item)).map task := by
  induction items with
  | nil => rfl
  | cons item rest ih =>
      rw [List.flatMap_cons, ih]
      by_cases left : leaves item <;> simp [left]

/-- Rows of other keys stay as they are. -/
theorem Database.row_upsertAll {db : Database} {entries : List FileEntry} {key : String}
    (other : key ∉ entries.map FileEntry.path)
    : (db.upsertAll entries).row key = db.row key := by
  induction entries generalizing db with
  | nil => rfl
  | cons entry rest ih =>
      simp only [List.map_cons, List.mem_cons, not_or] at other
      exact (ih other.2).trans (by rw [Database.row_upsert, if_neg other.1])

/-- A row that is written is found, by induction on the entries, no two of which have one key. -/
theorem Database.row_upsertAll_mem {db : Database} {entries : List FileEntry} {entry : FileEntry}
    (distinct : (entries.map FileEntry.path).Nodup) (member : entry ∈ entries)
    : (db.upsertAll entries).row entry.path = some ⟨entry.hash, entry.mtime⟩ := by
  induction entries generalizing db with
  | nil => cases member
  | cons first rest ih =>
      obtain ⟨new, distinct⟩ := List.nodup_cons.mp distinct
      rcases List.mem_cons.mp member with rfl | member
      · exact (Database.row_upsertAll new).trans (by rw [Database.row_upsert, if_pos rfl])
      · exact ih distinct member

section Plan

variable (env : Environment) (w : World) (path : Path) (key : String)

/-- The row of a file has another time, and another hash than can be computed. -/
def Outdated : Prop :=
  ∃ columns ∈ w.db.row key,
    w.disk.mtimeOf path ≠ columns.mtime ∧ (w.disk.read path).map env.md5 ≠ some columns.hash

/-- The file is not in the cache, or it is and its row is outdated. -/
def Differs : Prop :=
  w.pathCache.lookup key = none ∨ Outdated env w path key

instance : Decidable (Outdated env w path key) :=
  inferInstanceAs (Decidable (∃ columns ∈ w.db.row key, _))

instance : Decidable (Differs env w path key) :=
  inferInstanceAs (Decidable (_ ∨ Outdated env w path key))

/-- The row that is written for a file in the cache: it can be read, and it had no row or only
another time.
-/
def recording : Option FileEntry :=
  (w.disk.read path).bind (fun content =>
    if (w.pathCache.lookup key).isSome
        ∧ ∀ columns ∈ w.db.row key,
          w.disk.mtimeOf path ≠ columns.mtime ∧ env.md5 content = columns.hash
    then some ⟨key, env.md5 content, w.disk.mtimeOf path⟩
    else none)

end Plan

/-- The files that are sent: of positive size, and different. -/
def toSend (env : Environment) (w : World) (primary : SyncPair) (rels : List Path) : List Path :=
  rels.filter (fun rel =>
    0 < w.disk.sizeOf (primary.localPath ++ rel)
    ∧ Differs env w (primary.localPath ++ rel) (relKey rel))

/-- The rows without a local file. -/
def orphanRows (rels : List Path) (order : List String) : List String :=
  order.filter (· ∉ rels.map relKey)

/-- The remote files without a local file and without a row, that are no local directory and not
ignored.
-/
def orphanFiles (disk : Disk) (primary : SyncPair) (ignore : IgnoreMatcher) (rels : List Path)
    (order : List String) (index : RemoteIndex)
    : List String :=
  (index.files.map RemoteFile.relativePath).filter (fun key =>
    key ∉ rels.map relKey ∧ key ∉ order
    ∧ disk.isDir (primary.localPath.join key) = false
    ∧ ignore.isIgnored (primary.localPath.join key) false = false)

section Comparison

variable {env : Environment} {w : World} {log : ScanLog} {path : Path} {key : String}
  {primary : SyncPair}

theorem recording_path {entry : FileEntry} (recorded : recording env w path key = some entry)
    : entry.path = key := by
  simp only [recording, Option.bind_eq_some_iff, Option.ite_none_right_eq_some] at recorded
  obtain ⟨content, -, -, ⟨⟩⟩ := recorded
  rfl

/-- The comparison of one file says whether it differs, and writes its row where it should. -/
theorem yields_compareFile (quiet : env.Undisturbed)
    : Yields env
        (compareFile path key (w.db.row key).isSome (w.pathCache.lookup key).isSome) w log
        (decide (Differs env w path key))
        { w with db := w.db.upsertAll (recording env w path key).toList }
        { log with upserts := log.upserts ++ (recording env w path key).toList } := by
  unfold compareFile
  cases cached : w.pathCache.lookup key with
  | none =>
      simpa [Differs, recording, cached, Database.upsertAll] using yields_pure
  | some entry =>
      cases found : w.db.row key with
      | none =>
          refine yields_md5 (fun content read => ?_) (fun unread error => ?_)
          · have recorded
                : recording env w path key
                  = some ⟨key, env.md5 content, w.disk.mtimeOf path⟩ := by
              simp [recording, read, cached, found]
            rw [recorded]
            simp only [Differs, Outdated, cached, found]
            refine yields_mtimeOf.bind ((yields_upsert quiet).bind ?_)
            simpa [Database.upsertAll] using yields_pure
          · simpa [Differs, Outdated, recording, cached, found, unread, Database.upsertAll]
              using yields_pure
      | some columns =>
          have got : w.db.get key = some ⟨key, columns.hash, columns.mtime⟩ := by
            simp [Database.get, found]
          simp only [Option.isSome_some, Bool.and_self, if_true]
          refine (yields_get quiet).bind ?_
          rw [got]
          refine yields_mtimeOf.bind ?_
          by_cases same : w.disk.mtimeOf path = columns.mtime
          · simpa [Differs, Outdated, recording, cached, found, same, Database.upsertAll]
              using yields_pure
          rw [if_neg same]
          refine yields_md5 (fun content read => ?_) (fun unread error => ?_)
          · by_cases equal : env.md5 content = columns.hash
            · have recorded
                  : recording env w path key
                    = some ⟨key, env.md5 content, w.disk.mtimeOf path⟩ := by
                simp [recording, read, cached, found, same, equal]
              rw [recorded]
              simp only [equal, if_true]
              refine (yields_upsert quiet).bind ?_
              simpa [Differs, Outdated, cached, found, read, equal, Database.upsertAll]
                using yields_pure
            · simpa [Differs, Outdated, recording, cached, found, same, read, equal,
                Database.upsertAll] using yields_pure
          · simpa [Differs, Outdated, recording, cached, found, same, unread, Database.upsertAll]
              using yields_pure

/-- What the comparison says of a file depends on its own row only. -/
theorem plan_congr {db : Database} (same : db.row key = w.db.row key)
    : (Differs env { w with db } path key ↔ Differs env w path key)
      ∧ recording env { w with db } path key = recording env w path key := by
  constructor
  · simp only [Differs, Outdated, same]
  · simp only [recording, same]

/-- One file of phase 3. -/
theorem yields_compareNext (quiet : env.Undisturbed) (running : w.shutdown = false)
    {dbIndex : List String} {total place : Nat} {rel : Path} {toSync : List Path}
    (clean : Clean rel)
    (known : dbIndex.contains (relKey rel) = (w.db.row (relKey rel)).isSome)
    : Yields env (compareNext primary dbIndex total toSync (primary.localPath ++ rel, place)) w log
        (if Differs env w (primary.localPath ++ rel) (relKey rel)
          then toSync ++ [primary.localPath ++ rel] else toSync)
        { w with
          db := w.db.upsertAll (recording env w (primary.localPath ++ rel) (relKey rel)).toList }
        { log with
          upserts := log.upserts
            ++ (recording env w (primary.localPath ++ rel) (relKey rel)).toList } := by
  refine yields_unlessShutdown quiet running ?_
  simp only [clean.stripPrefix, known]
  refine yields_reportWhen.bind (yields_lookup.bind ((yields_compareFile quiet).bind ?_))
  by_cases differs : Differs env w (primary.localPath ++ rel) (relKey rel)
  · simpa [differs] using yields_pure
  · simpa [differs] using yields_pure

/-- The files that differ, in walk order, and the rows written meanwhile: by induction on the files
still to come, whose rows are as they were.
-/
theorem yields_compareEach (quiet : env.Undisturbed) (running : w.shutdown = false)
    {dbIndex : List String} (known : dbIndex.Perm w.db.allPaths) {total : Nat}
    (rels : List Path) (place : Nat) (toSync : List Path) (entries : List FileEntry)
    (clean : ∀ rel ∈ rels, Clean rel) (distinct : (rels.map relKey).Nodup)
    (ahead : ∀ rel ∈ rels, relKey rel ∉ entries.map FileEntry.path)
    : Yields env
        (((rels.map (primary.localPath ++ ·)).zipIdx place).foldlM
          (compareNext primary dbIndex total) toSync)
        { w with db := w.db.upsertAll entries } { log with upserts := entries }
        (toSync
          ++ (rels.filter (fun rel => Differs env w (primary.localPath ++ rel) (relKey rel))).map
            (primary.localPath ++ ·))
        { w with
          db := w.db.upsertAll (entries
            ++ rels.filterMap (fun rel =>
              recording env w (primary.localPath ++ rel) (relKey rel))) }
        { log with
          upserts := entries
            ++ rels.filterMap (fun rel =>
              recording env w (primary.localPath ++ rel) (relKey rel)) } := by
  induction rels generalizing place toSync entries with
  | nil => simpa using yields_pure
  | cons rel rest ih =>
      have row := @Database.row_upsertAll w.db _ _ (ahead rel (by simp))
      obtain ⟨sameDiffers, sameRecording⟩ := @plan_congr env w (primary.localPath ++ rel) _ _ row
      have contains
          : dbIndex.contains (relKey rel)
            = ((w.db.upsertAll entries).row (relKey rel)).isSome := by
        rw [row, Bool.eq_iff_iff, List.contains_iff_mem, known.mem_iff, Database.mem_allPaths]
      have first := @yields_compareNext env { w with db := w.db.upsertAll entries }
        { log with upserts := entries } primary quiet running dbIndex total place rel toSync
        (clean rel (by simp)) contains
      rw [sameRecording] at first
      simp only [sameDiffers] at first
      rw [List.map_cons, List.zipIdx_cons, List.foldlM_cons]
      refine first.bind ?_
      rw [← Database.upsertAll_append]
      have later := ih (place + 1) (if Differs env w (primary.localPath ++ rel) (relKey rel)
        then toSync ++ [primary.localPath ++ rel] else toSync)
        (entries ++ (recording env w (primary.localPath ++ rel) (relKey rel)).toList)
        (fun other member => clean other (List.mem_cons_of_mem _ member))
        (List.nodup_cons.mp distinct).2 ?_
      · cases recorded : recording env w (primary.localPath ++ rel) (relKey rel)
          <;> by_cases differs : Differs env w (primary.localPath ++ rel) (relKey rel)
          <;> simpa [recorded, differs] using later
      · intro other member
        rw [List.map_append, List.mem_append, not_or]
        refine ⟨ahead other (by simp [member]), fun mem => ?_⟩
        obtain ⟨entry, recorded, same⟩ := List.mem_map.mp mem
        rw [recording_path (Option.mem_toList.mp recorded)] at same
        have clash : relKey rel ∈ rest.map relKey := same ▸ List.mem_map_of_mem member
        exact (List.nodup_cons.mp distinct).1 clash

/-- Phase 3 keeps the files that differ and are not empty. -/
theorem yields_compareFiles (quiet : env.Undisturbed) (running : w.shutdown = false)
    {dbIndex : List String} (known : dbIndex.Perm w.db.allPaths) {rels : List Path}
    (clean : ∀ rel ∈ rels, Clean rel) (distinct : (rels.map relKey).Nodup)
    : Yields env (compareFiles primary dbIndex (rels.map (primary.localPath ++ ·))) w
        { log with upserts := [] }
        ((toSend env w primary rels).map (primary.localPath ++ ·))
        { w with
          db := w.db.upsertAll (rels.filterMap (fun rel =>
            recording env w (primary.localPath ++ rel) (relKey rel))) }
        { log with
          upserts := rels.filterMap (fun rel =>
            recording env w (primary.localPath ++ rel) (relKey rel)) } := by
  refine (yields_compareEach quiet running known rels 0 [] [] clean distinct (by simp)).bind ?_
  simp only [List.nil_append]
  generalize rows : rels.filterMap
    (fun rel => recording env w (primary.localPath ++ rel) (relKey rel)) = entries
  have turn (kept : List Path) (path : Path)
      : Yields env (compareFiles.keepNonEmpty kept path) { w with db := w.db.upsertAll entries }
          { log with upserts := entries }
          (if 0 < w.disk.sizeOf path then kept ++ [path] else kept)
          { w with db := w.db.upsertAll entries } { log with upserts := entries } :=
    yields_sizeOf.bind yields_pure
  refine yields_foldlM _ turn _ _ _ ?_
  rw [foldl_keep, List.nil_append, List.filter_map, List.filter_filter]
  simp only [toSend, Function.comp_def, Bool.decide_and]

/-- The files are in the channel, and their number and their bytes are the totals. -/
def World.queued (w : World) (toSync : List Path) : World :=
  { w with
    tasks := w.tasks ++ toSync.map .syncFile
    tracker := { w.tracker with
      totalFiles := toSync.length
      totalBytes := (toSync.map w.disk.sizeOf).sum } }

/-- Phase 4 sends the files and sets the totals. -/
theorem yields_sendFiles (quiet : env.Undisturbed) (running : w.shutdown = false)
    {cfg : AppConfig} {toSync : List Path}
    : Yields env (sendFiles ⟨cfg, false⟩ toSync) w log () (w.queued toSync) log := by
  have turn (bytes : Nat) (path : Path)
      : Yields env (do return bytes + (← sizeOf path)) w log (bytes + w.disk.sizeOf path) w log :=
    yields_sizeOf.bind yields_pure
  refine (yields_foldlM _ turn toSync 0 (toSync.map w.disk.sizeOf).sum ?_).bind
    (yields_report.bind ?_)
  · rw [List.sum_eq_foldl, List.foldl_map]
  let reached (sent : List Task) : World :=
    { w with
      tasks := w.tasks ++ sent
      tracker := { w.tracker with
        totalFiles := toSync.length
        totalBytes := (toSync.map w.disk.sizeOf).sum } }
  have step (file : Path × Nat) (sent : List Task)
      : Yields env (sendFile ⟨cfg, false⟩ toSync.length file) (reached sent) log ()
          (reached (sent ++ [.syncFile file.1])) log := by
    refine yields_unlessShutdown quiet running (yields_scanProgress.bind ?_)
    have enqueued := @yields_enqueue env (reached sent) log quiet (.syncFile file.1)
    simp only [reached, List.append_assoc] at enqueued ⊢
    exact enqueued
  have sends := yields_forM reached (fun file => [Task.syncFile file.1]) step toSync.zipIdx []
  rw [← List.map_eq_flatMap, ← Function.comp_def Task.syncFile Prod.fst, ← List.map_map,
    List.zipIdx_map_fst] at sends
  simpa [reached, World.report, World.queued] using sends

/-- Ordering deletions adds each to the totals. -/
def World.ordered (w : World) (sent : List Task) : World :=
  { w with
    tasks := w.tasks ++ sent
    tracker := { w.tracker with totalFiles := w.tracker.totalFiles + sent.length } }

@[simp] theorem World.ordered_nil : w.ordered [] = w := by
  simp [World.ordered]

theorem yields_sendDelete (quiet : env.Undisturbed) {cfg : AppConfig} {sent : List Task}
    : Yields env (sendDelete ⟨cfg, false⟩ path) (w.ordered sent) log ()
        (w.ordered (sent ++ [.delete path])) log := by
  have enqueued := @yields_enqueue env ((w.ordered sent).report (.addTotals 1 0)) log quiet
    (.delete path)
  refine yields_report.bind ?_
  simpa [World.report, World.ordered, Nat.add_assoc] using enqueued

/-- Phase 5 orders what has a row and no local file deleted. -/
theorem yields_orphanRows (quiet : env.Undisturbed) (running : w.shutdown = false)
    {cfg : AppConfig} {rels : List Path} {order : List String}
    : Yields env (order.forM (orphanRow ⟨cfg, false⟩ primary (rels.map relKey))) (w.ordered []) log
        () (w.ordered ((orphanRows rels order).map (fun key =>
          .delete (primary.localPath.join key)))) log := by
  have step (key : String) (sent : List Task)
      : Yields env (orphanRow ⟨cfg, false⟩ primary (rels.map relKey) key) (w.ordered sent) log ()
          (w.ordered (sent ++ rowTasks primary (rels.map relKey) key)) log := by
    refine yields_unlessShutdown quiet running ?_
    unfold rowTasks
    split
    · simpa using yields_pure
    · exact yields_sendDelete quiet
  have sends := yields_forM w.ordered _ step order []
  rw [List.nil_append] at sends
  unfold rowTasks at sends
  rw [flatMap_unless] at sends
  exact sends

/-- Phase 6 orders what only the remote has deleted. -/
theorem yields_orphanFiles (quiet : env.Undisturbed) (running : w.shutdown = false)
    {cfg : AppConfig} {rels : List Path} {order : List String} {index : RemoteIndex}
    {ignore : IgnoreMatcher} {first : List Task}
    : Yields env
        (index.files.forM (orphanRemote ⟨cfg, false⟩ primary ignore (rels.map relKey) order))
        (w.ordered first) log ()
        (w.ordered (first ++ (orphanFiles w.disk primary ignore rels order index).map (fun key =>
          .delete (primary.localPath.join key)))) log := by
  have step (file : RemoteFile) (sent : List Task)
      : Yields env (orphanRemote ⟨cfg, false⟩ primary ignore (rels.map relKey) order file)
          (w.ordered sent) log ()
          (w.ordered
            (sent ++ remoteTasks w.disk primary ignore (rels.map relKey) order file)) log := by
    refine yields_unlessShutdown quiet running ?_
    unfold remoteTasks
    by_cases seen : file.relativePath ∈ rels.map relKey
    · simpa only [seen, true_or, if_true, List.append_nil] using yields_pure
    simp only [seen, if_false, false_or]
    refine yields_isDir.bind ?_
    cases directory : (w.ordered sent).disk.isDir (primary.localPath.join file.relativePath) with
    | true =>
        rw [show w.disk.isDir _ = true from directory]
        simpa using yields_pure
    | false =>
        rw [show w.disk.isDir _ = false from directory]
        simp only [Bool.false_eq_true, if_false, false_or]
        by_cases row : file.relativePath ∈ order
        · simpa only [row, true_or, if_true, List.append_nil] using yields_pure
        simp only [row, if_false, false_or]
        refine yields_isDir.bind ?_
        rw [directory]
        split
        · simpa using yields_pure
        · exact yields_sendDelete quiet
  have sends := yields_forM w.ordered _ step index.files first
  unfold remoteTasks at sends
  rw [flatMap_unless] at sends
  have same
      : (index.files.filter (fun file =>
          ¬ (file.relativePath ∈ rels.map relKey
            ∨ w.disk.isDir (primary.localPath.join file.relativePath) = true
            ∨ file.relativePath ∈ order
            ∨ ignore.isIgnored (primary.localPath.join file.relativePath) false = true))).map
          (fun file => Task.delete (primary.localPath.join file.relativePath))
        = (orphanFiles w.disk primary ignore rels order index).map
          (fun key => .delete (primary.localPath.join key)) := by
    rw [orphanFiles, List.filter_map, List.map_map]
    refine congrArg _ (List.filter_congr fun file _ => ?_)
    simp only [Function.comp_apply, not_or, Bool.not_eq_true, decide_eq_decide]
    tauto
  rw [← same]
  exact sends

end Comparison

-----------------------------------------------------------------------------------------
-- The whole comparison
-----------------------------------------------------------------------------------------

/-- What a scan does after its inventories: `w` is the world it compares, and `order` the order in
which the rows are read.
-/
structure ExactDiff (env : Environment) (primary : SyncPair) (ignore : IgnoreMatcher)
    (rels : List Path) (index : RemoteIndex) (w : World) (order : List String) (last : World)
    (upserts : List FileEntry)
    : Prop where
  read : order.Perm w.db.allPaths
  tasks
    : last.tasks
      = w.tasks
        ++ (toSend env w primary rels).map (fun rel => .syncFile (primary.localPath ++ rel))
        ++ (orphanRows rels order).map (fun key => .delete (primary.localPath.join key))
        ++ (orphanFiles w.disk primary ignore rels order index).map
            (fun key => .delete (primary.localPath.join key))
  recorded
    : upserts
      = rels.filterMap (fun rel => recording env w (primary.localPath ++ rel) (relKey rel))
  rows : last.db = w.db.upsertAll upserts
  totalFiles : w.tasks.length + last.tracker.totalFiles = last.tasks.length
  totalBytes
    : last.tracker.totalBytes
      = ((toSend env w primary rels).map (fun rel =>
          w.disk.sizeOf (primary.localPath ++ rel))).sum

/-- The keys that tasks are sent for. -/
def taskKeys (env : Environment) (primary : SyncPair) (ignore : IgnoreMatcher)
    (rels : List Path) (index : RemoteIndex) (w : World) (order : List String)
    : List String :=
  (toSend env w primary rels).map relKey ++ orphanRows rels order
    ++ orphanFiles w.disk primary ignore rels order index

/-- The paths that tasks are sent for. -/
def taskPaths (env : Environment) (primary : SyncPair) (ignore : IgnoreMatcher)
    (rels : List Path) (index : RemoteIndex) (w : World) (order : List String)
    : List Path :=
  (toSend env w primary rels).map (primary.localPath ++ ·)
    ++ (orphanRows rels order).map primary.localPath.join
    ++ (orphanFiles w.disk primary ignore rels order index).map primary.localPath.join

/-- A key that spells a path. -/
def Spelled (key : String) : Prop := ∃ rel, Utf8Path rel ∧ relKey rel = key

section Reconcile

variable {env : Environment} {w : World} {log : ScanLog} {primary : SyncPair}
  {ignore : IgnoreMatcher} {rels : List Path} {index : RemoteIndex} {order : List String}

/-- No path gets two tasks: the three groups are apart, and none repeats a path. -/
theorem taskKeys_nodup (distinct : (rels.map relKey).Nodup) (rows : order.Nodup)
    (files : (index.files.map RemoteFile.relativePath).Nodup)
    : (taskKeys env primary ignore rels index w order).Nodup := by
  have kept : (toSend env w primary rels).map relKey ⊆ rels.map relKey :=
    List.map_subset _ List.filter_sublist.subset
  refine (List.Nodup.append (.append ?_ (rows.filter _) ?_) (files.filter _) ?_)
  · exact distinct.sublist (List.filter_sublist.map _)
  · intro key sent orphan
    exact of_decide_eq_true (List.mem_filter.mp orphan).2 (kept sent)
  · intro key before remote
    have apart := of_decide_eq_true (List.mem_filter.mp remote).2
    rcases List.mem_append.mp before with sent | orphan
    · exact apart.1 (kept sent)
    · exact apart.2.1 (List.mem_filter.mp orphan).1

/-- Nor is a path of the disk in two tasks, where the keys of rows and remote files spell paths: a
task's path has its key.
-/
theorem taskPaths_nodup (plain : ∀ rel ∈ rels, Utf8Path rel)
    (distinct : (taskKeys env primary ignore rels index w order).Nodup)
    (rows : ∀ key ∈ order, Spelled key)
    (files : ∀ file ∈ index.files, Spelled file.relativePath)
    : (taskPaths env primary ignore rels index w order).Nodup := by
  let keyOf (path : Path) : String := relKey ((Path.stripPrefix primary.localPath path).getD [])
  have sent (rel : Path) (clean : Clean rel) : keyOf (primary.localPath ++ rel) = relKey rel := by
    simp [keyOf, clean.stripPrefix]
  have joined (key : String) (spelled : Spelled key)
      : keyOf (primary.localPath.join key) = key := by
    obtain ⟨rel, utf8, rfl⟩ := spelled
    simp [keyOf, utf8.stripPrefix_join]
  have keys
      : (taskPaths env primary ignore rels index w order).map keyOf
        = taskKeys env primary ignore rels index w order := by
    simp only [taskPaths, taskKeys, List.map_append, List.map_map]
    congr 2
    · refine List.map_congr_left fun rel member => ?_
      exact sent rel (plain rel (List.mem_filter.mp member).1).clean
    · refine (List.map_congr_left fun key member => ?_).trans (List.map_id _)
      exact joined key (rows key (List.mem_filter.mp member).1)
    · refine (List.map_congr_left fun key member => ?_).trans (List.map_id _)
      obtain ⟨file, listed, rfl⟩ := List.mem_map.mp (List.mem_filter.mp member).1
      exact joined _ (files file listed)
  exact .of_map keyOf (keys ▸ distinct)

/-- Phases 4 to 6 have one outcome. -/
theorem yields_sendPhases (quiet : env.Undisturbed) (running : w.shutdown = false)
    {cfg : AppConfig} {toSync : List Path}
    : Yields env
        (do
          sendFiles ⟨cfg, false⟩ toSync
          order.forM (orphanRow ⟨cfg, false⟩ primary (rels.map relKey))
          index.files.forM (orphanRemote ⟨cfg, false⟩ primary ignore (rels.map relKey) order)
          reportWhen (false = true) .idle)
        w log ()
        ((w.queued toSync).ordered
          ((orphanRows rels order).map (fun key => .delete (primary.localPath.join key))
            ++ (orphanFiles w.disk primary ignore rels order index).map
              (fun key => .delete (primary.localPath.join key))))
        log := by
  have rows := @yields_orphanRows env (w.queued toSync) log primary quiet running cfg rels order
  rw [World.ordered_nil] at rows
  refine (yields_sendFiles quiet running).bind (rows.bind ?_)
  exact (@yields_orphanFiles env (w.queued toSync) log primary quiet running cfg rels order index
    ignore _).bind yields_reportWhen

/-- The keys of files below the root are those of their names. -/
theorem localKeys_below (clean : ∀ rel ∈ rels, Clean rel)
    : localKeys primary (rels.map (primary.localPath ++ ·)) = rels.map relKey := by
  rw [localKeys, List.filterMap_map, ← List.filterMap_eq_map]
  refine List.filterMap_congr fun rel member => ?_
  simp [(clean rel member).stripPrefix]

/-- Phases 3 to 6 end well, and do exactly this. -/
theorem always_reconcile (quiet : env.Undisturbed) (running : w.shutdown = false) {cfg : AppConfig}
    (clean : ∀ rel ∈ rels, Clean rel) (distinct : (rels.map relKey).Nodup)
    : Always (noted env.sem ScanLog.note) (fun _ => True)
        (reconcile ⟨cfg, false⟩ primary ignore index (rels.map (primary.localPath ++ ·)))
        (w, { log with upserts := [] })
        (fun result last =>
          result = .ok () ∧ last.1.pathCache = w.pathCache ∧ last.2.index = log.index
          ∧ ∃ order,
              ExactDiff env primary ignore rels index w order last.1 last.2.upserts) := by
  refine (yields_scanProgress w rfl).bind ?_ (by rintro _ _ - ⟨⟨⟩, -⟩)
  rintro _ ⟨middle, _⟩ - ⟨⟨⟩, same, rfl⟩
  refine always_noted.mpr ⟨trivial, ?_⟩
  intro answer after served
  obtain ⟨⟨order, read, rfl⟩, rfl⟩ := quiet.sem_allPaths.mp served
  rw [(core_parts same).2.1] at read
  refine (yields_compareFiles quiet running read clean distinct after same).bind ?_
    (by rintro _ _ - ⟨⟨⟩, -⟩)
  rintro _ ⟨middle, _⟩ - ⟨⟨⟩, same, rfl⟩
  rw [localKeys_below clean]
  let entries := rels.filterMap (fun rel =>
    recording env w (primary.localPath ++ rel) (relKey rel))
  refine (@yields_sendPhases env { w with db := w.db.upsertAll entries } _ primary ignore rels index
    order quiet running cfg _ middle same).mono ?_
  rintro result ⟨last, _⟩ - ⟨rfl, ended, rfl⟩
  have tasks := (congrArg World.tasks ended :)
  have tracker := (congrArg World.tracker ended :)
  refine ⟨rfl, (congrArg World.pathCache ended :), rfl, order, read, ?_, rfl,
    (congrArg World.db ended :), ?_, ?_⟩
  · refine tasks.trans ?_
    simp [World.ordered, World.core, World.queued]
  · rw [show last.tracker = _ from tracker, show last.tasks = _ from tasks]
    simp [World.ordered, World.core, World.queued]
  · rw [show last.tracker = _ from tracker]
    simp [World.ordered, World.core, World.queued, Function.comp_def]

end Reconcile

-----------------------------------------------------------------------------------------
-- The whole scan
-----------------------------------------------------------------------------------------

/-- The files that the walk finds, relative to the root. -/
def walkedRels (disk : Disk) (root : Path) (ignore : IgnoreMatcher) : List Path :=
  (walkedFiles disk root ignore).filterMap (Path.stripPrefix root)

/-- Every name on the way to a file of the walk is UTF-8. -/
def Utf8Walk (disk : Disk) (root : Path) (ignore : IgnoreMatcher) : Prop :=
  ∀ rel, root ++ rel ∈ walkedFiles disk root ignore → ∀ name ∈ rel, ∃ text, name = .utf8 text

section Walk

variable {disk : Disk} {root : Path} {ignore : IgnoreMatcher}

/-- A walked file lies below the root, under proper names. -/
theorem walkedFiles_below {path : Path} (walked : path ∈ walkedFiles disk root ignore)
    : ∃ rel, path = root ++ rel ∧ ProperNames rel := by
  obtain ⟨data, yielded⟩ := mem_walkedFiles.mp walked
  generalize Node.file data = node at yielded
  cases yielded with
  | root found kept => exact ⟨[], (List.append_nil _).symm, by simp [ProperNames]⟩
  | @child above listing child name entered yields kept =>
      obtain ⟨rel, rfl, proper, -⟩ := entered.walked
      refine ⟨rel ++ [name], List.append_assoc .., ProperNames.append.mpr ⟨proper, ?_⟩⟩
      intro other member
      rw [List.mem_singleton.mp member]
      exact listing.proper name (Listing.mem_names yields)

theorem walkedFiles_proper {rel : Path} (walked : root ++ rel ∈ walkedFiles disk root ignore)
    : ProperNames rel := by
  obtain ⟨rel', same, proper⟩ := walkedFiles_below walked
  exact List.append_cancel_left same ▸ proper

theorem walkedFiles_eq
    : walkedFiles disk root ignore = (walkedRels disk root ignore).map (root ++ ·) := by
  have each : ∀ path ∈ walkedFiles disk root ignore,
      (Path.stripPrefix root path).map (root ++ ·) = some path := by
    intro path walked
    obtain ⟨rel, rfl, proper⟩ := walkedFiles_below walked
    simp [proper.clean.stripPrefix]
  rw [walkedRels, List.map_filterMap]
  rw [List.filterMap_congr each, List.filterMap_some]

theorem walkedRels_proper {rel : Path} (walked : rel ∈ walkedRels disk root ignore)
    : ProperNames rel := by
  obtain ⟨path, member, stripped⟩ := List.mem_filterMap.mp walked
  obtain ⟨rel', rfl, proper⟩ := walkedFiles_below member
  rw [proper.clean.stripPrefix] at stripped
  exact Option.some.inj stripped ▸ proper

/-- In UTF-8, walked files have different keys. -/
theorem walkedRels_keys (names : Utf8Walk disk root ignore)
    : (∀ rel ∈ walkedRels disk root ignore, Utf8Path rel)
      ∧ ((walkedRels disk root ignore).map relKey).Nodup := by
  have plain : ∀ rel ∈ walkedRels disk root ignore, Utf8Path rel := by
    intro rel member
    have walked : root ++ rel ∈ walkedFiles disk root ignore := by
      rw [walkedFiles_eq]
      exact List.mem_map_of_mem member
    have plain : PlainNames rel := by
      intro name inRel
      obtain ⟨text, rfl⟩ := names rel walked name inRel
      exact ⟨text, rfl, walkedRels_proper member _ inRel⟩
    exact plain.utf8Path
  refine ⟨plain, List.Nodup.map_on ?_ ?_⟩
  · intro rel member rel' member' same
    rw [← (plain rel member).components_relKey, same, (plain rel' member').components_relKey]
  · have distinct : ((walkedRels disk root ignore).map (root ++ ·)).Nodup := by
      rw [← walkedFiles_eq]
      exact Disk.walkDir_nodup.sublist (List.filter_sublist.map _)
    exact distinct.of_map _

end Walk

/-- The inventories are taken: the disk, the rows and the channel are as they were, and nothing
was written.
-/
structure Prepared (w : World) (index : RemoteIndex) (here : World × ScanLog) : Prop where
  disk : here.1.disk = w.disk
  db : here.1.db = w.db
  tasks : here.1.tasks = w.tasks
  running : here.1.shutdown = false
  log : here.2 = ⟨index, []⟩

section Scan

variable {env : Environment} {w : World} {cfg : AppConfig} {primary : SyncPair}
  {ignore : IgnoreMatcher} {index : RemoteIndex} {here : World × ScanLog} {α β : Type}

/-- What an operation of phases 0 to 2 may be, besides the listing. -/
def Op.Unlogged (op : Op) : Prop := op.Prepares ∧ Program.Silent ScanLog.note op

theorem Op.Looks.unlogged {op : Op} (looks : op.Looks) : op.Unlogged := by
  refine ⟨looks.prepares, fun answer log => ?_⟩
  cases looks <;> rfl

theorem unlogged_insert {key : String} {id parent : DriveId}
    : Op.Unlogged (.insert key id parent) :=
  ⟨by simp [Op.Prepares, Op.writes], fun _ _ => rfl⟩

theorem unlogged_mkdir {parent : DriveId} {name : String}
    : Op.Unlogged (.provider (.mkdir parent name)) :=
  ⟨by simp [Op.Prepares, Op.writes], fun answer _ => by cases answer <;> rfl⟩

/-- A phase before the comparison, and what follows it. -/
theorem always_prepared_bind (quiet : env.Undisturbed) {program : Eff α} {f : α → Eff β}
    {found : Except Error α → World → Prop} {post : Except Error β → World × ScanLog → Prop}
    (uses : Uses Op.Unlogged program) (before : Prepared w index here)
    (bare : Always env.sem (fun _ => True) program here.1 found)
    (rest
      : ∀ value middle,
          Prepared w index middle → found (.ok value) middle.1
          → Always (noted env.sem ScanLog.note) (fun _ => True) (f value) middle post)
    (failed
      : ∀ error middle,
          Prepared w index middle → found (.error error) middle.1 → post (.error error) middle)
    : Always (noted env.sem ScanLog.note) (fun _ => True) (program >>= f) here post := by
  have kept : Always (noted env.sem ScanLog.note) (Prepared w index) program here
      (fun _ _ => True) := by
    refine uses.always ?_ before
    rintro op ⟨state, log⟩ answer ⟨after, _⟩ ⟨prepares, silent⟩ before ⟨served, rfl⟩
    have keeps := env.sem_keeps served
    exact ⟨keeps.disk.trans before.disk, (keeps.db prepares.1).trans before.db,
      (keeps.tasks prepares.2).trans before.tasks,
      (env.sem_shutdown quiet served).trans before.running, (silent answer log).trans before.log⟩
  refine (kept.and (bare.observed here.2)).seq (fun _ _ => trivial) ?_ ?_
  · intro value middle prepared holds
    exact rest value middle prepared.1 holds.2
  · intro error middle prepared holds
    exact failed error middle prepared.1 holds.2

/-- The provider may refuse to make a folder. -/
def Environment.RefusesFolders (env : Environment) : Prop :=
  ∃ parent name disk remote error after,
    env.provider (.mkdir parent name) disk remote (.error error) after

/-- A listing may give the index; one that failed gives an empty one. -/
def Environment.Lists (env : Environment) (index : RemoteIndex) : Prop :=
  ∃ folder disk remote answer after,
    env.provider (.listRemote folder) disk remote answer after ∧ index = listed answer

/-- After the listing its index is noted. -/
theorem always_listing_noted {f : RemoteIndex → Eff β}
    {post : Except Error β → World × ScanLog → Prop} (running : w.shutdown = false)
    (rest
      : ∀ index middle,
          env.Lists index → Prepared w index middle
          → Always (noted env.sem ScanLog.note) (fun _ => True) (f index) middle post)
    : Always (noted env.sem ScanLog.note) (fun _ => True) (listRemote primary >>= f)
        (w, {}) post := by
  refine always_noted.mpr ⟨trivial, ?_⟩
  rintro ⟨⟩ reported rfl
  refine always_noted.mpr ⟨trivial, ?_⟩
  rintro answer after ⟨remote, answered, rfl⟩
  cases answer with
  | ok index =>
      exact rest index _ ⟨_, _, _, _, _, answered, rfl⟩ ⟨rfl, rfl, rfl, running, rfl⟩
  | error error =>
      exact rest ⟨[], []⟩ _ ⟨_, _, _, _, _, answered, rfl⟩ ⟨rfl, rfl, rfl, running, rfl⟩

/-- Where no folder is refused, phase 2 ends well. -/
theorem createFolders_refused (quiet : env.Undisturbed) {state : World}
    (running : state.shutdown = false) {localDirs : List Path}
    (inside : ∀ dir ∈ localDirs, ∃ rel, dir = primary.localPath ++ rel)
    : Always env.sem (fun _ => True) (createFolders ⟨cfg, false⟩ primary localDirs) state
        (fun result _ => ∀ error, result = .error error → env.RefusesFolders) := by
  by_cases refuses : env.RefusesFolders
  · exact (always_of_sem (fun _ _ _ _ _ _ => trivial) trivial).mono
      (fun _ _ _ _ _ _ => refuses)
  · have makes : ∀ parent name disk remote answer after,
        env.provider (.mkdir parent name) disk remote answer after → ∃ id, answer = .ok id := by
      intro parent name disk remote answer after made
      cases answer with
      | ok id => exact ⟨id, rfl⟩
      | error error => exact absurd ⟨parent, name, disk, remote, error, after, made⟩ refuses
    refine ((neverFails_createFolders quiet makes inside state running).weaken
      (fun _ _ => trivial)).mono ?_
    rintro result last - ⟨-, value, rfl⟩ error ⟨⟩

/-- The two outcomes of a scan. -/
inductive Scanned (env : Environment) (primary : SyncPair) (ignore : IgnoreMatcher) (w : World)
    : Except Error Unit → World × ScanLog → Prop
  /-- Exactly what differs is sent, recorded and counted, no path twice. -/
  | compared {last : World} {log : ScanLog} {order : List String}
    (exact_diff
      : ExactDiff env primary ignore (walkedRels w.disk primary.localPath ignore) log.index
          { w with pathCache := last.pathCache } order last log.upserts)
    (keys
      : (log.index.files.map RemoteFile.relativePath).Nodup
        → (taskKeys env primary ignore (walkedRels w.disk primary.localPath ignore) log.index
            { w with pathCache := last.pathCache } order).Nodup)
    (paths
      : (log.index.files.map RemoteFile.relativePath).Nodup
        → (∀ key ∈ order, Spelled key)
        → (∀ file ∈ log.index.files, Spelled file.relativePath)
        → (taskPaths env primary ignore (walkedRels w.disk primary.localPath ignore) log.index
            { w with pathCache := last.pathCache } order).Nodup)
    : Scanned env primary ignore w (.ok ()) (last, log)
  /-- A folder is refused, before anything is sent or recorded. -/
  | refused {error : Error} {last : World} {log : ScanLog} (refuses : env.RefusesFolders)
    (tasks : last.tasks = w.tasks) (rows : last.db = w.db) (upserts : log.upserts = [])
    : Scanned env primary ignore w (.error error) (last, log)

/-- What the comparison does is a matter of the disk, the rows, the cache and the channel only. -/
theorem ExactDiff.congr {state last : World} {rels : List Path} {order : List String}
    {upserts : List FileEntry} (disk : state.disk = w.disk) (db : state.db = w.db)
    (tasks : state.tasks = w.tasks)
    (diff : ExactDiff env primary ignore rels index state order last upserts)
    : ExactDiff env primary ignore rels index { w with pathCache := state.pathCache } order last
        upserts := by
  obtain ⟨_, _, _, _, _, _, _, _, _⟩ := state
  obtain ⟨⟩ := disk
  obtain ⟨⟩ := db
  obtain ⟨⟩ := tasks
  exact ⟨diff.read, diff.tasks, diff.recorded, diff.rows, diff.totalFiles, diff.totalBytes⟩

/-- Up to the comparison a scan prepares, and only a refused folder can end it there. -/
theorem always_scan_compares (quiet : env.Undisturbed) (running : w.shutdown = false)
    (configured : cfg.getPrimaryPair = some primary)
    {post : Except Error Unit → World × ScanLog → Prop}
    (compares
      : ∀ index made,
          env.Lists index → Prepared w index made
          → Always (noted env.sem ScanLog.note) (fun _ => True)
              (reconcile ⟨cfg, false⟩ primary ignore index
                (walkedFiles w.disk primary.localPath ignore))
              made post)
    (refused
      : ∀ error index last,
          env.RefusesFolders → Prepared w index last → post (.error error) last)
    : Always (noted env.sem ScanLog.note) (fun _ => True) (scan ⟨cfg, false⟩ ignore) (w, {})
        post := by
  unfold scan
  simp only [orError, configured, propagate, Prog.ok_bind]
  refine always_listing_noted running ?_
  intro index listed lists prepared
  refine always_prepared_bind quiet ?_ prepared
    (neverFails_fillCache quiet _ prepared.running |>.weaken (fun _ _ => trivial)) ?_ ?_
  · refine uses_fillCache.mono ?_
    rintro op ⟨key, id, parent, rfl⟩
    exact unlogged_insert
  · intro _ filled prepared _
    refine always_prepared_bind quiet
      (uses_takeInventory.mono (fun _ => Op.Looks.unlogged)) prepared
      (((neverFails_takeInventory quiet _ prepared.running).and takeInventory_finds).weaken
        (fun _ _ => trivial)) ?_ ?_
    · rintro inventory walked prepared' ⟨-, -, finds⟩
      obtain ⟨files, dirs⟩ := finds inventory rfl
      rw [prepared.disk] at files dirs
      refine always_prepared_bind quiet ?_ prepared'
        (createFolders_refused quiet prepared'.running ?_) ?_ ?_
      · refine uses_createFolders.mono ?_
        rintro op (looks | ⟨key, id, parent, rfl⟩ | ⟨-, parent, name, rfl⟩)
        · exact looks.unlogged
        · exact unlogged_insert
        · exact unlogged_mkdir
      · intro dir member
        obtain ⟨-, name, rest, rfl⟩ := mem_walkedDirs.mp (dirs ▸ member)
        exact ⟨_, rfl⟩
      · intro _ made ready _
        rw [files]
        exact compares index made lists ready
      · intro error last ready refusing
        exact refused error index last (refusing error rfl) ready
    · rintro error last - ⟨-, ⟨value, same⟩, -⟩
      cases same
  · rintro error last - ⟨-, value, same⟩
    cases same

/-- A scan sends, records and counts exactly what differs, no path twice; only a refused folder can
end it earlier, before anything is sent or recorded.
-/
theorem scan_exact_diff (quiet : env.Undisturbed) (running : w.shutdown = false)
    (configured : cfg.getPrimaryPair = some primary)
    (names : Utf8Walk w.disk primary.localPath ignore)
    : Always (noted env.sem ScanLog.note) (fun _ => True) (scan ⟨cfg, false⟩ ignore) (w, {})
        (Scanned env primary ignore w) := by
  obtain ⟨plain, distinct⟩ := walkedRels_keys names
  apply always_scan_compares quiet running configured
  · rintro index ⟨made, log⟩ - ready
    obtain rfl : log = ⟨index, []⟩ := ready.log
    rw [walkedFiles_eq]
    refine (@always_reconcile env made ⟨index, []⟩ primary ignore _ index quiet ready.running cfg
      (fun rel member => (plain rel member).clean) distinct).mono ?_
    rintro result ⟨last, log⟩ - ⟨rfl, cache, rfl, order, diff⟩
    replace diff := diff.congr ready.disk ready.db ready.tasks
    rw [← show last.pathCache = made.pathCache from cache] at diff
    have keys (files : (log.index.files.map RemoteFile.relativePath).Nodup) :=
      @taskKeys_nodup env { w with pathCache := last.pathCache } primary ignore _ log.index order
        distinct (diff.read.nodup_iff.mpr w.db.allPaths_nodup) files
    exact .compared diff keys (fun files rows spelled =>
      taskPaths_nodup plain (keys files) rows spelled)
  · intro error index last refuses ready
    exact .refused refuses ready.tasks ready.db (by rw [ready.log])

end Scan

/-- One file that is not empty, and the row of another that is gone. -/
def diffWorld : World where
  disk := .backup (.single (.utf8 "a") OsString.proper_a) (fun _ => .file ⟨[1], 0, true⟩)
  db := ({} : Database).upsert ⟨"b", "", 0⟩

theorem diffWorld_utf8 : Utf8Walk diffWorld.disk backupPair.localPath .nothing := by
  have files : walkedFiles diffWorld.disk backupPair.localPath .nothing
      = [[.utf8 "backup", .utf8 "a"]] := by
    simp [walkedFiles, diffWorld, backupPair, Disk.walkDir, Disk.backup_entry?, Node.walk,
      IgnoreMatcher.keeps, IgnoreMatcher.nothing_isIgnored, Listing.yielded, Listing.single]
  intro rel walked name member
  rw [files, List.mem_singleton] at walked
  obtain rfl : rel = [.utf8 "a"] := (List.cons.inj walked).2
  exact ⟨"a", List.mem_singleton.mp member⟩

/-- A scan of it is such a comparison, whatever the digests are. -/
theorem diffWorld_scanned
    : Always (noted (Environment.calm (fun _ => "") "root").sem ScanLog.note) (fun _ => True)
        (scan ⟨backupConfig, false⟩ .nothing) (diffWorld, {})
        (Scanned (.calm (fun _ => "") "root") backupPair .nothing diffWorld) :=
  scan_exact_diff (fun _ => id) rfl rfl diffWorld_utf8

end SyncGDrive
