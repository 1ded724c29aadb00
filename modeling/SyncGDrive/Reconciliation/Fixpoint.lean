import SyncGDrive.Engine.Exclusion
import SyncGDrive.Reconciliation.Foreign
import SyncGDrive.Reconciliation.Passes
import SyncGDrive.Reconciliation.Settling

/-! Whether a scan and its tasks leave anything to do: the second scan sends nothing exactly if
every deletion of the first has reached its row or its item, and every upload its row.
-/

namespace SyncGDrive

open Program

-----------------------------------------------------------------------------------------
-- What is left to do
-----------------------------------------------------------------------------------------

section Conditions

variable (md5 : List UInt8 → String) (primary : SyncPair) (ignore : IgnoreMatcher) (w : World)

/-- The files that the walk finds, below the local root. -/
abbrev World.files : List Path := walkedRels w.disk primary.localPath ignore

/-- A row, or a remote file that is neither ignored nor a local directory, without a local file. -/
def Stray (key : String) : Prop :=
  key ∉ (w.files primary ignore).map relKey
  ∧ ((w.db.row key).isSome
    ∨ (∃ content, w.remote.FileAt primary.remoteFolderId key content)
      ∧ w.disk.isDir (primary.localPath.join key) = false
      ∧ ignore.isIgnored (primary.localPath.join key) false = false)

/-- The deletion of the key reaches it, and covers no file that is not empty. -/
structure Removable (key : String) : Prop where
  cleared
    : clearedKey primary ignore w.disk (primary.localPath.join key) = some key
  alone
    : ∀ rel ∈ w.files primary ignore,
        0 < w.disk.sizeOf (primary.localPath ++ rel) → ¬ Covers key (relKey rel)

/-- The item that an upload for the key goes to: the one listed there, or else the one cached. -/
def Target (key : String) (id : DriveId) (item : RemoteItem) : Prop :=
  w.remote.ItemAt primary.remoteFolderId id item key
  ∨ (∀ id item, ¬ w.remote.ItemAt primary.remoteFolderId id item key)
    ∧ w.remote.item? id = some item ∧ ∃ parent, w.pathCache.lookup key = some ⟨id, parent⟩

/-- The file is to be sent. -/
def Due (rel : Path) : Prop :=
  (∀ id item, ¬ Target primary w (relKey rel) id item)
  ∨ Outdated (.calm md5 primary.remoteFolderId) w (primary.localPath ++ rel) (relKey rel)

/-- Every deletion reaches its key, and every file that is due can be sent: it is not dated before
the epoch, and goes to no folder.
-/
structure Convergent : Prop where
  strays : ∀ key, Stray primary ignore w key → Removable primary ignore w key
  files
    : ∀ rel ∈ w.files primary ignore, ∀ data,
        w.disk.node? (primary.localPath ++ rel) = some (.file data) → data.content ≠ []
        → Due md5 primary w rel
        → 0 ≤ data.modified
          ∧ ∀ id item, Target primary w (relKey rel) id item → item.kind ≠ .folder

/-- Nothing is left to do. -/
structure Quiescent : Prop where
  strays : ∀ key, ¬ Stray primary ignore w key
  files
    : ∀ rel ∈ w.files primary ignore,
        0 < w.disk.sizeOf (primary.localPath ++ rel) → ¬ Due md5 primary w rel

/-- Every item on the remote has an ordinary name, so that its path spells the names on the way. -/
def OrdinaryNames : Prop :=
  ∀ id item key, w.remote.ItemAt primary.remoteFolderId id item key → PlainName item.name

/-- No two files, items or cached identifiers share a path, no file has the path of a directory, and
every file can be read.
-/
structure Regular : Prop where
  running : w.shutdown = false
  idle : w.tasks = []
  rooted : w.remote.Rooted primary.remoteFolderId
  unique : w.remote.UniquePaths primary.remoteFolderId
  unmixed : w.pathCache.Unmixed w.remote primary.remoteFolderId
  distinct : ((w.files primary ignore).map relKey).Nodup
  below : [] ∉ w.files primary ignore
  apart
    : ∀ rel ∈ w.files primary ignore, ∀ dir,
        primary.localPath ++ dir ∈ walkedDirs w.disk primary.localPath ignore
        → relKey dir ≠ relKey rel
  readable
    : ∀ rel ∈ w.files primary ignore, ∀ data,
        w.disk.node? (primary.localPath ++ rel) = some (.file data) → data.readable = true

variable {primary ignore w}

theorem Regular.sound (regular : Regular primary ignore w) (ordinary : OrdinaryNames primary w)
    : w.remote.Sound primary.remoteFolderId :=
  ⟨regular.rooted, regular.unique, ordinary⟩

end Conditions

-----------------------------------------------------------------------------------------
-- The files of the walk
-----------------------------------------------------------------------------------------

/-- What the walk finds of a file below the root. -/
structure WalkedFile (disk : Disk) (root : Path) (ignore : IgnoreMatcher) (rel : Path)
    (data : FileData)
    : Prop where
  there : disk.node? (root ++ rel) = some (.file data)
  kept : ignore.isIgnored (root ++ rel) false = false
  names : ProperNames rel
  above
    : ∀ front back,
        rel = front ++ back → front ≠ [] → back ≠ []
        → root ++ front ∈ walkedDirs disk root ignore

section Walk

variable {disk : Disk} {root rel : Path} {ignore : IgnoreMatcher} {data : FileData}

theorem walkedRels_found (walked : rel ∈ walkedRels disk root ignore) (named : rel ≠ [])
    : ∃ data, WalkedFile disk root ignore rel data := by
  have member : root ++ rel ∈ walkedFiles disk root ignore := by
    rw [walkedFiles_eq]
    exact List.mem_map_of_mem walked
  obtain ⟨data, yielded⟩ := mem_walkedFiles.mp member
  refine ⟨data, ?_⟩
  have there : disk.node? (root ++ rel) = some (.file data) := by
    rw [Disk.node?, yielded.entry?_eq]
    rfl
  generalize path : root ++ rel = whole at yielded
  generalize node : Node.file data = found at yielded
  cases yielded with
  | root found kept => exact absurd (List.append_right_eq_self.mp path) named
  | @child above listing child name entered yields kept =>
      obtain ⟨front, rfl, proper, walkedAbove⟩ := entered.walked
      rw [List.append_assoc] at path
      obtain rfl := List.append_cancel_left path
      refine ⟨there, ?_, ?_, ?_⟩
      · rw [← node] at kept
        simpa [IgnoreMatcher.keeps, Node.fileType] using kept
      · refine ProperNames.append.mpr ⟨proper, ?_⟩
        intro other member
        rw [List.mem_singleton.mp member]
        exact listing.proper name (Listing.mem_names yields)
      · intro first rest split nonempty more
        obtain ⟨back, last, rfl⟩ := List.eq_nil_or_concat rest |>.resolve_left more
        rw [List.concat_eq_append, ← List.append_assoc] at split
        obtain ⟨listing, child, yielded⟩ :=
          walkedAbove first back (List.append_inj' split rfl).1 nonempty
        obtain ⟨head, tail, rfl⟩ := List.exists_cons_of_ne_nil nonempty
        exact mem_walkedDirs.mpr ⟨⟨listing, child, yielded⟩, head, tail, rfl⟩

theorem WalkedFile.sizeOf_eq (file : WalkedFile disk root ignore rel data)
    : disk.sizeOf (root ++ rel) = data.content.length := by
  simp [Disk.sizeOf, Disk.metadata, file.there, Node.metadata]

end Walk

-----------------------------------------------------------------------------------------
-- The plan of a scan
-----------------------------------------------------------------------------------------

section Plans

variable {md5 : List UInt8 → String} {primary : SyncPair} {ignore : IgnoreMatcher}
  {w planned : World} {index : RemoteIndex} {order : List String} {upserts : List FileEntry}
  {rel : Path} {key : String} {id : DriveId} {item : RemoteItem}

/-- After a scan the cache has the target of every key that is no directory's. -/
theorem Rescanned.target_iff
    (scanned : Rescanned md5 primary ignore w index order upserts planned)
    (sound : w.remote.Sound primary.remoteFolderId)
    (unmixed : w.pathCache.Unmixed w.remote primary.remoteFolderId)
    (apart
      : ∀ dir,
          primary.localPath ++ dir ∈ walkedDirs w.disk primary.localPath ignore
          → relKey dir ≠ key)
    : Target primary w key id item
      ↔ (∃ parent, planned.pathCache.lookup key = some ⟨id, parent⟩)
        ∧ planned.remote.item? id = some item := by
  obtain ⟨places, same⟩ := unmixed.filled sound scanned.lists
  have found {id : DriveId} {item : RemoteItem} (target : Target primary w key id item)
      : (∃ parent, planned.pathCache.lookup key = some ⟨id, parent⟩)
        ∧ planned.remote.item? id = some item := by
    rcases target with itemAt | ⟨free, known, parent, cached⟩
    · obtain ⟨parent, cached⟩ := places.listed id item key itemAt
      exact ⟨⟨parent, scanned.cached key _ cached⟩, scanned.kept id item itemAt.1⟩
    · exact ⟨⟨parent, scanned.cached key _ ((same key free).trans cached)⟩,
        scanned.kept id item known⟩
  refine ⟨found, ?_⟩
  rintro ⟨⟨parent, cached⟩, known⟩
  have unique {id' : DriveId} {item' : RemoteItem} (target : Target primary w key id' item')
      : Target primary w key id item := by
    obtain ⟨⟨parent', cached'⟩, known'⟩ := found target
    rw [cached] at cached'
    cases cached'
    rw [known] at known'
    cases known'
    exact target
  by_cases there : ∃ id' item', w.remote.ItemAt primary.remoteFolderId id' item' key
  · obtain ⟨id', item', itemAt⟩ := there
    exact unique (.inl itemAt)
  · have free : ∀ id item, ¬ w.remote.ItemAt primary.remoteFolderId id item key :=
      fun id item itemAt => there ⟨id, item, itemAt⟩
    rcases scanned.known key (by simp [cached]) with
      before | ⟨file, listed, rfl⟩ | ⟨dir, listed, rfl⟩ | ⟨dir, walked, rfl⟩
    · obtain ⟨entry, old⟩ := Option.isSome_iff_exists.mp before
      rcases unmixed key entry old with ⟨id', item', itemAt⟩ | ⟨⟨item', known'⟩, -⟩
      · exact absurd itemAt (free id' item')
      · exact unique (.inr ⟨free, known', entry.parentId, old⟩)
    · obtain ⟨item', content, itemAt, -⟩ := scanned.lists.files file listed
      exact absurd itemAt (free _ _)
    · obtain ⟨item', itemAt, -⟩ := scanned.lists.dirs dir listed
      exact absurd itemAt (free _ _)
    · exact absurd rfl (apart dir walked)

/-- What the comparison of a file looks at, besides the disk. -/
theorem differs_congr {env : Environment} {state : World} {path : Path}
    (disk : state.disk = w.disk) (cache : state.pathCache.lookup key = w.pathCache.lookup key)
    (row : state.db.row key = w.db.row key)
    : Differs env state path key ↔ Differs env w path key := by
  unfold Differs Outdated
  rw [disk, cache, row]

/-- A file whose row is written is not outdated before, and not afterwards. -/
theorem recording_settles {env : Environment} {path : Path} {entry : FileEntry}
    (recorded : recording env w path key = some entry)
    : entry.path = key ∧ entry.mtime = w.disk.mtimeOf path ∧ ¬ Outdated env w path key := by
  simp only [recording, Option.bind_eq_some_iff, Option.ite_none_right_eq_some] at recorded
  obtain ⟨content, read, ⟨-, sameHash⟩, ⟨⟩⟩ := recorded
  refine ⟨rfl, rfl, ?_⟩
  rintro ⟨columns, row, -, newHash⟩
  rw [read, Option.map_some] at newHash
  exact newHash (congrArg some (sameHash columns row).2)

/-- Writing rows outdates no file and brings none up to date. -/
theorem Rescanned.outdated_iff
    (scanned : Rescanned md5 primary ignore w index order upserts planned)
    (distinct : ((w.files primary ignore).map relKey).Nodup) (walked : rel ∈ w.files primary ignore)
    : Outdated (.calm md5 primary.remoteFolderId) planned (primary.localPath ++ rel) (relKey rel)
      ↔ Outdated (.calm md5 primary.remoteFolderId) w (primary.localPath ++ rel) (relKey rel) := by
  let env := Environment.calm md5 primary.remoteFolderId
  let v : World := { w with pathCache := planned.pathCache }
  let written (rel : Path) : Option FileEntry :=
    recording env v (primary.localPath ++ rel) (relKey rel)
  have rows : planned.db = w.db.upsertAll ((w.files primary ignore).filterMap written) :=
    scanned.diff.recorded ▸ scanned.diff.rows
  have keys {other : Path} {entry : FileEntry} (recorded : written other = some entry)
      : entry.path = relKey other := (recording_settles recorded).1
  cases recorded : written rel with
  | none =>
      have same : planned.db.row (relKey rel) = w.db.row (relKey rel) := by
        rw [rows]
        apply Database.row_upsertAll
        intro member
        obtain ⟨entry, inEntries, path⟩ := List.mem_map.mp member
        obtain ⟨other, walked', recorded'⟩ := List.mem_filterMap.mp inEntries
        rw [keys recorded'] at path
        obtain rfl := List.inj_on_of_nodup_map distinct walked' walked path
        rw [recorded] at recorded'
        cases recorded'
      unfold Outdated
      rw [same, scanned.disk]
  | some entry =>
      obtain ⟨path, time, upToDate⟩ := recording_settles recorded
      refine iff_of_false ?_ upToDate
      have apart : (((w.files primary ignore).filterMap written).map FileEntry.path).Nodup := by
        rw [List.Nodup, List.pairwise_map, List.pairwise_filterMap]
        refine (List.pairwise_map.mp distinct).imp ?_
        intro other other' different entry recorded entry' recorded' same
        rw [keys recorded, keys recorded'] at same
        exact different same
      have row := @Database.row_upsertAll_mem w.db _ entry apart
        (List.mem_filterMap.mpr ⟨rel, walked, recorded⟩)
      rintro ⟨columns, found, newTime, -⟩
      rw [rows, ← path, row] at found
      obtain rfl := Option.some.inj found
      rw [scanned.disk] at newTime
      exact newTime time.symm

/-- What the comparison finds different is due. -/
theorem Rescanned.differs_iff
    (scanned : Rescanned md5 primary ignore w index order upserts planned)
    (regular : Regular primary ignore w) (ordinary : OrdinaryNames primary w)
    (walked : rel ∈ w.files primary ignore)
    : Differs (.calm md5 primary.remoteFolderId) planned (primary.localPath ++ rel) (relKey rel)
      ↔ Due md5 primary w rel := by
  unfold Differs Due
  rw [scanned.outdated_iff regular.distinct walked]
  refine or_congr_left ?_
  have target {id : DriveId} {item : RemoteItem} :=
    @Rescanned.target_iff md5 primary ignore w planned index order upserts (relKey rel) id item
      scanned (regular.sound ordinary) regular.unmixed (regular.apart rel walked)
  constructor
  · intro absent id item goal
    obtain ⟨⟨parent, cached⟩, -⟩ := target.mp goal
    rw [absent] at cached
    cases cached
  · intro none_
    by_contra some_
    obtain ⟨entry, cached⟩ := Option.ne_none_iff_exists'.mp some_
    obtain ⟨item, known⟩ := scanned.places.known _ _ cached
    exact none_ _ _ (target.mpr ⟨⟨entry.parentId, cached⟩, known⟩)

/-- Where the cache places the items, the target of a key is what is cached for it. -/
theorem PathCache.Places.due_iff
    (places : w.pathCache.Places w.remote primary.remoteFolderId)
    : Due md5 primary w rel
      ↔ Differs (.calm md5 primary.remoteFolderId) w (primary.localPath ++ rel) (relKey rel) := by
  unfold Differs Due
  refine or_congr_left ?_
  constructor
  · intro none_
    by_contra some_
    obtain ⟨entry, cached⟩ := Option.ne_none_iff_exists'.mp some_
    obtain ⟨item, known⟩ := places.known _ _ cached
    by_cases there : ∃ id' item', w.remote.ItemAt primary.remoteFolderId id' item' (relKey rel)
    · obtain ⟨id', item', itemAt⟩ := there
      exact none_ id' item' (.inl itemAt)
    · refine none_ _ item (.inr ⟨fun id item itemAt => there ⟨id, item, itemAt⟩, known, ?_⟩)
      exact ⟨entry.parentId, cached⟩
  · rintro absent id item (itemAt | ⟨-, -, parent, cached⟩)
    · exact places.free absent id item itemAt
    · rw [absent] at cached
      cases cached

/-- The tasks of a scan: the files that are sent, and the keys whose paths are deleted. -/
structure Planned (md5 : List UInt8 → String) (primary : SyncPair) (ignore : IgnoreMatcher)
    (w : World) (sends : List Path) (strays : List String) (tasks : List Task)
    : Prop where
  tasks
    : tasks
      = sends.map (fun rel => .syncFile (primary.localPath ++ rel))
        ++ (strays.map primary.localPath.join).map .delete
  distinct : (sends.map relKey).Nodup
  sends
    : ∀ rel,
        rel ∈ sends
        ↔ rel ∈ w.files primary ignore ∧ 0 < w.disk.sizeOf (primary.localPath ++ rel)
          ∧ Due md5 primary w rel
  strays : ∀ key, key ∈ strays ↔ Stray primary ignore w key

/-- A remote file is listed. -/
theorem mem_files_iff (lists : w.remote.Lists md5 primary.remoteFolderId index)
    : key ∈ index.files.map RemoteFile.relativePath
      ↔ ∃ content, w.remote.FileAt primary.remoteFolderId key content := by
  constructor
  · intro member
    obtain ⟨file, listed, rfl⟩ := List.mem_map.mp member
    obtain ⟨item, content, itemAt, -, kind, -⟩ := lists.files file listed
    exact ⟨content, _, item, itemAt, kind⟩
  · rintro ⟨content, id, item, itemAt, kind⟩
    obtain ⟨file, listed, -, rfl⟩ := lists.everyFile id item key content itemAt kind
    exact List.mem_map_of_mem listed

theorem Rescanned.plan
    (scanned : Rescanned md5 primary ignore w index order upserts planned)
    (regular : Regular primary ignore w) (ordinary : OrdinaryNames primary w)
    : ∃ sends strays, Planned md5 primary ignore w sends strays planned.tasks := by
  let env := Environment.calm md5 primary.remoteFolderId
  let v : World := { w with pathCache := planned.pathCache }
  have tasks := scanned.diff.tasks
  refine ⟨toSend env v primary (w.files primary ignore),
    orphanRows (w.files primary ignore) order
      ++ orphanFiles v.disk primary ignore (w.files primary ignore) order index, ?_, ?_, ?_, ?_⟩
  · rw [tasks]
    simp [regular.idle, Function.comp_def, v, env]
  · exact regular.distinct.sublist (List.filter_sublist.map _)
  · intro rel
    simp only [toSend, List.mem_filter, decide_eq_true_eq]
    refine and_congr_right (fun walked => and_congr_right (fun _ => ?_))
    rw [← scanned.differs_iff regular ordinary walked]
    have outdated := scanned.outdated_iff regular.distinct walked
    exact or_congr_right outdated.symm
  · intro key
    have rows : key ∈ order ↔ (w.db.row key).isSome :=
      scanned.diff.read.mem_iff.trans Database.mem_allPaths
    simp only [orphanRows, orphanFiles, List.mem_append, List.mem_filter, decide_eq_true_eq, rows,
      mem_files_iff scanned.lists, Stray]
    by_cases row : (w.db.row key).isSome
    · simp [row]
    · simp only [row]
      tauto

/-- A scan sends nothing exactly where nothing is left to do. -/
theorem Rescanned.idle_iff
    (scanned : Rescanned md5 primary ignore w index order upserts planned)
    (regular : Regular primary ignore w) (ordinary : OrdinaryNames primary w)
    : planned.tasks = [] ↔ Quiescent md5 primary ignore w := by
  obtain ⟨sends, strays, plan⟩ := scanned.plan regular ordinary
  rw [plan.tasks, List.append_eq_nil_iff, List.map_eq_nil_iff, List.map_eq_nil_iff,
    List.map_eq_nil_iff, List.eq_nil_iff_forall_not_mem, List.eq_nil_iff_forall_not_mem]
  constructor
  · rintro ⟨noSends, noStrays⟩
    refine ⟨fun key stray => noStrays key ((plan.strays key).mpr stray), ?_⟩
    exact fun rel walked full due => noSends rel ((plan.sends rel).mpr ⟨walked, full, due⟩)
  · rintro ⟨noStrays, noFiles⟩
    refine ⟨fun rel sent => ?_, fun key stray => noStrays key ((plan.strays key).mp stray)⟩
    obtain ⟨walked, full, due⟩ := (plan.sends rel).mp sent
    exact noFiles rel walked full due

/-- What a scan leaves is regular again, and so is what its tasks leave. -/
theorem Regular.after {last : World} (regular : Regular primary ignore w)
    (disk : last.disk = w.disk) (running : last.shutdown = false) (idle : last.tasks = [])
    (places : last.pathCache.Places last.remote primary.remoteFolderId)
    : Regular primary ignore last where
  running := running
  idle := idle
  rooted := places.rooted
  unique := places.unique
  unmixed := places.unmixed
  distinct := by
    rw [World.files, disk]
    exact regular.distinct
  below := by
    rw [World.files, disk]
    exact regular.below
  apart := by
    rw [World.files, disk]
    exact regular.apart
  readable := by
    rw [World.files, disk]
    exact regular.readable

/-- What the worker finds of a file that a scan has sent. -/
theorem Rescanned.sending
    (scanned : Rescanned md5 primary ignore w index order upserts planned)
    (regular : Regular primary ignore w) (ordinary : OrdinaryNames primary w)
    (walked : rel ∈ w.files primary ignore)
    (full : 0 < w.disk.sizeOf (primary.localPath ++ rel)) (due : Due md5 primary w rel)
    : ∃ data, Sending md5 primary ignore { planned with tasks := [] } rel data := by
  have named : rel ≠ [] := by
    rintro rfl
    exact regular.below walked
  obtain ⟨data, file⟩ := walkedRels_found walked named
  refine ⟨data, ?_, file.kept, ?_, ?_, named, file.names, ?_, ?_⟩
  · exact scanned.disk ▸ file.there
  · rw [file.sizeOf_eq] at full
    exact List.ne_nil_of_length_pos full
  · exact regular.readable rel walked data file.there
  · unfold World.folderId?
    split
    · simp
    · rename_i below
      have above : rel.dropLast ≠ [] := by
        intro top
        rw [top, relKey_nil] at below
        exact below rfl
      have known := scanned.dirs rel.dropLast (file.above rel.dropLast [rel.getLast named]
        (List.dropLast_append_getLast named).symm above (by simp))
      rw [Option.ne_none_iff_isSome, Option.isSome_map]
      exact known
  · exact (scanned.differs_iff regular ordinary walked).mpr due

end Plans

-----------------------------------------------------------------------------------------
-- Handling the plan
-----------------------------------------------------------------------------------------

section Handling

variable {md5 : List UInt8 → String} {cfg : AppConfig} {primary : SyncPair}
  {ignore : IgnoreMatcher} {w planned : World} {index : RemoteIndex} {order : List String}
  {upserts : List FileEntry} {sends : List Path} {strays : List String}

/-- Collecting results changes no state. -/
theorem always_collect {env : Environment} {α : Type} {program : Eff (List α)} {value : α}
    {post : World → Prop}
    : Always env.sem (fun _ => True) (do return value :: (← program)) w (fun _ => post)
      ↔ Always env.sem (fun _ => True) program w (fun _ => post) := by
  rw [always_bind]
  constructor
  · refine fun always => always.mono ?_
    rintro (error | values) last - ends
    · exact ends
    · exact ends.2
  · refine fun always => always.mono ?_
    rintro (error | values) last - ends
    · exact ends
    · exact ⟨trivial, ends⟩

/-- Tasks that come after others are handled where these have led, by induction on the first. -/
theorem always_handleInOrder_append {env : Environment} {ctx : EngineContext}
    {first second : List Task} {post : World → Prop}
    (always
      : Always env.sem (fun _ => True) (handleInOrder ctx ignore first) w
          (fun _ middle =>
            Always env.sem (fun _ => True) (handleInOrder ctx ignore second) middle
              (fun _ => post)))
    : Always env.sem (fun _ => True) (handleInOrder ctx ignore (first ++ second)) w
        (fun _ => post) := by
  induction first generalizing w with
  | nil => exact always.2
  | cons task rest ih =>
      refine always_bind.mpr (always_outcome.mpr ?_)
      refine (always_outcome.mp (always_bind.mp always)).mono ?_
      intro result middle _ onward
      exact always_collect.mpr (ih (always_collect.mp onward))

/-- Handling gives the results of all tasks, whatever these are. -/
theorem always_handleInOrder_ok {env : Environment} {ctx : EngineContext} {tasks : List Task}
    : Always env.sem (fun _ => True) (handleInOrder ctx ignore tasks) w
        (fun result _ => ∃ results, result = .ok results) := by
  induction tasks generalizing w with
  | nil => exact ⟨trivial, [], rfl⟩
  | cons task rest ih =>
      have handled
          : Always env.sem (fun _ => True) (handle ctx ignore task) w (fun _ _ => True) :=
        always_of_sem (fun _ _ _ _ _ _ => trivial) trivial
      refine always_bind.mpr (always_outcome.mpr (handled.mono ?_))
      intro result middle _ _
      refine ih.bind ?_ (by rintro _ _ _ ⟨_, ⟨⟩⟩)
      exact fun results last _ _ => ⟨trivial, _, rfl⟩

/-- What handling the tasks of a plan comes to: the files are treated, then the keys cleared. -/
structure Worked (md5 : List UInt8 → String) (primary : SyncPair) (ignore : IgnoreMatcher)
    (w : World) (sends : List Path) (strays : List String) (planned middle last : World)
    : Prop where
  confined : Confined primary.remoteFolderId (sends.map relKey) planned middle
  treated
    : ∀ rel ∈ sends, ∀ data,
        w.disk.node? (primary.localPath ++ rel) = some (.file data)
        → Treated md5 (relKey rel) data planned middle
  cleared
    : Cleared primary.remoteFolderId
        ((strays.map primary.localPath.join).filterMap (clearedKey primary ignore w.disk))
        middle last

theorem Rescanned.always_works
    (scanned : Rescanned md5 primary ignore w index order upserts planned)
    (configured : cfg.getPrimaryPair = some primary) (regular : Regular primary ignore w)
    (ordinary : OrdinaryNames primary w)
    (plan : Planned md5 primary ignore w sends strays planned.tasks)
    : Always (Environment.calm md5 primary.remoteFolderId).sem (fun _ => True)
        (handleInOrder ⟨cfg, false⟩ ignore planned.tasks) { planned with tasks := [] }
        (fun _ last =>
          ∃ middle,
            Worked md5 primary ignore w sends strays { planned with tasks := [] } middle last) := by
  rw [plan.tasks]
  apply always_handleInOrder_append
  have sending : ∀ rel ∈ sends,
      ∃ data, Sending md5 primary ignore { planned with tasks := [] } rel data := by
    intro rel sent
    obtain ⟨walked, full, due⟩ := (plan.sends rel).mp sent
    exact scanned.sending regular ordinary walked full due
  refine (always_handleInOrder_treats configured sends plan.distinct sending scanned.places
    scanned.running).mono ?_
  rintro _ middle - ⟨-, confined, treated⟩
  have disk : middle.disk = w.disk := confined.disk.trans scanned.disk
  refine (always_handleInOrder_clears configured _ confined.places
    (confined.running.trans scanned.running)).mono ?_
  rintro _ last - ⟨-, cleared⟩
  rw [disk] at cleared
  refine ⟨middle, confined, fun rel sent data there => ?_, cleared⟩
  exact treated rel sent data (scanned.disk.symm ▸ there)

end Handling

-----------------------------------------------------------------------------------------
-- What the second scan finds
-----------------------------------------------------------------------------------------

section Second

variable {md5 : List UInt8 → String} {cfg : AppConfig} {primary : SyncPair}
  {ignore : IgnoreMatcher} {w planned middle last : World} {index : RemoteIndex}
  {order : List String} {upserts : List FileEntry} {sends : List Path} {strays : List String}
  {rel : Path} {key key' : String} {disk : Disk}

/-- A key that a deletion clears is the key of its own path. -/
theorem relStr_cleared
    (cleared : clearedKey primary ignore disk (primary.localPath.join key) = some key')
    : relStr primary.localPath (primary.localPath.join key') = .ok key' := by
  unfold clearedKey at cleared
  split at cleared
  · cases cleared
  unfold relStr at cleared
  split at cleared
  · rename_i rel stripped
    obtain rfl := Option.some.inj cleared
    have trimmed := Path.trim_of_stripPrefix stripped
    rw [relStr, (solid_of_join stripped).stripPrefix_join _ trimmed]
  · cases cleared

/-- So its own deletion clears no other key. -/
theorem clearedKey_own {further : String}
    (cleared : clearedKey primary ignore disk (primary.localPath.join key) = some key')
    (clears : clearedKey primary ignore disk (primary.localPath.join key') = some further)
    : further = key' := by
  unfold clearedKey at clears
  split at clears
  · cases clears
  · rw [relStr_cleared cleared] at clears
    exact (Option.some.inj clears).symm

/-- A remote file that is not ignored is cleared. -/
theorem clearedKey_file {content : List UInt8} (sound : w.remote.Sound primary.remoteFolderId)
    (there : w.remote.FileAt primary.remoteFolderId key content)
    (noDir : disk.isDir (primary.localPath.join key) = false)
    (kept : ignore.isIgnored (primary.localPath.join key) false = false)
    : clearedKey primary ignore disk (primary.localPath.join key) = some key := by
  obtain ⟨id, item, itemAt, -⟩ := there
  obtain ⟨above, plain, rfl, -⟩ := sound.item_key itemAt
  rw [clearedKey, noDir, kept, if_neg (by simp), join_relKey _ plain, relStr,
    plain.clean.stripPrefix]
  rfl

theorem Planned.mem_cleared
    (plan : Planned md5 primary ignore w sends strays planned.tasks)
    : key ∈ (strays.map primary.localPath.join).filterMap (clearedKey primary ignore w.disk)
      ↔ ∃ stray,
          Stray primary ignore w stray
          ∧ clearedKey primary ignore w.disk (primary.localPath.join stray) = some key := by
  simp only [List.mem_filterMap, List.mem_map, plan.strays]
  constructor
  · rintro ⟨_, ⟨stray, member, rfl⟩, cleared⟩
    exact ⟨stray, member, cleared⟩
  · rintro ⟨stray, member, cleared⟩
    exact ⟨_, ⟨stray, member, rfl⟩, cleared⟩

/-- Rows that no file has are kept by the scan. -/
theorem Rescanned.row_of_stray
    (scanned : Rescanned md5 primary ignore w index order upserts planned)
    (unwalked : key ∉ (w.files primary ignore).map relKey)
    : planned.db.row key = w.db.row key := by
  rw [scanned.diff.rows]
  apply Database.row_upsertAll
  intro member
  obtain ⟨entry, inEntries, path⟩ := List.mem_map.mp member
  rw [scanned.diff.recorded] at inEntries
  obtain ⟨rel, walked, recorded⟩ := List.mem_filterMap.mp inEntries
  rw [recording_path recorded] at path
  exact unwalked (path ▸ List.mem_map_of_mem walked)

section Worked

variable (scanned : Rescanned md5 primary ignore w index order upserts planned)
  (regular : Regular primary ignore w) (ordinary : OrdinaryNames primary w)
  (plan : Planned md5 primary ignore w sends strays planned.tasks)
  (worked
    : Worked md5 primary ignore w sends strays { planned with tasks := [] } middle last)

include scanned worked

theorem Worked.disk_eq : last.disk = w.disk :=
  worked.cleared.disk.trans (worked.confined.disk.trans scanned.disk)

include plan

/-- A row that no file has is gone, if its key was cleared, and otherwise as it was. -/
theorem Worked.row_of_stray (unwalked : key ∉ (w.files primary ignore).map relKey)
    (stays
      : ∀ stray,
          Stray primary ignore w stray
          → clearedKey primary ignore w.disk (primary.localPath.join stray) ≠ some key)
    : last.db.row key = w.db.row key := by
  have notSent : key ∉ sends.map relKey := by
    intro member
    obtain ⟨rel, sent, same⟩ := List.mem_map.mp member
    exact unwalked (same ▸ List.mem_map_of_mem ((plan.sends rel).mp sent).1)
  have notCleared := plan.mem_cleared.not.mpr (fun ⟨stray, isStray, cleared⟩ =>
    stays stray isStray cleared)
  exact (worked.cleared.rows key notCleared).trans
    ((worked.confined.rows key notSent).trans (scanned.row_of_stray unwalked))

omit scanned

/-- Where all deletions reach their own keys, they spare the files. -/
theorem Worked.spares
    (removable : ∀ stray, Stray primary ignore w stray → Removable primary ignore w stray)
    (walked : rel ∈ w.files primary ignore) (full : 0 < w.disk.sizeOf (primary.localPath ++ rel))
    : last.pathCache.lookup (relKey rel) = middle.pathCache.lookup (relKey rel)
      ∧ last.db.row (relKey rel) = middle.db.row (relKey rel) := by
  have apart : ∀ key ∈ (strays.map primary.localPath.join).filterMap
      (clearedKey primary ignore w.disk), ¬ Covers key (relKey rel) := by
    intro key member
    obtain ⟨stray, isStray, cleared⟩ := plan.mem_cleared.mp member
    have removed := removable stray isStray
    obtain rfl : stray = key := Option.some.inj (removed.cleared.symm.trans cleared)
    exact removed.alone rel walked full
  constructor
  · exact worked.cleared.spared _ (fun key member _ => apart key member)
  · exact worked.cleared.rows _ (fun member => apart _ member (covers_self _))

include scanned regular ordinary

/-- Where the files can be sent and the deletions reach their keys, nothing is left to do. -/
theorem Worked.quiescent (convergent : Convergent md5 primary ignore w)
    : Quiescent md5 primary ignore last := by
  have disk := worked.disk_eq scanned
  constructor
  case strays =>
    rintro key ⟨unwalked, left⟩
    rw [World.files, disk] at unwalked
    have clears (stray : Stray primary ignore w key)
        : last.pathCache.lookup key = none ∧ last.db.row key = none :=
      worked.cleared.gone key
        (plan.mem_cleared.mpr ⟨key, stray, (convergent.strays key stray).cleared⟩)
    rcases left with row | ⟨⟨content, id, item, itemAt, kind⟩, noDir, kept⟩
    · by_cases cleared : ∃ stray, Stray primary ignore w stray
          ∧ clearedKey primary ignore w.disk (primary.localPath.join stray) = some key
      · have gone := (worked.cleared.gone key (plan.mem_cleared.mpr cleared)).2
        rw [gone] at row
        cases row
      · have same := worked.row_of_stray scanned plan unwalked
          (fun stray isStray clears => cleared ⟨stray, isStray, clears⟩)
        rw [same] at row
        have gone := (clears ⟨unwalked, .inl row⟩).2
        rw [same] at gone
        rw [gone] at row
        cases row
    · -- The file was there before, so its key has been cleared.
      have before : w.remote.ItemAt primary.remoteFolderId id item key := by
        have later := worked.cleared.items id item key itemAt
        rcases worked.confined.items id item key later with sent | planned
        · obtain ⟨rel, sent, same⟩ := List.mem_map.mp sent
          exact absurd (same ▸ List.mem_map_of_mem ((plan.sends rel).mp sent).1) unwalked
        · rcases scanned.items id item key planned with before | folder
          · exact before
          · rw [kind] at folder
            cases folder
      rw [disk] at noDir
      have gone := (clears ⟨unwalked, .inr ⟨⟨content, id, item, before, kind⟩, noDir, kept⟩⟩).1
      exact worked.cleared.places.free gone id item itemAt
  case files =>
    intro rel walked full due
    rw [World.files, disk] at walked
    rw [disk] at full
    rw [worked.cleared.places.due_iff] at due
    obtain ⟨cached, row⟩ := worked.spares plan convergent.strays walked full
    rw [differs_congr (worked.cleared.disk) cached row] at due
    by_cases before : Due md5 primary w rel
    · have sent : rel ∈ sends := (plan.sends rel).mpr ⟨walked, full, before⟩
      obtain ⟨data, sending⟩ := scanned.sending regular ordinary walked full before
      have there : w.disk.node? (primary.localPath ++ rel) = some (.file data) :=
        scanned.disk ▸ sending.there
      obtain ⟨dated, file⟩ := convergent.files rel walked data there sending.full before
      have sendable : Sendable { planned with tasks := [] } (relKey rel) data := by
        refine ⟨dated, fun entry item cached known => ?_⟩
        refine file entry.driveId item ?_
        exact (scanned.target_iff (regular.sound ordinary) regular.unmixed
          (regular.apart rel walked)).mpr
          ⟨⟨entry.parentId, cached⟩, known⟩
      obtain ⟨here, columns, found, sameHash⟩ :=
        (worked.treated rel sent data there).settled sendable
      rcases due with absent | ⟨columns', found', -, newHash⟩
      · rw [absent] at here
        cases here
      · obtain rfl := Option.some.inj (found.symm.trans found')
        apply newHash
        rw [worked.confined.disk, show ({ planned with tasks := [] } : World).disk = w.disk from
          scanned.disk, Disk.read, there]
        simp [sending.readable, sameHash, Environment.calm]
    · have notSent : relKey rel ∉ sends.map relKey := by
        intro member
        obtain ⟨other, sent, same⟩ := List.mem_map.mp member
        obtain ⟨walked', -, due'⟩ := (plan.sends other).mp sent
        obtain rfl := List.inj_on_of_nodup_map regular.distinct walked' walked same
        exact before due'
      rw [differs_congr worked.confined.disk (worked.confined.lookups _ notSent)
        (worked.confined.rows _ notSent)] at due
      exact before ((scanned.differs_iff regular ordinary walked).mp due)

/-- Where nothing is left to do, some deletion has cleared each stray key. -/
theorem Worked.cleared_stray (quiescent : Quiescent md5 primary ignore last) {stray : String}
    (isStray : Stray primary ignore w stray)
    : ∃ other,
        Stray primary ignore w other
        ∧ clearedKey primary ignore w.disk (primary.localPath.join other) = some stray := by
  have disk := worked.disk_eq scanned
  obtain ⟨unwalked, row | ⟨⟨content, there⟩, noDir, kept⟩⟩ := id isStray
  · by_contra uncleared
    have same := worked.row_of_stray scanned plan unwalked
      (fun other strays cleared => uncleared ⟨other, strays, cleared⟩)
    apply quiescent.strays stray
    rw [Stray, World.files, disk, same]
    exact ⟨unwalked, .inl row⟩
  · exact ⟨stray, isStray, clearedKey_file (regular.sound ordinary) there noDir kept⟩

/-- It was its own: the deletion that has cleared it clears no other key, and was cleared too. -/
theorem Worked.clears (quiescent : Quiescent md5 primary ignore last) {stray : String}
    (isStray : Stray primary ignore w stray)
    : clearedKey primary ignore w.disk (primary.localPath.join stray) = some stray := by
  obtain ⟨other, isOther, clears⟩ :=
    worked.cleared_stray scanned regular ordinary plan quiescent isStray
  obtain ⟨_, -, cleared⟩ := worked.cleared_stray scanned regular ordinary plan quiescent isOther
  obtain rfl := clearedKey_own cleared clears
  exact clears

/-- Then the state of a file that is not empty is what the worker has left. -/
theorem Worked.removable (quiescent : Quiescent md5 primary ignore last) {stray : String}
    (isStray : Stray primary ignore w stray)
    : Removable primary ignore w stray := by
  have disk := worked.disk_eq scanned
  have cleared := worked.clears scanned regular ordinary plan quiescent isStray
  refine ⟨cleared, fun rel walked full covers => ?_⟩
  have named : rel ≠ [] := by
    rintro rfl
    exact regular.below walked
  obtain ⟨data, file⟩ := walkedRels_found walked named
  -- The key is that of a directory above the file, so it was cached, and the file with it.
  have known : (planned.pathCache.lookup stray).isSome := by
    rcases covers_iff_isBelow.mp covers with same | below
    · exact absurd (same ▸ List.mem_map_of_mem walked) isStray.1
    · rw [← relKey_lossy] at below
      obtain ⟨front, back, split, nonempty, more, rfl⟩ :=
        PathCache.isBelow_front (file.names.plain named) below
      obtain ⟨first, second, rfl, rfl, rfl⟩ := List.map_eq_append_iff.mp split
      have walkedDir := file.above first second rfl (by simpa using nonempty) (by simpa using more)
      have known := scanned.dirs first walkedDir
      rwa [← relKey_lossy] at known
  have gone : last.pathCache.lookup (relKey rel) = none :=
    worked.cleared.below stray (plan.mem_cleared.mpr ⟨stray, isStray, cleared⟩)
      (worked.confined.known stray known) (relKey rel) covers
  apply quiescent.files rel
  · rw [World.files, disk]
    exact walked
  · rw [disk]
    exact full
  · exact worked.cleared.places.due_iff.mpr (.inl gone)

/-- Where nothing is left to do, the deletions reached their keys and the files could be sent. -/
theorem Worked.convergent (quiescent : Quiescent md5 primary ignore last)
    : Convergent md5 primary ignore w := by
  have disk := worked.disk_eq scanned
  have removable : ∀ stray, Stray primary ignore w stray → Removable primary ignore w stray :=
    fun _ => worked.removable scanned regular ordinary plan quiescent
  refine ⟨removable, fun rel walked data there full due => ?_⟩
  have positive : 0 < w.disk.sizeOf (primary.localPath ++ rel) := by
    have length := List.length_pos_iff.mpr full
    simpa [Disk.sizeOf, Disk.metadata, there, Node.metadata] using length
  have sent : rel ∈ sends := (plan.sends rel).mpr ⟨walked, positive, due⟩
  have sendable : Sendable { planned with tasks := [] } (relKey rel) data := by
    by_contra stuck
    obtain ⟨cached, row⟩ := (worked.treated rel sent data there).stuck stuck
    obtain ⟨cached', row'⟩ := worked.spares plan removable walked positive
    apply quiescent.files rel
    · rw [World.files, disk]
      exact walked
    · rw [disk]
      exact positive
    · rw [worked.cleared.places.due_iff, differs_congr (disk.trans scanned.disk.symm)
        (cached'.trans cached) (row'.trans row)]
      exact (scanned.differs_iff regular ordinary walked).mpr due
  refine ⟨sendable.dated, fun id item target => ?_⟩
  obtain ⟨⟨parent, cached⟩, known⟩ :=
    (scanned.target_iff (regular.sound ordinary) regular.unmixed (regular.apart rel walked)).mp
      target
  exact sendable.file ⟨id, parent⟩ item cached known

end Worked

end Second

-----------------------------------------------------------------------------------------
-- Whole passes
-----------------------------------------------------------------------------------------

/-- After a scan and the handling of its tasks, no second scan sends a task. -/
def SettlesAtOnce (env : Environment) (ctx : EngineContext) (ignore : IgnoreMatcher) (w : World)
    : Prop :=
  ∀ results middle scanned last,
    WholePass env ctx ignore w results middle
    → Reaches env.sem (scan ctx ignore) middle (.done scanned) last
    → last.tasks = []

section Settling

variable {md5 : List UInt8 → String} {cfg : AppConfig} {primary : SyncPair}
  {ignore : IgnoreMatcher} {w planned last : World}

/-- A scan from a regular state. -/
theorem Regular.always_scan (regular : Regular primary ignore w)
    (ordinary : OrdinaryNames primary w)
    (configured : cfg.getPrimaryPair = some primary)
    : Always (Environment.calm md5 primary.remoteFolderId).sem (fun _ => True)
        (scan ⟨cfg, false⟩ ignore) w
        (fun result last =>
          result = .ok ()
          ∧ ∃ index order upserts,
              Rescanned md5 primary ignore w index order upserts last) :=
  always_scan_rescanned configured regular.running (regular.sound ordinary) regular.unmixed
    regular.distinct

/-- A whole pass leaves a regular state, with nothing to do if the state before was convergent. -/
theorem Regular.always_handle (regular : Regular primary ignore w)
    (ordinary : OrdinaryNames primary w) (configured : cfg.getPrimaryPair = some primary)
    (scans
      : Reaches (Environment.calm md5 primary.remoteFolderId).sem (scan ⟨cfg, false⟩ ignore) w
          (.done (.ok ())) planned)
    : planned.remote.Rooted primary.remoteFolderId
      ∧ Always (Environment.calm md5 primary.remoteFolderId).sem (fun _ => True)
          (handleInOrder ⟨cfg, false⟩ ignore planned.tasks) { planned with tasks := [] }
          (fun result last =>
            (∃ results, result = .ok results) ∧ Regular primary ignore last
            ∧ OrdinaryNames primary last
            ∧ (Quiescent md5 primary ignore last ↔ Convergent md5 primary ignore w)) := by
  obtain ⟨-, -, index, order, upserts, scanned⟩ :=
    ((regular.always_scan ordinary configured).reaches scans)
  refine ⟨scanned.places.rooted, ?_⟩
  obtain ⟨sends, strays, plan⟩ := scanned.plan regular ordinary
  refine ((scanned.always_works configured regular ordinary plan).and
    always_handleInOrder_ok).weaken
    (fun _ _ => trivial) |>.mono ?_
  rintro results last - ⟨-, ⟨middle, worked⟩, fine⟩
  refine ⟨fine, ?_, worked.cleared.places.ordinary,
    worked.convergent scanned regular ordinary plan, worked.quiescent scanned regular ordinary plan⟩
  apply regular.after (worked.disk_eq scanned)
  · exact worked.cleared.running.trans (worked.confined.running.trans scanned.running)
  · exact worked.cleared.tasks.trans worked.confined.tasks
  · exact worked.cleared.places

/-- If no second scan has anything to do, the deletions reach their keys and the files can be sent.
-/
theorem Regular.convergent (regular : Regular primary ignore w)
    (ordinary : OrdinaryNames primary w) (configured : cfg.getPrimaryPair = some primary)
    (settles : SettlesAtOnce (.calm md5 primary.remoteFolderId) ⟨cfg, false⟩ ignore w)
    : Convergent md5 primary ignore w := by
  obtain ⟨_, planned, scans, rfl, -⟩ := Environment.calm_exists_run regular.rooted
    (@Regular.always_scan md5 cfg _ _ _ regular ordinary configured)
  obtain ⟨rooted, handles⟩ := regular.always_handle ordinary configured scans
  replace rooted : ({ planned with tasks := [] } : World).remote.Rooted primary.remoteFolderId :=
    rooted
  obtain ⟨_, middle, handled, ⟨results, rfl⟩, regular', ordinary', quiescent⟩ :=
    Environment.calm_exists_run rooted handles
  obtain ⟨scanned, last, again, -, index, order, upserts, rescanned⟩ :=
    Environment.calm_exists_run regular'.rooted
      (@Regular.always_scan md5 cfg _ _ _ regular' ordinary' configured)
  have idle := settles results middle scanned last ⟨planned, scans, handled⟩ again
  exact quiescent.mp ((rescanned.idle_iff regular' ordinary').mp idle)

end Settling

-----------------------------------------------------------------------------------------
-- A row that is left
-----------------------------------------------------------------------------------------

end SyncGDrive
