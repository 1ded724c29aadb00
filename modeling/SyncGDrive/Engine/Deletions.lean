import SyncGDrive.Engine.Completion

/-! Which deletions a scan orders, and when each of them is of a path whose absence the
walk has established.
-/

namespace SyncGDrive

open Program

variable {env : Environment} {w : World} {ctx : EngineContext} {primary : SyncPair}
  {ignore : IgnoreMatcher} {listing : Except Error RemoteIndex}

-----------------------------------------------------------------------------------------
-- Orphans
-----------------------------------------------------------------------------------------

/-- The files of a listing; a listing that failed counts as empty. -/
def listedFiles : Except Error RemoteIndex → List RemoteFile
  | .ok index => index.files
  | .error _ => []

/-- The walk gives no regular file this key, and a row or a listed remote file has it. Of the
remote files without a row, those whose path is a directory or ignored do not count.
-/
structure Orphan (w : World) (listing : Except Error RemoteIndex) (primary : SyncPair)
    (ignore : IgnoreMatcher) (key : String) : Prop where
  unseen : key ∉ localKeys primary (walkedFiles w.disk primary.localPath ignore)
  known
    : (w.db.row key).isSome
      ∨ (∃ file ∈ listedFiles listing, file.relativePath = key)
        ∧ w.disk.isDir (primary.localPath.join key) = false
        ∧ ignore.isIgnored (primary.localPath.join key) false = false

/-- The path that an orphan's deletion names. -/
def OrphanPath (w : World) (listing : Except Error RemoteIndex) (primary : SyncPair)
    (ignore : IgnoreMatcher) (path : Path) : Prop :=
  ∃ key, Orphan w listing primary ignore key ∧ path = primary.localPath.join key

/-- The disk is as it was, and only paths with the property are ordered deleted. -/
structure DeletesOnly (disk : Disk) (property : Path → Prop) (state : World) : Prop where
  disk : state.disk = disk
  ordered : ∀ path, .delete path ∈ state.tasks → property path

/-- Nothing that a scan starts from has changed, and no task is sent. -/
structure Untouched (w state : World) : Prop where
  disk : state.disk = w.disk
  db : state.db = w.db
  tasks : state.tasks = w.tasks

theorem Untouched.step {state after : World} {part : Option Part} (same : Untouched w state)
    (keeps : state.Keeps part after) (noRow : part ≠ some .db) (noTask : part ≠ some .tasks)
    : Untouched w after :=
  ⟨keeps.disk.trans same.disk, (keeps.db noRow).trans same.db,
    (keeps.tasks noTask).trans same.tasks⟩

theorem Untouched.deletesOnly {state : World} {property : Path → Prop}
    (same : Untouched w state) (start : w.tasks = [])
    : DeletesOnly w.disk property state := by
  refine ⟨same.disk, ?_⟩
  intro path ordered
  rw [same.tasks, start] at ordered
  exact absurd ordered List.not_mem_nil

/-- A program that orders no deletion but those allowed keeps the property. -/
theorem always_deletesOnly {disk : Disk} {property : Path → Prop} {α : Type}
    {program : Eff α}
    (uses
      : Uses (fun op : Op => ∀ path, op = .send (.delete path) → property path) program)
    (here : DeletesOnly disk property w)
    : Always env.sem (DeletesOnly disk property) program w (fun _ _ => True) := by
  refine uses.always ?_ here
  intro op state answer next harmless only served
  have keeps := env.sem_keeps served
  refine ⟨keeps.disk.trans only.disk, ?_⟩
  intro path ordered
  by_cases sends : op.writes = some .tasks
  · cases op <;> simp [Op.writes] at sends
    rcases served with ⟨-, rfl⟩ | ⟨-, -, rfl⟩
    · rcases List.mem_append.mp ordered with earlier | last
      · exact only.ordered path earlier
      · exact harmless path (by rw [List.mem_singleton.mp last])
    · exact only.ordered path ordered
  · rw [keeps.tasks sends] at ordered
    exact only.ordered path ordered

/-- Operations that write neither rows nor tasks leave the start of a scan as it is. -/
theorem always_untouched {α : Type} {program : Eff α} {state : World}
    (uses : Uses Op.Prepares program) (here : Untouched w state)
    : Always env.sem (Untouched w) program state (fun _ _ => True) := by
  refine uses.always ?_ here
  intro op state answer next spares same served
  exact same.step (env.sem_keeps served) spares.1 spares.2

-----------------------------------------------------------------------------------------
-- Only orphans are deleted
-----------------------------------------------------------------------------------------

/-- The listing phase returns the files of the listing. -/
theorem listRemote_finds
    (answers
      : ∀ folder disk remote answer after,
          env.provider (.listRemote folder) disk remote answer after → answer = listing)
    : Always env.sem (fun _ => True) (listRemote primary) w
        (fun result _ => ∀ index, result = .ok index → index.files = listedFiles listing) := by
  refine always_ask_bind.mpr ⟨trivial, ?_⟩
  intro _ reported _
  refine always_ask_bind.mpr ⟨trivial, ?_⟩
  rintro answer listed ⟨remote, answered, -⟩
  rw [answers _ _ _ _ _ answered]
  cases listing with
  | ok index => exact ⟨trivial, by rintro _ ⟨⟩; rfl⟩
  | error error => exact ⟨trivial, by rintro _ ⟨⟩; rfl⟩

/-- A deletion that is ordered is the only one in its program. -/
theorem uses_sendDelete {path : Path} {property : Path → Prop} (fine : property path)
    : Uses (fun op : Op => ∀ path, op = .send (.delete path) → property path)
        (sendDelete ctx path) := by
  refine .ite (fun _ => uses_pure) (fun _ => ?_)
  refine Uses.bind (uses_ask (by simp)) (fun _ => ?_)
  refine Uses.bind (uses_ask ?_) (fun _ => .ite (fun _ => uses_pure) (fun _ => uses_throw))
  rintro path ⟨⟩
  exact fine

/-- Phase 5 orders no other deletion than the one allowed. -/
theorem uses_orphanRow {localRelSet : List String} {dbPath : String} {property : Path → Prop}
    (fine : dbPath ∉ localRelSet → property (primary.localPath.join dbPath))
    : Uses (fun op : Op => ∀ path, op = .send (.delete path) → property path)
        (orphanRow ctx primary localRelSet dbPath) :=
  uses_unlessShutdown (by simp)
    (.ite (fun _ => uses_pure) (fun unseen => uses_sendDelete (fine unseen)))

/-- Phase 6 orders no other deletion than the one allowed. -/
theorem orphanRemote_deletesOnly {localRelSet dbIndex : List String} {file : RemoteFile}
    {property : Path → Prop} {disk : Disk} {state : World}
    (allowed
      : file.relativePath ∉ localRelSet
        → disk.isDir (primary.localPath.join file.relativePath) = false
        → ignore.isIgnored (primary.localPath.join file.relativePath) false = false
        → property (primary.localPath.join file.relativePath))
    (here : DeletesOnly disk property state)
    : Always env.sem (DeletesOnly disk property)
        (orphanRemote ctx primary ignore localRelSet dbIndex file) state
        (fun _ _ => True) := by
  refine always_ask_bind.mpr ⟨here, ?_⟩
  intro cancelled checked served
  have keeps := env.sem_keeps served
  have here : DeletesOnly disk property checked := by
    refine ⟨keeps.disk.trans here.disk, ?_⟩
    rw [keeps.tasks (by simp [Op.writes])]
    exact here.ordered
  cases cancelled with
  | true => exact ⟨here, trivial⟩
  | false =>
      simp only [Bool.false_eq_true, if_false]
      split
      · exact ⟨here, trivial⟩
      · rename_i unseen
        refine always_isDir_bind here ?_
        split
        · exact ⟨here, trivial⟩
        · rename_i notDir
          rw [Bool.not_eq_true] at notDir
          split
          · exact ⟨here, trivial⟩
          · refine always_isDir_bind here ?_
            rw [notDir]
            split
            · exact ⟨here, trivial⟩
            · rename_i kept
              rw [here.disk] at notDir
              exact always_deletesOnly
                (uses_sendDelete (allowed unseen notDir (by simpa using kept))) here

/-- Phases 3 to 6 order no other deletions than those of orphans. -/
theorem reconcile_deletes_orphans {index : RemoteIndex} {localFiles : List Path}
    {state : World} (files : localFiles = walkedFiles w.disk primary.localPath ignore)
    (listed : index.files = listedFiles listing) (start : w.tasks = [])
    (here : Untouched w state)
    : Always env.sem (DeletesOnly w.disk (OrphanPath w listing primary ignore))
        (reconcile ctx primary ignore index localFiles) state (fun _ _ => True) := by
  subst files
  refine always_ask_bind.mpr ⟨here.deletesOnly start, ?_⟩
  rintro _ reported served
  have here := here.step (env.sem_keeps served) (by simp [Op.writes]) (by simp [Op.writes])
  refine always_ask_bind.mpr ⟨here.deletesOnly start, ?_⟩
  rintro answer read served
  have rows : ∀ paths, answer = .ok paths → paths.Perm w.db.allPaths := by
    rintro paths rfl
    obtain ⟨listed, order, ⟨same, -⟩ | ⟨-, ⟨error, failed⟩, -⟩⟩ := served
    · cases same
      exact here.db ▸ order
    · cases failed
  have here := here.step (env.sem_keeps served) (by simp [Op.writes]) (by simp [Op.writes])
  cases answer with
  | error error => exact ⟨here.deletesOnly start, trivial⟩
  | ok dbIndex =>
      change Always env.sem _ (compareFiles primary dbIndex _ >>= _) read _
      refine (always_deletesOnly ?_ (here.deletesOnly start)).bind ?_ (fun _ _ _ _ => trivial)
      · refine uses_compareFiles.mono ?_
        rintro _ (looks | ⟨entry, rfl⟩) path ⟨⟩
        cases looks
      intro toSync compared here _
      refine (always_deletesOnly ?_ here).bind ?_ (fun _ _ _ _ => trivial)
      · refine uses_sendFiles.mono ?_
        rintro _ (looks | ⟨synced, rfl⟩) path ⟨⟩
        cases looks
      intro _ sent here _
      refine (always_deletesOnly (uses_forM _ ?_) here).bind ?_ (fun _ _ _ _ => trivial)
      · intro dbPath member
        refine uses_orphanRow (fun unseen => ⟨dbPath, ⟨unseen, .inl ?_⟩, rfl⟩)
        exact Database.mem_allPaths.mp ((rows dbIndex rfl).mem_iff.mp member)
      intro _ cleaned here _
      refine (always_each _ ?_ here).bind ?_ (fun _ _ _ _ => trivial)
      · intro file member middle here
        refine orphanRemote_deletesOnly (fun unseen notDir kept => ?_) here
        exact ⟨_, ⟨unseen, .inr ⟨⟨file, listed ▸ member, rfl⟩, notDir, kept⟩⟩, rfl⟩
      intro _ finished here _
      exact always_deletesOnly (uses_reportWhen (by simp)) here

/-- A scan orders no other deletions than those of orphans. -/
theorem scan_deletes_orphans
    (answers
      : ∀ folder disk remote answer after,
          env.provider (.listRemote folder) disk remote answer after → answer = listing)
    (configured : ctx.cfg.getPrimaryPair = some primary) (start : w.tasks = [])
    : Always env.sem (DeletesOnly w.disk (OrphanPath w listing primary ignore))
        (scan ctx ignore) w (fun _ _ => True) := by
  have here : Untouched w w := ⟨rfl, rfl, rfl⟩
  have only (state : World) (same : Untouched w state)
      : DeletesOnly w.disk (OrphanPath w listing primary ignore) state :=
    same.deletesOnly start
  simp only [scan, configured, orError]
  change Always env.sem _ (listRemote primary >>= _) w _
  refine ((always_untouched ?_ here).and (listRemote_finds answers)).seq
    (fun state same => only state same.1) ?_ (fun _ _ _ _ => trivial)
  · exact prepares_listRemote
  rintro index listed ⟨here, -⟩ ⟨-, files⟩
  refine (always_untouched ?_ here).seq only ?_ (fun _ _ _ _ => trivial)
  · exact prepares_fillCache
  intro _ filled here _
  have sameDisk := here.disk
  refine ((always_untouched ?_ here).and takeInventory_finds).seq
    (fun state same => only state same.1) ?_ (fun _ _ _ _ => trivial)
  · exact prepares_takeInventory
  rintro inventory walked ⟨here, -⟩ ⟨-, found⟩
  refine (always_untouched ?_ here).seq only ?_ (fun _ _ _ _ => trivial)
  · exact prepares_createFolders
  intro _ created here _
  rw [sameDisk] at found
  exact reconcile_deletes_orphans (found _ rfl).1 (files _ rfl) start here

-----------------------------------------------------------------------------------------
-- Every orphan is deleted
-----------------------------------------------------------------------------------------

/-- A shutdown is not requested and the disk is as it was. -/
structure Running (disk : Disk) (state : World) : Prop where
  running : state.shutdown = false
  disk : state.disk = disk

/-- A program that never fails, run in an undisturbed environment. -/
theorem NeverFails.always {α : Type} {program : Eff α} (never : NeverFails env program)
    {disk : Disk} (here : Running disk w)
    : Always env.sem (Running disk) program w (fun result _ => ∃ value, result = .ok value) := by
  refine ((never w here.running).and (always_disk here.disk program)).weaken
    (fun state both => ⟨both.1, both.2⟩) |>.mono ?_
  rintro result last - ⟨-, ok, -⟩
  exact ok

/-- A loop whose turns each send a task sends all of them, by induction on the items. -/
theorem always_sends_each {γ : Type} {inv : World → Prop} {body : γ → Eff Unit}
    {need : γ → Prop} {task : γ → Task} (items : List γ)
    (step
      : ∀ item ∈ items, ∀ middle,
          inv middle
          → Always env.sem inv (body item) middle
              (fun result last =>
                result = .ok () ∧ (need item → task item ∈ last.tasks)))
    (here : inv w)
    : Always env.sem inv (items.forM body) w
        (fun result last =>
          result = .ok () ∧ ∀ item ∈ items, need item → task item ∈ last.tasks) := by
  induction items generalizing w with
  | nil => exact ⟨here, rfl, by simp⟩
  | cons item rest ih =>
      refine (step item (by simp) w here).bind ?_ (by rintro _ _ _ ⟨⟨⟩, -⟩)
      rintro _ middle here ⟨-, sent⟩
      refine ((ih (fun item member => step item (by simp [member])) here).and
        (always_tasks_subset _)).weaken (fun _ both => both.1) |>.mono ?_
      rintro result last - ⟨-, ⟨ok, later⟩, kept⟩
      refine ⟨ok, ?_⟩
      intro other member needed
      rcases List.mem_cons.mp member with rfl | member
      · exact kept (sent needed)
      · exact later other member needed

section Orders

variable (quiet : env.Undisturbed) (real : ctx.dryRun = false)

include quiet real

/-- Outside a simulation the deletion is sent. -/
theorem sendDelete_orders {disk : Disk} {path : Path} (here : Running disk w)
    : Always env.sem (Running disk) (sendDelete ctx path) w
        (fun result last => result = .ok () ∧ .delete path ∈ last.tasks) := by
  simp only [sendDelete, unlessDryRun, real, Bool.false_eq_true, if_false]
  refine always_ask_bind.mpr ⟨here, ?_⟩
  rintro _ reported rfl
  have here : Running disk (w.report (.addTotals 1 0)) := ⟨here.running, here.disk⟩
  exact always_enqueue quiet here
    ⟨⟨here.running, here.disk⟩, rfl, List.mem_append_right _ (by simp)⟩

/-- Phase 5 orders the deletion of a row that the walk did not see. -/
theorem orphanRow_orders {disk : Disk} {localRelSet : List String} {dbPath : String}
    (here : Running disk w)
    : Always env.sem (Running disk) (orphanRow ctx primary localRelSet dbPath) w
        (fun result last =>
          result = .ok ()
          ∧ (dbPath ∉ localRelSet → .delete (primary.localPath.join dbPath) ∈ last.tasks)) := by
  refine always_unlessShutdown quiet here.running ?_
  split
  · rename_i seen
    exact ⟨here, rfl, fun unseen => absurd seen unseen⟩
  · exact (sendDelete_orders quiet real here).mono (fun _ _ _ sent => ⟨sent.1, fun _ => sent.2⟩)

/-- Phase 6 orders the deletion of a remote file that the walk did not see and no row has,
unless its path is a directory or ignored.
-/
theorem orphanRemote_orders {disk : Disk} {localRelSet dbIndex : List String}
    {file : RemoteFile} (here : Running disk w)
    : Always env.sem (Running disk)
        (orphanRemote ctx primary ignore localRelSet dbIndex file) w
        (fun result last =>
          result = .ok ()
          ∧ (file.relativePath ∉ localRelSet ∧ file.relativePath ∉ dbIndex
              ∧ disk.isDir (primary.localPath.join file.relativePath) = false
              ∧ ignore.isIgnored (primary.localPath.join file.relativePath) false = false
            → .delete (primary.localPath.join file.relativePath) ∈ last.tasks)) := by
  refine always_unlessShutdown quiet here.running ?_
  split
  · rename_i seen
    exact ⟨here, rfl, fun orphan => absurd seen orphan.1⟩
  · refine always_isDir_bind here ?_
    rw [here.disk]
    split
    · rename_i directory
      exact ⟨here, rfl, fun orphan => by simp [orphan.2.2.1] at directory⟩
    · split
      · rename_i row
        exact ⟨here, rfl, fun orphan => absurd row orphan.2.1⟩
      · refine always_isDir_bind here ?_
        rw [here.disk]
        split
        · rename_i ignored
          exact ⟨here, rfl, fun orphan => by simp [orphan.2.2.1, orphan.2.2.2] at ignored⟩
        · exact (sendDelete_orders quiet real here).mono
            (fun _ _ _ sent => ⟨sent.1, fun _ => sent.2⟩)

/-- Phases 3 to 6 order the deletion of every orphan. -/
theorem reconcile_orders {index : RemoteIndex} {localFiles : List Path} {state : World}
    (files : localFiles = walkedFiles w.disk primary.localPath ignore)
    (listed : index.files = listedFiles listing) (here : Running w.disk state)
    (rows : state.db = w.db)
    : Always env.sem (Running w.disk) (reconcile ctx primary ignore index localFiles) state
        (fun result last =>
          result = .ok ()
          ∧ ∀ key,
              Orphan w listing primary ignore key
              → .delete (primary.localPath.join key) ∈ last.tasks) := by
  subst files
  refine always_ask_bind.mpr ⟨here, ?_⟩
  intro _ reported served
  have keeps := env.sem_keeps served
  have here : Running w.disk reported :=
    ⟨(env.sem_shutdown quiet served).trans here.running, keeps.disk.trans here.disk⟩
  have rows := (keeps.db (by simp [Op.writes])).trans rows
  refine always_ask_bind.mpr ⟨here, ?_⟩
  intro answer read served
  obtain ⟨⟨dbIndex, order, rfl⟩, rfl⟩ := quiet.sem_allPaths.mp served
  rw [rows] at order
  change Always env.sem _ (compareFiles primary dbIndex _ >>= _) _ _
  refine ((neverFails_compareFiles quiet).always here).bind ?_ (by rintro _ _ _ ⟨_, ⟨⟩⟩)
  intro toSync compared here _
  refine ((neverFails_sendFiles quiet).always here).bind ?_ (by rintro _ _ _ ⟨_, ⟨⟩⟩)
  intro _ sent here _
  refine (always_sends_each dbIndex
    (fun dbPath _ middle here => orphanRow_orders quiet real here) here).bind ?_
    (by rintro _ _ _ ⟨⟨⟩, -⟩)
  rintro _ cleaned here ⟨-, rowsOrdered⟩
  refine ((always_sends_each index.files
    (fun file _ middle here => orphanRemote_orders quiet real here) here).and
      (always_tasks_subset _)).seq (fun _ both => both.1) ?_ (by rintro _ _ _ ⟨⟨⟨⟩, -⟩, -⟩)
  rintro _ finished ⟨here, -⟩ ⟨⟨-, filesOrdered⟩, kept⟩
  refine (((neverFails_reportWhen quiet).always here).and (always_tasks_subset _)).weaken
    (fun _ both => both.1) |>.mono ?_
  rintro result last - ⟨-, ⟨value, rfl⟩, kept'⟩
  refine ⟨rfl, ?_⟩
  intro key orphan
  by_cases row : key ∈ dbIndex
  · exact kept' (kept (rowsOrdered key row orphan.unseen))
  · rcases orphan.known with recorded | ⟨⟨file, member, rfl⟩, notDir, notIgnored⟩
    · exact absurd (order.mem_iff.mpr (Database.mem_allPaths.mpr recorded)) row
    · exact kept' (filesOrdered file (listed ▸ member) ⟨orphan.unseen, row, notDir, notIgnored⟩)

/-- A real scan ends well and orders the deletion of every orphan. -/
theorem scan_orders
    (answers
      : ∀ folder disk remote answer after,
          env.provider (.listRemote folder) disk remote answer after → answer = listing)
    (makes
      : ∀ parent name disk remote answer after,
          env.provider (.mkdir parent name) disk remote answer after
          → ∃ id, answer = .ok id)
    (configured : ctx.cfg.getPrimaryPair = some primary) (running : w.shutdown = false)
    : Always env.sem (Running w.disk) (scan ctx ignore) w
        (fun result last =>
          result = .ok ()
          ∧ ∀ key,
              Orphan w listing primary ignore key
              → .delete (primary.localPath.join key) ∈ last.tasks) := by
  have here : Running w.disk w := ⟨running, rfl⟩
  have same : Untouched w w := ⟨rfl, rfl, rfl⟩
  simp only [scan, configured, orError]
  change Always env.sem _ (listRemote primary >>= _) w _
  refine (((neverFails_listRemote quiet).always here).and
    ((always_untouched ?_ same).and (listRemote_finds answers))).seq (fun _ both => both.1) ?_
    (by rintro _ _ _ ⟨⟨_, ⟨⟩⟩, -⟩)
  · exact prepares_listRemote
  rintro index listed ⟨here, same, -⟩ ⟨-, -, files⟩
  refine (((neverFails_fillCache quiet).always here).and (always_untouched ?_ same)).seq
    (fun _ both => both.1) ?_ (by rintro _ _ _ ⟨⟨_, ⟨⟩⟩, -⟩)
  · exact prepares_fillCache
  rintro _ filled ⟨here, same⟩ -
  have sameDisk := here.disk
  refine (((neverFails_takeInventory quiet).always here).and
    ((always_untouched ?_ same).and takeInventory_finds)).seq (fun _ both => both.1) ?_
    (by rintro _ _ _ ⟨⟨_, ⟨⟩⟩, -⟩)
  · exact prepares_takeInventory
  rintro inventory walked ⟨here, same, -⟩ ⟨-, -, found⟩
  obtain ⟨foundFiles, foundDirs⟩ := found _ rfl
  rw [sameDisk] at foundFiles foundDirs
  refine (((neverFails_createFolders quiet makes ?_).always here).and
    (always_untouched ?_ same)).seq (fun _ both => both.1) ?_ (by rintro _ _ _ ⟨⟨_, ⟨⟩⟩, -⟩)
  · intro dir member
    rw [foundDirs] at member
    obtain ⟨-, name, rest, rfl⟩ := mem_walkedDirs.mp member
    exact ⟨_, rfl⟩
  · exact prepares_createFolders
  rintro _ created ⟨here, same⟩ -
  exact reconcile_orders quiet real foundFiles (files _ rfl) here same.db

end Orders

-----------------------------------------------------------------------------------------
-- When every deletion is of an established absence
-----------------------------------------------------------------------------------------

/-- A scan may be answered anything here, but its listing answers `listing`. -/
def Environment.unruly (md5 : List UInt8 → String) (listing : Except Error RemoteIndex)
    : Environment where
  md5
  provider
    | .listRemote _, _, _, answer, _ => answer = listing
    | _, _, _, _, _ => True
  faults _ := True

/-- Nothing fails here but the listing, and folders get their names as identifiers. -/
def Environment.obliging (md5 : List UInt8 → String) (listing : Except Error RemoteIndex)
    : Environment where
  md5
  provider
    | .listRemote _, _, _, answer, _ => answer = listing
    | .mkdir _ name, _, _, answer, _ => answer = .ok name
    | _, _, _, _, _ => True
  faults _ := False

/-- What always holds where nothing fails holds at the end of some execution. -/
theorem obliging_run {md5 : List UInt8 → String} {inv : World → Prop} {α : Type}
    {program : Eff α} {post : Except Error α → World → Prop}
    (always : Always (Environment.obliging md5 listing).sem inv program w post)
    : ∃ result last,
        Reaches (Environment.unruly md5 listing).sem program w (.done result) last
        ∧ inv last ∧ post result last := by
  have served (op : Op) (state : World)
      : ∃ answer next, (Environment.obliging md5 listing).sem op state answer next := by
    refine Environment.sem_total _ state ?_ op
    intro call
    cases call with
    | listRemote folder => exact ⟨listing, state.remote, rfl⟩
    | mkdir parent name => exact ⟨.ok name, state.remote, rfl⟩
    | upload | delete | rename => exact ⟨.error Remote.notFound, state.remote, trivial⟩
  obtain ⟨result, last, path⟩ := exists_run served program w
  refine ⟨result, last, path.mono ?_, always.reaches path⟩
  refine Environment.sem_mono rfl ?_ (fun _ disturbed => disturbed.elim)
  intro call disk remote answer after answered
  cases call <;> first | exact answered | trivial

/-- Nothing fails, and every orphan's deletion is sent. -/
theorem obliging_orders {md5 : List UInt8 → String} {cfg : AppConfig}
    (configured : cfg.getPrimaryPair = some primary) (running : w.shutdown = false)
    : Always (Environment.obliging md5 listing).sem (Running w.disk)
        (scan ⟨cfg, false⟩ ignore) w
        (fun result last =>
          result = .ok ()
          ∧ ∀ key,
              Orphan w listing primary ignore key
              → .delete (primary.localPath.join key) ∈ last.tasks) :=
  scan_orders (fun _ disturbed => disturbed) rfl (fun _ _ _ _ _ answered => answered)
    (fun _ name _ _ _ _ answered => ⟨name, answered⟩) configured running

/-- An orphan's deletion is sent in some execution of a real scan. -/
theorem Orphan.ordered {md5 : List UInt8 → String} {cfg : AppConfig} {key : String}
    (orphan : Orphan w listing primary ignore key)
    (configured : cfg.getPrimaryPair = some primary) (running : w.shutdown = false)
    : ∃ last,
        Reaches (Environment.unruly md5 listing).sem (scan ⟨cfg, false⟩ ignore) w
          (.done (.ok ())) last
        ∧ .delete (primary.localPath.join key) ∈ last.tasks := by
  obtain ⟨result, last, path, -, rfl, ordered⟩ := obliging_run (obliging_orders configured running)
  exact ⟨last, path, ordered key orphan⟩

/-- In every execution of a real scan each deletion ordered is of a path established as
absent, exactly when every orphan's path leads through a directory that the walk reads to
its end and that lacks the next name on the way.
-/
theorem scan_deletes_established_iff (md5 : List UInt8 → String)
    (listing : Except Error RemoteIndex) (cfg : AppConfig) (ignore : IgnoreMatcher)
    (disk : Disk) (db : Database) (pathCache : PathCache)
    : (∀ rest last path primary,
        Reaches (Environment.unruly md5 listing).sem (scan ⟨cfg, false⟩ ignore)
          { disk, db, pathCache } rest last
        → .delete path ∈ last.tasks
        → cfg.getPrimaryPair = some primary
        → disk.EstablishedAbsent primary.localPath ignore.keeps path)
      ↔ ∀ primary key,
          cfg.getPrimaryPair = some primary
          → Orphan { disk, db, pathCache } listing primary ignore key
          → disk.LeadsOut primary.localPath ignore.keeps (primary.localPath.join key) := by
  constructor
  · intro established primary key configured orphan
    obtain ⟨last, path, ordered⟩ := orphan.ordered configured rfl
    exact Disk.establishedAbsent_iff.mp (established _ _ _ _ path ordered configured)
  · intro leads rest last path primary reached ordered configured
    have deletes
        : Always (Environment.unruly md5 listing).sem _ (scan ⟨cfg, false⟩ ignore)
            { disk, db, pathCache } _ :=
      scan_deletes_orphans (fun _ _ _ _ _ answered => answered) configured rfl
    obtain ⟨key, orphan, rfl⟩ := (deletes.reaches reached).here.ordered path ordered
    exact Disk.establishedAbsent_iff.mpr (leads primary key configured orphan)

/-- A disk without any directory to save. -/
def emptyDisk : Disk := ⟨.dir .empty (fun _ => .special)⟩

/-- With one recorded file, a scan of a missing root orders that file deleted. -/
theorem missing_root_orders_deletion
    : ¬ ∀ rest last path primary,
        Reaches (Environment.unruly (fun _ => "") (.ok ⟨[], []⟩)).sem
          (scan ⟨backupConfig, false⟩ .nothing)
          { disk := emptyDisk, db := ({} : Database).upsert ⟨"notes.txt", "", 0⟩ } rest last
        → .delete path ∈ last.tasks
        → backupConfig.getPrimaryPair = some primary
        → emptyDisk.EstablishedAbsent primary.localPath IgnoreMatcher.nothing.keeps path := by
  intro established
  have orphan
      : Orphan { disk := emptyDisk, db := ({} : Database).upsert ⟨"notes.txt", "", 0⟩ }
          (.ok ⟨[], []⟩) backupPair .nothing "notes.txt" :=
    ⟨by decide, .inl (by decide)⟩
  have configured : backupConfig.getPrimaryPair = some backupPair := rfl
  obtain ⟨last, path, ordered⟩ := orphan.ordered configured rfl
  refine Disk.not_establishedAbsent ?_ _ (established _ _ _ _ path ordered configured)
  intro listing child entered
  have found := entered.node?_eq
  simp [backupPair, emptyDisk, Disk.node?, Disk.entry?, Node.locate, Node.follow,
    Listing.empty, OsString.isIdle] at found

end SyncGDrive
