import SyncGDrive.Engine.Calls
import SyncGDrive.Engine.Knowledge

/-! Which paths scans and tasks give to remote items or enter in the rows and the cache, and when
an excluded path is among them.
-/

namespace SyncGDrive

open Program

-----------------------------------------------------------------------------------------
-- Jobs and their publications
-----------------------------------------------------------------------------------------

/-- What the engine is asked to do from outside: a scan, or one task. -/
inductive Job
  | scan
  | task (task : Task)
  deriving DecidableEq

def Job.program (ctx : EngineContext) (ignore : IgnoreMatcher) : Job → Eff Unit
  | .scan => SyncGDrive.scan ctx ignore
  | .task order => handle ctx ignore order

/-- The path that a task is about; for a renaming it is the new one. -/
def Task.subject : Task → Path
  | .syncFile path => path
  | .delete path => path
  | .rename _ target => target

/-- The operation gives a remote item a path, or enters one in the cache or the rows. -/
inductive Op.Public : Op → Prop
  | upload (path : Path) (parentId : DriveId) (name : String) (existing : Option DriveId)
    : Public (.provider (.upload path parentId name existing))
  | mkdir (parentId : DriveId) (name : String) : Public (.provider (.mkdir parentId name))
  | rename (id : DriveId) (name : String) (parentId : DriveId)
    : Public (.provider (.rename id name parentId))
  | insert (key : String) (driveId parentId : DriveId) : Public (.insert key driveId parentId)
  | upsert (entry : FileEntry) : Public (.upsert entry)
  | renameRow (source target : String) : Public (.renameRow source target)

/-- It is this path that the operation gives or enters, under its name or its key. -/
inductive Op.Publishes (primary : SyncPair) (path : Path) : Op → Prop
  | upload {parentId : DriveId} {name : String} {existing : Option DriveId}
    (named : path.fileName? = some name)
    : Publishes primary path (.provider (.upload path parentId name existing))
  | rename {id parentId : DriveId} {name : String} (named : path.fileName? = some name)
    : Publishes primary path (.provider (.rename id name parentId))
  | insert {driveId parentId : DriveId}
    : Publishes primary path (.insert (keyOf primary path) driveId parentId)
  | upsert {hash : String} {mtime : Int}
    : Publishes primary path (.upsert ⟨keyOf primary path, hash, mtime⟩)
  | renameRow {source : String} : Publishes primary path (.renameRow source (keyOf primary path))

/-- The folder that a scan makes is that of a local directory which the patterns keep, in the
folder of the directory above.
-/
structure MakesFolder (primary : SyncPair) (ignore : IgnoreMatcher) (v : World)
    (parentId : DriveId) (name : String) (rel : Path) (last : OsString)
    : Prop where
  walked : primary.localPath ++ (rel ++ [last]) ∈ walkedDirs v.disk primary.localPath ignore
  parent : v.folderId? primary (relKey rel) = some parentId
  named : name = last.toStringLossy
  kept : ignore.isIgnored (primary.localPath ++ (rel ++ [last])) true = false

/-- Whatever the job gives a path, or a task enters, the patterns keep. -/
def Job.Spares (env : Environment) (ctx : EngineContext) (primary : SyncPair)
    (ignore : IgnoreMatcher) (w : World)
    : Job → Prop
  | .scan =>
      ∀ call next v,
        Reaches env.sem (SyncGDrive.scan ctx ignore) w (.call (.provider call) next) v
        → (Op.provider call).Public
        → ∃ parentId name rel last,
            call = .mkdir parentId name ∧ MakesFolder primary ignore v parentId name rel last
  | .task order =>
      ∀ op next v,
        Reaches env.sem (handle ctx ignore order) w (.call op next) v
        → op.Public
        → op.Publishes primary order.subject ∧ ¬ Excluded w.disk ignore order.subject

-----------------------------------------------------------------------------------------
-- Scans
-----------------------------------------------------------------------------------------

/-- A key with a proper name at its end is not empty. -/
theorem relKey_concat_ne_empty {rel : Path} {last : OsString} (names : ProperNames (rel ++ [last]))
    : relKey (rel ++ [last]) ≠ "" := by
  have plain : Plain (rel ++ [last]).lossy := ProperNames.plain names (by simp)
  rw [← relKey_lossy]
  exact relKey_ne_empty plain

section Scan

variable {env : Environment} {ctx : EngineContext} {primary : SyncPair} {ignore : IgnoreMatcher}
  {w : World} {disk : Disk} {α : Type}

/-- No public call, or one that makes the folder of a kept directory. -/
def PermittedScan (primary : SyncPair) (ignore : IgnoreMatcher) (op : Op) (v : World) : Prop :=
  ∀ call,
    op = .provider call → op.Public
    → ∃ parentId name rel last,
        call = .mkdir parentId name ∧ MakesFolder primary ignore v parentId name rel last

/-- An operation that a scan makes without giving anything a path. -/
def Op.Reserved (op : Op) : Prop := ∀ call, op = .provider call → ¬ op.Public

theorem Op.Looks.reserved {op : Op} (looks : op.Looks) : op.Reserved := by
  rintro call rfl
  cases looks

/-- Programs without a public call. -/
theorem guarded_of_reserved {program : Eff α} (here : w.disk = disk)
    (uses : Uses Op.Reserved program)
    : Guarded env.sem (PermittedScan primary ignore) program w
        (fun _ last => last.disk = disk) := by
  refine (((always_disk here program).weaken (fun _ same => same)).mono
    (fun _ _ _ ended => ended.1)).guarded uses ?_
  intro op v _ reserved call same isPublic
  exact absurd isPublic (reserved call same)

/-- What the folder of a key is depends on the cache alone. -/
theorem World.folderId?_congr {v : World} (same : v.pathCache = w.pathCache) (key : String)
    : v.folderId? primary key = w.folderId? primary key := by
  rw [World.folderId?, World.folderId?, same]

/-- A program that writes neither the cache nor anything on the disk. -/
theorem always_sameFolders {program : Eff α}
    (uses : Uses (fun op : Op => op.writes ≠ some .pathCache) program)
    : Always env.sem (fun state => state.disk = w.disk ∧ state.pathCache = w.pathCache) program w
        (fun _ _ => True) := by
  refine uses.always ?_ ⟨rfl, rfl⟩
  rintro op state answer next spares ⟨disk, pathCache⟩ served
  have keeps := env.sem_keeps served
  exact ⟨keeps.disk.trans disk, (keeps.pathCache spares).trans pathCache⟩

/-- The folder of a walked directory is made where that of the directory above is known. -/
theorem create_permitted {front : Path} {name : OsString} {id : DriveId} {key : String}
    (walked : primary.localPath ++ (front ++ [name]) ∈ walkedDirs w.disk primary.localPath ignore)
    (kept : ignore.isIgnored (primary.localPath ++ (front ++ [name])) true = false)
    (folder : w.folderId? primary (relKey front) = some id)
    : Guarded env.sem (PermittedScan primary ignore)
        (enterFolder.create ctx (relKey front, id) key name.toStringLossy) w
        (fun _ last => last.disk = w.disk ∧ last.pathCache = w.pathCache) := by
  have uses (made : Op → Prop) (check : made .isCancelled)
      (sleep : ∀ milliseconds, made (.sleep milliseconds))
      (mkdir : made (.provider (.mkdir id name.toStringLossy)))
      : Uses made (enterFolder.create ctx (relKey front, id) key name.toStringLossy) :=
    .ite (fun _ => uses_pure) (fun _ => uses_retry check sleep (uses_ask mkdir))
  have same := @always_sameFolders env w _ _
    (uses (fun op => op.writes ≠ some .pathCache) (by simp [Op.writes]) (by simp [Op.writes])
      (by simp [Op.writes]))
  refine ((same.weaken (fun _ same => same)).mono (fun _ _ _ ended => ended.1)).guarded
    (uses (fun op => ∀ call, op = .provider call → call = .mkdir id name.toStringLossy) (by simp)
      (by simp) (by simp)) ?_
  rintro op v ⟨disk, pathCache⟩ only call rfl -
  refine ⟨id, name.toStringLossy, front, name, only call rfl, ?_⟩
  exact ⟨disk ▸ walked, (World.folderId?_congr pathCache _).trans folder, rfl, kept⟩

/-- One name further down below walked directories. -/
theorem enterFolder_permitted {front : Path} {name : OsString} {id : DriveId}
    (names : ProperNames (front ++ [name]))
    (walked : primary.localPath ++ (front ++ [name]) ∈ walkedDirs disk primary.localPath ignore)
    (kept : ignore.isIgnored (primary.localPath ++ (front ++ [name])) true = false)
    (here : w.disk = disk) (folder : w.folderId? primary (relKey front) = some id)
    : Guarded env.sem (PermittedScan primary ignore) (enterFolder ctx (relKey front, id) name) w
        (fun result last =>
          last.disk = disk
          ∧ ∀ pair,
              result = .ok pair
              → pair.1 = relKey (front ++ [name])
                ∧ last.folderId? primary pair.1 = some pair.2) := by
  have key : pushKey (relKey front) name.toStringLossy = relKey (front ++ [name]) :=
    (relKey_pushProper (ProperNames.append.mp names).1 name).symm
  have below : pushKey (relKey front) name.toStringLossy ≠ "" := key ▸ relKey_concat_ne_empty names
  unfold enterFolder
  refine guarded_ask_bind.mpr ⟨by rintro _ ⟨⟩, ?_⟩
  rintro cached looked ⟨found, rfl⟩
  cases cached with
  | some entry =>
      refine ⟨here, ?_⟩
      rintro _ ⟨⟩
      exact ⟨key, by simp [World.folderId?, below, ← found]⟩
  | none =>
      subst here
      refine (create_permitted walked kept folder).bind ?_ ?_
      · rintro newId created ⟨disk, -⟩
        refine guarded_ask_bind.mpr ⟨by rintro _ ⟨⟩, ?_⟩
        rintro _ _ rfl
        refine ⟨disk, ?_⟩
        rintro _ ⟨⟩
        exact ⟨key, by simp [World.folderId?, below, PathCache.lookup_insert]⟩
      · rintro error created ⟨disk, -⟩
        exact ⟨disk, by rintro _ ⟨⟩⟩

/-- What the walk yields is kept. -/
theorem walkedDirs_kept {path : Path} (walked : path ∈ walkedDirs disk primary.localPath ignore)
    : ignore.isIgnored path true = false := by
  obtain ⟨⟨listing, child, yielded⟩, -⟩ := mem_walkedDirs.mp walked
  simpa [IgnoreMatcher.keeps, Node.fileType] using yielded.keeps

/-- One directory of phase 2. -/
theorem ensureFolder_permitted {total place : Nat} {dir : Path}
    (walked : dir ∈ walkedDirs disk primary.localPath ignore) (here : w.disk = disk)
    : Guarded env.sem (PermittedScan primary ignore) (ensureFolder ctx primary total (dir, place)) w
        (fun _ last => last.disk = disk) := by
  obtain ⟨-, name, rest, rfl⟩ := mem_walkedDirs.mp walked
  obtain ⟨names, above⟩ := walkedDirs_above walked
  refine guarded_ask_bind.mpr ⟨by rintro _ ⟨⟩, ?_⟩
  intro cancelled checked served
  have here := (env.sem_keeps served).disk.trans here
  cases cancelled with
  | true => exact here
  | false =>
  simp only [Bool.false_eq_true, if_false, names.clean.stripPrefix]
  refine guarded_ask_bind.mpr ⟨by rintro _ ⟨⟩, ?_⟩
  intro _ reported served
  have here := (env.sem_keeps served).disk.trans here
  refine guarded_ask_bind.mpr ⟨by rintro _ ⟨⟩, ?_⟩
  rintro cached looked ⟨-, rfl⟩
  cases cached with
  | some entry => exact here
  | none =>
      let loop (rest' : Path) (pair : String × DriveId) (state : World) : Prop :=
        ∃ front,
          name :: rest = front ++ rest' ∧ pair.1 = relKey front
          ∧ state.folderId? primary pair.1 = some pair.2 ∧ state.disk = disk
      have entered
          : Guarded env.sem (PermittedScan primary ignore)
              ((name :: rest).foldlM (enterFolder ctx) ("", primary.remoteFolderId)) looked
              (fun _ last => last.disk = disk) := by
        refine guarded_foldlM loop (fun _ _ ⟨_, _, _, _, here⟩ => here) ?_ _ _
          ⟨[], rfl, relKey_nil.symm, by simp [World.folderId?], here⟩
        rintro next rest' ⟨key, id⟩ middle ⟨front, split, rfl, folder, here⟩
        have split' : name :: rest = (front ++ [next]) ++ rest' := by simpa using split
        have proper := (ProperNames.append.mp (split' ▸ names)).1
        have isWalked := above _ _ split' (by simp)
        refine (enterFolder_permitted proper isWalked (walkedDirs_kept isWalked) here folder).mono
          ?_
        rintro (error | pair) last ⟨here, reached⟩
        · exact here
        · obtain ⟨key, folder⟩ := reached pair rfl
          exact ⟨front ++ [next], split', key, folder, here⟩
      exact entered.bind (fun _ _ here => here) (fun _ _ here => here)

/-- A scan gives paths to the folders of kept directories only. -/
theorem scan_permitted (configured : ctx.cfg.getPrimaryPair = some primary)
    : Guarded env.sem (PermittedScan primary ignore) (scan ctx ignore) w (fun _ _ => True) := by
  simp only [scan, configured, orError]
  change Guarded env.sem _ (listRemote primary >>= _) w _
  refine (guarded_of_reserved rfl (uses_listRemote.mono ?_)).bind ?_ (fun _ _ _ => trivial)
  · rintro op (looks | rfl)
    · exact looks.reserved
    · rintro call ⟨⟩ ⟨⟩
  intro index listed here
  refine (guarded_of_reserved here (uses_fillCache.mono ?_)).bind ?_ (fun _ _ _ => trivial)
  · rintro op ⟨key, id, parent, rfl⟩ call ⟨⟩
  intro _ filled here
  have inventories
      : Guarded env.sem (PermittedScan primary ignore) (takeInventory primary ignore) filled
          (fun result last =>
            last.disk = w.disk
            ∧ ∀ inventory,
                result = .ok inventory
                → inventory.localDirs = walkedDirs w.disk primary.localPath ignore) := by
    refine ((takeInventory_finds.weaken (fun _ same => same)).mono ?_).guarded
      (uses_takeInventory.mono (fun _ => Op.Looks.reserved))
      (fun op v _ reserved call same isPublic => absurd isPublic (reserved call same))
    rintro result last - ⟨same, found⟩
    exact ⟨same.trans here, fun inventory ok => here ▸ (found inventory ok).2⟩
  refine inventories.bind ?_ (fun _ _ _ => trivial)
  rintro inventory taken ⟨here, found⟩
  rw [found _ rfl]
  have folders
      : Guarded env.sem (PermittedScan primary ignore)
          (createFolders ctx primary (walkedDirs w.disk primary.localPath ignore)) taken
          (fun _ last => last.disk = w.disk) := by
    refine guarded_forM _ ?_ here
    rintro ⟨dir, place⟩ member middle here
    have inWalk : dir ∈ walkedDirs w.disk primary.localPath ignore := by
      rw [(List.mem_zipIdx' member).2]
      exact List.getElem_mem _
    exact ensureFolder_permitted inWalk here
  refine folders.bind (fun _ created here => ?_) (fun _ _ _ => trivial)
  refine (guarded_of_reserved here (uses_reconcile.mono ?_)).mono (fun _ _ _ => trivial)
  rintro op (looks | _ | _)
  · exact looks.reserved
  · rintro call ⟨⟩
  · rintro call ⟨⟩

end Scan

-----------------------------------------------------------------------------------------
-- Tasks
-----------------------------------------------------------------------------------------

section Tasks

variable {env : Environment} {ctx : EngineContext} {primary : SyncPair} {ignore : IgnoreMatcher}
  {w : World} {path : Path} {α : Type}

/-- No public operation, or one that publishes this path, which is not excluded. -/
def PermittedTask (primary : SyncPair) (ignore : IgnoreMatcher) (disk : Disk) (path : Path)
    (op : Op) (_ : World)
    : Prop :=
  op.Public → op.Publishes primary path ∧ ¬ Excluded disk ignore path

theorem Op.Observes.not_public {op : Op} (observes : op.Observes) : ¬ op.Public := by
  cases observes <;> rintro ⟨⟩

/-- Any program is guarded by what it uses. -/
theorem Uses.guarded_task {disk : Disk} {program : Eff α}
    (uses : Uses (fun op : Op => PermittedTask primary ignore disk path op w) program)
    : Guarded env.sem (PermittedTask primary ignore disk path) program w (fun _ _ => True) :=
  (always_of_sem (fun _ _ _ _ _ _ => trivial) trivial).guarded uses
    (fun _ _ _ permitted => permitted)

/-- What the disk says of a path decides whether it is excluded. -/
theorem excluded_iff {node : Node} (there : w.disk.node? path = some node)
    : Excluded w.disk ignore path ↔ ignore.isIgnored path node.metadata.isDir = true := by
  simp [Excluded, Disk.isDir, Disk.metadata, there]

/-- A question to the disk has one answer, be it that there is nothing. -/
theorem guarded_metadata {β : Type} {permitted : Op → World → Prop}
    {f : Except Error Metadata → Eff β} {post : Except Error β → World → Prop}
    (may : permitted (.metadata path) w)
    (found
      : ∀ node,
          w.disk.node? path = some node → Guarded env.sem permitted (f (.ok node.metadata)) w post)
    (missing
      : w.disk.node? path = none
        → ∀ error, Guarded env.sem permitted (f (.error error)) w post)
    : Guarded env.sem permitted (ask (.metadata path) >>= f) w post := by
  refine guarded_ask_bind.mpr ⟨may, ?_⟩
  cases there : w.disk.node? path with
  | some node =>
      rintro answer after ⟨rfl, answered⟩
      simp only [Disk.metadata, there, Option.map_some] at answered
      subst answered
      exact found node there
  | none =>
      rintro answer after ⟨rfl, answered⟩
      simp only [Disk.metadata, there, Option.map_none] at answered
      obtain ⟨error, rfl⟩ := answered
      exact missing there error

theorem guarded_isDir {β : Type} {permitted : Op → World → Prop} {f : Bool → Eff β}
    {post : Except Error β → World → Prop} (may : permitted (.metadata path) w)
    (rest : Guarded env.sem permitted (f (w.disk.isDir path)) w post)
    : Guarded env.sem permitted (isDir path >>= f) w post := by
  simp only [isDir, bind_assoc]
  refine guarded_metadata may ?_ ?_
  · intro node there
    simpa [Disk.isDir, Disk.metadata, there] using rest
  · intro there error
    simpa [Disk.isDir, Disk.metadata, there] using rest

theorem guarded_inDb {β : Type} {permitted : Op → World → Prop} {key : String} {f : Bool → Eff β}
    {post : Except Error β → World → Prop} (may : permitted (.get key) w)
    (rest : Guarded env.sem permitted (f (key ≠ "" ∧ (w.db.get key).isSome)) w post)
    (failed : ∀ error, post (.error error) w)
    : Guarded env.sem permitted (rename.inDb key >>= f) w post := by
  unfold rename.inDb
  by_cases top : key = ""
  · simpa [top] using rest
  · rw [if_neg top, bind_assoc]
    refine guarded_ask_bind.mpr ⟨may, ?_⟩
    rintro answer read (⟨rfl, rfl⟩ | ⟨-, ⟨error, rfl⟩, rfl⟩)
    · simpa [top, propagate] using rest
    · exact failed error

theorem guarded_folderId {β : Type} {permitted : Op → World → Prop} {key missing : String}
    {f : DriveId → Eff β} {post : Except Error β → World → Prop} (may : permitted (.lookup key) w)
    (known : ∀ id, w.folderId? primary key = some id → Guarded env.sem permitted (f id) w post)
    (failed : ∀ error, post (.error error) w)
    : Guarded env.sem permitted (folderId primary key missing >>= f) w post := by
  unfold folderId
  by_cases top : key = ""
  · rw [if_pos top]
    exact known _ (by simp [World.folderId?, top])
  · rw [if_neg top, bind_assoc]
    refine guarded_ask_bind.mpr ⟨may, ?_⟩
    rintro cached looked ⟨rfl, rfl⟩
    cases found : PathCache.lookup _ key with
    | some entry => exact known _ (by simp [World.folderId?, top, found])
    | none => exact failed _

theorem Op.Observes.permittedTask {disk : Disk} {op : Op} {v : World} (observes : op.Observes)
    : PermittedTask primary ignore disk path op v :=
  fun isPublic => absurd isPublic observes.not_public

/-- What `sync_file` stores is its own path. -/
theorem Op.Stores.publishes {key : String} {op : Op}
    (inRoot : relStr primary.localPath path = .ok key)
    (stores : op.Stores path key)
    : op.Publishes primary path := by
  have same : key = keyOf primary path := by simp [keyOf, inRoot, Except.toOption]
  subst same
  cases stores with
  | upload named => exact .upload named
  | insert driveId parentId => exact .insert
  | upsert hash mtime => exact .upsert

/-- `sync_file` publishes its own path, unless it is excluded. -/
theorem syncFile_permitted (configured : ctx.cfg.getPrimaryPair = some primary)
    : Guarded env.sem (PermittedTask primary ignore w.disk path) (syncFile ctx ignore path) w
        (fun _ _ => True) := by
  by_cases excluded : Excluded w.disk ignore path
  · unfold syncFile
    refine guarded_metadata (Op.Observes.metadata _).permittedTask (fun node there => ?_)
      (fun _ _ => trivial)
    have ignored := (excluded_iff there).mp excluded
    simp only [propagate, Prog.ok_bind, ignored, Bool.true_or, if_true]
    trivial
  · refine Uses.guarded_task (uses_syncFile_of (fun _ => Op.Observes.permittedTask) ?_)
    intro primary' key op configured' inRoot stores isPublic
    rw [configured] at configured'
    cases configured'
    exact ⟨stores.publishes inRoot, excluded⟩

/-- A deletion publishes nothing. -/
theorem delete_permitted
    : Guarded env.sem (PermittedTask primary ignore w.disk path) (delete ctx ignore path) w
        (fun _ _ => True) := by
  refine Uses.guarded_task (uses_delete_of (fun _ => Op.Observes.permittedTask) ?_)
  rintro primary key op - - removes isPublic
  cases removes <;> cases isPublic

/-- A renaming publishes its target where that is not excluded. -/
theorem rename_permitted {source target : Path} (configured : ctx.cfg.getPrimaryPair = some primary)
    (kept : ¬ Excluded w.disk ignore target)
    : Guarded env.sem (PermittedTask primary ignore w.disk target)
        (rename ctx ignore source target) w (fun _ _ => True) := by
  refine Uses.guarded_task (uses_rename_of (fun _ => Op.Observes.permittedTask) ?_ ?_)
  · intro primary' op configured' moves isPublic
    rw [configured] at configured'
    cases configured'
    refine ⟨?_, kept⟩
    cases moves with
    | rename named => exact .rename named
    | removeCascades => cases isPublic
    | insert driveId parentId => exact .insert
    | renameRow => exact .renameRow
  · intro primary' key op configured' inRoot stores isPublic
    rw [configured] at configured'
    cases configured'
    exact ⟨stores.publishes inRoot, kept⟩

/-- Where it is, nothing is published as long as no renaming is due. -/
theorem rename_excluded {source target : Path} (configured : ctx.cfg.getPrimaryPair = some primary)
    (excluded : Excluded w.disk ignore target)
    (notDue
      : w.shutdown = false
        → ∀ entry newName newParentId,
            ¬ RenameDue primary ignore w source target entry newName newParentId)
    : Guarded env.sem (PermittedTask primary ignore w.disk target)
        (rename ctx ignore source target) w (fun _ _ => True) := by
  have fallback
      : Guarded env.sem (PermittedTask primary ignore w.disk target)
          (do
            if ← isFile target then
              if ignore.isIgnored target (← isDir target) then return ()
              else syncFile ctx ignore target
            else return ())
          w (fun _ _ => True) := by
    simp only [isFile, bind_assoc]
    refine guarded_metadata (Op.Observes.metadata _).permittedTask (fun node there => ?_)
      (fun _ _ => trivial)
    simp only [Prog.pure_eq, Prog.ok_bind]
    split
    · refine guarded_isDir (Op.Observes.metadata _).permittedTask ?_
      rw [if_pos (show ignore.isIgnored target (w.disk.isDir target) = true from excluded)]
      trivial
    · trivial
  unfold rename
  simp only [rename.bothIgnored, bind_assoc]
  refine guarded_isDir (Op.Observes.metadata _).permittedTask ?_
  split
  · rw [bind_assoc]
    refine guarded_isDir (Op.Observes.metadata _).permittedTask ?_
    rw [show ignore.isIgnored target (w.disk.isDir target) = true from excluded]
    trivial
  rename_i seen
  simp only [Prog.pure_eq, Prog.ok_bind, Bool.false_eq_true, if_false, configured, orError,
    propagate]
  refine guarded_ask_bind.mpr ⟨(Op.Observes.lookup _).permittedTask, ?_⟩
  rintro sourceEntry looked ⟨found, rfl⟩
  change Guarded env.sem _ (rename.inDb (keyOf primary source) >>= _) _ _
  refine guarded_inDb (Op.Observes.get _).permittedTask ?_ (fun _ => trivial)
  cases sourceEntry with
  | none => exact fallback
  | some entry =>
      by_cases row : keyOf primary source ≠ "" ∧ (looked.db.get (keyOf primary source)).isSome
      · rw [decide_eq_true row]
        cases named : target.fileName? with
        | none => trivial
        | some newName =>
            refine guarded_folderId (Op.Observes.lookup _).permittedTask
              (fun newParentId folder => ?_)
              (fun _ => trivial)
            have due
                : RenameDue primary ignore looked source target entry newName newParentId :=
              ⟨fun both => seen both.1, ⟨found.symm, row⟩, named, folder⟩
            -- The renaming is due, so a shutdown has been requested and stops it.
            have stopped : looked.shutdown = true := by
              by_contra running
              exact notDue (by simpa using running) _ _ _ due
            have cancelled (after : World) (may : env.interrupts looked after)
                : after.shutdown = true := by
              rcases may with rfl | ⟨-, rfl⟩
              · exact stopped
              · rfl
            simp only [retry]
            cases ctx.cfg.retry.maxAttempts - 1 <;>
              · refine guarded_ask_bind.mpr ⟨Op.Observes.isCancelled.permittedTask, ?_⟩
                rintro _ checked ⟨may, rfl⟩
                rw [cancelled checked may]
                trivial
      · rw [decide_eq_false row]
        exact fallback

end Tasks

-----------------------------------------------------------------------------------------
-- Sequences of jobs
-----------------------------------------------------------------------------------------

/-- A job with the state in which it has begun. -/
abbrev Begun : Type := Job × World

/-- Scans and tasks one after another, with any change of the disk in between. -/
inductive Session (env : Environment) (ctx : EngineContext) (ignore : IgnoreMatcher) (start : World)
    : List Begun → World → Prop
  | start : Session env ctx ignore start [] start
  | outside {begun : List Begun} {w : World} (run : Session env ctx ignore start begun w)
    (disk : Disk)
    : Session env ctx ignore start begun { w with disk }
  | job {begun : List Begun} {w after : World} {job : Job} {result : Except Error Unit}
    (run : Session env ctx ignore start begun w)
    (executes : Reaches env.sem (job.program ctx ignore) w (.done result) after)
    : Session env ctx ignore start (begun ++ [(job, w)]) after

/-- The job is no due renaming of an item to an excluded path. -/
def KeepsNames (primary : SyncPair) (ignore : IgnoreMatcher) (begun : Begun) : Prop :=
  ∀ source target entry newName newParentId,
    begun.1 = .task (.rename source target) → begun.2.shutdown = false
    → RenameDue primary ignore begun.2 source target entry newName newParentId
    → ¬ Excluded begun.2.disk ignore target

/-- The provider may answer anything, and anything else may go wrong. -/
def Environment.lawless (md5 : List UInt8 → String) : Environment where
  md5
  provider _ _ _ _ _ := True
  faults _ := True

theorem steady_le_lawless {md5 : List UInt8 → String} (op : Op) (w : World)
    (answer : op.Answer) (after : World) (served : (Environment.steady md5).sem op w answer after)
    : (Environment.lawless md5).sem op w answer after :=
  @Environment.sem_mono (.steady md5) (.lawless md5) rfl (fun _ _ _ _ _ _ => trivial)
    (fun _ _ => trivial) op w answer after served

variable {md5 : List UInt8 → String} {cfg : AppConfig} {primary : SyncPair}
  {ignore : IgnoreMatcher} {w : World}

/-- A job publishes kept paths only exactly when it is no due renaming to an excluded one. -/
theorem Job.spares_iff (configured : cfg.getPrimaryPair = some primary) {job : Job}
    : job.Spares (.lawless md5) ⟨cfg, false⟩ primary ignore w
      ↔ KeepsNames primary ignore (job, w) := by
  constructor
  · rintro spares source target entry newName newParentId rfl running due
    have may
        : MayCall (.steady md5) (RenameCall primary w source target)
            (rename ⟨cfg, false⟩ ignore source target) w :=
      due.mayCall (Environment.steady_quiet md5) running configured
    obtain ⟨op, next, v, reached, call, rfl, entry', newName', newParentId', -, -, -, rfl⟩ :=
      mayRequest_iff_reaches.mp may
    exact (spares _ next v (reached.mono steady_le_lawless) (.rename ..)).2
  · intro keeps
    cases job with
    | scan =>
        intro call next v reached isPublic
        exact (scan_permitted configured).reaches reached call rfl isPublic
    | task order =>
        intro op next v reached
        cases order with
        | syncFile path => exact (syncFile_permitted configured).reaches reached
        | delete path => exact delete_permitted.reaches reached
        | rename source target =>
            by_cases excluded : Excluded w.disk ignore target
            · refine (rename_excluded configured excluded ?_).reaches reached
              intro running entry newName newParentId due
              exact keeps _ _ _ _ _ rfl running due excluded
            · exact (rename_permitted configured excluded).reaches reached

/-- In a sequence of jobs no excluded path is published exactly when no job is a due renaming of
an item to an excluded path.
-/
theorem excluded_unpublished_iff (md5 : List UInt8 → String) {cfg : AppConfig}
    {primary : SyncPair} {ignore : IgnoreMatcher} {start : World} {begun : List Begun} {w : World}
    (configured : cfg.getPrimaryPair = some primary)
    (_ : Session (.lawless md5) ⟨cfg, false⟩ ignore start begun w)
    : (∀ item ∈ begun, item.1.Spares (.lawless md5) ⟨cfg, false⟩ primary ignore item.2)
      ↔ ∀ item ∈ begun, KeepsNames primary ignore item :=
  forall₂_congr (fun _ _ => Job.spares_iff configured)

-----------------------------------------------------------------------------------------
-- A file renamed to an excluded name
-----------------------------------------------------------------------------------------

/-- The pattern `**/*.tmp`. -/
def IgnoreMatcher.temporary : IgnoreMatcher :=
  ⟨fun path _ => (path.fileName?.map (fun name => name.endsWith ".tmp")).getD false⟩

/-- A synchronised file `notes`, renamed on the disk. -/
def renamedWorld : World where
  disk := .backup (.single (.utf8 "notes.tmp") (by decide)) (fun _ => .file ⟨[1], 0, true⟩)
  db := ({} : Database).upsert ⟨"notes", "", 0⟩
  pathCache := ({} : PathCache).insert "notes" "1" "root"

def notesPath : Path := [.utf8 "backup", .utf8 "notes"]
def notesTmpPath : Path := [.utf8 "backup", .utf8 "notes.tmp"]

theorem notes_kept (isDir : Bool)
    : IgnoreMatcher.isIgnored .temporary notesPath isDir = false := by
  cases isDir <;> decide +kernel

theorem notesTmp_excluded : Excluded renamedWorld.disk .temporary notesTmpPath := by
  change IgnoreMatcher.isIgnored _ _ _ = true
  decide +kernel

theorem notes_key : keyOf backupPair notesPath = "notes" := by decide +kernel

theorem renamed_due
    : RenameDue backupPair .temporary renamedWorld notesPath notesTmpPath ⟨"1", "root"⟩ "notes.tmp"
        "root" where
  seen both := Bool.false_ne_true ((notes_kept _).symm.trans both.1)
  known := ⟨by rw [notes_key]; decide +kernel, by rw [notes_key]; decide +kernel⟩
  named := by decide
  folder := by decide +kernel

/-- The renaming is handled, with nothing going wrong. -/
theorem renamed_session
    : ∃ after,
        Session (.lawless (fun _ => "")) ⟨backupConfig, false⟩ .temporary renamedWorld
          [(.task (.rename notesPath notesTmpPath), renamedWorld)] after := by
  let job : Job := .task (.rename notesPath notesTmpPath)
  obtain ⟨result, after, handles⟩ :=
    exists_run (Environment.steady_total (fun _ => ""))
      (job.program ⟨backupConfig, false⟩ .temporary) renamedWorld
  exact ⟨after, .job .start (handles.mono steady_le_lawless)⟩

/-- A synchronised file that is renamed to an excluded name keeps it on the remote. -/
theorem excluded_name_published
    : ¬ ∀ begun after,
        Session (.lawless (fun _ => "")) ⟨backupConfig, false⟩ .temporary renamedWorld begun after
        → ∀ item ∈ begun,
            item.1.Spares (.lawless (fun _ => "")) ⟨backupConfig, false⟩ backupPair .temporary
              item.2 := by
  intro spares
  obtain ⟨after, session⟩ := renamed_session
  have keeps := (Job.spares_iff rfl).mp (spares _ _ session _ (.head _))
  exact keeps _ _ _ _ _ rfl rfl renamed_due notesTmp_excluded

/-- And the sequence is one of those that the equivalence is about. -/
theorem renamed_session_iff
    : ∃ begun after,
        Session (.lawless (fun _ => "")) ⟨backupConfig, false⟩ .temporary renamedWorld begun after
        ∧ begun ≠ []
        ∧ ((∀ item ∈ begun,
            item.1.Spares (.lawless (fun _ => "")) ⟨backupConfig, false⟩ backupPair .temporary
              item.2)
          ↔ ∀ item ∈ begun, KeepsNames backupPair .temporary item) := by
  obtain ⟨after, session⟩ := renamed_session
  exact ⟨_, after, session, by simp, excluded_unpublished_iff _ rfl session⟩

end SyncGDrive
