import SyncGDrive.Engine.Calm
import SyncGDrive.Engine.Footprints
import SyncGDrive.Program.Requests

/-! Which provider calls a worker comes to where nothing disturbs it, from the state that it
starts in.
-/

namespace SyncGDrive

open Program

-----------------------------------------------------------------------------------------
-- Provider calls
-----------------------------------------------------------------------------------------

/-- A provider call of that kind is requested. -/
def Requested (wanted : ProviderCall → Prop) (op : Op) (_ : World) : Prop :=
  ∃ call, op = .provider call ∧ wanted call

/-- Some execution makes a provider call of that kind. -/
abbrev MayCall {α : Type} (env : Environment) (wanted : ProviderCall → Prop) (program : Eff α)
    (w : World)
    : Prop :=
  MayRequest env.sem (Requested wanted) program w

/-- Every execution makes one. -/
abbrev MustCall {α : Type} (env : Environment) (wanted : ProviderCall → Prop) (program : Eff α)
    (w : World)
    : Prop :=
  MustRequest env.sem (Requested wanted) program w

/-- An operation that is no provider call. -/
def Op.Local (op : Op) : Prop := ∀ call, op ≠ .provider call

theorem Op.Local.not_requested {wanted : ProviderCall → Prop} {op : Op} {w : World}
    (here : op.Local)
    : ¬ Requested wanted op w := by
  rintro ⟨call, rfl, -⟩
  exact here call rfl

/-- Every execution comes to a leaf without any provider call. -/
abbrev Comes {α : Type} (env : Environment) (leaf : Eff α → World → Prop) (program : Eff α)
    (w : World)
    : Prop :=
  ComesTo env.sem Op.Local leaf program w

/-- The program has ended. -/
def Ended {α : Type} (program : Eff α) (_ : World) : Prop := ∃ result, program = .done result

theorem guarded_ask_bind {β : Type} {env : Environment} {w : World}
    {permitted : Op → World → Prop} {op : Op} {f : op.Answer → Eff β}
    {post : Except Error β → World → Prop}
    : Guarded env.sem permitted (ask op >>= f) w post
      ↔ permitted op w
        ∧ ∀ answer after,
            env.sem op w answer after → Guarded env.sem permitted (f answer) after post := Iff.rfl

section Steps

variable {env : Environment} {w after : World} {α β : Type} {leaf : Eff β → World → Prop}

/-- An operation, with every answer that it may get. -/
theorem comesTo_ask {passed : Op → Prop} {op : Op} {f : op.Answer → Eff β} (kind : passed op)
    (served : ∃ answer after, env.sem op w answer after)
    (rest
      : ∀ answer after,
          env.sem op w answer after → ComesTo env.sem passed leaf (f answer) after)
    : ComesTo env.sem passed leaf (ask op >>= f) w :=
  .step kind served rest

/-- An operation with one answer. -/
theorem comes_known {op : Op} {answer : op.Answer} {f : op.Answer → Eff β} (here : op.Local)
    (known
      : ∀ got reached, env.sem op w got reached ↔ got = answer ∧ reached = after)
    (rest : Comes env leaf (f answer) after)
    : Comes env leaf (ask op >>= f) w :=
  ComesTo.known here known rest

theorem comes_lookup {key : String} {f : Option CacheEntry → Eff β}
    (rest : Comes env leaf (f (w.pathCache.lookup key)) w)
    : Comes env leaf (ask (.lookup key) >>= f) w :=
  comes_known (by rintro _ ⟨⟩) (fun _ _ => Iff.rfl) rest

theorem comes_report {report : Report} {f : Unit → Eff β}
    (rest : Comes env leaf (f ()) (w.report report))
    : Comes env leaf (ask (.report report) >>= f) w :=
  comes_known (by rintro _ ⟨⟩) (fun _ _ => ⟨fun served => ⟨rfl, served⟩, And.right⟩) rest

theorem comes_insert {key : String} {id parentId : DriveId} {f : Unit → Eff β}
    (rest
      : Comes env leaf (f ()) { w with pathCache := w.pathCache.insert key id parentId })
    : Comes env leaf (ask (.insert key id parentId) >>= f) w :=
  comes_known (by rintro _ ⟨⟩) (fun _ _ => ⟨fun served => ⟨rfl, served⟩, And.right⟩) rest

/-- A question to the disk, with the node that it finds. -/
theorem comes_metadata {path : Path} {f : Except Error Metadata → Eff β}
    (found
      : ∀ node, w.disk.node? path = some node → Comes env leaf (f (.ok node.metadata)) w)
    (missing : w.disk.node? path = none → ∀ error, Comes env leaf (f (.error error)) w)
    : Comes env leaf (ask (.metadata path) >>= f) w := by
  cases there : w.disk.node? path with
  | some node =>
      refine comes_known (by rintro _ ⟨⟩) (fun got reached => ?_) (found node there)
      simp only [Environment.sem, Disk.metadata, there, Option.map_some]
      exact And.comm
  | none =>
      refine .step (by rintro _ ⟨⟩) ⟨.error ⟨[]⟩, w, rfl, ?_⟩ ?_
      · simp [Disk.metadata, there]
      · rintro answer after ⟨rfl, answered⟩
        simp only [Disk.metadata, there, Option.map_none] at answered
        obtain ⟨error, rfl⟩ := answered
        exact missing there error

/-- The digest of what can be read. -/
theorem comes_md5 {path : Path} {f : Except Error String → Eff β}
    (found
      : ∀ content, w.disk.read path = some content → Comes env leaf (f (.ok (env.md5 content))) w)
    (unreadable : w.disk.read path = none → ∀ error, Comes env leaf (f (.error error)) w)
    : Comes env leaf (ask (.md5 path) >>= f) w := by
  cases there : w.disk.read path with
  | some content =>
      refine comes_known (by rintro _ ⟨⟩) (fun got reached => ?_) (found content there)
      simp only [Environment.sem, there]
      exact And.comm
  | none =>
      refine .step (by rintro _ ⟨⟩) ⟨.error ⟨[]⟩, w, rfl, by simp [there]⟩ ?_
      rintro answer after ⟨rfl, answered⟩
      simp only [there] at answered
      obtain ⟨error, rfl⟩ := answered
      exact unreadable there error

theorem comes_isDir {path : Path} {f : Bool → Eff β}
    (rest : Comes env leaf (f (w.disk.isDir path)) w)
    : Comes env leaf (isDir path >>= f) w := by
  simp only [isDir, bind_assoc]
  refine comes_metadata ?_ ?_
  · intro node there
    simpa [Disk.isDir, Disk.metadata, there] using rest
  · intro there error
    simpa [Disk.isDir, Disk.metadata, there] using rest

/-- `Path::is_file`, as the disk has it. -/
def Disk.isFile (disk : Disk) (path : Path) : Bool :=
  ((disk.metadata path).map Metadata.isFile).getD false

theorem comes_isFile {path : Path} {f : Bool → Eff β}
    (rest : Comes env leaf (f (w.disk.isFile path)) w)
    : Comes env leaf (isFile path >>= f) w := by
  simp only [isFile, bind_assoc]
  refine comes_metadata ?_ ?_
  · intro node there
    simpa [Disk.isFile, Disk.metadata, there] using rest
  · intro there error
    simpa [Disk.isFile, Disk.metadata, there] using rest

/-- The check for a shutdown, which may just have been requested. -/
theorem comes_check {f : Bool → Eff β} (running : w.shutdown = false → Comes env leaf (f false) w)
    (stopped
      : ¬ (env.Undisturbed ∧ w.shutdown = false)
        → ∀ after, after.pathCache = w.pathCache → Comes env leaf (f true) after)
    : Comes env leaf (ask .isCancelled >>= f) w := by
  refine .step (by rintro _ ⟨⟩) ⟨w.shutdown, w, .inl rfl, rfl⟩ ?_
  rintro answer after ⟨rfl | ⟨faulty, rfl⟩, rfl⟩
  · cases down : after.shutdown with
    | false => exact running down
    | true => exact stopped (by simp [down]) after rfl
  · exact stopped (fun steady => steady.1 _ faulty) _ rfl

/-- A row is read, or SQLite fails. -/
theorem comes_get {key : String} {f : Except Error (Option FileEntry) → Eff β}
    (read : Comes env leaf (f (.ok (w.db.get key))) w)
    (failed : ¬ env.Undisturbed → ∀ error, Comes env leaf (f (.error error)) w)
    : Comes env leaf (ask (.get key) >>= f) w := by
  refine .step (by rintro _ ⟨⟩) ⟨.ok (w.db.get key), w, .inl ⟨rfl, rfl⟩⟩ ?_
  rintro answer after (⟨rfl, rfl⟩ | ⟨faulty, ⟨error, rfl⟩, rfl⟩)
  · exact read
  · exact failed (fun quiet => quiet _ faulty) error

/-- A row is written, or SQLite fails. -/
theorem comes_upsert {entry : FileEntry} {f : Except Error Unit → Eff β}
    (rest : ∀ answer after, after.pathCache = w.pathCache → Comes env leaf (f answer) after)
    : Comes env leaf (ask (.upsert entry) >>= f) w := by
  refine .step (by rintro _ ⟨⟩) ⟨.ok (), _, .inl ⟨rfl, rfl⟩⟩ ?_
  rintro answer after (⟨rfl, rfl⟩ | ⟨-, -, rfl⟩)
  · exact rest _ _ rfl
  · exact rest _ _ rfl

/-- A row is written where SQLite does not fail. -/
theorem comes_stored (quiet : env.Undisturbed) {entry : FileEntry} {f : Except Error Unit → Eff β}
    (rest : Comes env leaf (f (.ok ())) { w with db := w.db.upsert entry })
    : Comes env leaf (ask (.upsert entry) >>= f) w :=
  comes_known (by rintro _ ⟨⟩) (fun _ _ => quiet.sem_upsert) rest

theorem comes_isCancelled (quiet : env.Undisturbed) {f : Bool → Eff β}
    (rest : Comes env leaf (f w.shutdown) w)
    : Comes env leaf (ask .isCancelled >>= f) w :=
  comes_known (by rintro _ ⟨⟩) (fun _ _ => quiet.sem_isCancelled) rest

end Steps

/-- The stage is reached, with the cache as it was at the start; or a disturbance has ended the
program before.
-/
def OrEnded {α : Type} (w : World) (steady : Prop) (stage : Eff α → World → Prop) (program : Eff α)
    (state : World)
    : Prop :=
  state.pathCache = w.pathCache ∧ (stage program state ∨ Ended program state ∧ ¬ steady)

/-- Where nothing disturbs it, the program comes to the stage. -/
theorem Comes.steady {α : Type} {env : Environment} {w start : World} {steady : Prop}
    {stage : Eff α → World → Prop} {program : Eff α}
    (comes : Comes env (OrEnded start steady stage) program w) (here : steady)
    : Comes env stage program w :=
  comes.mono (fun _ _ reached => reached.2.resolve_right (fun ended => ended.2 here))

theorem comes_staged {α : Type} {env : Environment} {w start : World} {steady : Prop}
    {stage : Eff α → World → Prop} {program : Eff α} (same : w.pathCache = start.pathCache)
    (reached : stage program w)
    : Comes env (OrEnded start steady stage) program w :=
  .here ⟨same, .inl reached⟩

theorem comes_disturbed {α : Type} {env : Environment} {w start : World} {steady : Prop}
    {stage : Eff α → World → Prop} (same : w.pathCache = start.pathCache) (result : Except Error α)
    (disturbed : ¬ steady)
    : Comes env (OrEnded start steady stage) (.done result) w :=
  .here ⟨same, .inr ⟨⟨result, rfl⟩, disturbed⟩⟩

-----------------------------------------------------------------------------------------
-- Synchronising
-----------------------------------------------------------------------------------------

/-- A row that passes the test, and a cache entry: `sync_file` takes the file to be there. -/
def World.Recorded (w : World) (key : String) (test : FileEntry → Bool) : Prop :=
  ∃ entry, w.db.get key = some entry ∧ test entry = true ∧ (w.pathCache.lookup key).isSome

/-- The identifier of the folder at a key: the configured one at the root, else the cached one.
-/
def World.folderId? (w : World) (primary : SyncPair) (key : String) : Option DriveId :=
  if key = "" then some primary.remoteFolderId
  else (w.pathCache.lookup key).map CacheEntry.driveId

/-- The file at a path, under the key that it has, is to be uploaded. -/
structure UploadDue (md5 : List UInt8 → String) (primary : SyncPair) (ignore : IgnoreMatcher)
    (w : World) (path : Path) (data : FileData) (key : String)
    : Prop where
  file : w.disk.node? path = some (.file data)
  kept : ignore.isIgnored path false = false
  nonempty : data.content ≠ []
  inRoot : relStr primary.localPath path = .ok key
  dated : 0 ≤ data.modified
  newTime : ¬ w.Recorded key (fun entry => entry.mtime = data.modified / 1000000000)
  readable : data.readable = true
  newContent : ¬ w.Recorded key (fun entry => entry.hash = md5 data.content)
  named : path.fileName?.isSome
  folder : (w.folderId? primary (parentRelStr primary.localPath path)).isSome

/-- If any file is due at a path, it is the one there, under its key. -/
theorem UploadDue.only {md5 : List UInt8 → String} {primary : SyncPair} {ignore : IgnoreMatcher}
    {w : World} {path : Path} {data : FileData} {key : String}
    (there : w.disk.node? path = some (.file data))
    (inRoot : relStr primary.localPath path = .ok key)
    (notDue : ¬ UploadDue md5 primary ignore w path data key) (data' : FileData) (key' : String)
    : ¬ UploadDue md5 primary ignore w path data' key' := by
  intro due
  obtain rfl : data = data' := by simpa [there] using due.file
  obtain rfl : key = key' := by simpa [inRoot] using due.inRoot
  exact notDue due

/-- What is left of `sync_file` once it uploads. -/
def uploading (ctx : EngineContext) (path : Path) (key hash : String) (time : Int)
    (parentId : DriveId) (fileName : String) (existing : Option DriveId)
    : Eff Unit := do
  let result ←
    uploadLoop ctx.cfg.retry path parentId fileName existing (ctx.cfg.retry.maxAttempts - 1)
  ask (.insert key result.driveId parentId)
  propagate (← ask (.upsert ⟨key, hash, time⟩))

section Workers

variable {env : Environment} {w : World} {ctx : EngineContext} {primary : SyncPair}
  {ignore : IgnoreMatcher} {path : Path} {key : String} {α β : Type}
  {leaf : Eff β → World → Prop}

theorem comes_recorded {test : FileEntry → Bool} {f : Bool → Eff β}
    (yes : w.Recorded key test → Comes env leaf (f true) w)
    (no : ¬ w.Recorded key test → Comes env leaf (f false) w)
    (failed : ¬ env.Undisturbed → ∀ error, Comes env leaf (.done (.error error)) w)
    : Comes env leaf (syncFile.recorded key test >>= f) w := by
  simp only [syncFile.recorded, bind_assoc]
  refine comes_get ?_ failed
  simp only [propagate, Prog.ok_bind]
  cases row : w.db.get key with
  | none => exact no (by simp [World.Recorded, row])
  | some entry =>
      cases passes : test entry with
      | false => simpa [passes] using no (by simp [World.Recorded, row, passes])
      | true =>
          simp only [passes, if_true, bind_assoc]
          refine comes_lookup ?_
          cases known : (w.pathCache.lookup key).isSome with
          | true => exact yes ⟨entry, row, passes, known⟩
          | false => exact no (by simp [World.Recorded, known])

theorem comes_folderId {missing : String} {f : DriveId → Eff β}
    (known : ∀ id, w.folderId? primary key = some id → Comes env leaf (f id) w)
    (unknown : w.folderId? primary key = none → ∀ error, Comes env leaf (.done (.error error)) w)
    : Comes env leaf (folderId primary key missing >>= f) w := by
  unfold folderId
  by_cases top : key = ""
  · rw [if_pos top]
    exact known _ (by simp [World.folderId?, top])
  · rw [if_neg top, bind_assoc]
    refine comes_lookup ?_
    cases found : w.pathCache.lookup key with
    | some entry => exact known _ (by simp [World.folderId?, top, found])
    | none => exact unknown (by simp [World.folderId?, top, found]) _

/-- Where `sync_file` comes to without a provider call: it is over, or the file is due and about
to be uploaded.
-/
inductive SyncStage (md5 : List UInt8 → String) (ctx : EngineContext) (primary : SyncPair)
    (ignore : IgnoreMatcher) (w : World) (path : Path)
    : Eff Unit → World → Prop
  | finished {state : World} (result : Except Error Unit)
    (notDue : ∀ data key, ¬ UploadDue md5 primary ignore w path data key)
    : SyncStage md5 ctx primary ignore w path (.done result) state
  | uploads {state : World} {data : FileData} {key fileName : String} {parentId : DriveId}
    (due : UploadDue md5 primary ignore w path data key)
    (named : path.fileName? = some fileName)
    (folder : w.folderId? primary (parentRelStr primary.localPath path) = some parentId)
    (running : state.shutdown = false)
    : SyncStage md5 ctx primary ignore w path
        (uploading ctx path key (md5 data.content) (data.modified / 1000000000) parentId fileName
          ((w.pathCache.lookup key).map CacheEntry.driveId))
        state

section Stage

variable {data : FileData} {steady : Prop} (there : w.disk.node? path = some (.file data))
  (inRoot : relStr primary.localPath path = .ok key)

include there inRoot

/-- The last part of `sync_file`: without a name or a known folder it fails. -/
theorem comes_uploadFile
    (due
      : path.fileName?.isSome
        → (w.folderId? primary (parentRelStr primary.localPath path)).isSome
        → UploadDue env.md5 primary ignore w path data key)
    (running : w.shutdown = false)
    : Comes env (OrEnded w steady (SyncStage env.md5 ctx primary ignore w path))
        (uploadFile ctx primary path key (env.md5 data.content) (data.modified / 1000000000)
          data.content.length)
        w := by
  simp only [uploadFile]
  cases named : path.fileName? with
  | none =>
      refine comes_staged rfl (.finished _ (UploadDue.only there inRoot (fun due => ?_)))
      simpa [named] using due.named
  | some fileName =>
      simp only [orError, propagate, Prog.ok_bind]
      refine comes_folderId (fun parentId folder => ?_) (fun unknown error => ?_)
      · refine comes_lookup (comes_report (comes_staged rfl ?_))
        exact .uploads (due (by simp [named]) (by simp [folder])) named folder running
      · refine comes_staged rfl (.finished _ (UploadDue.only there inRoot (fun due => ?_)))
        simpa [unknown] using due.folder

/-- Once the digest is known, a row with it is given the new time, and any other file is sent. -/
theorem comes_hashed
    (due
      : ¬ w.Recorded key (fun entry => entry.hash = env.md5 data.content)
        → path.fileName?.isSome
        → (w.folderId? primary (parentRelStr primary.localPath path)).isSome
        → UploadDue env.md5 primary ignore w path data key)
    (running : w.shutdown = false) (failed : ¬ env.Undisturbed → ¬ steady)
    : Comes env (OrEnded w steady (SyncStage env.md5 ctx primary ignore w path))
        (do
          if ← syncFile.recorded key (fun entry => entry.hash = env.md5 data.content) then
            propagate
              (← ask (.upsert ⟨key, env.md5 data.content, data.modified / 1000000000⟩))
          else
            uploadFile ctx primary path key (env.md5 data.content) (data.modified / 1000000000)
              data.content.length)
        w := by
  refine comes_recorded (fun recorded => ?_) (fun newContent => ?_)
    (fun disturbed _ => comes_disturbed rfl _ (failed disturbed))
  · refine comes_upsert (fun answer after unchanged => ?_)
    cases answer <;> exact comes_staged unchanged (.finished _
      (UploadDue.only there inRoot (fun due => due.newContent recorded)))
  · exact comes_uploadFile there inRoot (due newContent) running

/-- A file that cannot be read ends `sync_file`, with an error unless a shutdown is seen. -/
theorem comes_unreadable {error : Error} (unreadable : w.disk.read path = none)
    : Comes env
        (OrEnded w (env.Undisturbed ∧ w.shutdown = false)
          (SyncStage env.md5 ctx primary ignore w path))
        (do
          if !(← isFile path) then return ()
          else if ← ask .isCancelled then return ()
          else throw error)
        w := by
  refine comes_isFile ?_
  simp only [Disk.isFile, Disk.metadata, there, Option.map_some, Option.getD_some, Node.metadata,
    Bool.not_true, Bool.false_eq_true, if_false]
  refine comes_check (fun _ => ?_) (fun disturbed _ same => comes_disturbed same _ disturbed)
  refine comes_staged rfl (.finished _ (UploadDue.only there inRoot (fun due => ?_)))
  simp [Disk.read, there, due.readable] at unreadable

/-- Once the time of the file is not recorded, its digest is taken. -/
theorem comes_newTime
    (due
      : data.readable = true
        → ¬ w.Recorded key (fun entry => entry.hash = env.md5 data.content)
        → path.fileName?.isSome
        → (w.folderId? primary (parentRelStr primary.localPath path)).isSome
        → UploadDue env.md5 primary ignore w path data key)
    : Comes env
        (OrEnded w (env.Undisturbed ∧ w.shutdown = false)
          (SyncStage env.md5 ctx primary ignore w path))
        (do
          if ← ask .isCancelled then return ()
          else
            match ← hashFile path with
            | .error error =>
                if !(← isFile path) then return ()
                else if ← ask .isCancelled then return ()
                else throw error
            | .ok hash =>
                if ← syncFile.recorded key (fun entry => entry.hash = hash) then
                  propagate (← ask (.upsert ⟨key, hash, data.modified / 1000000000⟩))
                else
                  uploadFile ctx primary path key hash (data.modified / 1000000000)
                    data.content.length)
        w := by
  refine comes_check (fun running => ?_) (fun disturbed _ same => comes_disturbed same _ disturbed)
  simp only [Bool.false_eq_true, if_false, hashFile, bind_assoc]
  refine comes_md5 (fun content read => ?_) (fun unreadable error => ?_)
  · obtain ⟨readable, rfl⟩ : data.readable = true ∧ data.content = content := by
      simpa [Disk.read, there] using read
    exact comes_hashed there inRoot (due readable) running
      (fun disturbed steady => disturbed steady.1)
  · exact comes_unreadable there inRoot unreadable

end Stage

/-- In any environment, `sync_file` comes to its stage unless a disturbance ends it. -/
theorem comes_syncFile_orEnded (configured : ctx.cfg.getPrimaryPair = some primary)
    : Comes env
        (OrEnded w (env.Undisturbed ∧ w.shutdown = false)
          (SyncStage env.md5 ctx primary ignore w path))
        (syncFile ctx ignore path) w := by
  have finished (result : Except Error Unit)
      (notDue : ∀ data key, ¬ UploadDue env.md5 primary ignore w path data key)
      : Comes env
          (OrEnded w (env.Undisturbed ∧ w.shutdown = false)
            (SyncStage env.md5 ctx primary ignore w path))
          (.done result) w :=
    comes_staged rfl (.finished result notDue)
  unfold syncFile
  refine comes_metadata ?_ (fun missing error => finished _ (fun _ _ due => by
    simpa [missing] using due.file))
  intro node there
  have again {f : Except Error Metadata → Eff Unit} {leaf : Eff Unit → World → Prop}
      (rest : Comes env leaf (f (.ok node.metadata)) w)
      : Comes env leaf (ask (.metadata path) >>= f) w := by
    refine comes_metadata (fun other found => ?_) (fun missing => ?_)
    · rw [there] at found
      exact Option.some.inj found ▸ rest
    · rw [there] at missing
      cases missing
  simp only [propagate, Prog.ok_bind]
  cases node with
  | file data =>
      simp only [Node.metadata, Bool.not_true, Bool.or_false] at again ⊢
      split
      · rename_i ignored
        exact finished _ (fun _ _ due => by simpa [ignored] using due.kept)
      rename_i kept
      refine again ?_
      simp only [withContext, Except.mapError, Prog.ok_bind, configured, orError]
      cases inRoot : relStr primary.localPath path with
      | error error =>
          split <;> exact finished _ (fun _ _ due => by simpa [inRoot] using due.inRoot)
      | ok key =>
          split
          · rename_i empty
            exact finished _ (UploadDue.only there inRoot
              (fun due => due.nonempty (List.length_eq_zero_iff.mp empty)))
          rename_i nonempty
          simp only [Prog.ok_bind, mtime, bind_assoc]
          refine again ?_
          simp only [withContext, Except.mapError, propagate, Prog.ok_bind]
          split
          · rename_i early
            exact finished _ (UploadDue.only there inRoot
              (fun due => absurd early (Int.not_lt.mpr due.dated)))
          rename_i dated
          simp only [Prog.pure_eq, Prog.ok_bind, Metadata.seconds]
          refine comes_recorded (fun recorded => ?_) (fun newTime => ?_)
            (fun disturbed _ => comes_disturbed rfl _ (fun steady => disturbed steady.1))
          · exact finished _ (UploadDue.only there inRoot (fun due => due.newTime recorded))
          · exact comes_newTime there inRoot (fun readable newContent named folder =>
              { file := there
                kept := by simpa using kept
                nonempty := fun empty => nonempty (by simp [empty])
                inRoot := inRoot
                dated := Int.not_lt.mp dated
                newTime := newTime
                readable := readable
                newContent := newContent
                named := named
                folder := folder })
  | dir | symlink | brokenLink | special =>
      simp only [Node.metadata, Bool.not_false, Bool.or_true, if_true]
      exact finished _ (fun _ _ due => by simpa [there] using due.file)

theorem comes_syncFile (quiet : env.Undisturbed) (running : w.shutdown = false)
    (configured : ctx.cfg.getPrimaryPair = some primary)
    : Comes env (SyncStage env.md5 ctx primary ignore w path) (syncFile ctx ignore path) w :=
  (comes_syncFile_orEnded configured).steady ⟨quiet, running⟩

/-- The program is about to make that call. -/
def About {α : Type} (call : ProviderCall) (program : Eff α) (_ : World) : Prop :=
  ∃ next, program = .call (.provider call) next

/-- What comes to a call makes it, in every execution and in some. -/
theorem Comes.calls {wanted : ProviderCall → Prop} {call : ProviderCall} {program : Eff α}
    (comes : Comes env (About call) program w) (wants : wanted call)
    : MayCall env wanted program w ∧ MustCall env wanted program w := by
  constructor
  · refine (comes.mayRequest_iff (fun _ _ => Op.Local.not_requested) ?_).mpr trivial
    rintro program state ⟨next, rfl⟩
    exact iff_true_intro (.inl ⟨_, rfl, wants⟩)
  · refine (comes.mustRequest_iff (fun _ _ => Op.Local.not_requested) ?_).mpr trivial
    rintro program state ⟨next, rfl⟩
    exact iff_true_intro (.inl ⟨_, rfl, wants⟩)

section Stages

variable (quiet : env.Undisturbed) (running : w.shutdown = false)

include quiet running

/-- An upload loop that is not stopped begins with the upload. -/
theorem comes_uploading {hash fileName : String} {time : Int} {parentId : DriveId}
    {existing : Option DriveId}
    : Comes env (About (.upload path parentId fileName existing))
        (uploading ctx path key hash time parentId fileName existing) w := by
  unfold uploading
  cases ctx.cfg.retry.maxAttempts - 1 <;>
    exact comes_isCancelled quiet (running ▸ .here ⟨_, rfl⟩)

-----------------------------------------------------------------------------------------
-- Deleting
-----------------------------------------------------------------------------------------

/-- The item that the deletion of a path removes. -/
structure DeleteDue (primary : SyncPair) (ignore : IgnoreMatcher) (w : World) (path : Path)
    (entry : CacheEntry)
    : Prop where
  kept : ignore.isIgnored path (w.disk.isDir path) = false
  known : ∃ key, relStr primary.localPath path = .ok key ∧ w.pathCache.lookup key = some entry

/-- Where `delete` comes to: it is over, or about to remove what is due. -/
theorem comes_delete (configured : ctx.cfg.getPrimaryPair = some primary)
    : Comes env
        (fun program state =>
          Ended program state ∧ (∀ entry, ¬ DeleteDue primary ignore w path entry)
          ∨ ∃ entry, DeleteDue primary ignore w path entry
            ∧ About (.delete entry.driveId) program state)
        (delete ctx ignore path) w := by
  unfold delete
  refine comes_isDir ?_
  split
  · rename_i ignored
    exact .here (.inl ⟨⟨_, rfl⟩, fun entry due => by simpa [ignored] using due.kept⟩)
  rename_i kept
  simp only [configured, orError, propagate, Prog.ok_bind]
  cases inRoot : relStr primary.localPath path with
  | error error =>
      exact .here (.inl ⟨⟨_, rfl⟩, fun entry due => by
        obtain ⟨key, same, -⟩ := due.known
        simp [inRoot] at same⟩)
  | ok key =>
      simp only [deleteItem, bind_assoc]
      refine comes_lookup ?_
      cases found : w.pathCache.lookup key with
      | some entry =>
          simp only [retry, bind_assoc]
          have due : DeleteDue primary ignore w path entry :=
            ⟨by simpa using kept, key, inRoot, found⟩
          cases ctx.cfg.retry.maxAttempts - 1 <;>
            exact comes_isCancelled quiet (running ▸ .here (.inr ⟨entry, due, _, rfl⟩))
      | none =>
          refine comes_known (by rintro _ ⟨⟩) (fun _ _ => quiet.sem_deleteRow) ?_
          refine .here (.inl ⟨⟨_, rfl⟩, fun entry due => ?_⟩)
          obtain ⟨key', same, known⟩ := due.known
          rw [inRoot] at same
          cases same
          simp [found] at known

-----------------------------------------------------------------------------------------
-- Renaming
-----------------------------------------------------------------------------------------

/-- Neither end of the renaming is synchronised. -/
def BothIgnored (ignore : IgnoreMatcher) (w : World) (source target : Path) : Prop :=
  Excluded w.disk ignore source ∧ Excluded w.disk ignore target

/-- The cache and the rows know the source. -/
structure SourceKnown (primary : SyncPair) (w : World) (source : Path) (entry : CacheEntry)
    : Prop where
  cached : w.pathCache.lookup (keyOf primary source) = some entry
  row : keyOf primary source ≠ "" ∧ (w.db.get (keyOf primary source)).isSome

/-- The call that renaming a known source makes. -/
structure RenameDue (primary : SyncPair) (ignore : IgnoreMatcher) (w : World)
    (source target : Path) (entry : CacheEntry) (newName : String) (newParentId : DriveId)
    : Prop where
  seen : ¬ BothIgnored ignore w source target
  known : SourceKnown primary w source entry
  named : target.fileName? = some newName
  folder : w.folderId? primary (parentRelStr primary.localPath target) = some newParentId

/-- What is left of `rename` once it renames. -/
def movingItem (ctx : EngineContext) (primary : SyncPair) (source target : Path)
    (id newParentId : DriveId) (newName : String)
    : Eff Unit := do
  retry ctx.cfg (ask (.provider (.rename id newName newParentId)))
  ask (.removeCascades (keyOf primary source))
  ask (.insert (keyOf primary target) id newParentId)
  propagate (← ask (.renameRow (keyOf primary source) (keyOf primary target)))

/-- Where `rename` comes to without a provider call: it is over, the item is about to be renamed,
or the target is synchronised as a new file.
-/
inductive RenameStage (ctx : EngineContext) (primary : SyncPair) (ignore : IgnoreMatcher)
    (w : World) (source target : Path)
    : Eff Unit → World → Prop
  | finished (result : Except Error Unit)
    (settled
      : BothIgnored ignore w source target
        ∨ (∃ entry, SourceKnown primary w source entry)
          ∧ (∀ entry newName newParentId,
              ¬ RenameDue primary ignore w source target entry newName newParentId)
        ∨ (∀ entry, ¬ SourceKnown primary w source entry)
          ∧ (w.disk.isFile target = false ∨ ignore.isIgnored target (w.disk.isDir target) = true))
    : RenameStage ctx primary ignore w source target (.done result) w
  | renames {entry : CacheEntry} {newName : String} {newParentId : DriveId}
    (due : RenameDue primary ignore w source target entry newName newParentId)
    : RenameStage ctx primary ignore w source target
        (movingItem ctx primary source target entry.driveId newParentId newName) w
  | synchronises (seen : ¬ BothIgnored ignore w source target)
    (unknown : ∀ entry, ¬ SourceKnown primary w source entry)
    (there : w.disk.isFile target = true)
    (kept : ignore.isIgnored target (w.disk.isDir target) = false)
    : RenameStage ctx primary ignore w source target (syncFile ctx ignore target) w

end Stages

theorem comes_inDb {f : Bool → Eff β}
    (rest : Comes env leaf (f (key ≠ "" ∧ (w.db.get key).isSome)) w)
    (failed : ¬ env.Undisturbed → ∀ error, Comes env leaf (.done (.error error)) w)
    : Comes env leaf (rename.inDb key >>= f) w := by
  unfold rename.inDb
  by_cases top : key = ""
  · simpa [top] using rest
  · rw [if_neg top, bind_assoc]
    refine comes_get ?_ failed
    simpa [top, propagate] using rest

theorem comes_bothIgnored {source target : Path} {f : Bool → Eff β}
    (yes : BothIgnored ignore w source target → Comes env leaf (f true) w)
    (no : ¬ BothIgnored ignore w source target → Comes env leaf (f false) w)
    : Comes env leaf (rename.bothIgnored ignore source target >>= f) w := by
  unfold rename.bothIgnored
  rw [bind_assoc]
  refine comes_isDir ?_
  split
  · rename_i ignored
    rw [bind_assoc]
    refine comes_isDir ?_
    cases both : ignore.isIgnored target (w.disk.isDir target) with
    | true => exact yes ⟨ignored, both⟩
    | false => exact no (by simp [BothIgnored, Excluded, both])
  · rename_i kept
    exact no (by simp [BothIgnored, Excluded, kept])

/-- In any environment, `rename` comes to its stage unless SQLite fails. -/
theorem comes_rename_orEnded {source target : Path}
    (configured : ctx.cfg.getPrimaryPair = some primary)
    : Comes env (OrEnded w env.Undisturbed (RenameStage ctx primary ignore w source target))
        (rename ctx ignore source target) w := by
  have fallback (seen : ¬ BothIgnored ignore w source target)
      (unknown : ∀ entry, ¬ SourceKnown primary w source entry)
      : Comes env (OrEnded w env.Undisturbed (RenameStage ctx primary ignore w source target))
          (do
            if ← isFile target then
              if ignore.isIgnored target (← isDir target) then return ()
              else syncFile ctx ignore target
            else return ())
          w := by
    refine comes_isFile ?_
    split
    · rename_i there
      refine comes_isDir ?_
      split
      · rename_i ignored
        exact comes_staged rfl (.finished _ (.inr (.inr ⟨unknown, .inr ignored⟩)))
      · rename_i kept
        exact comes_staged rfl (.synchronises seen unknown there (by simpa using kept))
    · rename_i absent
      exact comes_staged rfl (.finished _ (.inr (.inr ⟨unknown, .inl (by simpa using absent)⟩)))
  unfold rename
  refine comes_bothIgnored (fun both => comes_staged rfl (.finished _ (.inl both))) (fun seen => ?_)
  simp only [configured, orError, propagate, Prog.ok_bind, Bool.false_eq_true, if_false]
  refine comes_lookup ?_
  change Comes env _ (rename.inDb (keyOf primary source) >>= _) w
  refine comes_inDb ?_ (fun disturbed error => comes_disturbed rfl _ disturbed)
  cases cached : w.pathCache.lookup (keyOf primary source) with
  | none =>
      rw [show w.pathCache.lookup ((relStr primary.localPath source).toOption.getD "") = none
        from cached]
      exact fallback seen (fun entry known => by simpa [cached] using known.cached)
  | some entry =>
      rw [show w.pathCache.lookup ((relStr primary.localPath source).toOption.getD "") = some entry
        from cached]
      by_cases row
          : keyOf primary source ≠ "" ∧ (w.db.get (keyOf primary source)).isSome
      · have known : SourceKnown primary w source entry := ⟨cached, row⟩
        rw [decide_eq_true row]
        cases named : target.fileName? with
        | none =>
            refine comes_staged rfl (.finished _ (.inr (.inl ⟨⟨entry, known⟩, ?_⟩)))
            exact fun _ _ _ due => by simpa [named] using due.named
        | some newName =>
            simp only [Prog.ok_bind]
            refine comes_folderId (fun newParentId folder => ?_) (fun unknown error => ?_)
            · exact comes_staged rfl (.renames ⟨seen, known, named, folder⟩)
            · refine comes_staged rfl (.finished _ (.inr (.inl ⟨⟨entry, known⟩, ?_⟩)))
              exact fun _ _ _ due => by simpa [unknown] using due.folder
      · rw [decide_eq_false row]
        exact fallback seen (fun entry known => row known.row)

theorem comes_rename (quiet : env.Undisturbed) {source target : Path}
    (configured : ctx.cfg.getPrimaryPair = some primary)
    : Comes env (RenameStage ctx primary ignore w source target)
        (rename ctx ignore source target) w :=
  (comes_rename_orEnded configured).steady quiet

-----------------------------------------------------------------------------------------
-- The calls of a task
-----------------------------------------------------------------------------------------

/-- The call removes an item, or sends a content. -/
inductive ProviderCall.Replaces : ProviderCall → Prop
  | upload (path : Path) (parentId : DriveId) (name : String) (existing : Option DriveId)
    : Replaces (.upload path parentId name existing)
  | delete (id : DriveId) : Replaces (.delete id)

/-- The rename call for the item that the cache has at the source. -/
def RenameCall (primary : SyncPair) (w : World) (source target : Path) (call : ProviderCall)
    : Prop :=
  ∃ entry newName newParentId,
    w.pathCache.lookup (keyOf primary source) = some entry
    ∧ target.fileName? = some newName
    ∧ w.folderId? primary (parentRelStr primary.localPath target) = some newParentId
    ∧ call = .rename entry.driveId newName newParentId

/-- After its first part `rename` makes rename calls only. -/
theorem uses_movingItem {source target : Path} {id newParentId : DriveId} {newName : String}
    : Uses
        (fun op : Op =>
          ∀ call, op = .provider call → ∃ id name parent, call = .rename id name parent)
        (movingItem ctx primary source target id newParentId newName) := by
  refine Uses.bind (uses_retry (by simp) (by simp) (uses_ask ?_)) (fun _ => ?_)
  · rintro call ⟨⟩
    exact ⟨_, _, _, rfl⟩
  refine Uses.bind (uses_ask (by simp)) (fun _ => ?_)
  refine Uses.bind (uses_ask (by simp)) (fun _ => ?_)
  exact Uses.bind (uses_ask (by simp)) (fun _ => uses_propagate)

/-- And `sync_file` the upload that it was about to make, over and over. -/
theorem uses_uploading {hash fileName : String} {time : Int} {parentId : DriveId}
    {existing : Option DriveId}
    : Uses
        (fun op : Op =>
          ∀ call, op = .provider call → ∃ existing, call = .upload path parentId fileName existing)
        (uploading ctx path key hash time parentId fileName existing) := by
  refine Uses.bind (uses_uploadLoop (by simp) (by simp) (by simp) ?_) (fun result => ?_)
  · rintro existing call ⟨⟩
    exact ⟨existing, rfl⟩
  refine Uses.bind (uses_ask (by simp)) (fun _ => ?_)
  exact Uses.bind (uses_ask (by simp)) (fun _ => uses_propagate)

section Tasks

variable (quiet : env.Undisturbed) (running : w.shutdown = false)
  (configured : ctx.cfg.getPrimaryPair = some primary)

include quiet running configured

theorem syncFile_replaces_iff
    : MayCall env ProviderCall.Replaces (syncFile ctx ignore path) w
      ↔ ∃ data key, UploadDue env.md5 primary ignore w path data key := by
  refine (comes_syncFile quiet running configured).mayRequest_iff
    (fun _ _ => Op.Local.not_requested) ?_
  rintro program state (⟨result, notDue⟩ | ⟨due, named, folder, running⟩)
  · exact ⟨False.elim, fun ⟨data, key, due⟩ => notDue data key due⟩
  · exact iff_of_true ((comes_uploading quiet running).calls (.upload ..)).1 ⟨_, _, due⟩

theorem delete_replaces_iff
    : MayCall env ProviderCall.Replaces (delete ctx ignore path) w
      ↔ ∃ entry, DeleteDue primary ignore w path entry := by
  refine (comes_delete quiet running configured).mayRequest_iff
    (fun _ _ => Op.Local.not_requested) ?_
  rintro program state (⟨⟨result, rfl⟩, notDue⟩ | ⟨entry, due, about⟩)
  · exact ⟨False.elim, fun ⟨entry, due⟩ => notDue entry due⟩
  · exact iff_of_true (Comes.calls (.here about) (.delete _)).1 ⟨entry, due⟩

omit configured in
/-- A renaming that is not stopped begins with the rename call. -/
theorem comes_movingItem {source target : Path} {id newParentId : DriveId} {newName : String}
    : Comes env (About (.rename id newName newParentId))
        (movingItem ctx primary source target id newParentId newName) w := by
  simp only [movingItem, retry]
  cases ctx.cfg.retry.maxAttempts - 1 <;>
    exact comes_isCancelled quiet (running ▸ .here ⟨_, rfl⟩)

/-- `sync_file` does not have to rename. -/
theorem syncFile_not_renames {source target : Path}
    (total : ∀ (op : Op) state, ∃ answer after, env.sem op state answer after)
    : ¬ MustCall env (RenameCall primary w source target) (syncFile ctx ignore path) w := by
  refine ((comes_syncFile quiet running configured).mustRequest_iff
    (fun _ _ => Op.Local.not_requested) ?_).not.mpr not_false
  rintro program state (⟨result, -⟩ | ⟨due, named, folder, running⟩)
  · exact Iff.rfl
  · refine iff_false_intro (uses_uploading.not_mustRequest ?_ total)
    rintro op state uploads ⟨call, rfl, entry, newName, newParentId, -, -, -, same⟩
    obtain ⟨existing, same'⟩ := uploads call rfl
    rw [same'] at same
    cases same

/-- The item is renamed exactly when that is due. -/
theorem rename_mustCall_iff {source target : Path}
    (total : ∀ (op : Op) state, ∃ answer after, env.sem op state answer after)
    : MustCall env (RenameCall primary w source target) (rename ctx ignore source target) w
      ↔ ∃ entry newName newParentId,
          RenameDue primary ignore w source target entry newName newParentId := by
  refine (comes_rename quiet configured).mustRequest_iff (fun _ _ => Op.Local.not_requested) ?_
  rintro program state (⟨result, settled⟩ | ⟨due⟩ | ⟨seen, unknown, there, kept⟩)
  · refine iff_of_false id ?_
    rintro ⟨entry, newName, newParentId, due⟩
    rcases settled with both | ⟨-, notDue⟩ | ⟨unknown, -⟩
    · exact due.seen both
    · exact notDue _ _ _ due
    · exact unknown _ due.known
  · refine iff_of_true ?_ ⟨_, _, _, due⟩
    exact ((comes_movingItem quiet running).calls
      ⟨_, _, _, due.known.cached, due.named, due.folder, rfl⟩).2
  · refine iff_of_false (syncFile_not_renames quiet running configured total) ?_
    rintro ⟨entry, newName, newParentId, due⟩
    exact unknown _ due.known

/-- What is due may be renamed. -/
theorem RenameDue.mayCall {source target : Path} {entry : CacheEntry} {newName : String}
    {newParentId : DriveId}
    (due : RenameDue primary ignore w source target entry newName newParentId)
    : MayCall env (RenameCall primary w source target) (rename ctx ignore source target) w := by
  refine ((comes_rename quiet configured).mayRequest_iff
    (fun _ _ => Op.Local.not_requested) ?_).mpr trivial
  rintro program state (⟨result, settled⟩ | ⟨due'⟩ | ⟨-, unknown, -, -⟩)
  · rcases settled with both | ⟨-, notDue⟩ | ⟨unknown, -⟩
    · exact absurd both due.seen
    · exact absurd due (notDue _ _ _)
    · exact absurd due.known (unknown _)
  · exact iff_true_intro ((comes_movingItem quiet running).calls
      ⟨_, _, _, due'.known.cached, due'.named, due'.folder, rfl⟩).1
  · exact absurd due.known (unknown _)

omit running in
/-- And then nothing is removed or sent for it. -/
theorem RenameDue.not_replaces {source target : Path} {entry : CacheEntry} {newName : String}
    {newParentId : DriveId}
    (due : RenameDue primary ignore w source target entry newName newParentId)
    : ¬ MayCall env ProviderCall.Replaces (rename ctx ignore source target) w := by
  refine ((comes_rename quiet configured).mayRequest_iff
    (fun _ _ => Op.Local.not_requested) ?_).not.mpr not_false
  rintro program state (⟨result, -⟩ | ⟨-⟩ | ⟨-, unknown, -, -⟩)
  · exact Iff.rfl
  · refine iff_false_intro (uses_movingItem.not_mayRequest ?_)
    rintro op state renames ⟨call, rfl, replaces⟩
    obtain ⟨id, name, parent, rfl⟩ := renames call rfl
    cases replaces
  · exact absurd due.known (unknown _)

end Tasks

end Workers

-----------------------------------------------------------------------------------------
-- Any provider
-----------------------------------------------------------------------------------------

/-- The provider may answer anything, and nothing else goes wrong. -/
def Environment.steady (md5 : List UInt8 → String) : Environment where
  md5
  provider _ _ _ _ _ := True
  faults _ := False

theorem Environment.steady_quiet (md5 : List UInt8 → String)
    : (Environment.steady md5).Undisturbed := fun _ disturbed => disturbed

theorem Environment.steady_total (md5 : List UInt8 → String) (op : Op) (w : World)
    : ∃ answer after, (Environment.steady md5).sem op w answer after := by
  refine (Environment.steady md5).sem_total w ?_ op
  intro call
  cases call <;> exact ⟨.error Remote.notFound, w.remote, trivial⟩

end SyncGDrive
