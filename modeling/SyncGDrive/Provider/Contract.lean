import SyncGDrive.Engine.Exclusion
import SyncGDrive.Engine.Footprints
import SyncGDrive.Program.Contracts

/-! The contract between jobs and what they work with: as long as they are told known identifiers
and straight names, they name nothing else.
-/

namespace SyncGDrive

open Program

-----------------------------------------------------------------------------------------
-- Names of the disk
-----------------------------------------------------------------------------------------

/-- No name on the way from a directory to what a walk finds there has a backslash. -/
def Straight (root path : Path) : Prop :=
  ∀ rel, Path.stripPrefix root path = some rel → ∀ name ∈ rel, '\\' ∉ name.toStringLossy.toList

theorem Straight.below {root rel : Path} (clean : Clean rel)
    (straight : ∀ name ∈ rel, '\\' ∉ name.toStringLossy.toList)
    : Straight root (root ++ rel) := by
  intro rel' stripped
  rw [clean.stripPrefix] at stripped
  exact Option.some.inj stripped ▸ straight

def Disk.Straight (disk : Disk) : Prop :=
  ∀ root keep, ∀ entry ∈ disk.walkDir root keep, SyncGDrive.Straight root entry.path

/-- A tree with straight names, whose files have sizes of 64 bits. -/
def Node.Modest : Node → Prop
  | .file data => data.content.length < UInt64.size
  | .dir listing child =>
      ∀ name ∈ listing.names, '\\' ∉ name.toStringLossy.toList ∧ (child name).Modest
  | .symlink target => target.Modest
  | .brokenLink | .special => True

theorem Node.Modest.follow {node there : Node} (modest : node.Modest)
    (followed : node.follow = some there)
    : there.Modest := by
  induction node with
  | symlink target ih => exact ih modest followed
  | brokenLink => cases followed
  | file data =>
      obtain rfl := Option.some.inj followed
      exact modest
  | dir listing child =>
      obtain rfl := Option.some.inj followed
      exact modest
  | special =>
      obtain rfl := Option.some.inj followed
      exact modest

/-- Every path in a modest tree leads to a modest one, by induction on the path. -/
theorem Node.Modest.locate {above : List Node} {node : Node} {path : Path}
    {found : List Node × Node} (modest : node.Modest) (ancestors : ∀ up ∈ above, up.Modest)
    (located : node.locate above path = some found)
    : found.2.Modest := by
  induction path generalizing above node with
  | nil =>
      obtain rfl := Option.some.inj located
      exact modest
  | cons name rest ih =>
      unfold Node.locate at located
      split at located
      · rename_i listing child followed
        have inside : (Node.dir listing child).Modest := modest.follow followed
        split at located
        · cases above with
          | nil => exact ih modest ancestors located
          | cons up above =>
              exact ih (ancestors up (by simp))
                (fun other member => ancestors other (by simp [member]))
                located
        · split at located
          · rename_i listed
            apply ih (inside name listed).2 _ located
            intro up member
            rcases List.mem_cons.mp member with same | older
            · exact same ▸ inside
            · exact ancestors up older
          · split at located
            · exact ih inside ancestors located
            · cases located
      · cases located

theorem Disk.modest_node? {disk : Disk} {path : Path} {node : Node} (modest : disk.root.Modest)
    (found : disk.node? path = some node)
    : node.Modest := by
  obtain ⟨entry, atPath, followed⟩ := Option.bind_eq_some_iff.mp found
  obtain ⟨located, where_, rfl⟩ := Option.map_eq_some_iff.mp atPath
  exact (modest.locate (by simp) where_).follow followed

theorem Disk.sizes_of_modest {disk : Disk} {path : Path} {content : List UInt8}
    (modest : disk.root.Modest) (read : disk.read path = some content)
    : content.length < UInt64.size := by
  unfold Disk.read at read
  split at read
  · rename_i data found
    split at read
    · obtain rfl := Option.some.inj read
      exact Disk.modest_node? modest found
    · cases read
  · cases read

/-- A name in a directory of a modest tree is straight. -/
theorem Disk.Enters.straight_child {disk : Disk} {root path : Path} {keep : Path → Bool → Bool}
    {listing : Listing} {child : OsString → Node} {name : OsString} (modest : disk.root.Modest)
    (enters : disk.Enters root keep path listing child) (yields : name ∈ listing.yielded)
    (above
      : ∃ rel, path = root ++ rel ∧ Clean rel ∧ ∀ name ∈ rel, '\\' ∉ name.toStringLossy.toList)
    : ∃ rel,
        path ++ [name] = root ++ rel ∧ Clean rel
        ∧ ∀ name ∈ rel, '\\' ∉ name.toStringLossy.toList := by
  obtain ⟨rel, rfl, clean, straight⟩ := above
  have listed := Listing.mem_names yields
  have named := Disk.modest_node? modest enters.node?_eq
  refine ⟨rel ++ [name], List.append_assoc .., Clean.append.mpr ⟨clean, ?_⟩, ?_⟩
  · simpa [Clean] using Listing.named_of_mem listed
  · intro other member
    rcases List.mem_append.mp member with early | late
    · exact straight other early
    · exact List.mem_singleton.mp late ▸ (named _ listed).1

/-- The names on the way to a directory are straight, by induction on how it was entered. -/
theorem Disk.Enters.straight {disk : Disk} {root path : Path} {keep : Path → Bool → Bool}
    {listing : Listing} {child : OsString → Node} (modest : disk.root.Modest)
    (enters : disk.Enters root keep path listing child)
    : ∃ rel, path = root ++ rel ∧ Clean rel ∧ ∀ name ∈ rel, '\\' ∉ name.toStringLossy.toList := by
  induction enters with
  | root found kept => exact ⟨[], by simp, by simp [Clean], by simp⟩
  | link found followed => exact ⟨[], by simp, by simp [Clean], by simp⟩
  | child above yields found kept ih => exact above.straight_child modest yields ih

/-- And so are those on the way to what the walk yields. -/
theorem Disk.straight_of_modest {disk : Disk} (modest : disk.root.Modest) : disk.Straight := by
  intro root keep entry member
  obtain ⟨node, yielded, -⟩ := Disk.mem_walkDir.mp member
  generalize entry.path = path at yielded
  obtain ⟨rel, rfl, clean, straight⟩
      : ∃ rel, path = root ++ rel ∧ Clean rel ∧ ∀ name ∈ rel, '\\' ∉ name.toStringLossy.toList := by
    cases yielded with
    | root found kept => exact ⟨[], by simp, by simp [Clean], by simp⟩
    | child above yields kept => exact above.straight_child modest yields (above.straight modest)
  exact .below clean straight

-----------------------------------------------------------------------------------------
-- The contract
-----------------------------------------------------------------------------------------

/-- The identifiers of an answer are known. -/
def ProviderCall.Tells (known : DriveId → Prop) : (call : ProviderCall) → call.Answer → Prop
  | .listRemote _, answer =>
      ∀ index,
        answer = .ok index
        → (∀ file ∈ index.files, known file.driveId ∧ known file.parentId)
          ∧ ∀ dir ∈ index.dirs, known dir.driveId ∧ known dir.parentId
  | .mkdir .., answer => ∀ id, answer = .ok id → known id
  | .upload .., answer => ∀ result, answer = .ok result → known result.driveId
  | .delete _, _ | .rename .., _ => True

/-- The identifiers of a call are known, a new folder has a straight name, and one folder is listed.
-/
def ProviderCall.Names (known : DriveId → Prop) (home : DriveId) : ProviderCall → Prop
  | .listRemote rootId => rootId = home
  | .mkdir parentId name => known parentId ∧ '\\' ∉ name.toList
  | .upload _ parentId _ existingId => known parentId ∧ ∀ id ∈ existingId, known id
  | .delete fileId => known fileId
  | .rename fileId _ newParentId => known fileId ∧ known newParentId

/-- Every identifier that the cache tells is known. -/
def PathCache.Tells (known : DriveId → Prop) (cache : PathCache) : Prop :=
  ∀ key entry, cache.lookup key = some entry → known entry.driveId ∧ known entry.parentId

/-- What jobs may rely on: what they are told is known, and what they find has a straight name. -/
def told (known : DriveId → Prop) : Rely effects
  | .lookup _, answer => ∀ entry, answer = some entry → known entry.driveId ∧ known entry.parentId
  | .walkDir root _, answer => ∀ entry ∈ answer, Straight root entry.path
  | .provider call, answer => call.Tells known answer
  | _, _ => True

/-- What jobs keep to: they cache known identifiers, and ask for known ones. -/
def Op.Names (known : DriveId → Prop) (home : DriveId) : Op → Prop
  | .insert _ driveId parentId => known driveId ∧ known parentId
  | .provider call => call.Names known home
  | _ => True

section Contracts

variable {known : DriveId → Prop} {home : DriveId} {α : Type} {ctx : EngineContext}
  {ignore : IgnoreMatcher} {primary : SyncPair}

theorem Op.Looks.names {op : Op} (looks : op.Looks) : op.Names known home := by
  cases looks <;> trivial

theorem relies_looks {program : Eff α} (uses : Uses Op.Looks program)
    : Relies (told known) (Op.Names known home) (fun _ => True) program :=
  (uses.mono (fun _ => Op.Looks.names)).relies

theorem relies_ask (op : Op) (fine : op.Names known home)
    : Relies (told known) (Op.Names known home) (told known op) (ask op) :=
  relies_perform fine

/-- A retried operation is relied on as its attempts are. -/
theorem relies_retry {cfg : AppConfig} {operation : Eff (Except Error α)} {good : α → Prop}
    (attempt
      : Relies (told known) (Op.Names known home)
          (fun answer => ∀ value, answer = .ok value → good value)
          operation)
    : Relies (told known) (Op.Names known home) good (retry cfg operation) := by
  have turn (again : Option (Eff α))
      (rest : ∀ next ∈ again, Relies (told known) (Op.Names known home) good next)
      : Relies (told known) (Op.Names known home) good
          (retryAttempt cfg.retry.initialBackoffMs operation again) := by
    apply (relies_ask .isCancelled trivial).bind
    intro cancelled _
    apply Relies.ite (fun _ => relies_throw)
    intro _
    apply attempt.bind
    intro answer fine
    cases answer with
    | ok value => exact fine value rfl
    | error error =>
        cases again with
        | none => trivial
        | some next =>
            apply (relies_ask (.sleep _) trivial).bind
            intro stopped _
            exact .ite (fun _ => relies_throw) (fun _ => rest next rfl)
  unfold retry
  induction cfg.retry.maxAttempts - 1 with
  | zero => exact turn none (by simp)
  | succ left ih => exact turn _ (by simpa using ih)

-----------------------------------------------------------------------------------------
-- Workers
-----------------------------------------------------------------------------------------

theorem Op.Observes.names {op : Op} (observes : op.Observes) : op.Names known home := by
  cases observes <;> trivial

theorem relies_observes {program : Eff α} (uses : Uses Op.Observes program)
    : Relies (told known) (Op.Names known home) (fun _ => True) program :=
  (uses.mono (fun _ => Op.Observes.names)).relies

/-- A folder is the configured one or a cached one. -/
theorem relies_folderId {rel missing : String} (root : known primary.remoteFolderId)
    : Relies (told known) (Op.Names known home) known (folderId primary rel missing) := by
  apply Relies.ite
  · intro _
    exact relies_pure root
  · intro _
    apply (relies_ask (.lookup rel) trivial).bind
    intro cached plain
    apply relies_propagate
    intro id given
    cases cached with
    | none => cases given
    | some entry =>
        obtain rfl := Except.ok.inj given
        exact (plain entry rfl).1

/-- The upload loop goes on with the identifier that the last attempt was told, by induction on the
attempts left.
-/
theorem relies_uploadLoop {retry : RetryConfig} {path : Path} {parentId : DriveId}
    {fileName : String} {lastAttemptId : Option DriveId} {left : Nat} (folder : known parentId)
    (last : ∀ id ∈ lastAttemptId, known id)
    : Relies (told known) (Op.Names known home) (fun result => known result.driveId)
        (uploadLoop retry path parentId fileName lastAttemptId left) := by
  have attempt (last : Option DriveId) (again : Option (Option DriveId → Eff UploadResult))
      (plain : ∀ id ∈ last, known id)
      (rest
        : ∀ next ∈ again,
            ∀ id : Option DriveId,
              (∀ given ∈ id, known given)
              → Relies (told known) (Op.Names known home) (fun result => known result.driveId)
                (next id))
      : Relies (told known) (Op.Names known home) (fun result => known result.driveId)
          (uploadAttempt retry path parentId fileName last again) := by
    have pause (next : Eff UploadResult)
        (later
          : Relies (told known) (Op.Names known home) (fun result => known result.driveId) next)
        : Relies (told known) (Op.Names known home) (fun result => known result.driveId)
            (uploadAttempt.pauseThen retry next) := by
      apply (relies_ask (.sleep _) trivial).bind
      intro stopped _
      exact .ite (fun _ => relies_throw) (fun _ => later)
    apply (relies_ask .isCancelled trivial).bind
    intro cancelled _
    apply Relies.ite (fun _ => relies_throw)
    intro _
    apply (relies_ask (.provider (.upload path parentId fileName last)) ⟨folder, plain⟩).bind
    intro answer given
    cases answer with
    | ok result =>
        have sure : known result.driveId := given result rfl
        have verified
            : Relies (told known) (Op.Names known home) (fun _ => True)
                (verifyUpload path result) := by
          apply (relies_ask (.md5 path) trivial).bind
          intro hash _
          cases hash with
          | error error => trivial
          | ok hash => exact .ite (fun _ => relies_pure trivial) (fun _ => relies_pure trivial)
        apply verified.bind
        intro verdict _
        split
        · exact relies_pure sure
        · cases again with
          | none => exact relies_throw
          | some next =>
              apply pause
              apply rest next rfl
              intro id same
              obtain rfl := Option.some.inj same
              exact sure
    | error error =>
        cases again with
        | none => exact relies_throw
        | some next => exact pause _ (rest next rfl _ plain)
  induction left generalizing lastAttemptId with
  | zero =>
      apply attempt _ none last
      intro next none_
      cases none_
  | succ left ih =>
      apply attempt _ _ last
      intro next same id plain
      obtain rfl := Option.some.inj same
      exact ih plain

theorem relies_uploadFile {path : Path} {rel hash : String} {time : Int} {size : Nat}
    (root : known primary.remoteFolderId)
    : Relies (told known) (Op.Names known home) (fun _ => True)
        (uploadFile ctx primary path rel hash time size) := by
  apply (relies_propagate (fun _ _ => trivial : ∀ _, _ → True)).bind
  intro fileName _
  apply (relies_folderId root).bind
  intro parentId folder
  apply (relies_ask (.lookup rel) trivial).bind
  intro existing cached
  apply (relies_ask (.report _) trivial).bind
  intro _ _
  have sure : ∀ id ∈ existing.map CacheEntry.driveId, known id := by
    intro id member
    obtain ⟨entry, same, rfl⟩ := Option.map_eq_some_iff.mp member
    exact (cached entry same).1
  apply (relies_uploadLoop folder sure).bind
  intro result given
  apply (relies_ask (.insert rel result.driveId parentId) ⟨given, folder⟩).bind
  intro _ _
  apply (relies_ask (.upsert _) trivial).bind
  intro answer _
  exact relies_propagate (fun _ _ => trivial)

theorem relies_syncFile {path : Path}
    (root : ∀ primary, ctx.cfg.getPrimaryPair = some primary → known primary.remoteFolderId)
    : Relies (told known) (Op.Names known home) (fun _ => True) (syncFile ctx ignore path) := by
  apply (relies_ask (.metadata path) trivial).bind
  intro answer _
  apply (relies_propagate (fun _ _ => trivial : ∀ _, _ → True)).bind
  intro stat _
  apply Relies.ite (fun _ => relies_pure trivial)
  intro _
  apply (relies_ask (.metadata path) trivial).bind
  intro answer _
  apply (relies_propagate (fun _ _ => trivial : ∀ _, _ → True)).bind
  intro metadata _
  apply Relies.ite (fun _ => relies_pure trivial)
  intro _
  cases configured : ctx.cfg.getPrimaryPair with
  | none => trivial
  | some primary =>
      have root := root primary configured
      cases inRoot : relStr primary.localPath path with
      | error error => simp [orError, propagate, inRoot, Relies]
      | ok key =>
          simp only [orError, propagate, Prog.ok_bind, inRoot]
          have recorded (test : FileEntry → Bool)
              : Relies (told known) (Op.Names known home) (fun _ => True)
                  (syncFile.recorded key test) :=
            relies_observes (uses_recorded (.get key) (.lookup key))
          apply (relies_observes (uses_mtime (.metadata path))).bind
          intro time _
          apply (recorded _).bind
          intro current _
          apply Relies.ite (fun _ => relies_pure trivial)
          intro _
          apply (relies_ask .isCancelled trivial).bind
          intro cancelled _
          apply Relies.ite (fun _ => relies_pure trivial)
          intro _
          have digest : Uses Op.Observes (hashFile path) :=
            Uses.bind (uses_ask (.md5 path)) (fun _ => uses_pure)
          apply (relies_observes digest).bind
          intro hashed _
          cases hashed with
          | error error =>
              apply (relies_observes (uses_isFile (.metadata path))).bind
              intro there _
              apply Relies.ite (fun _ => relies_pure trivial)
              intro _
              apply (relies_ask .isCancelled trivial).bind
              intro cancelled _
              exact .ite (fun _ => relies_pure trivial) (fun _ => relies_throw)
          | ok hash =>
              apply (recorded _).bind
              intro touched _
              apply Relies.ite
              · intro _
                apply (relies_ask (.upsert _) trivial).bind
                intro answer _
                exact relies_propagate (fun _ _ => trivial)
              · intro _
                exact relies_uploadFile root

theorem relies_delete {path : Path}
    : Relies (told known) (Op.Names known home) (fun _ => True)
        (SyncGDrive.delete ctx ignore path) := by
  apply (relies_observes (uses_isDir (.metadata path))).bind
  intro directory _
  apply Relies.ite (fun _ => relies_pure trivial)
  intro _
  cases configured : ctx.cfg.getPrimaryPair with
  | none => trivial
  | some primary =>
      cases inRoot : relStr primary.localPath path with
      | error error => simp [orError, propagate, inRoot, Relies]
      | ok key =>
          simp only [orError, propagate, Prog.ok_bind, inRoot]
          have deleted
              : Relies (told known) (Op.Names known home) (fun _ => True) (deleteItem ctx key) := by
            apply (relies_ask (.lookup key) trivial).bind
            intro cached plain
            cases cached with
            | none => exact relies_pure trivial
            | some entry =>
                have sure : known entry.driveId := (plain entry rfl).1
                have deletion
                    : Relies (told known) (Op.Names known home) (fun _ => True)
                        (retry ctx.cfg (ask (.provider (.delete entry.driveId)))) := by
                  apply relies_retry
                  exact (relies_ask (.provider (.delete entry.driveId)) sure).mono
                    (fun _ _ _ _ => trivial)
                apply deletion.bind
                intro _ _
                exact (relies_ask (.removeCascades key) trivial).mono (fun _ _ => trivial)
          apply deleted.bind
          intro _ _
          apply (relies_ask (.deleteRow key) trivial).bind
          intro answer _
          exact relies_propagate (fun _ _ => trivial)

theorem relies_rename {source target : Path}
    (root : ∀ primary, ctx.cfg.getPrimaryPair = some primary → known primary.remoteFolderId)
    : Relies (told known) (Op.Names known home) (fun _ => True)
        (SyncGDrive.rename ctx ignore source target) := by
  have both : Uses Op.Observes (SyncGDrive.rename.bothIgnored ignore source target) := by
    refine Uses.bind (uses_isDir (.metadata _)) (fun _ => .ite (fun _ => ?_) (fun _ => uses_pure))
    exact Uses.bind (uses_isDir (.metadata _)) (fun _ => uses_pure)
  apply (relies_observes both).bind
  intro ignored _
  apply Relies.ite (fun _ => relies_pure trivial)
  intro _
  cases configured : ctx.cfg.getPrimaryPair with
  | none => trivial
  | some primary =>
      simp only [orError, propagate, Prog.ok_bind]
      apply (relies_ask (.lookup _) trivial).bind
      intro sourceEntry plain
      have stored : Uses Op.Observes
          (SyncGDrive.rename.inDb ((relStr primary.localPath source).toOption.getD "")) := by
        refine .ite (fun _ => uses_pure) (fun _ => ?_)
        exact Uses.bind (uses_ask (.get _))
          (fun _ => Uses.bind uses_propagate (fun _ => uses_pure))
      apply (relies_observes stored).bind
      intro inDb _
      -- a source that is not fully known makes the target a new file
      have afresh
          : Relies (told known) (Op.Names known home) (fun _ => True)
              (do
                if ← isFile target then
                  if ignore.isIgnored target (← isDir target) then return ()
                  else syncFile ctx ignore target
                else return ()) := by
        apply (relies_observes (uses_isFile (.metadata _))).bind
        intro there _
        apply Relies.ite
        · intro _
          apply (relies_observes (uses_isDir (.metadata _))).bind
          intro directory _
          exact .ite (fun _ => relies_pure trivial) (fun _ => relies_syncFile root)
        · intro _
          exact relies_pure trivial
      cases sourceEntry with
      | none => exact afresh
      | some entry =>
          cases inDb with
          | false => exact afresh
          | true =>
              have sure : known entry.driveId := (plain entry rfl).1
              apply (relies_propagate (fun _ _ => trivial : ∀ _, _ → True)).bind
              intro newName _
              apply (relies_folderId (root primary configured)).bind
              intro newParentId folder
              have moved
                  : Relies (told known) (Op.Names known home) (fun _ => True)
                      (retry ctx.cfg
                        (ask (.provider (.rename entry.driveId newName newParentId)))) := by
                apply relies_retry
                exact (relies_ask (.provider (.rename entry.driveId newName newParentId))
                  ⟨sure, folder⟩).mono (fun _ _ _ _ => trivial)
              apply moved.bind
              intro _ _
              apply (relies_ask (.removeCascades _) trivial).bind
              intro _ _
              apply (relies_ask (.insert _ entry.driveId newParentId) ⟨sure, folder⟩).bind
              intro _ _
              apply (relies_ask (.renameRow _ _) trivial).bind
              intro answer _
              exact relies_propagate (fun _ _ => trivial)

/-- A worker keeps its side of the contract. -/
theorem relies_handle {task : Task}
    (root : ∀ primary, ctx.cfg.getPrimaryPair = some primary → known primary.remoteFolderId)
    : Relies (told known) (Op.Names known home) (fun _ => True) (handle ctx ignore task) := by
  apply Relies.ite (fun _ => relies_pure trivial)
  intro _
  cases task with
  | syncFile path => exact relies_syncFile root
  | delete path => exact relies_delete
  | rename source target => exact relies_rename root

-----------------------------------------------------------------------------------------
-- Scans
-----------------------------------------------------------------------------------------

/-- What a listing tells is plain, also when it fails. -/
theorem relies_listRemote (homed : primary.remoteFolderId = home)
    : Relies (told known) (Op.Names known home)
        (fun index =>
          (∀ file ∈ index.files, known file.driveId ∧ known file.parentId)
          ∧ ∀ dir ∈ index.dirs, known dir.driveId ∧ known dir.parentId)
        (SyncGDrive.listRemote primary) := by
  apply (relies_looks uses_scanProgress).bind
  intro _ _
  apply (relies_ask (.provider (.listRemote primary.remoteFolderId)) homed).bind
  intro answer given
  cases answer with
  | ok index => exact relies_pure (given index rfl)
  | error error => exact relies_pure ⟨by simp, by simp⟩

theorem relies_fillCache {index : RemoteIndex}
    (files : ∀ file ∈ index.files, known file.driveId ∧ known file.parentId)
    (dirs : ∀ dir ∈ index.dirs, known dir.driveId ∧ known dir.parentId)
    : Relies (told known) (Op.Names known home) (fun _ => True) (fillCache index) := by
  have folders
      : Relies (told known) (Op.Names known home) (fun _ => True)
          (index.dirs.forM (fun dir => ask (.insert dir.relativePath dir.driveId dir.parentId))) :=
    relies_forM _ (fun dir member => (relies_ask (.insert ..) (dirs dir member)).mono
      (fun _ _ => trivial))
  apply folders.bind
  intro _ _
  exact relies_forM _ (fun file member => (relies_ask (.insert ..) (files file member)).mono
    (fun _ _ => trivial))

/-- The directories of the inventory have straight names. -/
theorem relies_takeInventory
    : Relies (told known) (Op.Names known home)
        (fun inventory => ∀ dir ∈ inventory.localDirs, Straight primary.localPath dir)
        (takeInventory primary ignore) := by
  apply (relies_looks uses_scanProgress).bind
  intro _ _
  apply (relies_ask (.walkDir primary.localPath ignore.keeps) trivial).bind
  intro entries straight
  apply relies_foldlM entries
  · intro inventory sure entry member
    apply (relies_ask .isCancelled trivial).bind
    intro cancelled _
    apply Relies.ite (fun _ => relies_throw)
    intro _
    apply (relies_looks (uses_reportWhen (.progress ..))).bind
    intro _ _
    apply relies_pure
    intro dir here
    unfold Inventory.add at here
    split at here
    · simp only at here
      split at here
      · rcases List.mem_append.mp here with old | new
        · exact sure dir old
        · rw [List.mem_singleton.mp new]
          exact straight entry member
      · exact sure dir here
    · exact sure dir here
    · exact sure dir here
  · simp

/-- A new folder is made under its parent, by a straight name. -/
theorem relies_enterFolder {current : String × DriveId} {name : OsString}
    (earnest : ctx.dryRun = false) (plain : known current.2)
    (straight : '\\' ∉ name.toStringLossy.toList)
    : Relies (told known) (Op.Names known home) (fun next => known next.2)
        (enterFolder ctx current name) := by
  apply (relies_ask (.lookup _) trivial).bind
  intro cached sure
  cases cached with
  | some entry => exact relies_pure (sure entry rfl).1
  | none =>
      have created
          : Relies (told known) (Op.Names known home) known
              (enterFolder.create ctx current (pushKey current.1 name.toStringLossy)
                name.toStringLossy) := by
        unfold enterFolder.create
        rw [earnest]
        apply relies_retry
        exact relies_ask (.provider (.mkdir current.2 name.toStringLossy)) ⟨plain, straight⟩
      apply created.bind
      intro newId given
      apply (relies_ask (.insert _ newId current.2) ⟨given, plain⟩).bind
      intro _ _
      exact relies_pure given

theorem relies_createFolders {localDirs : List Path} (earnest : ctx.dryRun = false)
    (root : known primary.remoteFolderId)
    (straight : ∀ dir ∈ localDirs, Straight primary.localPath dir)
    : Relies (told known) (Op.Names known home) (fun _ => True)
        (createFolders ctx primary localDirs) := by
  apply relies_forM
  intro dir member
  apply (relies_ask .isCancelled trivial).bind
  intro cancelled _
  apply Relies.ite (fun _ => relies_throw)
  intro _
  cases inside : Path.stripPrefix primary.localPath dir.1 with
  | none => exact relies_throw
  | some rel =>
      apply (relies_looks uses_scanProgress).bind
      intro _ _
      apply (relies_ask (.lookup _) trivial).bind
      intro cached _
      cases cached with
      | some entry => exact relies_pure trivial
      | none =>
          have walked
              : Relies (told known) (Op.Names known home) (fun reached => known reached.2)
                  (rel.foldlM (enterFolder ctx) ("", primary.remoteFolderId)) := by
            apply relies_foldlM rel
            · intro current plain name here
              have listed : dir.1 ∈ localDirs := List.fst_mem_of_mem_zipIdx member
              exact relies_enterFolder earnest plain (straight dir.1 listed rel inside name here)
            · exact root
          apply walked.bind
          intro _ _
          exact relies_pure trivial

theorem Op.OfReconcile.names {op : Op} (reconciles : op.OfReconcile) : op.Names known home := by
  cases reconciles with
  | looks looks => exact looks.names
  | upsert entry => trivial
  | send task => trivial

/-- And so does a scan. -/
theorem relies_scan (earnest : ctx.dryRun = false)
    (homed : ∀ primary, ctx.cfg.getPrimaryPair = some primary → primary.remoteFolderId = home)
    (root : known home)
    : Relies (told known) (Op.Names known home) (fun _ => True) (scan ctx ignore) := by
  unfold scan
  cases configured : ctx.cfg.getPrimaryPair with
  | none => trivial
  | some primary =>
      simp only [orError, propagate, Prog.ok_bind]
      apply (relies_listRemote (homed primary configured)).bind
      intro index plain
      apply (relies_fillCache plain.1 plain.2).bind
      intro _ _
      apply relies_takeInventory.bind
      intro inventory straight
      apply (relies_createFolders earnest (homed primary configured ▸ root) straight).bind
      intro _ _
      exact (uses_reconcile.mono (fun _ => Op.OfReconcile.names)).relies

-----------------------------------------------------------------------------------------
-- Whole runs
-----------------------------------------------------------------------------------------

/-- Jobs in order, each for its result. -/
def Job.inOrder (ctx : EngineContext) (ignore : IgnoreMatcher)
    : List Job → Eff (List (Except Error Unit))
  | [] => return []
  | job :: rest => do
      let result ← outcome (job.program ctx ignore)
      return result :: (← Job.inOrder ctx ignore rest)

theorem relies_inOrder {jobs : List Job} (earnest : ctx.dryRun = false)
    (homed : ∀ primary, ctx.cfg.getPrimaryPair = some primary → primary.remoteFolderId = home)
    (root : known home)
    : Relies (told known) (Op.Names known home) (fun _ => True) (Job.inOrder ctx ignore jobs) := by
  induction jobs with
  | nil => exact relies_pure trivial
  | cons job rest ih =>
      have one
          : Relies (told known) (Op.Names known home) (fun _ => True) (job.program ctx ignore) := by
        cases job with
        | scan => exact relies_scan earnest homed root
        | task order => exact relies_handle (fun primary same => homed primary same ▸ root)
      apply (relies_outcome one).bind
      intro result _
      apply ih.bind
      intro results _
      exact relies_pure trivial

end Contracts

end SyncGDrive
