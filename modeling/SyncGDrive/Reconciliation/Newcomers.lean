import SyncGDrive.Engine.Calls
import SyncGDrive.Reconciliation.Worker
import SyncGDrive.Remote.Listing

/-! What `sync_file` brings about for a file at any depth: it makes no folder, so the copy arrives
only where the folders above it are known already.
-/

namespace SyncGDrive

open Program

-----------------------------------------------------------------------------------------
-- Names
-----------------------------------------------------------------------------------------

/-- A directory above a file has another key. -/
theorem relKey_above_ne {above front : Path} {name : OsString}
    (proper : ProperNames (above ++ [name])) (nonempty : front ≠ [])
    (below : front <+: above)
    : relKey front ≠ relKey (above ++ [name]) := by
  obtain ⟨back, rfl⟩ := below
  rw [List.append_assoc] at proper ⊢
  have properFront := (ProperNames.append.mp proper).1
  rw [← relKey_lossy front, ← relKey_lossy (front ++ _)]
  intro same
  have same :=
    relKey_inj (properFront.plain nonempty) (proper.plain (by simp [nonempty])) same
  have lengths := congrArg List.length same
  simp [Path.lossy] at lengths

-----------------------------------------------------------------------------------------
-- Arrivals
-----------------------------------------------------------------------------------------

/-- The cache has the folder at a path, under the identifier that it has there. -/
def World.KnowsFolder (w : World) (root : DriveId) (rel : Path) : Prop :=
  ∃ entry,
    w.pathCache.lookup (relKey rel) = some entry
    ∧ w.remote.FolderAt root entry.driveId (relKey rel)

/-- The content is at its path, below folders that the cache knows. -/
structure Arrived (root : DriveId) (above : Path) (name : OsString) (content : List UInt8)
    (w : World)
    : Prop where
  file : w.remote.FileAt root (relKey (above ++ [name])) content
  folders : ∀ front, front ≠ [] → front <+: above → w.KnowsFolder root front

/-- What an upload of the content does for its path: a new file arrives there; what is cached for
the path has to be a file, and to be there unless another such file is.
-/
def Remote.Takes (remote : Remote) (root : DriveId) (above : Path) (key : String)
    (content : List UInt8)
    : Option DriveId → Prop
  | none => True
  | some id =>
      ∃ item old,
        remote.item? id = some item ∧ item.kind = .file old
        ∧ (item.trashed = false ∧ remote.FolderAt root item.parent (relKey above)
          ∨ ∃ id' item', id' ≠ id ∧ remote.ItemAt root id' item' key ∧ item'.kind = .file content)

/-- `sync_file` ends at once: by the time in the row, or for a shutdown. -/
def World.PassesOver (w : World) (key : String) (data : FileData) : Prop :=
  w.Recorded key (fun entry => entry.mtime = data.modified / 1000000000) ∨ w.shutdown = true

/-- The file arrives: the folders above it are known, and it either is there or can be sent. -/
structure Deliverable (md5 : List UInt8 → String) (root : DriveId) (above : Path) (name : OsString)
    (data : FileData) (w : World)
    : Prop where
  folders : ∀ front, front ≠ [] → front <+: above → w.KnowsFolder root front
  dated : 0 ≤ data.modified
  passedOver
    : w.PassesOver (relKey (above ++ [name])) data
      → w.remote.FileAt root (relKey (above ++ [name])) data.content
  readable : ¬ w.PassesOver (relKey (above ++ [name])) data → data.readable = true
  sameHash
    : ¬ w.PassesOver (relKey (above ++ [name])) data
      → w.Recorded (relKey (above ++ [name])) (fun entry => entry.hash = md5 data.content)
      → w.remote.FileAt root (relKey (above ++ [name])) data.content
  taken
    : ¬ w.PassesOver (relKey (above ++ [name])) data
      → ¬ w.Recorded (relKey (above ++ [name])) (fun entry => entry.hash = md5 data.content)
      → w.remote.Takes root above (relKey (above ++ [name])) data.content
          ((w.pathCache.lookup (relKey (above ++ [name]))).map CacheEntry.driveId)

-----------------------------------------------------------------------------------------
-- One upload
-----------------------------------------------------------------------------------------

section Uploads

variable {remote : Remote} {root target : DriveId} {new : RemoteItem} {content : List UInt8}

/-- A file that is put somewhere is found there, and the others are where they were. -/
theorem Remote.fileAt_put {key : String}
    (file : ∀ item, remote.item? target = some item → item.kind ≠ .folder)
    (newFile : new.kind = .file content)
    : (remote.put target new).FileAt root key content
      ↔ (new.trashed = false
          ∧ ∃ above, remote.FolderAt root new.parent above ∧ key = pushKey above new.name)
        ∨ ∃ id item, id ≠ target ∧ remote.ItemAt root id item key ∧ item.kind = .file content := by
  have newKind : new.kind ≠ .folder := by simp [newFile]
  simp only [FileAt, ItemAt, folderAt_put file newKind, item?_put]
  constructor
  · rintro ⟨id, item, ⟨found, live, there⟩, kind⟩
    split at found
    · obtain rfl := Option.some.inj found
      exact .inl ⟨live, there⟩
    · rename_i other
      exact .inr ⟨id, item, other, ⟨found, live, there⟩, kind⟩
  · rintro (⟨live, there⟩ | ⟨id, item, other, ⟨found, live, there⟩, kind⟩)
    · exact ⟨target, new, ⟨if_pos rfl, live, there⟩, newFile⟩
    · exact ⟨id, item, ⟨(if_neg other).trans found, live, there⟩, kind⟩

/-- An upload in place of a cached file. -/
theorem Remote.upload_file {fresh parent id : DriveId} {name : String} {item : RemoteItem}
    {old : List UInt8} (found : remote.item? id = some item) (file : item.kind = .file old)
    : remote.upload fresh parent name (some id) content
      = (.ok id, remote.put id ⟨name, item.parent, .file content, item.trashed⟩) := by
  obtain ⟨itemName, standing, kind, trashed⟩ := item
  obtain rfl : kind = .file old := file
  simp [upload, found]

/-- An upload in place of anything else. -/
theorem Remote.upload_missing {fresh parent id : DriveId} {name : String}
    (noFile : ∀ item old, remote.item? id = some item → item.kind ≠ .file old)
    : remote.upload fresh parent name (some id) content = (.error notFound, remote) := by
  cases found : remote.item? id with
  | none => simp [upload, found]
  | some item =>
      obtain ⟨itemName, standing, kind, trashed⟩ := item
      cases kind with
      | folder => simp [upload, found]
      | file old => exact absurd rfl (noFile _ old found)

/-- An upload makes and moves no folder. -/
theorem Remote.upload_folderAt {fresh parent : DriveId} {name : String}
    {existing : Option DriveId} (unused : remote.Unused root fresh) {id : DriveId} {key : String}
    : (remote.upload fresh parent name existing content).2.FolderAt root id key
      ↔ remote.FolderAt root id key := by
  cases existing with
  | none =>
      refine folderAt_put (fun item found => ?_) (by simp)
      rw [unused.unknown] at found
      cases found
  | some cached =>
      by_cases isFile : ∃ item old, remote.item? cached = some item ∧ item.kind = .file old
      · obtain ⟨item, old, found, kind⟩ := isFile
        rw [upload_file found kind]
        exact folderAt_replaced found (by simp [kind]) (by simp)
      · rw [upload_missing (fun item old found kind => isFile ⟨item, old, found, kind⟩)]

/-- What an upload does to its path, where it goes through. -/
theorem Remote.upload_fileAt {fresh parent : DriveId} {above : Path} {name key : String}
    {existing : Option DriveId} {id : DriveId} (unused : remote.Unused root fresh)
    (folder : remote.FolderAt root parent (relKey above))
    (spelled : key = pushKey (relKey above) name)
    (uploaded : (remote.upload fresh parent name existing content).1 = .ok id)
    : (remote.upload fresh parent name existing content).2.FileAt root key content
      ↔ remote.Takes root above key content existing := by
  cases existing with
  | none =>
      have new : ∀ item, remote.item? fresh = some item → item.kind ≠ .folder := by
        intro item found
        rw [unused.unknown] at found
        cases found
      simp only [Takes, iff_true]
      exact (fileAt_put new rfl).mpr (.inl ⟨rfl, _, folder, spelled⟩)
  | some cached =>
      by_cases isFile : ∃ item old, remote.item? cached = some item ∧ item.kind = .file old
      · obtain ⟨item, old, found, kind⟩ := isFile
        have file : ∀ item, remote.item? cached = some item → item.kind ≠ .folder := by
          intro item' found'
          rw [found, Option.some.injEq] at found'
          simp [← found', kind]
        rw [upload_file found kind, fileAt_put file rfl]
        constructor
        · rintro (⟨live, above', there, same⟩ | elsewhere)
          · rw [spelled] at same
            exact ⟨item, old, found, kind, .inl ⟨live, pushKey_inj same ▸ there⟩⟩
          · exact ⟨item, old, found, kind, .inr elsewhere⟩
        · rintro ⟨item', old', found', -, there⟩
          rw [found, Option.some.injEq] at found'
          subst found'
          rcases there with ⟨live, there⟩ | elsewhere
          · exact .inl ⟨live, _, there, spelled⟩
          · exact .inr elsewhere
      · rw [upload_missing (fun item old found kind => isFile ⟨item, old, found, kind⟩)] at uploaded
        cases uploaded

/-- A refused upload has nothing to go to. -/
theorem Remote.upload_refused {fresh parent : DriveId} {above : Path} {name key : String}
    {existing : Option DriveId} {error : Error}
    (refused : (remote.upload fresh parent name existing content).1 = .error error)
    : ¬ remote.Takes root above key content existing
      ∧ ∀ fresh',
        remote.upload fresh' parent name existing content = (.error notFound, remote) := by
  cases existing with
  | none => cases refused
  | some cached =>
      by_cases isFile : ∃ item old, remote.item? cached = some item ∧ item.kind = .file old
      · obtain ⟨item, old, found, kind⟩ := isFile
        rw [upload_file found kind] at refused
        cases refused
      · constructor
        · rintro ⟨item, old, found, kind, -⟩
          exact isFile ⟨item, old, found, kind⟩
        · intro fresh'
          exact upload_missing (fun item old found kind => isFile ⟨item, old, found, kind⟩)

end Uploads

-----------------------------------------------------------------------------------------
-- The upload loop
-----------------------------------------------------------------------------------------

section Loops

variable {md5 : List UInt8 → String} {root : DriveId} {w : World} {config : RetryConfig}
  {path : Path} {parent : DriveId} {name : String} {existing : Option DriveId} {left : Nat}
  {content : List UInt8}

/-- Every execution comes to a leaf, whatever it asks for on the way. -/
abbrev CalmlyComes {α : Type} (md5 : List UInt8 → String) (root : DriveId)
    (leaf : Eff α → World → Prop) (program : Eff α) (w : World)
    : Prop :=
  ComesTo (Environment.calm md5 root).sem (fun _ => True) leaf program w

/-- The upload of a readable file, with what the service makes of it. -/
theorem Environment.calm_upload (read : w.disk.read path = some content)
    {answer : Except Error UploadResult} {after : World}
    : (Environment.calm md5 root).sem (.provider (.upload path parent name existing)) w answer after
      ↔ ∃ fresh,
          w.remote.Unused root fresh
          ∧ answer
            = (w.remote.upload fresh parent name existing content).1.map
                (fun id => ⟨id, md5 content, content.length⟩)
          ∧ after =
              { w with remote := (w.remote.upload fresh parent name existing content).2 } := by
  simp only [Environment.sem, Environment.calm, honestProvider, read]
  constructor
  · rintro ⟨remote, ⟨fresh, unused, rfl, rfl⟩, rfl⟩
    exact ⟨fresh, unused, rfl, rfl⟩
  · rintro ⟨fresh, unused, rfl, rfl⟩
    exact ⟨_, ⟨fresh, unused, rfl, rfl⟩, rfl⟩

/-- Where the file is readable, an attempt asks for the upload of its content. -/
theorem comes_uploadAttempt {again : Option (Option DriveId → Eff UploadResult)} {α : Type}
    {leaf : Eff α → World → Prop} {f : UploadResult → Eff α} (running : w.shutdown = false)
    (read : w.disk.read path = some content)
    (stored
      : ∀ fresh id,
          w.remote.Unused root fresh
          → (w.remote.upload fresh parent name existing content).1 = .ok id
          → Comes (.calm md5 root) leaf (f ⟨id, md5 content, content.length⟩)
              { w with remote := (w.remote.upload fresh parent name existing content).2 })
    (refused
      : ∀ fresh error,
          (w.remote.upload fresh parent name existing content).1 = .error error
          → CalmlyComes md5 root leaf
              (uploadAttempt.orNext config again (.msg ("upload a échoué: " ++ error.display))
                existing >>= f)
              { w with remote := (w.remote.upload fresh parent name existing content).2 })
    : CalmlyComes md5 root leaf
        (uploadAttempt config path parent name existing again >>= f) w := by
  unfold uploadAttempt
  simp only [bind_assoc]
  refine comesTo_ask trivial
    ⟨_, _, Environment.calm_undisturbed.sem_isCancelled.mpr ⟨rfl, rfl⟩⟩ ?_
  intro cancelled after served
  obtain ⟨rfl, rfl⟩ := Environment.calm_undisturbed.sem_isCancelled.mp served
  simp only [running, Bool.false_eq_true, if_false, bind_assoc]
  obtain ⟨fresh, unused⟩ := World.remote after |>.exists_unused root
  refine comesTo_ask trivial
    ⟨_, _, (Environment.calm_upload read).mpr ⟨fresh, unused, rfl, rfl⟩⟩ ?_
  intro answer after served
  obtain ⟨fresh, unused, rfl, rfl⟩ := (Environment.calm_upload read).mp served
  cases result : (World.remote after |>.upload fresh parent name existing content).1 with
  | error error => exact refused fresh error result
  | ok id =>
      simp only [Except.map, verifyUpload, bind_assoc]
      refine ComesTo.widen (comes_md5 ?_ ?_) (fun _ _ => trivial)
      · intro content' read'
        obtain rfl : content = content' := Option.some.inj (read.symm.trans read')
        rw [show (Environment.calm md5 root).md5 content = md5 content from rfl]
        simpa using stored fresh id unused result
      · intro unreadable
        cases read.symm.trans unreadable

/-- The loop ends after the attempt that goes through, or in an error: by induction on the attempts
that are left, since what is refused once is refused again.
-/
theorem comes_uploadLoop {α : Type} {leaf : Eff α → World → Prop} {f : UploadResult → Eff α}
    (running : w.shutdown = false) (read : w.disk.read path = some content)
    (stored
      : ∀ fresh id,
          w.remote.Unused root fresh
          → (w.remote.upload fresh parent name existing content).1 = .ok id
          → Comes (.calm md5 root) leaf (f ⟨id, md5 content, content.length⟩)
              { w with remote := (w.remote.upload fresh parent name existing content).2 })
    (refused
      : ∀ fresh error,
          (w.remote.upload fresh parent name existing content).1 = .error error
          → ∀ error', leaf (.done (.error error')) w)
    : CalmlyComes md5 root leaf
        (uploadLoop config path parent name existing left >>= f) w := by
  have unchanged {fresh : DriveId} {error : Error}
      (result : (w.remote.upload fresh parent name existing content).1 = .error error)
      : { w with remote := (w.remote.upload fresh parent name existing content).2 } = w := by
    rw [(@Remote.upload_refused _ root _ _ _ [] _ "" _ _ result).2 fresh]
  induction left with
  | zero =>
      apply comes_uploadAttempt running read stored
      intro fresh error result
      rw [unchanged result]
      exact .here (refused fresh error result _)
  | succ left ih =>
      apply comes_uploadAttempt running read stored
      intro fresh error result
      rw [unchanged result]
      simp only [uploadAttempt.orNext, uploadAttempt.pauseThen, bind_assoc]
      refine comesTo_ask trivial ⟨w.shutdown, w, ⟨.inl rfl, .inl rfl⟩⟩ ?_
      rintro stopped after ⟨still, -⟩
      rw [Environment.calm_undisturbed.interrupts_iff] at still
      subst still
      split
      · exact .here (refused fresh error result _)
      · exact ih

end Loops

-----------------------------------------------------------------------------------------
-- What `sync_file` brings about
-----------------------------------------------------------------------------------------

section Deliveries

variable {md5 : List UInt8 → String} {root : DriveId} {ctx : EngineContext} {primary : SyncPair}
  {ignore : IgnoreMatcher} {above : Path} {name : OsString} {data : FileData} {w state : World}
  {holds : Prop}

/-- The worker reports success, and the content has arrived. -/
def Delivered (root : DriveId) (above : Path) (name : OsString) (content : List UInt8)
    (result : Except Error Unit) (last : World)
    : Prop :=
  result = .ok () ∧ Arrived root above name content last

/-- Every execution delivers from here on exactly if that condition holds. -/
def Decided (md5 : List UInt8 → String) (root : DriveId) (above : Path) (name : OsString)
    (content : List UInt8) (holds : Prop) (program : Eff Unit) (state : World)
    : Prop :=
  Always (Environment.calm md5 root).sem (fun _ => True) program state
    (Delivered root above name content)
  ↔ holds

theorem decided_error {error : Error} {content : List UInt8} (fails : ¬ holds)
    : Decided md5 root above name content holds (.done (.error error)) state := by
  constructor
  · rintro ⟨-, same, -⟩
    cases same
  · exact fun held => absurd held fails

theorem decided_ok {content : List UInt8} (arrived : Arrived root above name content state ↔ holds)
    : Decided md5 root above name content holds (.done (.ok ())) state := by
  rw [← arrived]
  constructor
  · rintro ⟨-, -, there⟩
    exact there
  · exact fun there => ⟨trivial, rfl, there⟩

/-- What decides an arrival are the remote and the cache. -/
theorem Arrived.congr {content : List UInt8} (remote : state.remote = w.remote)
    (cache : state.pathCache = w.pathCache)
    : Arrived root above name content state ↔ Arrived root above name content w := by
  constructor
  · rintro ⟨file, folders⟩
    exact ⟨remote ▸ file, by simpa only [World.KnowsFolder, remote, cache] using folders⟩
  · rintro ⟨file, folders⟩
    exact ⟨remote ▸ file, by simpa only [World.KnowsFolder, remote, cache] using folders⟩

/-- An upload and its entry leave the folders above the file as known as they were. -/
theorem knowsFolder_uploaded {id parent : DriveId} {front : Path}
    (names : ProperNames (above ++ [name])) (nonempty : front ≠ []) (below : front <+: above)
    (folders : ∀ id key, state.remote.FolderAt root id key ↔ w.remote.FolderAt root id key)
    (cached : state.pathCache = w.pathCache.insert (relKey (above ++ [name])) id parent)
    : state.KnowsFolder root front ↔ w.KnowsFolder root front := by
  simp only [World.KnowsFolder, cached, folders, PathCache.lookup_insert,
    if_neg (relKey_above_ne names nonempty below)]

/-- Where the folders above are known, the worker finds the one of the file. -/
theorem folderAt_parent {parent : DriveId}
    (folders : ∀ front, front ≠ [] → front <+: above → w.KnowsFolder primary.remoteFolderId front)
    (names : ProperNames above) (found : w.folderId? primary (relKey above) = some parent)
    : w.remote.FolderAt primary.remoteFolderId parent (relKey above) := by
  by_cases top : above = []
  · subst top
    rw [relKey_nil, World.folderId?, if_pos rfl, Option.some.injEq] at found
    rw [relKey_nil, ← found]
    exact .root
  · obtain ⟨entry, cached, folder⟩ := folders above top List.prefix_rfl
    have named : relKey above ≠ "" := by
      rw [← relKey_lossy]
      exact relKey_ne_empty (names.plain top)
    rw [World.folderId?, if_neg named, cached, Option.map_some, Option.some.injEq] at found
    exact found ▸ folder

/-- A folder that is not found is not known. -/
theorem folder_unknown (unknown : w.folderId? primary (relKey above) = none)
    : ¬ ∀ front, front ≠ [] → front <+: above → w.KnowsFolder primary.remoteFolderId front := by
  intro folders
  by_cases top : above = []
  · subst top
    simp [World.folderId?] at unknown
  · obtain ⟨entry, cached, -⟩ := folders above top List.prefix_rfl
    unfold World.folderId? at unknown
    split at unknown
    · cases unknown
    · simp [cached] at unknown

/-- What is left of `sync_file` once it uploads. -/
theorem decided_uploading {path : Path} {parent : DriveId} (names : ProperNames (above ++ [name]))
    (agrees : w.Agrees state) (cache : state.pathCache = w.pathCache)
    (read : w.disk.read path = some data.content) (dated : 0 ≤ data.modified)
    (readable : data.readable = true)
    (due : ¬ w.PassesOver (relKey (above ++ [name])) data)
    (newContent
      : ¬ w.Recorded (relKey (above ++ [name])) (fun entry => entry.hash = md5 data.content))
    (folder : w.folderId? primary (relKey above) = some parent) {hash : String} {time : Int}
    : Decided md5 primary.remoteFolderId above name data.content
        (Deliverable md5 primary.remoteFolderId above name data w)
        (uploading ctx path (relKey (above ++ [name])) hash time parent name.toStringLossy
          ((w.pathCache.lookup (relKey (above ++ [name]))).map CacheEntry.driveId))
        state := by
  have properAbove := (ProperNames.append.mp names).1
  have running : w.shutdown = false := by
    cases down : w.shutdown with
    | false => rfl
    | true => exact absurd (.inr down) due
  have spelled := relKey_pushProper properAbove name
  let leaf :=
    Decided md5 primary.remoteFolderId above name data.content
      (Deliverable md5 primary.remoteFolderId above name data w)
  refine ComesTo.always_iff (comes_uploadLoop (agrees.running.trans running)
    (agrees.disk ▸ read) ?_ ?_ : CalmlyComes md5 primary.remoteFolderId leaf _ _)
    (fun _ _ decided => decided)
  · intro fresh id unused stored
    apply comes_insert
    apply comes_stored Environment.calm_undisturbed
    refine .here (decided_ok ?_)
    rw [agrees.remote] at unused stored
    have known {front : Path} (nonempty : front ≠ []) (below : front <+: above) :=
      @knowsFolder_uploaded primary.remoteFolderId above name w
        { state with
          remote := (state.remote.upload fresh parent name.toStringLossy
            ((w.pathCache.lookup (relKey (above ++ [name]))).map CacheEntry.driveId)
            data.content).2
          pathCache := state.pathCache.insert (relKey (above ++ [name])) id parent }
        id parent front names nonempty below
        (fun _ _ => agrees.remote ▸ Remote.upload_folderAt unused) (by rw [cache])
    constructor
    · rintro ⟨file, folders⟩
      have folders : ∀ front, front ≠ [] → front <+: above
          → w.KnowsFolder primary.remoteFolderId front :=
        fun front nonempty below => (known nonempty below).mp (folders front nonempty below)
      exact
        { folders
          dated
          passedOver := fun over_ => absurd over_ due
          readable := fun _ => readable
          sameHash := fun _ recorded => absurd recorded newContent
          taken := fun _ _ =>
            (Remote.upload_fileAt unused (folderAt_parent folders properAbove folder) spelled
              stored).mp (agrees.remote ▸ file) }
    · intro deliverable
      refine ⟨?_, fun front nonempty below => (known nonempty below).mpr
        (deliverable.folders front nonempty below)⟩
      have file := (Remote.upload_fileAt unused
        (folderAt_parent deliverable.folders properAbove folder) spelled stored).mpr
        (deliverable.taken due newContent)
      exact agrees.remote ▸ file
  · intro fresh error refused error'
    rw [agrees.remote] at refused
    refine decided_error (fun deliverable => ?_)
    exact (Remote.upload_refused refused).1 (deliverable.taken due newContent)

/-- Looking at the file again changes nothing. -/
theorem comes_metadata_file {env : Environment} {path : Path}
    {f : Except Error Metadata → Eff Unit} {leaf : Eff Unit → World → Prop}
    (there : w.disk.node? path = some (.file data))
    (rest : Comes env leaf (f (.ok (Node.file data).metadata)) w)
    : Comes env leaf (ask (.metadata path) >>= f) w := by
  apply comes_metadata
  · intro node found
    obtain rfl := Option.some.inj (there.symm.trans found)
    exact rest
  · intro missing
    rw [there] at missing
    cases missing

/-- The ways of `sync_file` with a file that is shown and not empty: it ends, or comes to the upload
of the content.
-/
theorem comes_syncFile_stages {leaf : Eff Unit → World → Prop}
    (configured : ctx.cfg.getPrimaryPair = some primary)
    (there : w.disk.node? (primary.localPath ++ (above ++ [name])) = some (.file data))
    (kept : ignore.isIgnored (primary.localPath ++ (above ++ [name])) false = false)
    (nonempty : data.content ≠ []) (names : ProperNames (above ++ [name]))
    (early : data.modified < 0 → ∀ error, leaf (.done (.error error)) w)
    (passed
      : 0 ≤ data.modified → w.PassesOver (relKey (above ++ [name])) data
        → leaf (.done (.ok ())) w)
    (unreadable
      : 0 ≤ data.modified → ¬ w.PassesOver (relKey (above ++ [name])) data
        → data.readable = false → ∀ error, leaf (.done (.error error)) w)
    (recorded
      : 0 ≤ data.modified → ¬ w.PassesOver (relKey (above ++ [name])) data
        → data.readable = true
        → w.Recorded (relKey (above ++ [name])) (fun entry => entry.hash = md5 data.content)
        → leaf (.done (.ok ()))
            { w with
              db := w.db.upsert
                ⟨relKey (above ++ [name]), md5 data.content, data.modified / 1000000000⟩ })
    (homeless
      : 0 ≤ data.modified → ¬ w.PassesOver (relKey (above ++ [name])) data
        → w.folderId? primary (relKey above) = none → ∀ error, leaf (.done (.error error)) w)
    (uploads
      : ∀ parent state,
          0 ≤ data.modified → ¬ w.PassesOver (relKey (above ++ [name])) data
          → data.readable = true
          → ¬ w.Recorded (relKey (above ++ [name])) (fun entry => entry.hash = md5 data.content)
          → w.folderId? primary (relKey above) = some parent
          → w.Agrees state → state.pathCache = w.pathCache
          → leaf
              (uploading ctx (primary.localPath ++ (above ++ [name])) (relKey (above ++ [name]))
                (md5 data.content) (data.modified / 1000000000) parent name.toStringLossy
                ((w.pathCache.lookup (relKey (above ++ [name]))).map CacheEntry.driveId))
              state)
    : Comes (.calm md5 primary.remoteFolderId) leaf
        (syncFile ctx ignore (primary.localPath ++ (above ++ [name]))) w := by
  let key := relKey (above ++ [name])
  have quiet := @Environment.calm_undisturbed md5 primary.remoteFolderId
  have inRoot : relStr primary.localPath (primary.localPath ++ (above ++ [name])) = .ok key := by
    simp [relStr, key, names.clean.stripPrefix]
  obtain ⟨fileName, parentRel⟩ := names_of_proper primary.localPath names
  unfold syncFile
  apply comes_metadata_file there
  simp only [propagate, Prog.ok_bind, Node.metadata, kept, Bool.false_or, Bool.not_true,
    Bool.false_eq_true, if_false]
  apply comes_metadata_file there
  simp only [withContext, Except.mapError, Prog.ok_bind, Node.metadata, List.length_eq_zero_iff,
    if_neg nonempty, configured, orError, inRoot, mtime, bind_assoc]
  apply comes_metadata_file there
  simp only [propagate, Prog.ok_bind, Node.metadata, Metadata.seconds]
  split
  · rename_i before
    exact .here (early before _)
  rename_i dated
  replace dated := Int.not_lt.mp dated
  simp only [Prog.pure_eq, Prog.ok_bind]
  refine comes_recorded (fun recorded => ?_) (fun newTime => ?_) (fun noisy => absurd quiet noisy)
  · exact .here (passed dated (.inl recorded))
  apply comes_isCancelled quiet
  cases down : w.shutdown with
  | true => exact .here (passed dated (.inr down))
  | false =>
      have due : ¬ w.PassesOver key data := by
        rintro (recorded | stopped)
        · exact newTime recorded
        · rw [down] at stopped
          cases stopped
      simp only [Bool.false_eq_true, if_false, hashFile, bind_assoc]
      apply comes_md5
      · intro content read
        obtain ⟨readable, rfl⟩ : data.readable = true ∧ data.content = content := by
          simpa [Disk.read, there] using read
        simp only [withContext, Except.mapError, Prog.pure_eq, Prog.ok_bind]
        refine comes_recorded (fun known => ?_) (fun newContent => ?_)
          (fun noisy => absurd quiet noisy)
        · apply comes_stored quiet
          exact .here (recorded dated due readable known)
        · simp only [uploadFile, fileName, parentRel, orError, propagate, Prog.ok_bind]
          refine comes_folderId (fun parent folder => ?_) (fun unknown error => ?_)
          · apply comes_lookup
            apply comes_report
            exact .here (uploads parent _ dated due readable newContent folder (w.agrees_report _)
              (w.report_pathCache _))
          · exact .here (homeless dated due unknown error)
      · intro unread error
        have closed : data.readable = false := by
          simpa [Disk.read, there] using unread
        simp only [withContext, Except.mapError, Prog.pure_eq, Prog.ok_bind]
        apply comes_isFile
        simp only [Disk.isFile, Disk.metadata, there, Option.map_some, Option.getD_some,
          Node.metadata, Bool.not_true, Bool.false_eq_true, if_false]
        apply comes_isCancelled quiet
        simp only [down, Bool.false_eq_true, if_false]
        exact .here (unreadable dated due closed _)

/-- `sync_file` comes to where it is decided whether the file arrives. -/
theorem comes_syncFile_decided (configured : ctx.cfg.getPrimaryPair = some primary)
    (there : w.disk.node? (primary.localPath ++ (above ++ [name])) = some (.file data))
    (kept : ignore.isIgnored (primary.localPath ++ (above ++ [name])) false = false)
    (nonempty : data.content ≠ []) (names : ProperNames (above ++ [name]))
    : Comes (.calm md5 primary.remoteFolderId)
        (Decided md5 primary.remoteFolderId above name data.content
          (Deliverable md5 primary.remoteFolderId above name data w))
        (syncFile ctx ignore (primary.localPath ++ (above ++ [name]))) w := by
  have finished {state : World} (remote : state.remote = w.remote)
      (cache : state.pathCache = w.pathCache)
      (arrived
        : Arrived primary.remoteFolderId above name data.content w
          ↔ Deliverable md5 primary.remoteFolderId above name data w)
      : Decided md5 primary.remoteFolderId above name data.content
          (Deliverable md5 primary.remoteFolderId above name data w) (.done (.ok ())) state :=
    decided_ok ((Arrived.congr remote cache).trans arrived)
  apply comes_syncFile_stages configured there kept nonempty names
  case early =>
    intro before error
    refine decided_error (fun deliverable => ?_)
    exact absurd before (Int.not_lt.mpr deliverable.dated)
  case passed =>
    intro dated over_
    refine finished rfl rfl ⟨?_, ?_⟩
    · rintro ⟨file, folders⟩
      exact ⟨folders, dated, fun _ => file, fun due => absurd over_ due,
        fun due => absurd over_ due, fun due => absurd over_ due⟩
    · intro deliverable
      exact ⟨deliverable.passedOver over_, deliverable.folders⟩
  case unreadable =>
    intro dated due closed error
    refine decided_error (fun deliverable => ?_)
    rw [deliverable.readable due] at closed
    cases closed
  case recorded =>
    intro dated due readable recorded
    refine finished rfl rfl ⟨?_, ?_⟩
    · rintro ⟨file, folders⟩
      exact ⟨folders, dated, fun over_ => absurd over_ due, fun _ => readable,
        fun _ _ => file, fun _ newContent => absurd recorded newContent⟩
    · intro deliverable
      exact ⟨deliverable.sameHash due recorded, deliverable.folders⟩
  case homeless =>
    intro dated due unknown error
    refine decided_error (fun deliverable => ?_)
    exact folder_unknown unknown deliverable.folders
  case uploads =>
    intro parent state dated due readable newContent folder agrees cache
    have read : w.disk.read (primary.localPath ++ (above ++ [name])) = some data.content := by
      simp [Disk.read, there, readable]
    exact decided_uploading names agrees cache read dated readable due newContent folder

/-- A file at any depth: no folder is made for it, so it arrives exactly if the folders above it are
known and it is there or can be sent.
-/
theorem syncFile_delivers_iff {cfg : AppConfig} (configured : cfg.getPrimaryPair = some primary)
    (there : w.disk.node? (primary.localPath ++ (above ++ [name])) = some (.file data))
    (kept : ignore.isIgnored (primary.localPath ++ (above ++ [name])) false = false)
    (nonempty : data.content ≠ []) (names : ProperNames (above ++ [name]))
    : ¬ MayCall (.calm md5 primary.remoteFolderId) (fun call => ∃ id text, call = .mkdir id text)
          (handle ⟨cfg, false⟩ ignore (.syncFile (primary.localPath ++ (above ++ [name])))) w
      ∧ (Always (Environment.calm md5 primary.remoteFolderId).sem (fun _ => True)
            (handle ⟨cfg, false⟩ ignore (.syncFile (primary.localPath ++ (above ++ [name])))) w
            (Delivered primary.remoteFolderId above name data.content)
          ↔ Deliverable md5 primary.remoteFolderId above name data w) := by
  constructor
  · apply uses_handle.not_mayRequest
    rintro op state ofWorker ⟨call, rfl, id, text, rfl⟩
    cases ofWorker
  · have comes := @comes_syncFile_decided md5 ⟨cfg, false⟩ primary ignore above name data w
      configured there kept nonempty names
    exact ComesTo.always_iff comes (fun _ _ decided => decided)

end Deliveries

-----------------------------------------------------------------------------------------
-- A file in new folders
-----------------------------------------------------------------------------------------

/-- `sub/deep/file.txt`, with what the remote and the cache hold. -/
def newcomerWorld (remote : Remote) (pathCache : PathCache) : World where
  disk :=
    .backup (.single (.utf8 "sub") (by decide))
      (fun _ => .dir (.single (.utf8 "deep") (by decide))
        (fun _ => .dir (.single (.utf8 "file.txt") (by decide))
          (fun _ => .file ⟨[1], 0, true⟩)))
  remote
  pathCache

def newcomerFolders : Path := [.utf8 "sub", .utf8 "deep"]

theorem newcomer_proper : ProperNames (newcomerFolders ++ [.utf8 "file.txt"]) := by
  intro name member
  simp only [newcomerFolders, List.cons_append, List.nil_append, List.mem_cons, List.not_mem_nil,
    or_false] at member
  rcases member with rfl | rfl | rfl <;> decide

/-- Nothing makes `sub` and `sub/deep` for the file. -/
theorem newcomer_undelivered
    : ¬ ∀ md5 (cfg : AppConfig) (primary : SyncPair) (ignore : IgnoreMatcher) (w : World) above name
          (data : FileData),
          cfg.getPrimaryPair = some primary
          → w.disk.node? (primary.localPath ++ (above ++ [name])) = some (.file data)
          → ignore.isIgnored (primary.localPath ++ (above ++ [name])) false = false
          → data.content ≠ []
          → ProperNames (above ++ [name])
          → Always (Environment.calm md5 primary.remoteFolderId).sem (fun _ => True)
              (handle ⟨cfg, false⟩ ignore (.syncFile (primary.localPath ++ (above ++ [name])))) w
              (Delivered primary.remoteFolderId above name data.content) := by
  intro claim
  have there
      : (newcomerWorld {} {}).disk.node?
          (backupPair.localPath ++ (newcomerFolders ++ [.utf8 "file.txt"]))
        = some (.file ⟨[1], 0, true⟩) := by
    rfl
  have always := claim (fun _ => "") backupConfig backupPair .nothing (newcomerWorld {} {})
    newcomerFolders (.utf8 "file.txt") ⟨[1], 0, true⟩ rfl there rfl (by simp) newcomer_proper
  have comes := @comes_syncFile_decided (fun _ => "") ⟨backupConfig, false⟩ backupPair .nothing
    newcomerFolders (.utf8 "file.txt") ⟨[1], 0, true⟩ (newcomerWorld {} {}) rfl there rfl (by simp)
    newcomer_proper
  have deliverable := (ComesTo.always_iff comes (fun _ _ decided => decided)).mp always
  obtain ⟨entry, cached, -⟩ :=
    deliverable.folders newcomerFolders (by simp [newcomerFolders]) List.prefix_rfl
  cases cached

/-- The two folders, as a scan makes them. -/
def newcomerRemote : Remote :=
  (({} : Remote).put "1" ⟨"sub", "root", .folder, false⟩).put "2" ⟨"deep", "1", .folder, false⟩

def newcomerCache : PathCache :=
  (({} : PathCache).insert "sub" "1" "root").insert "sub/deep" "2" "1"

/-- Once a scan has made the folders, the file arrives. -/
theorem newcomer_delivered
    : ¬ MayCall (.calm (fun _ => "") "root") (fun call => ∃ id text, call = .mkdir id text)
          (handle ⟨backupConfig, false⟩ .nothing
            (.syncFile (backupPair.localPath ++ (newcomerFolders ++ [.utf8 "file.txt"]))))
          (newcomerWorld newcomerRemote newcomerCache)
      ∧ Always (Environment.calm (fun _ => "") "root").sem (fun _ => True)
          (handle ⟨backupConfig, false⟩ .nothing
            (.syncFile (backupPair.localPath ++ (newcomerFolders ++ [.utf8 "file.txt"]))))
          (newcomerWorld newcomerRemote newcomerCache)
          (Delivered "root" newcomerFolders (.utf8 "file.txt") [1]) := by
  have delivers := @syncFile_delivers_iff (fun _ => "") backupPair .nothing newcomerFolders
    (.utf8 "file.txt") ⟨[1], 0, true⟩ (newcomerWorld newcomerRemote newcomerCache) backupConfig rfl
    rfl rfl (by simp) newcomer_proper
  refine ⟨delivers.1, delivers.2.mpr ?_⟩
  have sub : newcomerRemote.FolderAt "root" "1" "sub" :=
    @Remote.FolderAt.child _ "root" "1" ⟨"sub", "root", .folder, false⟩ "" (by decide) rfl rfl .root
  have deep : newcomerRemote.FolderAt "root" "2" "sub/deep" :=
    @Remote.FolderAt.child _ "root" "2" ⟨"deep", "1", .folder, false⟩ "sub" (by decide) rfl rfl sub
  have due
      : ¬ (newcomerWorld newcomerRemote newcomerCache).PassesOver
          (relKey (newcomerFolders ++ [.utf8 "file.txt"])) ⟨[1], 0, true⟩ := by
    rintro (⟨entry, ⟨⟩, -⟩ | stopped)
    simp [newcomerWorld] at stopped
  refine ⟨?_, by decide, fun passed => absurd passed due, fun _ => rfl, ?_, fun _ _ => trivial⟩
  · rintro front nonempty ⟨back, same⟩
    rcases front with _ | ⟨first, _ | ⟨second, rest⟩⟩
    · exact absurd rfl nonempty
    · obtain ⟨rfl, -⟩ := List.cons.inj same
      exact ⟨⟨"1", "root"⟩, by decide, sub⟩
    · simp only [newcomerFolders, List.cons_append, List.cons.injEq, List.append_eq_nil_iff] at same
      obtain ⟨rfl, rfl, rfl, -⟩ := same
      exact ⟨⟨"2", "1"⟩, by decide, deep⟩
  · rintro - ⟨entry, ⟨⟩, -⟩

end SyncGDrive
