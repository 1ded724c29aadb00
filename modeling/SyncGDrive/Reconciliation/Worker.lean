import SyncGDrive.Engine.Calm
import SyncGDrive.Engine.Knowledge
import SyncGDrive.Engine.Worker
import SyncGDrive.Reconciliation.Moves

/-! What the worker does to the slot of its path when everything works: `sync_file` sends it,
`delete` removes it, and every other slot stays.
-/

namespace SyncGDrive

open Program

-----------------------------------------------------------------------------------------
-- What is known of a visible file
-----------------------------------------------------------------------------------------

namespace Environment

variable {md5 : List UInt8 → String} {root : DriveId} {w after : World} {path : Path}

theorem calm_undisturbed : (Environment.calm md5 root).Undisturbed := fun _ disturbed => disturbed

theorem calm_metadata {metadata : Metadata} (found : w.disk.metadata path = some metadata)
    (got : Except Error Metadata) (reached : World)
    (served : (Environment.calm md5 root).sem (.metadata path) w got reached)
    : got = .ok metadata ∧ reached = w := by
  obtain ⟨rfl, answered⟩ := served
  simp only [found] at answered
  exact ⟨answered, rfl⟩

theorem calm_md5 {content : List UInt8} (found : w.disk.read path = some content)
    (got : Except Error String) (reached : World)
    (served : (Environment.calm md5 root).sem (.md5 path) w got reached)
    : got = .ok (md5 content) ∧ reached = w := by
  obtain ⟨rfl, answered⟩ := served
  simp only [found] at answered
  exact ⟨answered, rfl⟩

end Environment

namespace Setting

variable {s : Setting} {w : World} {rel : Path} {content : List UInt8} {time : Int}

/-- What the worker finds out about a visible file. -/
structure Seen (s : Setting) (w : World) (rel : Path) (content : List UInt8) (time modified : Int)
    : Prop where
  metadata : w.disk.metadata (s.base ++ rel) = some ⟨false, true, content.length, modified⟩
  read : w.disk.read (s.base ++ rel) = some content
  afterEpoch : 0 ≤ modified
  seconds : modified / 1000000000 = time
  kept : s.ignore.isIgnored (s.base ++ rel) false = false
  leaf : s.leaf rel

theorem Fits.seen (fits : s.Fits w.disk) (plain : Plain rel)
    (shown : s.visible w.disk rel = some (content, time))
    : ∃ modified, s.Seen w rel content time modified := by
  unfold visible at shown
  split at shown
  · rename_i data found
    split at shown
    · cases shown
    · rename_i kept
      obtain ⟨rfl, rfl⟩ := Prod.mk.inj (Option.some.inj shown)
      obtain ⟨readable, afterEpoch⟩ := fits.orderly.orderly plain.2 found
      exact ⟨data.modified,
        { metadata := by simp [Disk.metadata, found, Node.metadata]
          read := by simp [Disk.read, found, readable]
          afterEpoch := afterEpoch
          seconds := rfl
          kept := by simpa using kept
          leaf := fits.files rel data plain found }⟩
  · cases shown

/-- No local directory stands at a path used for files. -/
theorem Fits.isDir_leaf (fits : s.Fits w.disk) (plain : Plain rel) (leaf : s.leaf rel)
    : w.disk.isDir (s.base ++ rel) = false := by
  rw [Disk.isDir, Disk.metadata]
  cases found : w.disk.node? (s.base ++ rel) with
  | none => rfl
  | some node =>
      cases node with
      | dir listing child => exact absurd leaf (fits.dirs rel listing child plain found)
      | _ => rfl

/-- At a path used for files the cache knows exactly the copies. -/
theorem Cached.lookup_isSome (cached : s.Cached w) (stored : s.Stored w) (plain : Plain rel)
    (leaf : s.leaf rel)
    : (w.pathCache.lookup (relKey rel)).isSome = (s.slot w rel).copy.isSome := by
  cases found : w.pathCache.lookup (relKey rel) with
  | some entry =>
      obtain ⟨item, itemAt, -⟩ := cached.lookup_some found
      cases kind : item.kind with
      | folder => exact absurd leaf ((stored.kinds rel _ item plain itemAt).mp kind)
      | file content =>
          have copied := (copy_eq_some stored.sound).mpr ⟨_, item, itemAt, kind⟩
          simp [copied]
  | none =>
      have missing : (s.slot w rel).copy = none := by
        refine copy_eq_none.mpr ?_
        rintro content ⟨id, item, itemAt, -⟩
        exact cached.lookup_none found id item itemAt
      simp [missing]

/-- A cached item at a path used for files is a file. -/
theorem Stored.file (stored : s.Stored w) (plain : Plain rel) (leaf : s.leaf rel) {id : DriveId}
    {item : RemoteItem} (itemAt : w.remote.ItemAt s.folder id item (relKey rel))
    : item.kind ≠ .folder :=
  fun folder => (stored.kinds rel id item plain itemAt).mp folder leaf

-----------------------------------------------------------------------------------------
-- The parts of `sync_file`
-----------------------------------------------------------------------------------------

variable {inv : World → Prop} {α : Type}

/-- Looking up the row and the cache entry of a key changes nothing. -/
theorem always_recorded_bind {env : Environment} (quiet : env.Undisturbed) {key : String}
    {test : FileEntry → Bool} {f : Bool → Eff α} {post : Except Error α → World → Prop}
    (rest
      : Always env.sem inv
          (f ((w.db.get key).any test && (w.pathCache.lookup key).isSome)) w post)
    : Always env.sem inv (syncFile.recorded key test >>= f) w post := by
  have here := rest.here
  unfold syncFile.recorded
  simp only [bind_assoc]
  refine always_known (fun _ _ served => quiet.sem_get.mp served) here ?_
  simp only [propagate, Prog.ok_bind]
  cases row : w.db.get key with
  | none => simpa [row] using rest
  | some entry =>
      by_cases passes : test entry
      · simp only [passes, if_true, bind_assoc]
        refine always_known (fun _ _ served => served) here ?_
        simpa [row, passes] using rest
      · simpa [row, passes] using rest

/-- One attempt is enough to upload a readable file. -/
theorem always_uploadLoop_bind {config : RetryConfig} {path : Path} {parent : DriveId}
    {name : String} {existing : Option DriveId} {left : Nat} {f : UploadResult → Eff α}
    {post : Except Error α → World → Prop} (here : inv w) (running : w.shutdown = false)
    (read : w.disk.read path = some content)
    (uploaded
      : ∀ fresh,
          w.remote.Unused s.folder fresh
          → ∃ id,
              (w.remote.upload fresh parent name existing content).1 = .ok id
              ∧ Always (Environment.calm s.md5 s.folder).sem inv
                  (f ⟨id, s.md5 content, content.length⟩)
                  { w with remote := (w.remote.upload fresh parent name existing content).2 }
                  post)
    : Always (Environment.calm s.md5 s.folder).sem inv
        (uploadLoop config path parent name existing left >>= f) w post := by
  have attempt (again : Option (Option DriveId → Eff UploadResult))
      : Always (Environment.calm s.md5 s.folder).sem inv
          (uploadAttempt config path parent name existing again >>= f) w post := by
    unfold uploadAttempt
    simp only [bind_assoc]
    refine always_known
      (fun _ _ served => Environment.calm_undisturbed.sem_isCancelled.mp served) here ?_
    simp only [running, Bool.false_eq_true, if_false, bind_assoc]
    refine always_ask_bind.mpr ⟨here, ?_⟩
    rintro answer after ⟨remote, answered, rfl⟩
    simp only [Environment.calm, honestProvider, read] at answered
    obtain ⟨fresh, unused, rfl, rfl⟩ := answered
    obtain ⟨id, stored, rest⟩ := uploaded fresh unused
    simp only [stored, Except.map, verifyUpload, bind_assoc]
    refine always_known (Environment.calm_md5 read) rest.here ?_
    simpa using rest
  cases left with
  | zero => exact attempt none
  | succ left => exact attempt _

/-- The folder of a path is found in the cache, or configured at the root. -/
theorem always_folderId_bind {above : Path} {parent : DriveId} {missing : String}
    {f : DriveId → Eff α} {post : Except Error α → World → Prop}
    (sound : w.remote.Sound s.folder) (cached : s.Cached w)
    (folder : w.remote.FolderAt s.folder parent (relKey above))
    (rest : Always (Environment.calm s.md5 s.folder).sem inv (f parent) w post)
    : Always (Environment.calm s.md5 s.folder).sem inv
        (folderId s.primary (relKey above) missing >>= f) w post := by
  have here := rest.here
  unfold folderId
  rcases folder.itemAt with ⟨rfl, empty⟩ | ⟨item, itemAt, -⟩
  · rw [if_pos empty]
    exact rest
  · obtain ⟨_, plain, spelled, -⟩ := sound.item_key itemAt
    have nonempty : relKey above ≠ "" := spelled ▸ relKey_ne_empty plain
    have found := (cached (relKey above) parent item.parent).mpr ⟨item, itemAt, rfl⟩
    rw [if_neg nonempty]
    simp only [bind_assoc]
    refine always_known (fun _ _ served => served) here ?_
    simpa [found, propagate, orError] using rest

/-- The names that the worker derives from the path of a file. -/
theorem names_of_path (s : Setting) {above : Path} {name : String}
    (plain : Plain (above ++ [.utf8 name]))
    : Path.fileName? (s.base ++ (above ++ [.utf8 name])) = some name
      ∧ parentRelStr s.primary.localPath (s.base ++ (above ++ [.utf8 name])) = relKey above :=
  names_of_proper s.base (PlainNames.proper plain.2)

/-- After the copy, the cache entry and the row follow. -/
theorem always_commit {state : World} {view : View} {id parent : DriveId}
    (moves : s.Moves w rel view state) (plain : Plain rel)
    (cached
      : s.Cached { state with pathCache := state.pathCache.insert (relKey rel) id parent })
    (start : ∀ state, s.Moves w rel view state → inv state)
    (last
      : ∀ state, s.Moves w rel { view with record := some (s.md5 content, time) } state
        → inv state)
    : Always (Environment.calm s.md5 s.folder).sem inv
        (do
          ask (.insert (relKey rel) id parent)
          propagate (← ask (.upsert ⟨relKey rel, s.md5 content, time⟩)))
        state
        (fun result last =>
          result = .ok () ∧ s.Cached last
          ∧ s.Moves w rel { view with record := some (s.md5 content, time) } last) := by
  refine always_ask_bind.mpr ⟨start _ moves, ?_⟩
  rintro _ _ rfl
  have inserted
      : s.Moves w rel view
          { state with pathCache := state.pathCache.insert (relKey rel) id parent } :=
    moves.same ⟨rfl, rfl, rfl, rfl, rfl⟩
  have recorded := inserted.upserted plain (s.md5 content) time
  refine always_known (fun _ _ served => Environment.calm_undisturbed.sem_upsert.mp served)
    (start _ inserted) ?_
  exact ⟨last _ recorded, rfl, cached.same rfl rfl, recorded⟩

/-- Uploading puts the content of the file in its copy, then in its record. -/
theorem always_uploadFile {modified : Int} {view : View}
    (seen : s.Seen w rel content time modified) (stored : s.Stored w) (cached : s.Cached w)
    (plain : Plain rel) (running : w.shutdown = false) {parent : DriveId}
    (folder : w.remote.FolderAt s.folder parent (relKey rel.dropLast))
    (slot : s.slot w rel = view) (start : ∀ state, s.Moves w rel view state → inv state)
    (middle : ∀ state, s.Moves w rel { view with copy := some content } state → inv state)
    (last
      : ∀ state,
          s.Moves w rel ⟨view.file, some content, some (s.md5 content, time)⟩ state → inv state)
    : Always (Environment.calm s.md5 s.folder).sem inv
        (uploadFile ⟨s.cfg, false⟩ s.primary (s.base ++ rel) (relKey rel) (s.md5 content) time
          content.length)
        w
        (fun result state =>
          result = .ok () ∧ s.Cached state
          ∧ s.Moves w rel ⟨view.file, some content, some (s.md5 content, time)⟩ state) := by
  obtain ⟨above, name', spelled⟩ := List.eq_nil_or_concat rel |>.resolve_left plain.1
  rw [List.concat_eq_append] at spelled
  obtain ⟨name, rfl, -⟩ := plain.2 name' (by simp [spelled])
  rw [spelled, List.dropLast_concat] at folder
  obtain ⟨fileName, parentRel⟩ := names_of_path s (spelled ▸ plain)
  have still : s.Moves w rel view w := slot ▸ Moves.refl rel stored.sound
  have here := start w still
  unfold uploadFile
  rw [spelled, fileName, parentRel, ← spelled]
  simp only [orError, propagate, Prog.ok_bind]
  refine always_folderId_bind stored.sound cached folder ?_
  refine always_known (fun _ _ served => served) here ?_
  refine always_ask_bind.mpr ⟨here, ?_⟩
  intro _ state reported
  obtain ⟨agrees, pathCache⟩ : w.Agrees state ∧ state.pathCache = w.pathCache := by
    have same : state = w.report (.currentFile _ name content.length) := reported
    exact same ▸ ⟨w.agrees_report _, w.report_pathCache _⟩
  clear reported
  have moves := still.same agrees
  have cached' := cached.same agrees.remote pathCache
  rw [← agrees.remote] at folder
  refine always_uploadLoop_bind (start _ moves) (agrees.running.trans running)
    (agrees.disk ▸ seen.read) ?_
  intro fresh unused
  cases found : w.pathCache.lookup (relKey rel) with
  | none =>
      have free := cached'.lookup_none (pathCache ▸ found)
      refine ⟨fresh, rfl, always_commit ?_ plain ?_ middle last⟩
      · exact moves.added spelled plain unused folder free
      · exact cached'.added moves.sound.rooted spelled plain unused folder free rfl rfl
  | some entry =>
      obtain ⟨item, itemAt, -⟩ := cached'.lookup_some (pathCache ▸ found)
      have file : item.kind ≠ .folder := stored.file plain seen.leaf (agrees.remote ▸ itemAt)
      obtain ⟨sameName, sameParent⟩ :=
        moves.sound.item_push (spelled ▸ plain) folder (spelled ▸ itemAt)
      have upload
          : state.remote.upload fresh parent name (some entry.driveId) content
            = (.ok entry.driveId, state.remote.put entry.driveId
                ⟨item.name, item.parent, .file content, item.trashed⟩) := by
        obtain ⟨itemName, itemParent, kind, trashed⟩ := item
        cases kind with
        | folder => exact absurd rfl file
        | file old =>
            obtain rfl : itemName = name := sameName
            simp [Remote.upload, itemAt.1]
      refine ⟨entry.driveId, by simp [upload], ?_⟩
      simp only [Option.map_some, upload]
      refine always_commit (moves.updated plain itemAt file) plain ?_ middle last
      exact cached'.updated moves.sound itemAt file rfl (by rw [sameParent])

-----------------------------------------------------------------------------------------
-- `sync_file`
-----------------------------------------------------------------------------------------

/-- A row with the given time and a cache entry are a record with that time and a copy. -/
theorem time_recorded
    (copied : (w.pathCache.lookup (relKey rel)).isSome = (s.slot w rel).copy.isSome)
    : ((w.db.get (relKey rel)).any (fun entry => entry.mtime = time)
        && (w.pathCache.lookup (relKey rel)).isSome) = true
      ↔ (s.slot w rel).copy.isSome ∧ (s.slot w rel).record.map Prod.snd = some time := by
  rw [copied, Bool.and_eq_true, and_comm]
  cases row : w.db.row (relKey rel) <;> simp [Database.get, slot, row]

/-- The same for a digest. -/
theorem hash_recorded {hash : String}
    (copied : (w.pathCache.lookup (relKey rel)).isSome = (s.slot w rel).copy.isSome)
    : ((w.db.get (relKey rel)).any (fun entry => entry.hash = hash)
        && (w.pathCache.lookup (relKey rel)).isSome) = true
      ↔ (s.slot w rel).copy.isSome ∧ (s.slot w rel).record.map Prod.fst = some hash := by
  rw [copied, Bool.and_eq_true, and_comm]
  cases row : w.db.row (relKey rel) <;> simp [Database.get, slot, row]

/-- Handling a visible file sends its slot, through its halfway state. -/
theorem always_syncFile (fits : s.Fits w.disk) (stored : s.Stored w) (cached : s.Cached w)
    (plain : Plain rel) (running : w.shutdown = false)
    (shown : s.visible w.disk rel = some (content, time))
    (folder : content ≠ [] → ∃ id, w.remote.FolderAt s.folder id (relKey rel.dropLast))
    (start : ∀ state, s.Moves w rel (s.slot w rel) state → inv state)
    (middle : ∀ state, s.Moves w rel ((s.slot w rel).halfway s.md5 vacant) state → inv state)
    (last : ∀ state, s.Moves w rel ((s.slot w rel).sync s.md5 vacant) state → inv state)
    : Always (Environment.calm s.md5 s.folder).sem inv
        (syncFile ⟨s.cfg, false⟩ s.ignore (s.base ++ rel)) w
        (fun result state =>
          result = .ok () ∧ s.Cached state
          ∧ s.Moves w rel ((s.slot w rel).sync s.md5 vacant) state) := by
  obtain ⟨modified, seen⟩ := fits.seen plain shown
  have still := Moves.refl rel stored.sound
  have here := start w still
  have file : (s.slot w rel).file = some (content, time) := shown
  have copied := cached.lookup_isSome stored plain seen.leaf
  unfold syncFile
  refine always_known (Environment.calm_metadata seen.metadata) here ?_
  simp only [propagate, Prog.ok_bind, seen.kept, Bool.not_true, Bool.or_self,
    Bool.false_eq_true, if_false]
  refine always_known (Environment.calm_metadata seen.metadata) here ?_
  simp only [withContext, Except.mapError, Prog.ok_bind]
  by_cases empty : content = []
  · have unchanged : (s.slot w rel).sync s.md5 vacant = s.slot w rel := by
      simp [Mirror.Slot.sync, file, vacant, empty]
    rw [if_pos (by simp [empty]), unchanged]
    exact ⟨here, rfl, cached, still⟩
  have full : vacant content = false := by simpa [vacant] using empty
  have inRoot : Path.stripPrefix s.primary.localPath (s.base ++ rel) = some rel :=
    plain.clean.stripPrefix s.base
  rw [if_neg (by simpa using empty)]
  simp only [orError, s.configured, relStr, inRoot, Prog.ok_bind, mtime, bind_assoc]
  refine always_known (Environment.calm_metadata seen.metadata) here ?_
  simp only [withContext, Except.mapError, propagate, Prog.ok_bind,
    if_neg (Int.not_lt.mpr seen.afterEpoch), Metadata.seconds, seen.seconds, pure_bind]
  refine always_recorded_bind Environment.calm_undisturbed ?_
  by_cases current : (s.slot w rel).copy.isSome ∧ (s.slot w rel).record.map Prod.snd = some time
  · rw [if_pos ((time_recorded copied).mpr current), Mirror.Slot.sync_current file current]
    exact ⟨here, rfl, cached, still⟩
  rw [if_neg (fun recorded => current ((time_recorded copied).mp recorded))]
  refine always_known
    (fun _ _ served => Environment.calm_undisturbed.sem_isCancelled.mp served) here ?_
  simp only [running, Bool.false_eq_true, if_false, hashFile, bind_assoc]
  refine always_known (Environment.calm_md5 seen.read) here ?_
  simp only [withContext, Except.mapError, pure_bind]
  refine always_recorded_bind Environment.calm_undisturbed ?_
  by_cases touched
    : (s.slot w rel).copy.isSome
      ∧ (s.slot w rel).record.map Prod.fst = some (s.md5 content)
  · rw [if_pos ((hash_recorded copied).mpr touched)]
    rw [Mirror.Slot.sync_touched file full current touched] at last ⊢
    have recorded := still.upserted plain (s.md5 content) time
    refine always_known (fun _ _ served => Environment.calm_undisturbed.sem_upsert.mp served)
      here ?_
    exact ⟨last _ recorded, rfl, cached.same rfl rfl, recorded⟩
  · rw [if_neg (fun recorded => touched ((hash_recorded copied).mp recorded))]
    rw [Mirror.Slot.halfway, Mirror.Slot.sync_sent file full current touched] at middle
    rw [Mirror.Slot.sync_sent file full current touched] at last ⊢
    obtain ⟨parent, folder⟩ := folder empty
    exact always_uploadFile seen stored cached plain running folder rfl start middle last

/-- Handling a path without a visible file changes nothing. -/
theorem always_syncFile_absent {ctx : EngineContext} (gone : s.visible w.disk rel = none)
    (here : inv w)
    : Always (Environment.calm s.md5 s.folder).sem inv (syncFile ctx s.ignore (s.base ++ rel)) w
        (fun _ last => last = w) := by
  unfold syncFile
  refine always_ask_bind.mpr ⟨here, ?_⟩
  rintro answer after ⟨rfl, answered⟩
  cases found : after.disk.node? (s.base ++ rel) with
  | none =>
      simp only [Disk.metadata, found, Option.map_none] at answered
      obtain ⟨error, rfl⟩ := answered
      exact ⟨here, rfl⟩
  | some node =>
      simp only [Disk.metadata, found, Option.map_some] at answered
      subst answered
      have skipped
          : (s.ignore.isIgnored (s.base ++ rel) node.metadata.isDir || !node.metadata.isFile)
            = true := by
        cases node <;> simp_all [visible, Node.metadata]
      simp only [propagate, Prog.ok_bind, skipped, if_true]
      exact ⟨here, rfl⟩

-----------------------------------------------------------------------------------------
-- `delete`
-----------------------------------------------------------------------------------------

/-- A retried operation that succeeds at once. -/
theorem always_retry_bind {env : Environment} {β : Type} (quiet : env.Undisturbed)
    {cfg : AppConfig} {operation : Eff (Except Error β)} {f : β → Eff α}
    {post : Except Error α → World → Prop} (here : inv w) (running : w.shutdown = false)
    (first
      : Always env.sem inv operation w
          (fun result after =>
            ∃ value, result = .ok (.ok value) ∧ Always env.sem inv (f value) after post))
    : Always env.sem inv (retry cfg operation >>= f) w post := by
  have retried
      : Always env.sem inv (retry cfg operation) w
          (fun result after =>
            ∃ value, result = .ok value ∧ Always env.sem inv (f value) after post) := by
    apply always_retry (fun _ state => state = w) (fun _ _ _ => False) _ nofun nofun rfl
    rintro left state rfl
    refine ⟨here, fun cancelled after served => ?_⟩
    obtain ⟨rfl, rfl⟩ := quiet.sem_isCancelled.mp served
    simp only [running, Bool.false_eq_true, if_false]
    apply first.mono
    rintro result after - ⟨value, rfl, rest⟩
    exact ⟨value, rfl, rest⟩
  apply retried.bind
  · rintro value middle - ⟨_, same, rest⟩
    cases same
    exact rest
  · rintro error middle - ⟨value, same, -⟩
    cases same

/-- An item that the cache knows goes to the trash, and leaves the cache. -/
theorem always_deleteItem_known {md5 : List UInt8 → String} {root : DriveId}
    {ctx : EngineContext} {key : String} {entry : CacheEntry} {item : RemoteItem} {trashed : Remote}
    {post : Except Error Unit → World → Prop}
    (found : w.pathCache.lookup key = some entry)
    (known : w.remote.item? entry.driveId = some item)
    (result : w.remote.put entry.driveId { item with trashed := true } = trashed)
    (running : w.shutdown = false) (here : inv w) (middle : inv { w with remote := trashed })
    (last
      : inv { w with remote := trashed, pathCache := w.pathCache.removeCascades key }
        ∧ post (.ok ())
            { w with remote := trashed, pathCache := w.pathCache.removeCascades key })
    : Always (Environment.calm md5 root).sem inv (deleteItem ctx key) w post := by
  unfold deleteItem
  refine always_known (fun _ _ served => served) here ?_
  simp only [found]
  refine always_retry_bind Environment.calm_undisturbed here running ?_
  refine always_ask.mpr ⟨here, ?_⟩
  rintro answer after ⟨remote, answered, rfl⟩
  have answered : (answer, remote) = w.remote.delete entry.driveId := answered
  simp only [Remote.delete, known, result, Prod.mk.injEq] at answered
  obtain ⟨rfl, rfl⟩ := answered
  refine ⟨middle, (), rfl, ?_⟩
  refine always_ask.mpr ⟨middle, ?_⟩
  rintro _ _ rfl
  exact last

/-- Removing what the cache knows of a file takes away its copy. -/
theorem always_deleteItem {ctx : EngineContext} (stored : s.Stored w) (cached : s.Cached w)
    (plain : Plain rel) (leaf : s.leaf rel) (running : w.shutdown = false) {view : View}
    (slot : s.slot w rel = view) (start : ∀ state, s.Moves w rel view state → inv state)
    (last : ∀ state, s.Moves w rel { view with copy := none } state → inv state)
    : Always (Environment.calm s.md5 s.folder).sem inv (deleteItem ctx (relKey rel)) w
        (fun result state =>
          result = .ok () ∧ s.Cached state ∧ s.Moves w rel { view with copy := none } state)
    := by
  have still : s.Moves w rel view w := slot ▸ Moves.refl rel stored.sound
  have here := start w still
  cases found : w.pathCache.lookup (relKey rel) with
  | none =>
      have missing : view.copy = none := by
        rw [← slot]
        exact copy_eq_none.mpr fun content ⟨id, item, itemAt, _⟩ =>
          cached.lookup_none found id item itemAt
      have same : { view with copy := none } = view := by
        cases view
        simpa using missing.symm
      unfold deleteItem
      refine always_known (fun _ _ served => served) here ?_
      simp only [found, same]
      exact ⟨here, rfl, cached, still⟩
  | some entry =>
      obtain ⟨item, itemAt, -⟩ := cached.lookup_some found
      have file := stored.file plain leaf itemAt
      have trashed := still.trashed plain itemAt file
      have moves
          : s.Moves w rel { view with copy := none }
              { w with
                remote := w.remote.put entry.driveId { item with trashed := true }
                pathCache := w.pathCache.removeCascades (relKey rel) } :=
        trashed.same ⟨rfl, rfl, rfl, rfl, rfl⟩
      refine always_deleteItem_known found itemAt.1 rfl running here (last _ trashed)
        ⟨last _ moves, rfl, ?_, moves⟩
      exact cached.trashed stored.sound plain itemAt file rfl rfl

/-- Deleting a path removes its slot, the copy first. -/
theorem always_delete (fits : s.Fits w.disk) (stored : s.Stored w) (cached : s.Cached w)
    (plain : Plain rel) (leaf : s.leaf rel)
    (kept : s.ignore.isIgnored (s.base ++ rel) false = false) (running : w.shutdown = false)
    {view : View} (slot : s.slot w rel = view)
    (start : ∀ state, s.Moves w rel view state → inv state)
    (middle : ∀ state, s.Moves w rel { view with copy := none } state → inv state)
    (last : ∀ state, s.Moves w rel view.remove state → inv state)
    : Always (Environment.calm s.md5 s.folder).sem inv
        (delete ⟨s.cfg, false⟩ s.ignore (s.base ++ rel)) w
        (fun result state =>
          result = .ok () ∧ s.Cached state ∧ s.Moves w rel view.remove state) := by
  have still : s.Moves w rel view w := slot ▸ Moves.refl rel stored.sound
  have here := start w still
  have noDirectory := fits.isDir_leaf plain leaf
  have inRoot : Path.stripPrefix s.primary.localPath (s.base ++ rel) = some rel :=
    plain.clean.stripPrefix s.base
  unfold delete
  refine always_isDir_bind here ?_
  simp only [noDirectory, kept, Bool.false_eq_true, if_false, orError, s.configured, propagate,
    Prog.ok_bind, relStr, inRoot]
  refine (always_deleteItem stored cached plain leaf running slot start middle).bind ?_ ?_
  · rintro - state - ⟨-, cached', moves⟩
    have removed := moves.deletedRow plain
    refine always_known
      (fun _ _ served => Environment.calm_undisturbed.sem_deleteRow.mp served)
      (middle _ moves) ?_
    exact ⟨last _ removed, rfl, cached'.same rfl rfl, removed⟩
  · rintro error state - ⟨same, -⟩
    cases same

end Setting

end SyncGDrive
