import SyncGDrive.Engine.Cascades
import SyncGDrive.Reconciliation.Newcomers
import SyncGDrive.Reconciliation.Rescan

/-! What the worker makes of the tasks of a scan: a file that is sent settles under its key or stays
as it was, and a deletion clears its key and what is cached below it.
-/

namespace SyncGDrive

open Program

-----------------------------------------------------------------------------------------
-- Sending
-----------------------------------------------------------------------------------------

/-- Only what is kept under the keys may have changed; no key has been forgotten, and no item has
changed its kind.
-/
structure Confined (root : DriveId) (keys : List String) (w last : World) : Prop where
  disk : last.disk = w.disk
  tasks : last.tasks = w.tasks
  running : last.shutdown = w.shutdown
  places : last.pathCache.Places last.remote root
  lookups : ∀ other, other ∉ keys → last.pathCache.lookup other = w.pathCache.lookup other
  known : ∀ other, (w.pathCache.lookup other).isSome → (last.pathCache.lookup other).isSome
  rows : ∀ other, other ∉ keys → last.db.row other = w.db.row other
  items
    : ∀ id item other,
        last.remote.ItemAt root id item other → other ∈ keys ∨ w.remote.ItemAt root id item other
  kinds
    : ∀ id item,
        w.remote.item? id = some item
        → ∃ item', last.remote.item? id = some item' ∧ (item'.kind = .folder ↔ item.kind = .folder)

/-- A file can be sent: it is not dated before the epoch, and what is cached for it is no folder. -/
structure Sendable (w : World) (key : String) (data : FileData) : Prop where
  dated : 0 ≤ data.modified
  file
    : ∀ entry item,
        w.pathCache.lookup key = some entry → w.remote.item? entry.driveId = some item
        → item.kind ≠ .folder

/-- The file is cached, and its row has its digest. -/
def Settled (md5 : List UInt8 → String) (key : String) (data : FileData) (w : World) : Prop :=
  (w.pathCache.lookup key).isSome ∧ ∃ columns ∈ w.db.row key, columns.hash = md5 data.content

section Sending

variable {md5 : List UInt8 → String} {w state last : World} {cfg : AppConfig}
  {primary : SyncPair} {ignore : IgnoreMatcher} {root : DriveId} {above : Path} {name : OsString}
  {data : FileData} {key : String} {keys more : List String}

/-- Nothing has happened. -/
theorem Confined.of_agrees (places : w.pathCache.Places w.remote root) (agrees : w.Agrees state)
    (cache : state.pathCache = w.pathCache)
    : Confined root keys w state where
  disk := agrees.disk
  tasks := agrees.tasks
  running := agrees.running
  places := by
    rw [cache, agrees.remote]
    exact places
  lookups _ _ := by rw [cache]
  known _ known := by rwa [cache]
  rows _ _ := by rw [agrees.db]
  items _ _ _ itemAt := .inr (agrees.remote ▸ itemAt)
  kinds _ item found := ⟨item, agrees.remote ▸ found, Iff.rfl⟩

theorem Confined.trans (first : Confined root keys w state) (second : Confined root more state last)
    : Confined root (keys ++ more) w last where
  disk := second.disk.trans first.disk
  tasks := second.tasks.trans first.tasks
  running := second.running.trans first.running
  places := second.places
  lookups other apart := by
    rw [List.mem_append, not_or] at apart
    exact (second.lookups other apart.2).trans (first.lookups other apart.1)
  known other known := second.known other (first.known other known)
  rows other apart := by
    rw [List.mem_append, not_or] at apart
    exact (second.rows other apart.2).trans (first.rows other apart.1)
  items id item other itemAt := by
    rw [List.mem_append]
    rcases second.items id item other itemAt with later | before
    · exact .inl (.inr later)
    · exact (first.items id item other before).imp_left .inl
  kinds id item found := by
    obtain ⟨middle, found', same⟩ := first.kinds id item found
    obtain ⟨item', found'', same'⟩ := second.kinds id middle found'
    exact ⟨item', found'', same'.trans same⟩

/-- What is cached for another key is what it was, so a file can be sent as before. -/
theorem Confined.sendable_iff (confined : Confined root keys w last)
    (places : w.pathCache.Places w.remote root) (apart : key ∉ keys)
    : Sendable last key data ↔ Sendable w key data := by
  have same := confined.lookups key apart
  constructor
  · intro sendable
    refine ⟨sendable.dated, fun entry item cached found folder => ?_⟩
    obtain ⟨item', found', kind⟩ := confined.kinds entry.driveId item found
    exact sendable.file entry item' (same.trans cached) found' (kind.mpr folder)
  · intro sendable
    refine ⟨sendable.dated, fun entry item cached found folder => ?_⟩
    rw [same] at cached
    obtain ⟨item', found'⟩ := places.known key entry cached
    obtain ⟨item'', found'', kind⟩ := confined.kinds entry.driveId item' found'
    rw [found, Option.some.injEq] at found''
    exact sendable.file entry item' cached found' (kind.mp (found'' ▸ folder))

/-- What the comparison of a file finds while it is to be handled: it is neither up to date by its
time nor by its digest.
-/
theorem not_passedOver {env : Environment} {path : Path} (running : w.shutdown = false)
    (there : w.disk.node? path = some (.file data)) (dated : 0 ≤ data.modified)
    (differs : Differs env w path key)
    : ¬ w.PassesOver key data := by
  rintro (⟨entry, got, sameTime, cached⟩ | stopped)
  · rcases differs with absent | ⟨columns, row, newTime, -⟩
    · rw [absent] at cached
      cases cached
    · apply newTime
      simp only [Database.get, show w.db.row key = some columns from row, Option.map_some,
        Option.some.injEq] at got
      subst got
      simp only [Disk.mtimeOf, Disk.metadata, there, Option.map_some, Node.metadata,
        if_neg (Int.not_lt.mpr dated), Metadata.seconds]
      exact (of_decide_eq_true sameTime).symm
  · rw [running] at stopped
    cases stopped

theorem not_recorded {path : Path} (there : w.disk.node? path = some (.file data))
    (readable : data.readable = true) (differs : Differs (.calm md5 root) w path key)
    : ¬ w.Recorded key (fun entry => entry.hash = md5 data.content) := by
  rintro ⟨entry, got, sameHash, cached⟩
  rcases differs with absent | ⟨columns, row, -, newHash⟩
  · rw [absent] at cached
    cases cached
  · apply newHash
    simp only [Database.get, show w.db.row key = some columns from row, Option.map_some,
      Option.some.injEq] at got
    subst got
    simp only [Disk.read, there, readable, if_true, Option.map_some]
    exact congrArg some (of_decide_eq_true sameHash).symm

/-- The folder of a file, as the worker finds it, stands above the file. -/
theorem folderId?_stands {parent : DriveId}
    (places : w.pathCache.Places w.remote primary.remoteFolderId)
    (found : w.folderId? primary (relKey above) = some parent)
    : Stands primary.remoteFolderId w.remote parent above := by
  unfold World.folderId? at found
  split at found
  · rename_i top
    obtain rfl := Option.some.inj found
    refine ⟨fun key folder => ?_, .inl rfl⟩
    rw [top]
    exact places.rooted.folderAt_unique folder .root
  · obtain ⟨entry, cached, rfl⟩ := Option.map_eq_some_iff.mp found
    exact places.stands cached

/-- An upload that goes through, with its entry and its row, is confined to the key. -/
theorem Confined.uploaded {fresh parent id : DriveId} {hash : String} {time : Int}
    {content : List UInt8}
    (places : w.pathCache.Places w.remote root) (names : ProperNames (above ++ [name]))
    (unused : w.remote.Unused root fresh) (stands : Stands root w.remote parent above)
    (stored
      : (w.remote.upload fresh parent name.toStringLossy
          ((w.pathCache.lookup (relKey (above ++ [name]))).map CacheEntry.driveId) content).1
        = .ok id)
    (agrees : w.Agrees state)
    : Confined root [relKey (above ++ [name])] w
        { state with
          remote :=
            (w.remote.upload fresh parent name.toStringLossy
              ((w.pathCache.lookup (relKey (above ++ [name]))).map CacheEntry.driveId) content).2
          pathCache := w.pathCache.insert (relKey (above ++ [name])) id parent
          db := w.db.upsert ⟨relKey (above ++ [name]), hash, time⟩ } := by
  have pushed := relKey_pushProper (ProperNames.append.mp names).1 name
  have lookups (other : String) (apart : other ∉ [relKey (above ++ [name])])
      : (w.pathCache.insert (relKey (above ++ [name])) id parent).lookup other
        = w.pathCache.lookup other := by
    rw [PathCache.lookup_insert, if_neg (List.mem_singleton.not.mp apart)]
  have known (other : String) (known : (w.pathCache.lookup other).isSome)
      : ((w.pathCache.insert (relKey (above ++ [name])) id parent).lookup other).isSome := by
    rw [PathCache.lookup_insert]
    split
    · rfl
    · exact known
  have rows (other : String) (apart : other ∉ [relKey (above ++ [name])])
      : (w.db.upsert ⟨relKey (above ++ [name]), hash, time⟩).row other = w.db.row other := by
    rw [Database.row_upsert, if_neg (List.mem_singleton.not.mp apart)]
  cases cached : w.pathCache.lookup (relKey (above ++ [name])) with
  | none =>
      simp only [cached, Option.map_none, Remote.upload, Except.ok.injEq] at stored ⊢
      subst stored
      have other := stands.ne_unused unused
      refine ⟨agrees.disk, agrees.tasks, agrees.running, ?_, lookups, known, rows, ?_, ?_⟩
      · rw [pushed] at cached ⊢
        exact places.added unused (names name (by simp)).plainName other stands.key cached
      · intro id' item key itemAt
        rcases (Remote.itemAt_leaf unused other).mp itemAt with before | ⟨-, -, above', there, rfl⟩
        · exact .inr before
        · rw [stands.key above' there, pushed]
          exact .inl (by simp)
      · intro id' item found
        refine ⟨item, ?_, Iff.rfl⟩
        rw [Remote.item?_put, if_neg]
        · exact found
        · rintro rfl
          rw [unused.unknown] at found
          cases found
  | some old =>
      simp only [cached, Option.map_some] at stored ⊢
      by_cases isFile : ∃ item before,
          w.remote.item? old.driveId = some item ∧ item.kind = .file before
      · obtain ⟨item, before, found, kind⟩ := isFile
        rw [Remote.upload_file found kind] at stored ⊢
        obtain rfl := Except.ok.inj stored
        have file : item.kind ≠ .folder := by simp [kind]
        obtain ⟨placed, items⟩ :=
          @PathCache.Places.updated _ _ _ _ _ parent _ _ _ content places names cached found file
        refine ⟨agrees.disk, agrees.tasks, agrees.running, placed, lookups, known, rows, ?_, ?_⟩
        · exact fun id' item' other itemAt =>
            (items id' item' other itemAt).imp_left List.mem_singleton.mpr
        · intro id' item' found'
          change ∃ item'', (w.remote.put _ _).item? id' = some item'' ∧ _
          rw [Remote.item?_put]
          split
          · rename_i same
            subst same
            obtain rfl := Option.some.inj (found.symm.trans found')
            exact ⟨_, rfl, by simp [kind]⟩
          · exact ⟨item', found', Iff.rfl⟩
      · rw [Remote.upload_missing
          (fun item before found kind => isFile ⟨item, before, found, kind⟩)]
          at stored
        cases stored

/-- Of a file that is dated well, the service takes the upload exactly if the file can be sent. -/
theorem sendable_iff_stored {fresh parent : DriveId} {fileName : String} {content : List UInt8}
    (places : w.pathCache.Places w.remote root) (dated : 0 ≤ data.modified)
    : Sendable w key data
      ↔ ∃ id,
          (w.remote.upload fresh parent fileName
            ((w.pathCache.lookup key).map CacheEntry.driveId) content).1
          = .ok id := by
  cases cached : w.pathCache.lookup key with
  | none =>
      refine ⟨fun _ => ⟨fresh, rfl⟩, fun _ => ⟨dated, ?_⟩⟩
      intro entry item found
      rw [cached] at found
      cases found
  | some entry =>
      obtain ⟨item, found⟩ := places.known key entry cached
      rw [Option.map_some]
      cases kind : item.kind with
      | file old =>
          rw [Remote.upload_file found kind]
          refine ⟨fun _ => ⟨_, rfl⟩, fun _ => ⟨dated, ?_⟩⟩
          intro entry' item' cached' found'
          rw [cached, Option.some.injEq] at cached'
          subst cached'
          rw [found, Option.some.injEq] at found'
          simp [← found', kind]
      | folder =>
          rw [Remote.upload_missing]
          · constructor
            · intro sendable
              exact absurd kind (sendable.file entry item cached found)
            · rintro ⟨id, ⟨⟩⟩
          · intro item' old found'
            rw [found, Option.some.injEq] at found'
            simp [← found', kind]

/-- What has become of a file that was to be sent: it is settled, or left as it was. -/
structure Treated (md5 : List UInt8 → String) (key : String) (data : FileData) (w last : World)
    : Prop where
  settled : Sendable w key data → Settled md5 key data last
  stuck
    : ¬ Sendable w key data
      → last.pathCache.lookup key = w.pathCache.lookup key ∧ last.db.row key = w.db.row key

/-- The upload goes through exactly where the file can be sent. -/
theorem always_uploading_treats {parent : DriveId}
    (there : w.disk.node? (primary.localPath ++ (above ++ [name])) = some (.file data))
    (readable : data.readable = true) (dated : 0 ≤ data.modified)
    (names : ProperNames (above ++ [name]))
    (places : w.pathCache.Places w.remote root) (running : w.shutdown = false)
    (stands : Stands root w.remote parent above) (agrees : w.Agrees state)
    (cache : state.pathCache = w.pathCache) {time : Int}
    : Always (Environment.calm md5 root).sem (fun _ => True)
        (uploading ⟨cfg, false⟩ (primary.localPath ++ (above ++ [name]))
          (relKey (above ++ [name])) (md5 data.content) time parent name.toStringLossy
          ((w.pathCache.lookup (relKey (above ++ [name]))).map CacheEntry.driveId))
        state
        (fun _ last =>
          Confined root [relKey (above ++ [name])] w last
          ∧ Treated md5 (relKey (above ++ [name])) data w last) := by
  have read : state.disk.read (primary.localPath ++ (above ++ [name])) = some data.content := by
    simp [agrees.disk, Disk.read, there, readable]
  let ends (program : Eff Unit) (state : World) : Prop :=
    Always (Environment.calm md5 root).sem (fun _ => True) program state
      (fun _ last =>
        Confined root [relKey (above ++ [name])] w last
        ∧ Treated md5 (relKey (above ++ [name])) data w last)
  suffices comes : CalmlyComes md5 root ends (uploading ..) state from comes.always (fun _ _ => id)
  apply comes_uploadLoop (agrees.running.trans running) read
  · intro fresh id unused stored
    apply comes_insert
    apply comes_stored Environment.calm_undisturbed
    rw [agrees.remote] at unused stored
    refine .here ⟨trivial, ?_⟩
    simp only [agrees.remote, agrees.db, cache]
    refine ⟨.uploaded places names unused stands stored agrees, ⟨fun _ => ⟨?_, ?_⟩, ?_⟩⟩
    · simp [PathCache.lookup_insert]
    · exact ⟨⟨md5 data.content, time⟩, by simp [Database.row_upsert], rfl⟩
    · exact fun stuck => absurd ((sendable_iff_stored places dated).mpr ⟨id, stored⟩) stuck
  · intro fresh error refused error'
    rw [agrees.remote] at refused
    refine ⟨trivial, ?_, ⟨?_, ?_⟩⟩
    · exact .of_agrees places agrees cache
    · intro sendable
      obtain ⟨id, stored⟩ := (sendable_iff_stored places dated).mp sendable
      rw [refused] at stored
      cases stored
    · intro _
      rw [cache, agrees.db]
      exact ⟨rfl, rfl⟩

/-- A file that differs is sent, or left as it was where it cannot be. -/
theorem always_syncFile_treats (configured : cfg.getPrimaryPair = some primary)
    (there : w.disk.node? (primary.localPath ++ (above ++ [name])) = some (.file data))
    (kept : ignore.isIgnored (primary.localPath ++ (above ++ [name])) false = false)
    (nonempty : data.content ≠ []) (readable : data.readable = true)
    (names : ProperNames (above ++ [name]))
    (places : w.pathCache.Places w.remote primary.remoteFolderId) (running : w.shutdown = false)
    (folder : w.folderId? primary (relKey above) ≠ none)
    (differs
      : Differs (.calm md5 primary.remoteFolderId) w (primary.localPath ++ (above ++ [name]))
          (relKey (above ++ [name])))
    : Always (Environment.calm md5 primary.remoteFolderId).sem (fun _ => True)
        (syncFile ⟨cfg, false⟩ ignore (primary.localPath ++ (above ++ [name]))) w
        (fun _ last =>
          Confined primary.remoteFolderId [relKey (above ++ [name])] w last
          ∧ Treated md5 (relKey (above ++ [name])) data w last) := by
  let ends (program : Eff Unit) (state : World) : Prop :=
    Always (Environment.calm md5 primary.remoteFolderId).sem (fun _ => True) program state
      (fun _ last =>
        Confined primary.remoteFolderId [relKey (above ++ [name])] w last
        ∧ Treated md5 (relKey (above ++ [name])) data w last)
  suffices comes : Comes (.calm md5 primary.remoteFolderId) ends (syncFile ..) w from
    comes.always (fun _ _ => id)
  have due := fun dated => not_passedOver running there dated differs
  apply comes_syncFile_stages configured there kept nonempty names
  case early =>
    intro before error
    refine ⟨trivial, .of_agrees places (.refl w) rfl, fun sendable => ?_, fun _ => ⟨rfl, rfl⟩⟩
    exact absurd before (Int.not_lt.mpr sendable.dated)
  case passed => exact fun dated over_ => absurd over_ (due dated)
  case unreadable =>
    intro _ _ closed
    rw [readable] at closed
    cases closed
  case recorded =>
    exact fun _ _ _ recorded => absurd recorded (not_recorded there readable differs)
  case homeless => exact fun _ _ unknown => absurd unknown folder
  case uploads =>
    intro parent state dated _ _ _ found agrees cache
    exact always_uploading_treats there readable dated names places running
      (folderId?_stands places found) agrees cache

-----------------------------------------------------------------------------------------
-- All files
-----------------------------------------------------------------------------------------

/-- What the worker finds of a file that the scan sends: it is shown, readable and not empty, the
folder above it is known, and it differs.
-/
structure Sending (md5 : List UInt8 → String) (primary : SyncPair) (ignore : IgnoreMatcher)
    (w : World) (rel : Path) (data : FileData)
    : Prop where
  there : w.disk.node? (primary.localPath ++ rel) = some (.file data)
  kept : ignore.isIgnored (primary.localPath ++ rel) false = false
  full : data.content ≠ []
  readable : data.readable = true
  named : rel ≠ []
  names : ProperNames rel
  folder : w.folderId? primary (relKey rel.dropLast) ≠ none
  differs
    : Differs (.calm md5 primary.remoteFolderId) w (primary.localPath ++ rel) (relKey rel)

/-- What happens under other keys leaves a file as it is to be sent. -/
theorem Sending.confined {rel : Path} (sending : Sending md5 primary ignore w rel data)
    (confined : Confined root keys w last) (apart : relKey rel ∉ keys)
    : Sending md5 primary ignore last rel data where
  there := confined.disk ▸ sending.there
  kept := sending.kept
  full := sending.full
  readable := sending.readable
  named := sending.named
  names := sending.names
  folder := by
    have folder := sending.folder
    unfold World.folderId? at folder ⊢
    split
    · simp
    · rename_i below
      rw [if_neg below, Option.ne_none_iff_isSome, Option.isSome_map] at folder
      rw [Option.ne_none_iff_isSome, Option.isSome_map]
      exact confined.known _ folder
  differs := by
    have differs := sending.differs
    unfold Differs Outdated at differs ⊢
    rw [confined.lookups _ apart, confined.rows _ apart, confined.disk]
    exact differs

/-- Every file that is to be sent settles or stays as it was, by induction on the files: what is
done for one leaves the others alone.
-/
theorem always_handleInOrder_treats (configured : cfg.getPrimaryPair = some primary)
    (rels : List Path) (distinct : (rels.map relKey).Nodup)
    (sending : ∀ rel ∈ rels, ∃ data, Sending md5 primary ignore w rel data)
    (places : w.pathCache.Places w.remote primary.remoteFolderId) (running : w.shutdown = false)
    : Always (Environment.calm md5 primary.remoteFolderId).sem (fun _ => True)
        (handleInOrder ⟨cfg, false⟩ ignore
          (rels.map (fun rel => .syncFile (primary.localPath ++ rel))))
        w
        (fun result last =>
          (∃ results, result = .ok results)
          ∧ Confined primary.remoteFolderId (rels.map relKey) w last
          ∧ ∀ rel ∈ rels, ∀ data,
              w.disk.node? (primary.localPath ++ rel) = some (.file data)
              → Treated md5 (relKey rel) data w last) := by
  induction rels generalizing w with
  | nil => exact ⟨trivial, ⟨[], rfl⟩, .of_agrees places (.refl w) rfl, by simp⟩
  | cons rel rest ih =>
      obtain ⟨data, here⟩ := sending rel (by simp)
      obtain ⟨new, distinct⟩ := List.nodup_cons.mp distinct
      obtain ⟨above, name, split⟩ := List.eq_nil_or_concat rel |>.resolve_left here.named
      rw [List.concat_eq_append] at split
      have first
          : Always (Environment.calm md5 primary.remoteFolderId).sem (fun _ => True)
              (outcome (handle ⟨cfg, false⟩ ignore (.syncFile (primary.localPath ++ rel)))) w
              (fun result last =>
                (∃ value, result = .ok value)
                ∧ Confined primary.remoteFolderId [relKey rel] w last
                ∧ Treated md5 (relKey rel) data w last) := by
        subst split
        have treats := always_syncFile_treats configured here.there here.kept here.full
          here.readable here.names places running (by simpa using here.folder) here.differs
        refine always_outcome.mpr (treats.mono ?_)
        intro result last _ treated
        exact ⟨⟨result, rfl⟩, treated⟩
      refine first.bind ?_ (by rintro _ _ - ⟨⟨_, ⟨⟩⟩, -⟩)
      rintro _ middle - ⟨-, confined, treated⟩
      have apart {other : Path} (member : other ∈ rest) : relKey other ∉ [relKey rel] := by
        intro same
        exact new (List.mem_singleton.mp same ▸ List.mem_map_of_mem member)
      have later := ih distinct
        (fun other member => by
          obtain ⟨data', there⟩ := sending other (by simp [member])
          exact ⟨data', there.confined confined (apart member)⟩)
        confined.places (confined.running.trans running)
      refine later.bind ?_ (by rintro _ _ - ⟨⟨_, ⟨⟩⟩, -⟩)
      rintro results last - ⟨-, confined', treated'⟩
      refine ⟨trivial, ⟨_, rfl⟩, confined.trans confined', ?_⟩
      intro other member data' there
      rcases List.mem_cons.mp member with rfl | member
      · obtain rfl : data = data' := by
          have same := here.there.symm.trans there
          simpa using same
        have cached := confined'.lookups _ new
        have row := confined'.rows _ new
        refine ⟨fun sendable => ?_, fun stuck => ?_⟩
        · rw [Settled, cached, row]
          exact treated.settled sendable
        · rw [cached, row]
          exact treated.stuck stuck
      · have treated' := treated' other member data' (confined.disk ▸ there)
        have same := @Confined.sendable_iff w middle _ data' _ _ confined places (apart member)
        refine ⟨fun sendable => treated'.settled (same.mpr sendable), fun stuck => ?_⟩
        obtain ⟨cached, row⟩ := treated'.stuck (same.not.mpr stuck)
        exact ⟨cached.trans (confined.lookups _ (apart member)),
          row.trans (confined.rows _ (apart member))⟩

end Sending

-----------------------------------------------------------------------------------------
-- Deleting
-----------------------------------------------------------------------------------------

/-- The keys have been deleted, one after the other, and nothing else has happened. -/
structure Cleared (root : DriveId) (keys : List String) (w last : World) : Prop where
  disk : last.disk = w.disk
  tasks : last.tasks = w.tasks
  running : last.shutdown = w.shutdown
  places : last.pathCache.Places last.remote root
  gone : ∀ key ∈ keys, last.pathCache.lookup key = none ∧ last.db.row key = none
  below
    : ∀ key ∈ keys,
        (w.pathCache.lookup key).isSome
        → ∀ other, Covers key other → last.pathCache.lookup other = none
  spared
    : ∀ other,
        (∀ key ∈ keys, (w.pathCache.lookup key).isSome → ¬ Covers key other)
        → last.pathCache.lookup other = w.pathCache.lookup other
  lookups
    : ∀ other,
        last.pathCache.lookup other = none
        ∨ last.pathCache.lookup other = w.pathCache.lookup other
  rows : ∀ other, other ∉ keys → last.db.row other = w.db.row other
  items
    : ∀ id item key, last.remote.ItemAt root id item key → w.remote.ItemAt root id item key

/-- The key that a deletion clears: none where the path is ignored or outside of the root. -/
def clearedKey (primary : SyncPair) (ignore : IgnoreMatcher) (disk : Disk) (path : Path)
    : Option String :=
  if ignore.isIgnored path (disk.isDir path) then none
  else (relStr primary.localPath path).toOption

section Deleting

variable {md5 : List UInt8 → String} {w middle last : World} {cfg : AppConfig}
  {primary : SyncPair} {ignore : IgnoreMatcher} {root : DriveId} {keys more : List String}
  {key : String} {path : Path}

theorem Cleared.refl (places : w.pathCache.Places w.remote root) : Cleared root [] w w where
  disk := rfl
  tasks := rfl
  running := rfl
  places := places
  gone := by simp
  below := by simp
  spared _ _ := rfl
  lookups _ := .inr rfl
  rows _ _ := rfl
  items _ _ _ := id

/-- Deletions compose. What hides a key from the second ones has gone with all below it. -/
theorem Cleared.trans (first : Cleared root keys w middle) (second : Cleared root more middle last)
    : Cleared root (keys ++ more) w last where
  disk := second.disk.trans first.disk
  tasks := second.tasks.trans first.tasks
  running := second.running.trans first.running
  places := second.places
  gone key member := by
    by_cases later : key ∈ more
    · exact second.gone key later
    · have here := first.gone key ((List.mem_append.mp member).resolve_right later)
      refine ⟨?_, (second.rows key later).trans here.2⟩
      rcases second.lookups key with none_ | same
      · exact none_
      · exact same.trans here.1
  below key member known other covers := by
    have stays (gone : middle.pathCache.lookup other = none)
        : last.pathCache.lookup other = none := by
      rcases second.lookups other with none_ | same
      · exact none_
      · exact same.trans gone
    rcases List.mem_append.mp member with before | later
    · exact stays (first.below key before known other covers)
    · by_cases hidden : ∃ key' ∈ keys, (w.pathCache.lookup key').isSome ∧ Covers key' key
      · obtain ⟨key', before, known', covers'⟩ := hidden
        exact stays (first.below key' before known' other (covers'.trans covers))
      · refine second.below key later ?_ other covers
        rw [first.spared key (fun key' before known' covers' =>
          hidden ⟨key', before, known', covers'⟩)]
        exact known
  spared other apart := by
    have here := first.spared other (fun key before => apart key (List.mem_append_left _ before))
    refine (second.spared other (fun key later known => ?_)).trans here
    refine apart key (List.mem_append_right _ later) ?_
    rcases first.lookups key with none_ | same
    · rw [none_] at known
      cases known
    · exact same ▸ known
  lookups other := by
    rcases second.lookups other with none_ | same
    · exact .inl none_
    · rw [same]
      exact first.lookups other
  rows other apart := by
    rw [List.mem_append, not_or] at apart
    exact (second.rows other apart.2).trans (first.rows other apart.1)
  items id item key itemAt := first.items id item key (second.items id item key itemAt)

theorem lookup_cleared {cache : PathCache} {other : String}
    : (Covers key other → (cache.removeCascades key).lookup other = none)
      ∧ (¬ Covers key other → (cache.removeCascades key).lookup other = cache.lookup other) := by
  rw [PathCache.lookup_removeCascades, covers_iff_isBelow]
  exact ⟨fun covers => if_pos covers, fun apart => if_neg apart⟩

/-- The deletion of a key that is cached. -/
theorem Cleared.cached {entry : CacheEntry} {item : RemoteItem}
    (places : w.pathCache.Places w.remote root) (cached : w.pathCache.lookup key = some entry)
    (found : w.remote.item? entry.driveId = some item)
    : Cleared root [key] w
        { w with
          remote := w.remote.put entry.driveId { item with trashed := true }
          pathCache := w.pathCache.removeCascades key
          db := w.db.delete key } where
  disk := rfl
  tasks := rfl
  running := rfl
  places := places.trashed cached found
  gone := by
    simp [PathCache.lookup_removeCascades, Database.row_delete]
  below key' member _ other covers := by
    rw [List.mem_singleton.mp member] at covers
    exact lookup_cleared.1 covers
  spared other apart := by
    apply lookup_cleared.2
    exact apart key (by simp) (by simp [cached])
  lookups other := by
    by_cases covers : Covers key other
    · exact .inl (lookup_cleared.1 covers)
    · exact .inr (lookup_cleared.2 covers)
  rows other apart := by
    simp [Database.row_delete, List.mem_singleton.not.mp apart]
  items id item' key' itemAt := (PathCache.itemAt_of_trashed itemAt).2

/-- The deletion of a key that is not. -/
theorem Cleared.uncached (places : w.pathCache.Places w.remote root)
    (absent : w.pathCache.lookup key = none)
    : Cleared root [key] w { w with db := w.db.delete key } where
  disk := rfl
  tasks := rfl
  running := rfl
  places := places
  gone := by
    simp [absent, Database.row_delete]
  below key' member known := by
    rw [List.mem_singleton.mp member, absent] at known
    cases known
  spared _ _ := rfl
  lookups _ := .inr rfl
  rows other apart := by
    simp [Database.row_delete, List.mem_singleton.not.mp apart]
  items _ _ _ := id

/-- Handling a deletion clears its key, if it has one. -/
theorem always_delete_clears (configured : cfg.getPrimaryPair = some primary)
    (places : w.pathCache.Places w.remote root) (running : w.shutdown = false)
    : Always (Environment.calm md5 root).sem (fun _ => True) (delete ⟨cfg, false⟩ ignore path) w
        (fun _ => Cleared root (clearedKey primary ignore w.disk path).toList w) := by
  unfold clearedKey
  split
  · rename_i ignored
    unfold delete
    refine always_isDir_bind trivial ?_
    rw [ignored, if_pos rfl]
    exact ⟨trivial, .refl places⟩
  rename_i kept
  cases inRoot : relStr primary.localPath path with
  | error error =>
      unfold delete
      refine always_isDir_bind trivial ?_
      rw [if_neg kept]
      simp only [configured, orError, propagate, Prog.ok_bind, inRoot]
      exact ⟨trivial, .refl places⟩
  | ok key =>
      refine always_delete_key configured (by simpa using kept) inRoot ?_
      have rows {state : World}
          (cleared : Cleared root [key] w { state with db := state.db.delete key })
          : Always (Environment.calm md5 root).sem (fun _ => True)
              (do propagate (← ask (.deleteRow key))) state (fun _ => Cleared root [key] w) :=
        always_deleteRow cleared (fun faulty => absurd faulty id)
      cases cached : w.pathCache.lookup key with
      | none =>
          simp only [deleteItem, bind_assoc]
          refine always_known (fun _ _ served => served) trivial ?_
          rw [cached]
          exact rows (.uncached places cached)
      | some entry =>
          obtain ⟨item, found⟩ := places.known key entry cached
          have removes := @Setting.always_deleteItem_known w (fun _ => True) md5 root
            ⟨cfg, false⟩ key entry item _ (fun result state => result = .ok () ∧ state = _) cached
            found rfl running trivial trivial ⟨trivial, rfl, rfl⟩
          refine removes.bind ?_ (by rintro _ _ - ⟨⟨⟩, -⟩)
          rintro _ _ - ⟨-, rfl⟩
          exact rows (.cached places cached found)

/-- Deletions clear their keys, by induction on the paths. -/
theorem always_handleInOrder_clears (configured : cfg.getPrimaryPair = some primary)
    (paths : List Path) (places : w.pathCache.Places w.remote root) (running : w.shutdown = false)
    : Always (Environment.calm md5 root).sem (fun _ => True)
        (handleInOrder ⟨cfg, false⟩ ignore (paths.map .delete)) w
        (fun result last =>
          (∃ results, result = .ok results)
          ∧ Cleared root (paths.filterMap (clearedKey primary ignore w.disk)) w last) := by
  induction paths generalizing w with
  | nil => exact ⟨trivial, ⟨[], rfl⟩, .refl places⟩
  | cons path rest ih =>
      have first
          : Always (Environment.calm md5 root).sem (fun _ => True)
              (outcome (handle ⟨cfg, false⟩ ignore (.delete path))) w
              (fun result last =>
                (∃ value, result = .ok value)
                ∧ Cleared root (clearedKey primary ignore w.disk path).toList w last) := by
        refine always_outcome.mpr ((always_delete_clears configured places running).mono ?_)
        intro result last _ cleared
        exact ⟨⟨result, rfl⟩, cleared⟩
      refine first.bind ?_ (by rintro _ _ - ⟨⟨_, ⟨⟩⟩, -⟩)
      rintro _ middle - ⟨-, cleared⟩
      refine (ih cleared.places (cleared.running.trans running)).bind ?_
        (by rintro _ _ - ⟨⟨_, ⟨⟩⟩, -⟩)
      rintro results last - ⟨-, later⟩
      refine ⟨trivial, ⟨_, rfl⟩, ?_⟩
      rw [cleared.disk] at later
      have whole := cleared.trans later
      cases key : clearedKey primary ignore w.disk path <;> simpa [key] using whole

end Deleting

end SyncGDrive
