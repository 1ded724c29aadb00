import SyncGDrive.Engine.Diff
import SyncGDrive.Engine.Relisting
import SyncGDrive.Reconciliation.Worker
import SyncGDrive.Remote.Placement

/-! What a scan makes of any state in which no identifier has two paths, when everything works: a
cache that places the items of the remote, and the tasks for what differs.
-/

namespace SyncGDrive

open Program

-----------------------------------------------------------------------------------------
-- Phase 0
-----------------------------------------------------------------------------------------

namespace PathCache

variable {cache : PathCache} {remote : Remote} {root : DriveId} {index : RemoteIndex}
  {md5 : List UInt8 → String}

/-- What is cached where the remote has nothing is an item that stands nowhere. -/
def Unmixed (cache : PathCache) (remote : Remote) (root : DriveId) : Prop :=
  ∀ key entry,
    cache.lookup key = some entry
    → (∃ id item, remote.ItemAt root id item key)
      ∨ (∃ item, remote.item? entry.driveId = some item)
        ∧ ∀ item key', ¬ remote.ItemAt root entry.driveId item key'

theorem Places.unmixed (places : cache.Places remote root) : cache.Unmixed remote root := by
  intro key entry cached
  by_cases there : ∃ id item, remote.ItemAt root id item key
  · exact .inl there
  · refine .inr ⟨places.known key entry cached, fun item key' itemAt => there ?_⟩
    obtain rfl := places.placed _ _ _ _ cached itemAt
    exact ⟨_, _, itemAt⟩

/-- An entry of an index is that of one of its folders, or of one of its files. -/
theorem mem_entries {key : String} {entry : CacheEntry}
    : (key, entry) ∈ index.entries
      ↔ (∃ dir ∈ index.dirs, dir.relativePath = key ∧ ⟨dir.driveId, dir.parentId⟩ = entry)
        ∨ ∃ file ∈ index.files, file.relativePath = key
          ∧ ⟨file.driveId, file.parentId⟩ = entry := by
  simp only [RemoteIndex.entries, List.mem_append, List.mem_map, Prod.mk.injEq]

/-- The entries of a listing are those of the items. -/
theorem entries_listed (lists : remote.Lists md5 root index)
    : (∀ key entry, (key, entry) ∈ index.entries
        → ∃ item, remote.ItemAt root entry.driveId item key)
      ∧ ∀ id item key, remote.ItemAt root id item key → key ∈ index.entries.map Prod.fst := by
  constructor
  · intro key entry member
    rcases mem_entries.mp member with ⟨dir, listed, rfl, rfl⟩ | ⟨file, listed, rfl, rfl⟩
    · obtain ⟨item, itemAt, -⟩ := lists.dirs dir listed
      exact ⟨item, itemAt⟩
    · obtain ⟨item, content, itemAt, -⟩ := lists.files file listed
      exact ⟨item, itemAt⟩
  · intro id item key itemAt
    have entered {entry : CacheEntry} (member : (key, entry) ∈ index.entries)
        : key ∈ index.entries.map Prod.fst := List.mem_map.mpr ⟨_, member, rfl⟩
    cases kind : item.kind with
    | folder =>
        obtain ⟨dir, listed, -, rfl⟩ := lists.everyDir id item key itemAt kind
        exact entered (mem_entries.mpr (.inl ⟨dir, listed, rfl, rfl⟩))
    | file content =>
        obtain ⟨file, listed, -, rfl⟩ := lists.everyFile id item key content itemAt kind
        exact entered (mem_entries.mpr (.inr ⟨file, listed, rfl, rfl⟩))

/-- Filled with a listing, the cache places the items; where there are none, it stays. -/
theorem Unmixed.filled (unmixed : cache.Unmixed remote root) (sound : remote.Sound root)
    (lists : remote.Lists md5 root index)
    : (cache.enterAll index.entries).Places remote root
      ∧ ∀ key,
          (∀ id item, ¬ remote.ItemAt root id item key)
          → (cache.enterAll index.entries).lookup key = cache.lookup key := by
  obtain ⟨right, every⟩ := entries_listed lists
  -- An entry is that of the item at its key, or an old one where there is no item.
  have found (key : String)
      : (∃ entry item, (cache.enterAll index.entries).lookup key = some entry
          ∧ remote.ItemAt root entry.driveId item key)
        ∨ (∀ id item, ¬ remote.ItemAt root id item key)
          ∧ (cache.enterAll index.entries).lookup key = cache.lookup key := by
    rcases lookup_enterAll_or key with ⟨entry, member, found⟩ | ⟨absent, same⟩
    · obtain ⟨item, itemAt⟩ := right key entry member
      exact .inl ⟨entry, item, found, itemAt⟩
    · exact .inr ⟨fun id item itemAt => absent (every id item key itemAt), same⟩
  refine ⟨⟨sound.rooted, sound.plain, ?_, ?_, ?_⟩, ?_⟩
  · intro id item key itemAt
    rcases found key with ⟨entry, item', cached, itemAt'⟩ | ⟨free, -⟩
    · obtain rfl := sound.unique _ _ _ _ _ itemAt itemAt'
      exact ⟨entry.parentId, cached⟩
    · exact absurd itemAt (free id item)
  · intro key entry cached
    rcases found key with ⟨entry', item, cached', itemAt⟩ | ⟨free, same⟩
    · rw [cached, Option.some.injEq] at cached'
      exact ⟨item, cached' ▸ itemAt.1⟩
    · rcases unmixed key entry (same ▸ cached) with ⟨id, item, itemAt⟩ | ⟨known, -⟩
      · exact absurd itemAt (free id item)
      · exact known
  · intro key entry item key' cached itemAt
    rcases found key with ⟨entry', item', cached', itemAt'⟩ | ⟨free, same⟩
    · rw [cached, Option.some.injEq] at cached'
      subst cached'
      obtain rfl := Option.some.inj (itemAt.1.symm.trans itemAt'.1)
      exact sound.rooted.itemAt_unique itemAt itemAt'
    · rcases unmixed key entry (same ▸ cached) with ⟨id, item', itemAt'⟩ | ⟨-, nowhere⟩
      · exact absurd itemAt' (free id item')
      · exact absurd itemAt (nowhere _ _)
  · intro key free
    rcases found key with ⟨entry, item, -, itemAt⟩ | ⟨-, same⟩
    · exact absurd itemAt (free _ _)
    · exact same

end PathCache

-----------------------------------------------------------------------------------------
-- Phase 2
-----------------------------------------------------------------------------------------

/-- Folders have been made and cached since, and nothing else has happened. -/
structure Furnished (root : DriveId) (w state : World) : Prop where
  disk : state.disk = w.disk
  db : state.db = w.db
  tasks : state.tasks = w.tasks
  running : state.shutdown = w.shutdown
  places : state.pathCache.Places state.remote root
  items
    : ∀ id item key,
        state.remote.ItemAt root id item key
        → w.remote.ItemAt root id item key ∨ item.kind = .folder
  kept : ∀ id item, w.remote.item? id = some item → state.remote.item? id = some item
  cached
    : ∀ key entry, w.pathCache.lookup key = some entry → state.pathCache.lookup key = some entry

/-- The identifier is of the folder at a path, or of one that stands nowhere. -/
structure Stands (root : DriveId) (remote : Remote) (id : DriveId) (rel : Path) : Prop where
  key : ∀ key, remote.FolderAt root id key → key = relKey rel
  used : id = root ∨ ∃ item, remote.item? id = some item

section Folders

variable {md5 : List UInt8 → String} {root : DriveId} {w state : World} {cfg : AppConfig}
  {primary : SyncPair} {id : DriveId} {done rel : Path} {name : OsString}

theorem Furnished.refl (places : w.pathCache.Places w.remote root) : Furnished root w w :=
  ⟨rfl, rfl, rfl, rfl, places, fun _ _ _ => .inl, fun _ _ => id, fun _ _ => id⟩

/-- What is reported does not matter. -/
theorem Furnished.agrees {after : World} (furnished : Furnished root w state)
    (agrees : state.Agrees after) (same : after.pathCache = state.pathCache)
    : Furnished root w after where
  disk := agrees.disk.trans furnished.disk
  db := agrees.db.trans furnished.db
  tasks := agrees.tasks.trans furnished.tasks
  running := agrees.running.trans furnished.running
  places := by
    rw [same, agrees.remote]
    exact furnished.places
  items := agrees.remote ▸ furnished.items
  kept := agrees.remote ▸ furnished.kept
  cached := same ▸ furnished.cached

/-- A cached identifier stands at its key. -/
theorem PathCache.Places.stands {cache : PathCache} {remote : Remote} {entry : CacheEntry}
    (places : cache.Places remote root) (cached : cache.lookup (relKey rel) = some entry)
    : Stands root remote entry.driveId rel :=
  ⟨fun _ folder => places.folder_key cached folder, .inr (places.known _ _ cached)⟩

theorem Stands.ne_unused {remote : Remote} {fresh : DriveId} (stands : Stands root remote id rel)
    (unused : remote.Unused root fresh)
    : id ≠ fresh := by
  rintro rfl
  rcases stands.used with same | ⟨item, found⟩
  · exact unused.notRoot same
  · rw [unused.unknown] at found
    cases found

/-- A folder made or found below one that stands somewhere, once it is cached. -/
theorem Furnished.mkdir (furnished : Furnished root w state) (names : ProperNames (done ++ [name]))
    (stands : Stands root state.remote id done) {fresh : DriveId}
    (unused : state.remote.Unused root fresh)
    (absent : state.pathCache.lookup (relKey (done ++ [name])) = none)
    : Furnished root w
        { state with
          remote := (state.remote.mkdir fresh id name.toStringLossy).2
          pathCache :=
            state.pathCache.insert (relKey (done ++ [name]))
              (state.remote.mkdir fresh id name.toStringLossy).1 id } := by
  have places := furnished.places
  have pushed := relKey_pushProper (ProperNames.append.mp names).1 name
  have cached {key : String} {entry : CacheEntry} {new parent : DriveId}
      (found : w.pathCache.lookup key = some entry)
      : (state.pathCache.insert (relKey (done ++ [name])) new parent).lookup key = some entry := by
    rw [PathCache.lookup_insert, if_neg]
    · exact furnished.cached key entry found
    · rintro rfl
      rw [furnished.cached _ entry found] at absent
      cases absent
  unfold Remote.mkdir
  cases named : state.remote.folderNamed id name.toStringLossy with
  | some found =>
      obtain ⟨item, known, -, under, same, live⟩ := Remote.folderNamed_found named
      refine
        { furnished with
          places := places.noted known ?_ absent
          cached := fun _ _ found => cached found }
      -- If it stood somewhere, that would be the key, and the cache would have it.
      rintro item' key ⟨known', -, above, folder, rfl⟩
      obtain rfl := Option.some.inj (known.symm.trans known')
      have here := stands.key above (under ▸ folder)
      refine places.free absent _ item ⟨known, live, above, folder, ?_⟩
      rw [pushed, here, same]
  | none =>
      have other := stands.ne_unused unused
      rw [pushed] at absent ⊢
      refine
        { furnished with
          places := places.added unused (names name (by simp)).plainName other stands.key absent
          items := ?_
          kept := ?_
          cached := fun _ _ found => pushed ▸ cached found }
      · intro id' item key itemAt
        rcases (Remote.itemAt_leaf unused other).mp itemAt with before | ⟨-, rfl, -⟩
        · exact furnished.items id' item key before
        · exact .inr rfl
      · intro id' item found
        rw [Remote.item?_put, if_neg]
        · exact furnished.kept id' item found
        · rintro rfl
          have found := furnished.kept id' item found
          rw [unused.unknown] at found
          cases found

/-- One name further down. -/
theorem always_enterFolder_furnished (furnished : Furnished root w state)
    (running : state.shutdown = false) (names : ProperNames (done ++ [name]))
    (stands : Stands root state.remote id done)
    : Always (Environment.calm md5 root).sem (fun _ => True)
        (enterFolder ⟨cfg, false⟩ (relKey done, id) name) state
        (fun result last =>
          ∃ id',
            result = .ok (relKey (done ++ [name]), id')
            ∧ Furnished root w last ∧ Stands root last.remote id' (done ++ [name])) := by
  have pushed := relKey_pushProper (ProperNames.append.mp names).1 name
  unfold enterFolder
  simp only []
  generalize same : pushKey (relKey done) name.toStringLossy = key
  obtain rfl : key = relKey (done ++ [name]) := same.symm.trans pushed.symm
  refine always_known (fun _ _ served => served) trivial ?_
  cases found : state.pathCache.lookup (relKey (done ++ [name])) with
  | some entry => exact ⟨trivial, _, rfl, furnished, furnished.places.stands found⟩
  | none =>
      simp only [enterFolder.create, Bool.false_eq_true, if_false]
      refine Setting.always_retry_bind Environment.calm_undisturbed trivial running ?_
      refine always_ask.mpr ⟨trivial, ?_⟩
      rintro answer after ⟨remote, ⟨fresh, unused, rfl, rfl⟩, rfl⟩
      refine ⟨trivial, _, rfl, always_ask_bind.mpr ⟨trivial, ?_⟩⟩
      rintro _ _ rfl
      have made := furnished.mkdir names stands unused found
      have cached := PathCache.lookup_insert state.pathCache (relKey (done ++ [name]))
        (relKey (done ++ [name])) (state.remote.mkdir fresh id name.toStringLossy).1 id
      rw [if_pos rfl] at cached
      exact ⟨trivial, _, rfl, made, made.places.stands cached⟩

/-- All the folders on the way to a directory, by induction on the names. -/
theorem always_enterFolders_furnished (furnished : Furnished root w state)
    (running : w.shutdown = false) (names : ProperNames rel)
    : Always (Environment.calm md5 root).sem (fun _ => True)
        (rel.foldlM (enterFolder ⟨cfg, false⟩) ("", root)) state
        (fun result last => (∃ reached, result = .ok reached) ∧ Furnished root w last) := by
  refine always_foldlM
    (fun rest reached middle =>
      ∃ done id,
        rel = done ++ rest ∧ reached = (relKey done, id) ∧ Furnished root w middle
        ∧ Stands root middle.remote id done)
    ?kept ?step rel ("", root) ⟨[], root, rfl, by simp, furnished, ?_, .inl rfl⟩
  case kept =>
    rintro reached last ⟨-, -, -, -, furnished, -⟩
    exact ⟨trivial, ⟨reached, rfl⟩, furnished⟩
  case step =>
    rintro name rest _ middle ⟨done, id, split, rfl, furnished, stands⟩
    have whole : rel = (done ++ [name]) ++ rest := by simp [split]
    refine (always_enterFolder_furnished furnished (furnished.running.trans running)
      (ProperNames.append.mp (whole ▸ names)).1 stands).mono ?_
    rintro result last - ⟨id', rfl, furnished, stands⟩
    exact ⟨done ++ [name], id', whole, rfl, furnished, stands⟩
  · intro key folder
    rw [relKey_nil]
    exact furnished.places.rooted.folderAt_unique folder .root

/-- Phase 2 makes and caches folders. -/
theorem always_createFolders_furnished {localDirs : List Path}
    (places : w.pathCache.Places w.remote primary.remoteFolderId) (running : w.shutdown = false)
    (walked : ∀ dir ∈ localDirs, ∃ rel, dir = primary.localPath ++ rel ∧ ProperNames rel)
    : Always (Environment.calm md5 primary.remoteFolderId).sem (fun _ => True)
        (createFolders ⟨cfg, false⟩ primary localDirs) w
        (fun result last => result = .ok () ∧ Furnished primary.remoteFolderId w last) := by
  refine always_forM
    (fun rest middle =>
      (∀ dir ∈ rest, dir.1 ∈ localDirs) ∧ Furnished primary.remoteFolderId w middle)
    ?kept ?step _ ⟨?_, .refl places⟩
  case kept => exact fun last loop => ⟨trivial, rfl, loop.2⟩
  case step =>
    rintro ⟨dir, place⟩ rest middle ⟨coming, furnished⟩
    obtain ⟨rel, rfl, names⟩ := walked dir (coming (dir, place) (by simp))
    have later : ∀ dir ∈ rest, dir.1 ∈ localDirs := fun dir member => coming dir (by simp [member])
    have running' := furnished.running.trans running
    refine always_unlessShutdown Environment.calm_undisturbed running' ?_
    simp only [names.clean.stripPrefix]
    refine always_silent_bind Environment.calm_undisturbed (uses_silent uses_scanProgress)
      (neverFails_ask Environment.calm_undisturbed) running' (fun _ _ => trivial) ?_
    intro _ reported agrees same
    have furnished := furnished.agrees agrees same
    refine always_known (fun _ _ served => served) trivial ?_
    cases reported.pathCache.lookup (relKey rel) with
    | some entry => exact ⟨trivial, later, furnished⟩
    | none =>
        refine (always_enterFolders_furnished furnished running names).bind ?_ ?_
        · exact fun reached last _ entered => ⟨trivial, later, entered.2⟩
        · rintro error last - ⟨⟨reached, same⟩, -⟩
          cases same
  · intro dir member
    exact List.fst_mem_of_mem_zipIdx member

end Folders

-----------------------------------------------------------------------------------------
-- The whole scan
-----------------------------------------------------------------------------------------

/-- What a scan has done: the remote is listed and cached, the walked directories have folders, and
what differs is sent.
-/
structure Rescanned (md5 : List UInt8 → String) (primary : SyncPair) (ignore : IgnoreMatcher)
    (w : World) (index : RemoteIndex) (order : List String) (upserts : List FileEntry)
    (last : World)
    : Prop where
  lists : w.remote.Lists md5 primary.remoteFolderId index
  disk : last.disk = w.disk
  running : last.shutdown = false
  diff
    : ExactDiff (.calm md5 primary.remoteFolderId) primary ignore
        (walkedRels w.disk primary.localPath ignore) index
        { w with pathCache := last.pathCache } order last upserts
  places : last.pathCache.Places last.remote primary.remoteFolderId
  items
    : ∀ id item key,
        last.remote.ItemAt primary.remoteFolderId id item key
        → w.remote.ItemAt primary.remoteFolderId id item key ∨ item.kind = .folder
  kept : ∀ id item, w.remote.item? id = some item → last.remote.item? id = some item
  cached
    : ∀ key entry,
        (w.pathCache.enterAll index.entries).lookup key = some entry
        → last.pathCache.lookup key = some entry
  known : KnowsOnly (KnownKey w (.ok index) primary ignore) last
  dirs
    : ∀ rel,
        primary.localPath ++ rel ∈ walkedDirs w.disk primary.localPath ignore
        → (last.pathCache.lookup (relKey rel)).isSome

section Scan

variable {md5 : List UInt8 → String} {w : World} {cfg : AppConfig} {primary : SyncPair}
  {ignore : IgnoreMatcher} {index : RemoteIndex}

/-- The comparison changes neither the remote nor the disk nor the cache. -/
theorem always_reconcile_frame {env : Environment} (quiet : env.Undisturbed) {ctx : EngineContext}
    {localFiles : List Path}
    : Always env.sem
        (fun state =>
          state.remote = w.remote ∧ state.disk = w.disk ∧ state.shutdown = w.shutdown)
        (reconcile ctx primary ignore index localFiles) w (fun _ _ => True) := by
  refine uses_reconcile.always ?_ ⟨rfl, rfl, rfl⟩
  rintro op state answer next allowed ⟨remote, disk, running⟩ served
  have keeps := env.sem_keeps served
  have spares : op.writes ≠ some .remote := by
    cases allowed with
    | looks looks => cases looks <;> simp [Op.writes]
    | upsert entry => simp [Op.writes]
    | send task => simp [Op.writes]
  exact ⟨(keeps.remote spares).trans remote, keeps.disk.trans disk,
    (env.sem_shutdown quiet served).trans running⟩

/-- Where everything works and no identifier has two paths, a scan does exactly this. -/
theorem always_scan_rescanned (configured : cfg.getPrimaryPair = some primary)
    (running : w.shutdown = false) (sound : w.remote.Sound primary.remoteFolderId)
    (unmixed : w.pathCache.Unmixed w.remote primary.remoteFolderId)
    (distinct : ((walkedRels w.disk primary.localPath ignore).map relKey).Nodup)
    : Always (Environment.calm md5 primary.remoteFolderId).sem (fun _ => True)
        (scan ⟨cfg, false⟩ ignore) w
        (fun result last =>
          result = .ok ()
          ∧ ∃ index order upserts,
              Rescanned md5 primary ignore w index order upserts last) := by
  have quiet := @Environment.calm_undisturbed md5 primary.remoteFolderId
  unfold scan
  simp only [orError, configured, propagate, Prog.ok_bind, listRemote, bind_assoc]
  refine always_silent_bind quiet (uses_silent uses_scanProgress) (neverFails_ask quiet) running
    (fun _ _ => trivial) ?_
  intro _ reported agrees same
  refine always_ask_bind.mpr ⟨trivial, ?_⟩
  rintro answer listed ⟨remote, ⟨rfl, index, rfl, lists⟩, rfl⟩
  replace lists := lists rfl
  refine always_fillCache.bind ?_ (by rintro _ _ - ⟨⟨⟩, -⟩)
  rintro _ filled - ⟨-, cached⟩
  -- The inventories leave everything but the cache as it was.
  replace lists : w.remote.Lists md5 primary.remoteFolderId index := agrees.remote ▸ lists
  have agrees : w.Agrees filled :=
    cached ▸ ⟨agrees.disk, agrees.db, agrees.remote, agrees.tasks, agrees.running⟩
  replace cached : filled.pathCache = w.pathCache.enterAll index.entries := by rw [cached, ← same]
  refine always_takeInventory_bind quiet (agrees.running.trans running) (fun _ _ => trivial) ?_
  intro inventory walked files dirs agrees' same
  replace agrees := agrees.trans agrees'
  replace cached := same.trans cached
  rw [files, dirs, agrees'.disk.symm.trans agrees.disk, walkedFiles_eq]
  have places : walked.pathCache.Places walked.remote primary.remoteFolderId := by
    rw [cached, agrees.remote]
    exact (unmixed.filled sound lists).1
  have inside : ∀ dir ∈ walkedDirs w.disk primary.localPath ignore,
      ∃ rel, dir = primary.localPath ++ rel ∧ ProperNames rel := by
    intro dir member
    obtain ⟨-, name, rest, rfl⟩ := mem_walkedDirs.mp member
    exact ⟨_, rfl, (walkedDirs_above member).1⟩
  have knows : KnowsOnly (KnownKey w (.ok index) primary ignore) walked := by
    intro key known
    rw [cached] at known
    rcases PathCache.lookup_enterAll_or key with ⟨entry, member, -⟩ | ⟨-, before⟩
    · rcases PathCache.mem_entries.mp member with ⟨dir, listed, rfl, -⟩ | ⟨file, listed, rfl, -⟩
      · exact .inr (.inr (.inl ⟨dir, listed, rfl⟩))
      · exact .inr (.inl ⟨file, listed, rfl⟩)
    · exact .inl (before ▸ known)
  have furnishes :=
    ((@always_createFolders_furnished md5 walked cfg primary _ places
        (agrees.running.trans running) inside).and
      (always_knowsOnly (entersOnly_createFolders
        (fun rel walked => .inr (.inr (.inr ⟨rel, walked, rfl⟩)))) knows)).and
      (always_forall (fun rel : { rel //
          primary.localPath ++ rel ∈ walkedDirs w.disk primary.localPath ignore } =>
        createFolders_knows rel.2))
  refine furnishes.seq (fun _ _ => trivial) ?_ (by rintro _ _ - ⟨⟨⟨⟨⟩, -⟩, -⟩, -⟩)
  rintro _ made ⟨⟨-, known⟩, -⟩ ⟨⟨⟨-, furnished⟩, -⟩, dirs⟩
  have compares := @always_reconcile (.calm md5 primary.remoteFolderId) made {} primary ignore
    (walkedRels w.disk primary.localPath ignore) index quiet
    (furnished.running.trans (agrees.running.trans running)) cfg
    (fun rel member => (walkedRels_proper member).clean) distinct
  refine (compares.bare.and (always_reconcile_frame quiet)).weaken (fun _ _ => trivial) |>.mono ?_
  rintro result last - ⟨⟨-, remote, disk, running'⟩, ⟨log, rfl, cache, -, order, diff⟩, -⟩
  refine ⟨rfl, index, order, log.upserts, ?_⟩
  replace diff := diff.congr (furnished.disk.trans agrees.disk) (furnished.db.trans agrees.db)
    (furnished.tasks.trans agrees.tasks)
  replace cache : last.pathCache = made.pathCache := cache
  refine ⟨lists, ?_, ?_, cache ▸ diff, ?_, ?_, ?_, ?_, ?_, ?_⟩
  · exact disk.trans (furnished.disk.trans agrees.disk)
  · exact running'.trans (furnished.running.trans (agrees.running.trans running))
  · rw [cache, remote]
    exact furnished.places
  · rw [remote, ← agrees.remote]
    exact furnished.items
  · rw [remote, ← agrees.remote]
    exact furnished.kept
  · rw [cache, ← cached]
    exact furnished.cached
  · rw [KnowsOnly, cache]
    exact known
  · intro rel walked
    rw [cache]
    exact dirs ⟨rel, walked⟩ rfl

end Scan

end SyncGDrive
