import SyncGDrive.Engine.Knowledge

/-! Files below an excluded directory, and when a scan leads to the deletion of their remote
items.
-/

namespace SyncGDrive

open Program

variable {md5 : List UInt8 → String} {listing : Except Error RemoteIndex} {cfg : AppConfig}
  {ignore : IgnoreMatcher} {primary : SyncPair} {w : World} {α : Type}

-----------------------------------------------------------------------------------------
-- When a deletion reaches the provider
-----------------------------------------------------------------------------------------

/-- What is asked of the disk first leaves the world and gives the disk's own answer. -/
theorem reaches_isDir {env : Environment} {path : Path} {op : Op} {next : op.Answer → Eff α}
    {f : Bool → Eff α} {last : World} (other : op ≠ .metadata path)
    : Reaches env.sem (isDir path >>= f) w (.call op next) last
      ↔ Reaches env.sem (f (w.disk.isDir path)) w (.call op next) last := by
  constructor
  · intro reached
    obtain ⟨answer, after, ⟨rfl, found⟩, tail⟩ := reaches_past (Ne.symm other) reached
    cases there : Disk.metadata _ path with
    | some metadata =>
        rw [there] at found
        subst found
        rw [show Disk.isDir _ path = metadata.isDir by simp [Disk.isDir, there]]
        exact tail
    | none =>
        rw [there] at found
        obtain ⟨error, rfl⟩ := found
        rw [show Disk.isDir _ path = false by simp [Disk.isDir, there]]
        exact tail
  · exact reaches_isDir_bind

/-- The worker that handles the deletion of a path may call the provider's `delete`. -/
def DeletesItem (md5 : List UInt8 → String) (listing : Except Error RemoteIndex)
    (cfg : AppConfig) (ignore : IgnoreMatcher) (path : Path) (w : World)
    : Prop :=
  ∃ id next after,
    Reaches (Environment.unruly md5 listing).sem (handle ⟨cfg, false⟩ ignore (.delete path)) w
      (.call (.provider (.delete id)) next) after

section Worker

variable {path : Path} {key : String}

/-- The worker's program for a path in the root, past its question to the disk. -/
theorem reaches_delete {env : Environment} {id : DriveId}
    {next : Except Error Unit → Eff Unit} {after : World}
    (configured : cfg.getPrimaryPair = some primary)
    (inRoot : relStr primary.localPath path = .ok key)
    : Reaches env.sem (handle ⟨cfg, false⟩ ignore (.delete path)) w
        (.call (.provider (.delete id)) next) after
      ↔ Reaches env.sem
          (if ignore.isIgnored path (w.disk.isDir path) then return ()
            else do
              deleteItem ⟨cfg, false⟩ key
              propagate (← ask (.deleteRow key)))
          w (.call (.provider (.delete id)) next) after := by
  simp only [handle, Bool.false_eq_true, if_false, delete]
  rw [reaches_isDir (by simp)]
  simp only [configured, orError, propagate, Prog.ok_bind, inRoot]

/-- It does so for paths only that are not ignored and whose key the cache knows. -/
theorem DeletesItem.known (configured : cfg.getPrimaryPair = some primary)
    (inRoot : relStr primary.localPath path = .ok key)
    (deletes : DeletesItem md5 listing cfg ignore path w)
    : ignore.isIgnored path (w.disk.isDir path) = false ∧ (w.pathCache.lookup key).isSome := by
  obtain ⟨id, next, after, reached⟩ := deletes
  rw [reaches_delete configured inRoot] at reached
  split at reached
  · cases reached
  · rename_i kept
    refine ⟨by simpa using kept, ?_⟩
    obtain ⟨answer, looked, ⟨rfl, rfl⟩, tail⟩ := reaches_past (by simp) reached
    cases found : PathCache.lookup _ key with
    | some entry => rfl
    | none =>
        -- Without an entry only the row is left to delete.
        rw [found] at tail
        obtain ⟨answer, deleted, -, tail⟩ := reaches_past (by simp) tail
        cases tail

/-- Unless a shutdown has been requested it does so for all of them. -/
theorem deletesItem (configured : cfg.getPrimaryPair = some primary)
    (inRoot : relStr primary.localPath path = .ok key)
    (kept : ignore.isIgnored path (w.disk.isDir path) = false)
    (known : (w.pathCache.lookup key).isSome) (running : w.shutdown = false)
    : DeletesItem md5 listing cfg ignore path w := by
  obtain ⟨entry, found⟩ := Option.isSome_iff_exists.mp known
  have tries
      : ∃ next,
          Reaches (Environment.unruly md5 listing).sem
            (deleteItem ⟨cfg, false⟩ key >>= fun _ => do propagate (← ask (.deleteRow key))) w
            (.call (.provider (.delete entry.driveId)) next) w := by
    simp only [deleteItem, retry]
    cases cfg.retry.maxAttempts - 1 <;>
      exact ⟨_, reaches_call (some entry) w ⟨found.symm, rfl⟩
        (reaches_call false w ⟨.inl rfl, running.symm⟩ .refl)⟩
  obtain ⟨next, reached⟩ := tries
  refine ⟨entry.driveId, next, w, (reaches_delete configured inRoot).mpr ?_⟩
  rw [if_neg (by simp [kept])]
  exact reached

end Worker

-----------------------------------------------------------------------------------------
-- Files below an excluded directory
-----------------------------------------------------------------------------------------

/-- A regular file stands here, below a directory that the walk prunes. -/
structure BelowExcluded (disk : Disk) (root : Path) (ignore : IgnoreMatcher) (rel : Path)
    : Prop where
  file : ∃ data, disk.entry? (root ++ rel) = some (.file data)
  excluded
    : ∃ above name below,
        rel = above ++ name :: below
        ∧ (∃ listing child, disk.entry? (root ++ above) = some (.dir listing child))
        ∧ ignore.isIgnored (root ++ above) true = true

/-- A scan that orders an orphan deleted whose key it knows: the worker deletes its item,
unless the path is ignored itself.
-/
theorem Orphan.deleted {key : String} {path : Path} {disk : Disk} {db : Database}
    {pathCache : PathCache} (md5 : List UInt8 → String)
    (configured : cfg.getPrimaryPair = some primary)
    (orphan : OrphanPath { disk, db, pathCache } listing primary ignore path)
    (inRoot : relStr primary.localPath path = .ok key)
    (knownKey : KnownKey { disk, db, pathCache } listing primary ignore key)
    (kept : ¬ Excluded disk ignore path)
    : ∃ last,
        Reaches (Environment.unruly md5 listing).sem (scan ⟨cfg, false⟩ ignore)
          { disk, db, pathCache } (.done (.ok ())) last
        ∧ .delete path ∈ last.tasks ∧ DeletesItem md5 listing cfg ignore path last := by
  obtain ⟨orphanKey, orphan, rfl⟩ := orphan
  let w : World := { disk, db, pathCache }
  have orders
      : Always (Environment.obliging md5 listing).sem (Running w.disk) (scan ⟨cfg, false⟩ ignore)
          w _ :=
    obliging_orders configured rfl
  have knows
      : Always (Environment.obliging md5 listing).sem _ (scan ⟨cfg, false⟩ ignore) w _ :=
    scan_knows_all (fun _ _ _ _ _ answered => answered) configured knownKey
  obtain ⟨result, last, path, ⟨here, -⟩, ⟨rfl, ordered⟩, known⟩ := obliging_run (orders.and knows)
  refine ⟨last, path, ordered _ orphan, deletesItem configured inRoot ?_ (known rfl) here.running⟩
  rw [here.disk]
  simpa [Excluded] using kept

/-- A scan never leads to the deletion of a file below an excluded directory exactly when,
wherever its key is that of an orphan and the cache comes to know it, the patterns exclude the
orphan's path itself.
-/
theorem below_excluded_spared_iff (md5 : List UInt8 → String)
    (listing : Except Error RemoteIndex) (cfg : AppConfig) (ignore : IgnoreMatcher)
    (disk : Disk) (db : Database) (pathCache : PathCache)
    : (∀ primary rel rest last path,
        cfg.getPrimaryPair = some primary
        → BelowExcluded disk primary.localPath ignore rel
        → Reaches (Environment.unruly md5 listing).sem (scan ⟨cfg, false⟩ ignore)
            { disk, db, pathCache } rest last
        → .delete path ∈ last.tasks
        → relStr primary.localPath path = .ok (relKey rel)
        → ¬ DeletesItem md5 listing cfg ignore path last)
      ↔ ∀ primary rel path,
          cfg.getPrimaryPair = some primary
          → BelowExcluded disk primary.localPath ignore rel
          → OrphanPath { disk, db, pathCache } listing primary ignore path
          → relStr primary.localPath path = .ok (relKey rel)
          → KnownKey { disk, db, pathCache } listing primary ignore (relKey rel)
          → Excluded disk ignore path := by
  constructor
  · intro spared primary rel path configured below orphan inRoot knownKey
    by_contra kept
    obtain ⟨last, reached, ordered, deletes⟩ :=
      Orphan.deleted md5 configured orphan inRoot knownKey kept
    exact spared primary rel _ last path configured below reached ordered inRoot deletes
  · intro excluded primary rel rest last path configured below reached ordered inRoot deletes
    have only
        : Always (Environment.unruly md5 listing).sem _ (scan ⟨cfg, false⟩ ignore)
            { disk, db, pathCache } _ :=
      (scan_deletes_orphans (fun _ _ _ _ _ answered => answered) configured rfl).and
        (scan_knows_only (fun _ _ _ _ _ answered => answered) configured)
    obtain ⟨orphans, knows⟩ := (only.reaches reached).here
    obtain ⟨kept, known⟩ := deletes.known configured inRoot
    rw [orphans.disk] at kept
    have own := excluded primary rel path configured below (orphans.ordered path ordered) inRoot
      (knows _ known)
    rw [Excluded, kept] at own
    cases own

/-- The pattern `**/build`: it matches what is named so, and nothing inside. -/
def IgnoreMatcher.build : IgnoreMatcher :=
  ⟨fun path slash => !slash && path.fileName? = some "build"⟩

/-- `/backup/build/out`, one file in an excluded directory. -/
def builtDisk : Disk :=
  .backup (.single (.utf8 "build") (by decide))
    (fun _ => .dir (.single (.utf8 "out") (by decide)) (fun _ => .file ⟨[1], 0, true⟩))

/-- The file is on the remote since before the pattern was added. -/
def builtListing : Except Error RemoteIndex :=
  .ok ⟨[⟨"build/out", "2", "1", "", 1, 0⟩], [⟨"build", "1", "root"⟩]⟩

/-- The walk prunes the directory, and the scan leads to the deletion of the file's item. -/
theorem below_excluded_deleted
    : ¬ ∀ primary rel rest last path,
        backupConfig.getPrimaryPair = some primary
        → BelowExcluded builtDisk primary.localPath .build rel
        → Reaches (Environment.unruly (fun _ => "") builtListing).sem
            (scan ⟨backupConfig, false⟩ .build) { disk := builtDisk } rest last
        → .delete path ∈ last.tasks
        → relStr primary.localPath path = .ok (relKey rel)
        → ¬ DeletesItem (fun _ => "") builtListing backupConfig .build path last := by
  intro spared
  let rel : Path := [.utf8 "build", .utf8 "out"]
  have configured : backupConfig.getPrimaryPair = some backupPair := rfl
  have below : BelowExcluded builtDisk backupPair.localPath .build rel := by
    refine ⟨⟨⟨[1], 0, true⟩, ?_⟩, [.utf8 "build"], .utf8 "out", [], rfl,
      ⟨.single (.utf8 "out") (by decide), fun _ => .file ⟨[1], 0, true⟩, ?_⟩, by decide⟩ <;>
      simp [rel, builtDisk, backupPair, Disk.backup, Disk.entry?, Node.locate, Node.follow,
        Listing.single]
  have joined : backupPair.localPath.join "build/out" = backupPair.localPath ++ rel := by
    decide +kernel
  have inRoot : relStr backupPair.localPath (backupPair.localPath ++ rel) = .ok (relKey rel) := by
    decide +kernel
  have orphan
      : Orphan { disk := builtDisk } builtListing backupPair .build "build/out" := by
    refine ⟨?_, .inr ⟨⟨_, .head _, rfl⟩, ?_, ?_⟩⟩
    · simp [walkedFiles, builtDisk, backupPair, Disk.walkDir, Disk.backup_entry?, Node.walk,
        Listing.yielded, Listing.single, localKeys, IgnoreMatcher.keeps, IgnoreMatcher.isIgnored,
        IgnoreMatcher.build, Path.fileName?, Path.trimEnd, List.rdropWhile, OsString.isIdle,
        OsString.toStringLossy]
    · rw [joined]
      simp [rel, builtDisk, backupPair, Disk.isDir, Disk.metadata, Disk.node?, Disk.backup,
        Disk.entry?, Node.locate, Node.follow, Listing.single, Node.metadata]
    · rw [joined]
      decide
  have kept : ¬ Excluded builtDisk .build (backupPair.localPath ++ rel) := by
    have named : Path.fileName? (backupPair.localPath ++ rel) = some "out" := by decide
    simp [Excluded, IgnoreMatcher.isIgnored, IgnoreMatcher.build, named]
  obtain ⟨last, reached, ordered, deletes⟩ :=
    Orphan.deleted (fun _ => "") configured ⟨_, orphan, joined.symm⟩ inRoot
      (.inr (.inl ⟨_, .head _, by decide +kernel⟩)) kept
  exact spared backupPair rel _ last _ configured below reached ordered inRoot deletes

end SyncGDrive
