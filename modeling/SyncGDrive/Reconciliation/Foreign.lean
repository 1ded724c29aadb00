import SyncGDrive.Reconciliation.Passes

/-! Resynchronisation: a whole pass makes a synced state from a synced state, what was edited
locally since, and what a third party added to the remote at unused paths. Two additions at one
path are too much for the cache, which holds one of them.
-/

namespace SyncGDrive

open Program

-----------------------------------------------------------------------------------------
-- Resynchronisation
-----------------------------------------------------------------------------------------

/-- What may have happened to a synced state: local edits that change the recorded time along
with the content, and remote items added at paths that do not exist locally.
-/
structure Resumed (primary : SyncPair) (ignore : IgnoreMatcher) (start w : World) : Prop where
  db : w.db = start.db
  pathCache : w.pathCache = start.pathCache
  edited : Edited primary ignore w
  grown
    : ∀ id item key,
        start.remote.ItemAt primary.remoteFolderId id item key
        → w.remote.ItemAt primary.remoteFolderId id item key
  foreign
    : ∀ id item key,
        w.remote.ItemAt primary.remoteFolderId id item key
        → ¬ start.remote.ItemAt primary.remoteFolderId id item key
        → w.disk.entry? (primary.localPath.join key) = none
  retimed
    : ∀ rel data content columns,
        Plain rel → w.disk.node? (primary.localPath ++ rel) = some (.file data)
        → w.remote.FileAt primary.remoteFolderId (relKey rel) content
        → w.db.row (relKey rel) = some columns → data.content ≠ content
        → data.modified / 1000000000 ≠ columns.mtime

/-- A local file and its remote copy have one digest only when they are equal. -/
def Distinguishes (md5 : List UInt8 → String) (primary : SyncPair) (w : World) : Prop :=
  ∀ rel data content,
    Plain rel → w.disk.node? (primary.localPath ++ rel) = some (.file data)
    → w.remote.FileAt primary.remoteFolderId (relKey rel) content
    → md5 data.content = md5 content → data.content = content

-----------------------------------------------------------------------------------------
-- What a third party leaves
-----------------------------------------------------------------------------------------

/-- A digest that distinguishes all contents. -/
def plainDigest (content : List UInt8) : String :=
  String.ofList (content.map (fun byte => Char.ofNat byte.toNat))

/-- A file that a third party put into the saved folder. -/
def foreignItem (content : List UInt8) : RemoteItem := ⟨"old.txt", "root", .file content, false⟩

def foreignRemote : Remote := ({} : Remote).put "1" (foreignItem [1])

/-- Two files of a third party with one name. -/
def twinRemote : Remote := foreignRemote.put "2" (foreignItem [2])

/-- One local file, `notes.txt`. -/
def notesDisk : Disk :=
  .backup (.single (.utf8 "notes.txt") (by decide)) (fun _ => .file ⟨[1, 2, 3], 5000000000, true⟩)

theorem notesDisk_orderly : notesDisk.OrderlyAt backupPair.localPath :=
  ⟨_, _, Disk.backup_entry? _ _, by simp [Node.Orderly, Listing.single]⟩

theorem itemAt_empty {id : DriveId} {item : RemoteItem} {key : String}
    : ¬ ({} : Remote).ItemAt "root" id item key := by
  rintro ⟨found, -⟩
  cases found

theorem itemAt_foreignRemote {id : DriveId} {item : RemoteItem} {key : String}
    : foreignRemote.ItemAt "root" id item key
      ↔ id = "1" ∧ item = foreignItem [1] ∧ key = "old.txt" := by
  have unused : ({} : Remote).Unused "root" "1" :=
    ⟨by decide, rfl, fun id item found => by cases found⟩
  have rooted : ({} : Remote).Rooted "root" := rfl
  rw [foreignRemote, foreignItem, Remote.itemAt_added rooted unused .root]
  simp [itemAt_empty, pushKey]

theorem foreignRemote_rooted : foreignRemote.Rooted "root" := by
  simp [Remote.Rooted, foreignRemote]
  rfl

theorem itemAt_twinRemote {id : DriveId} {item : RemoteItem} {key : String}
    : twinRemote.ItemAt "root" id item key
      ↔ (id = "1" ∧ item = foreignItem [1] ∨ id = "2" ∧ item = foreignItem [2])
        ∧ key = "old.txt" := by
  have unused : foreignRemote.Unused "root" "2" := by
    refine ⟨by decide, by simp [foreignRemote]; rfl, ?_⟩
    intro id item found
    rw [foreignRemote, Remote.item?_put] at found
    split at found
    · cases found
      decide
    · cases found
  rw [twinRemote, foreignItem, Remote.itemAt_added foreignRemote_rooted unused .root,
    itemAt_foreignRemote]
  simp [pushKey]
  grind

/-- Nothing exists locally at the path of the foreign files. -/
theorem node?_foreign {disk : Disk} {rel : Path}
    (absent : disk.entry? (backupPair.localPath ++ [.utf8 "old.txt"]) = none) (plain : Plain rel)
    (named : relKey rel = "old.txt")
    : disk.node? (backupPair.localPath ++ rel) = none := by
  have plain' : Plain [.utf8 "old.txt"] :=
    ⟨by simp, fun name inside => ⟨"old.txt", List.mem_singleton.mp inside, by decide⟩⟩
  have spelled : relKey rel = relKey [.utf8 "old.txt"] := named
  rw [relKey_inj plain plain' spelled, Disk.node?, absent]
  rfl

/-- Files with a name that does not exist locally fit every orderly tree. -/
theorem Edited.of_foreign {disk : Disk} {remote : Remote}
    (orderly : disk.OrderlyAt backupPair.localPath)
    (absent : disk.entry? (backupPair.localPath ++ [.utf8 "old.txt"]) = none)
    (rooted : remote.Rooted "root")
    (only
      : ∀ id item key,
          remote.ItemAt "root" id item key
          → key = "old.txt" ∧ item.name = "old.txt" ∧ item.kind ≠ .folder)
    : Edited backupPair .nothing { disk, remote } where
  orderly := orderly
  closed := fun _ _ _ _ ignored => by cases ignored
  rooted := rooted
  ordinary := by
    intro id item key itemAt
    rw [(only id item key itemAt).2.1]
    decide
  files := fun rel data id item plain found itemAt => (only _ _ _ itemAt).2.2
  dirs := by
    intro rel listing child id item plain found itemAt
    rw [show disk.node? (backupPair.localPath ++ rel) = none from
      node?_foreign absent plain (only _ _ _ itemAt).1] at found
    cases found
  kept := fun _ _ _ _ _ => IgnoreMatcher.nothing_isIgnored
  full := by
    rintro rel data content plain found ⟨id, item, itemAt, -⟩
    rw [show disk.node? (backupPair.localPath ++ rel) = none from
      node?_foreign absent plain (only _ _ _ itemAt).1] at found
    cases found
  running := rfl
  idle := rfl

theorem notesDisk_absent
    : notesDisk.entry? (backupPair.localPath ++ [.utf8 "old.txt"]) = none := by
  simp [notesDisk, Disk.backup, backupPair, Disk.entry?, Node.locate, Node.follow, Listing.single,
    OsString.isIdle]

/-- Without remote items, rows and cache entries a state is synced. -/
theorem Synced.of_empty {md5 : List UInt8 → String} {disk : Disk}
    : Synced md5 "root" { disk } where
  unique := fun _ _ _ _ _ itemAt => (itemAt_empty itemAt).elim
  cached key id parent := by
    constructor
    · intro found
      cases found
    · rintro ⟨item, itemAt, -⟩
      exact (itemAt_empty itemAt).elim
  rows key hash := by
    constructor
    · rintro ⟨mtime, found⟩
      cases found
    · rintro ⟨content, ⟨id, item, itemAt, -⟩, -⟩
      exact (itemAt_empty itemAt).elim

/-- A third party's file has appeared since nothing was synced. -/
theorem Resumed.of_foreign {disk : Disk} {remote : Remote}
    (orderly : disk.OrderlyAt backupPair.localPath)
    (absent : disk.entry? (backupPair.localPath ++ [.utf8 "old.txt"]) = none)
    (rooted : remote.Rooted "root")
    (only
      : ∀ id item key,
          remote.ItemAt "root" id item key
          → key = "old.txt" ∧ item.name = "old.txt" ∧ item.kind ≠ .folder)
    : Resumed backupPair .nothing { disk } { disk, remote } where
  db := rfl
  pathCache := rfl
  edited := .of_foreign orderly absent rooted only
  grown := fun _ _ _ itemAt => (itemAt_empty itemAt).elim
  foreign id item key itemAt _ := by
    have joined : backupPair.localPath.join key = backupPair.localPath ++ [.utf8 "old.txt"] := by
      rw [(only id item key itemAt).1]
      exact join_relKey backupPair.localPath
        ⟨by simp, fun name inside => ⟨"old.txt", List.mem_singleton.mp inside, by decide⟩⟩
    rw [joined]
    exact absent
  retimed := by
    intro rel data content columns plain found copied row
    cases row

section Resync

variable {md5 : List UInt8 → String} {cfg : AppConfig} {primary : SyncPair}
  {ignore : IgnoreMatcher} {start w : World}

/-- The slots that a scan finds after such edits can be compared. -/
theorem Resumed.reconcilable (synced : Synced md5 primary.remoteFolderId start)
    (resumed : Resumed primary ignore start w)
    (unique : w.remote.UniquePaths primary.remoteFolderId)
    (distinguishes : Distinguishes md5 primary w)
    (configured : cfg.getPrimaryPair = some primary) {rel : Path} (plain : Plain rel)
    : ((Setting.ofWorld md5 cfg primary configured ignore w).slot w rel).Reconcilable md5 := by
  -- A recorded digest is that of the copy, and a copy without a record is a foreign file.
  have recorded {content : List UInt8} {hash : String} {time : Int}
      (copied : w.remote.FileAt primary.remoteFolderId (relKey rel) content)
      (row : w.db.row (relKey rel) = some ⟨hash, time⟩)
      : hash = md5 content := by
    rw [resumed.db] at row
    obtain ⟨content', ⟨id, item, itemAt, kind⟩, rfl⟩ := (synced.rows _ hash).mp ⟨time, row⟩
    obtain ⟨id', item', itemAt', kind'⟩ := copied
    have itemAt := resumed.grown _ _ _ itemAt
    obtain rfl := unique _ _ _ _ _ itemAt itemAt'
    rw [Option.some.inj (itemAt.1.symm.trans itemAt'.1), kind'] at kind
    rw [ItemKind.file.inj kind]
  have atSlot {hash : String} {time : Int}
      (found
        : ((Setting.ofWorld md5 cfg primary configured ignore w).slot w rel).record
          = some (hash, time))
      : w.db.row (relKey rel) = some ⟨hash, time⟩ := by
    obtain ⟨columns, row, same⟩ := Option.map_eq_some_iff.mp found
    obtain ⟨rfl, rfl⟩ := Prod.mk.inj same
    exact row
  have copyAt {content : List UInt8}
      (found
        : ((Setting.ofWorld md5 cfg primary configured ignore w).slot w rel).copy = some content)
      : w.remote.FileAt primary.remoteFolderId (relKey rel) content :=
    (Remote.contentAt_eq_some unique).mp found
  constructor
  · intro content time copy hash file copied found
    obtain ⟨data, there, -, rfl, rfl⟩ := Setting.visible_eq_some.mp file
    have row := atSlot found
    have remote := copyAt copied
    have same : data.content = copy := by
      by_contra changed
      exact resumed.retimed rel data copy _ plain there remote row changed rfl
    rw [same]
    exact ⟨rfl, recorded remote row⟩
  · intro content time copy mtime file copied found
    obtain ⟨data, there, -, rfl, rfl⟩ := Setting.visible_eq_some.mp file
    have remote := copyAt copied
    exact (distinguishes rel data copy plain there remote (recorded remote (atSlot found))).symm
  · intro content time copy file copied found
    obtain ⟨data, there, -⟩ := Setting.visible_eq_some.mp file
    obtain ⟨id, item, itemAt, kind⟩ := copyAt copied
    exfalso
    by_cases old : start.remote.ItemAt primary.remoteFolderId id item (relKey rel)
    · obtain ⟨mtime, row⟩ := (synced.rows (relKey rel) (md5 copy)).mpr
        ⟨copy, ⟨id, item, old, kind⟩, rfl⟩
      rw [← resumed.db] at row
      simp [Setting.slot, row] at found
    · have absent := resumed.foreign id item _ itemAt old
      rw [join_relKey primary.localPath plain] at absent
      have there : w.disk.node? (primary.localPath ++ rel) = _ := there
      simp [Disk.node?, absent] at there

/-- After local edits of a synced state, and additions to the remote at unused paths that do
not exist locally, a whole pass ends with every task handled well, with the visible files
that are not empty as the remote files, and in a synced state.
-/
theorem resync_settles (configured : cfg.getPrimaryPair = some primary)
    (synced : Synced md5 primary.remoteFolderId start)
    (resumed : Resumed primary ignore start w)
    (unique : w.remote.UniquePaths primary.remoteFolderId)
    (distinguishes : Distinguishes md5 primary w)
    : PassEnds (Environment.calm md5 primary.remoteFolderId) ⟨cfg, false⟩ ignore w
        (fun results last =>
          (∀ result ∈ results, result = .ok ())
          ∧ (∀ key content,
              last.remote.FileAt primary.remoteFolderId key content
              ↔ ∃ rel data,
                  Plain rel ∧ key = relKey rel
                  ∧ w.disk.node? (primary.localPath ++ rel) = some (.file data)
                  ∧ ignore.isIgnored (primary.localPath ++ rel) false = false
                  ∧ data.content ≠ [] ∧ data.content = content)
          ∧ Synced md5 primary.remoteFolderId last) := by
  have copied (key : String) (row : (w.db.row key).isSome)
      : ∃ content, w.remote.FileAt primary.remoteFolderId key content := by
    obtain ⟨⟨hash, mtime⟩, found⟩ := Option.isSome_iff_exists.mp row
    rw [resumed.db] at found
    obtain ⟨content, ⟨id, item, itemAt, kind⟩, -⟩ := (synced.rows key hash).mp ⟨mtime, found⟩
    exact ⟨content, id, item, resumed.grown _ _ _ itemAt, kind⟩
  have consistent
      : (Setting.ofWorld md5 cfg primary configured ignore w).Consistent _ w :=
    Setting.ofWorld_consistent configured resumed.edited unique copied
  have knows : (Setting.ofWorld md5 cfg primary configured ignore w).Knows w := by
    intro key entry found
    rw [resumed.pathCache] at found
    obtain ⟨item, itemAt, parent⟩ := (synced.cached key entry.driveId entry.parentId).mp found
    exact ⟨item, resumed.grown _ _ _ itemAt, parent⟩
  have settled (rel : Path) (plain : Plain rel)
      : ((Setting.ofWorld md5 cfg primary configured ignore w).goal w rel).Settled md5
          Setting.vacant :=
    (consistent.coherent rel plain).settled_pass
      (resumed.reconcilable synced unique distinguishes configured plain)
  refine (consistent.passEnds knows resumed.edited.running resumed.edited.idle).mono ?_
  rintro results last ⟨fine, pending⟩
  refine ⟨fine, ?_, pending.synced settled⟩
  intro key content
  rw [show primary.remoteFolderId = (Setting.ofWorld md5 cfg primary configured ignore w).folder
    from rfl, pending.fileAt]
  constructor
  · rintro ⟨rel, plain, rfl, copy⟩
    obtain ⟨time, file, full⟩ := (settled rel plain).copy_eq_some.mp copy
    rw [Setting.goal, Mirror.Slot.pass_file] at file
    obtain ⟨data, there, kept, same, -⟩ := Setting.visible_eq_some.mp file
    exact ⟨rel, data, plain, rfl, there, kept, by simpa [Setting.vacant, same] using full, same⟩
  · rintro ⟨rel, data, plain, rfl, there, kept, full, rfl⟩
    refine ⟨rel, plain, rfl, (settled rel plain).copy_eq_some.mpr ⟨data.modified / 1000000000, ?_,
      by simpa [Setting.vacant] using full⟩⟩
    rw [Setting.goal, Mirror.Slot.pass_file]
    exact Setting.visible_eq_some.mpr ⟨data, there, kept, rfl, rfl⟩

/-- One local file, and one file of a third party. -/
theorem notes_resync
    : PassEnds (Environment.calm plainDigest "root") ⟨backupConfig, false⟩ .nothing
        { disk := notesDisk, remote := foreignRemote }
        (fun results last =>
          (∀ result ∈ results, result = .ok ())
          ∧ (∀ key content,
              last.remote.FileAt "root" key content
              ↔ ∃ rel data,
                  Plain rel ∧ key = relKey rel
                  ∧ notesDisk.node? (backupPair.localPath ++ rel) = some (.file data)
                  ∧ IgnoreMatcher.nothing.isIgnored (backupPair.localPath ++ rel) false = false
                  ∧ data.content ≠ [] ∧ data.content = content)
          ∧ Synced plainDigest "root" last) := by
  have only (id : DriveId) (item : RemoteItem) (key : String)
      (itemAt : foreignRemote.ItemAt "root" id item key)
      : key = "old.txt" ∧ item.name = "old.txt" ∧ item.kind ≠ .folder := by
    obtain ⟨-, rfl, rfl⟩ := itemAt_foreignRemote.mp itemAt
    simp [foreignItem]
  have resumed := Resumed.of_foreign notesDisk_orderly notesDisk_absent foreignRemote_rooted only
  refine @resync_settles plainDigest backupConfig backupPair .nothing { disk := notesDisk } _ rfl
    .of_empty resumed ?_ ?_
  · intro id id' item item' key first second
    rw [(itemAt_foreignRemote.mp first).1, (itemAt_foreignRemote.mp second).1]
  · rintro rel data content plain found ⟨id, item, itemAt, kind⟩
    rw [show notesDisk.node? (backupPair.localPath ++ rel) = none from
      node?_foreign notesDisk_absent plain (only _ _ _ itemAt).1] at found
    cases found

end Resync

-----------------------------------------------------------------------------------------
-- A file and its twin
-----------------------------------------------------------------------------------------

/-- Nothing in `/backup`. -/
def bareDisk : Disk := .backup .empty (fun _ => .special)

/-- One of the twins is out of the cache's reach, and what the cache knows can be deleted. -/
structure TwinLeft (w : World) : Prop where
  disk : w.disk = bareDisk
  running : w.shutdown = false
  left
    : ∃ id content,
        w.remote.item? id = some (foreignItem content)
        ∧ ∀ entry,
            w.pathCache.lookup "old.txt" = some entry
            → entry.driveId ≠ id ∧ (w.remote.item? entry.driveId).isSome

/-- What is left of the twins is a remote file. -/
theorem TwinLeft.fileAt {w : World} (left : TwinLeft w)
    : ∃ content, w.remote.FileAt "root" "old.txt" content := by
  obtain ⟨id, content, found, -⟩ := left.left
  exact ⟨content, id, foreignItem content, ⟨found, rfl, "", .root, rfl⟩, rfl⟩

theorem bareDisk_walk (ignore : IgnoreMatcher)
    : walkedFiles bareDisk [.utf8 "backup"] ignore = []
      ∧ walkedDirs bareDisk [.utf8 "backup"] ignore = [] := by
  have walk : ∀ entry ∈ bareDisk.walkDir [.utf8 "backup"] ignore.keeps,
      entry = ⟨[.utf8 "backup"], .dir⟩ := by
    intro entry member
    simp only [bareDisk, Disk.walkDir, Disk.backup_entry?, Node.walk, Listing.yielded,
      Listing.empty, List.flatMap_nil] at member
    split at member
    · exact List.mem_singleton.mp member
    · cases member
  constructor
  · refine List.eq_nil_iff_forall_not_mem.mpr ?_
    intro path member
    obtain ⟨entry, kept, -⟩ := List.mem_map.mp member
    obtain ⟨yielded, kind⟩ := List.mem_filter.mp kept
    rw [walk entry yielded] at kind
    simp at kind
  · refine List.eq_nil_iff_forall_not_mem.mpr ?_
    intro path member
    obtain ⟨entry, kept, -⟩ := List.mem_map.mp member
    obtain ⟨yielded, kind⟩ := List.mem_filter.mp kept
    have outside : Path.isInside [.utf8 "backup"] [.utf8 "backup"] = false := by decide
    rw [walk entry yielded] at kind
    simp [outside] at kind


/-- The setting of the twins. -/
def twinSetting : Setting :=
  .ofWorld plainDigest backupConfig backupPair rfl .nothing
    { disk := bareDisk, remote := twinRemote }

/-- Deleting the path of the twins leaves one of them. -/
theorem TwinLeft.always_delete {w : World} (left : TwinLeft w)
    : Always (Environment.calm plainDigest "root").sem TwinLeft
        (delete ⟨backupConfig, false⟩ .nothing (backupPair.localPath ++ [.utf8 "old.txt"])) w
        (fun result last => result = .ok () ∧ TwinLeft last) := by
  have deleteRow {state : World} (left : TwinLeft state)
      : Always (Environment.calm plainDigest "root").sem TwinLeft
          (do propagate (← ask (.deleteRow "old.txt"))) state
          (fun result last => result = .ok () ∧ TwinLeft last) := by
    refine always_known
      (fun _ _ served => Environment.calm_undisturbed.sem_deleteRow.mp served) left ?_
    exact ⟨⟨left.disk, left.running, left.left⟩, rfl, left.disk, left.running, left.left⟩
  have inRoot : relStr backupPair.localPath (backupPair.localPath ++ [.utf8 "old.txt"])
      = .ok "old.txt" := rfl
  unfold delete
  refine always_isDir_bind left ?_
  simp only [IgnoreMatcher.nothing_isIgnored, Bool.false_eq_true, if_false, propagate,
    show orError "Aucun dossier" backupConfig.getPrimaryPair = .ok backupPair from rfl,
    Prog.ok_bind, inRoot]
  obtain ⟨id, content, found, known⟩ := left.left
  cases cached : w.pathCache.lookup "old.txt" with
  | none =>
      have skips
          : Always (Environment.calm plainDigest "root").sem TwinLeft
              (deleteItem ⟨backupConfig, false⟩ "old.txt") w
              (fun result last => result = .ok () ∧ TwinLeft last) := by
        unfold deleteItem
        refine always_known (fun _ _ served => served) left ?_
        simp only [cached]
        exact ⟨left, rfl, left⟩
      refine skips.bind ?_ ?_
      · rintro - state - ⟨-, left⟩
        exact deleteRow left
      · rintro error state - ⟨same, -⟩
        cases same
  | some entry =>
      obtain ⟨other, live⟩ := known entry cached
      obtain ⟨item, live⟩ := Option.isSome_iff_exists.mp live
      have found' : (w.remote.put entry.driveId { item with trashed := true }).item? id
          = some (foreignItem content) := by
        rw [Remote.item?_put, if_neg (Ne.symm other)]
        exact found
      have middle : TwinLeft
          { w with remote := w.remote.put entry.driveId { item with trashed := true } } := by
        refine ⟨left.disk, left.running, id, content, found', ?_⟩
        intro entry' cached'
        obtain rfl := Option.some.inj (cached.symm.trans cached')
        exact ⟨other, by simp [Remote.item?_put]⟩
      have gone : TwinLeft
          { w with
            remote := w.remote.put entry.driveId { item with trashed := true }
            pathCache := w.pathCache.removeCascades "old.txt" } := by
        refine ⟨left.disk, left.running, id, content, found', ?_⟩
        intro entry' cached'
        simp [PathCache.lookup_removeCascades] at cached'
      have removes
          : Always (Environment.calm plainDigest "root").sem TwinLeft
              (deleteItem ⟨backupConfig, false⟩ "old.txt") w
              (fun result last => result = .ok () ∧ TwinLeft last) :=
        Setting.always_deleteItem_known cached live rfl left.running left middle ⟨gone, rfl, gone⟩
      refine removes.bind ?_ ?_
      · rintro - state - ⟨-, left⟩
        exact deleteRow left
      · rintro error state - ⟨same, -⟩
        cases same


/-- A cache that knows what it holds leaves one of the twins out. -/
theorem TwinLeft.of_knows {w : World} (disk : w.disk = bareDisk) (running : w.shutdown = false)
    (remote : w.remote = twinRemote) (knows : twinSetting.Knows w)
    : TwinLeft w := by
  have first : w.remote.item? "1" = some (foreignItem [1]) := by rw [remote]; rfl
  have second : w.remote.item? "2" = some (foreignItem [2]) := by rw [remote]; rfl
  refine ⟨disk, running, ?_⟩
  cases cached : w.pathCache.lookup "old.txt" with
  | none => exact ⟨"1", [1], first, fun entry found => by cases found⟩
  | some entry =>
      obtain ⟨item, itemAt, -⟩ := knows _ entry cached
      rw [remote, show twinSetting.folder = "root" from rfl, itemAt_twinRemote] at itemAt
      obtain ⟨⟨same, -⟩ | ⟨same, -⟩, -⟩ := itemAt
      · refine ⟨"2", [2], second, ?_⟩
        intro other found
        obtain rfl := Option.some.inj found
        simp [same, first]
      · refine ⟨"1", [1], first, ?_⟩
        intro other found
        obtain rfl := Option.some.inj found
        simp [same, second]

/-- The scan orders the path of the twins deleted, for each of them, and touches neither. -/
theorem twins_scanned
    : Always (Environment.calm plainDigest "root").sem (fun _ => True)
        (scan ⟨backupConfig, false⟩ .nothing) { disk := bareDisk, remote := twinRemote }
        (fun _ last =>
          TwinLeft last
          ∧ ∀ task ∈ last.tasks, task = .delete (backupPair.localPath ++ [.utf8 "old.txt"])) := by
  have quiet : (Environment.calm plainDigest "root").Undisturbed := Environment.calm_undisturbed
  have nothing := bareDisk_walk .nothing
  unfold scan
  simp only [show orError "Aucun dossier" backupConfig.getPrimaryPair = .ok backupPair from rfl,
    propagate, Prog.ok_bind]
  refine @Setting.always_listing_bind twinSetting _ _ _ _ rfl ?_ (fun _ _ => trivial) ?_
  · intro key entry found
    cases found
  intro index listed lists agrees knows _
  refine always_takeInventory_bind quiet agrees.running (fun _ _ => trivial) ?_
  rintro ⟨localDirs, localFiles, count⟩ walked files dirs agrees' pathCache
  obtain rfl : localFiles = [] := files.trans (agrees.disk ▸ (bareDisk_walk .nothing).1)
  obtain rfl : localDirs = [] := dirs.trans (agrees.disk ▸ (bareDisk_walk .nothing).2)
  replace agrees := agrees.trans agrees'
  replace knows : twinSetting.Knows walked := by
    unfold Setting.Knows at knows ⊢
    rw [pathCache, agrees'.remote]
    exact knows
  change Always _ _ (reconcile ⟨backupConfig, false⟩ backupPair .nothing index []) _ _
  unfold reconcile
  refine always_silent_bind quiet (uses_silent uses_scanProgress)
    (neverFails_ask quiet) agrees.running
    (fun _ _ => trivial) ?_
  intro _ reported agrees' pathCache
  replace agrees := agrees.trans agrees'
  replace knows : twinSetting.Knows reported := by
    unfold Setting.Knows at knows ⊢
    rw [pathCache, agrees'.remote]
    exact knows
  refine always_ask_bind.mpr ⟨trivial, ?_⟩
  intro answer after served
  obtain ⟨⟨dbIndex, order, rfl⟩, rfl⟩ := quiet.sem_allPaths.mp served
  obtain rfl : dbIndex = [] := (order.trans (by rw [agrees.db]; rfl)).eq_nil
  refine ((always_sendPhases quiet agrees.running).weaken (fun _ _ => trivial)).mono ?_
  rintro result last - ⟨-, -, sent, cache⟩
  refine ⟨.of_knows (sent.disk.trans agrees.disk) (sent.running.trans agrees.running)
    (sent.remote.trans agrees.remote) ?_, ?_⟩
  · unfold Setting.Knows at knows ⊢
    rw [cache, sent.remote]
    exact knows
  · intro task member
    rw [sent.tasks, agrees.tasks] at member
    obtain ⟨file, listed, orphan⟩ : ∃ file ∈ index.files, task ∈ remoteTasks _ _ _ _ _ file := by
      simpa using member
    obtain ⟨item, content, itemAt, -⟩ := lists.files file listed
    have joined : backupPair.localPath.join file.relativePath
        = backupPair.localPath ++ [.utf8 "old.txt"] := by
      rw [(itemAt_twinRemote.mp itemAt).2]
      exact join_relKey backupPair.localPath
        ⟨by simp, fun name inside => ⟨"old.txt", List.mem_singleton.mp inside, by decide⟩⟩
    simp only [remoteTasks] at orphan
    split at orphan
    · cases orphan
    · rw [← joined]
      exact List.mem_singleton.mp orphan

/-- However often the deletion is ordered, one of the twins stays, by induction on the tasks. -/
theorem TwinLeft.always_handleInOrder {tasks : List Task} {w : World} (left : TwinLeft w)
    (orders : ∀ task ∈ tasks, task = .delete (backupPair.localPath ++ [.utf8 "old.txt"]))
    : Always (Environment.calm plainDigest "root").sem TwinLeft
        (handleInOrder ⟨backupConfig, false⟩ .nothing tasks) w (fun _ _ => True) := by
  induction tasks generalizing w with
  | nil => exact ⟨left, trivial⟩
  | cons task rest ih =>
      obtain rfl := orders task (by simp)
      have first
          : Always (Environment.calm plainDigest "root").sem TwinLeft
              (outcome (handle ⟨backupConfig, false⟩ .nothing
                (.delete (backupPair.localPath ++ [.utf8 "old.txt"]))))
              w (fun _ last => TwinLeft last) :=
        always_outcome.mpr (left.always_delete.mono (fun _ _ _ holds => holds.2))
      refine first.bind ?_ ?_
      · rintro result middle - left
        refine (ih left (fun task member => orders task (by simp [member]))).bind ?_ ?_
        · rintro results last left -
          exact ⟨left, trivial⟩
        · exact fun _ _ _ _ => trivial
      · exact fun _ _ _ _ => trivial

/-- A synced state to which a third party adds two files of one name: one of them stays. -/
theorem twins_survive
    : Synced plainDigest "root" { disk := bareDisk }
      ∧ Resumed backupPair .nothing { disk := bareDisk }
          { disk := bareDisk, remote := twinRemote }
      ∧ Distinguishes plainDigest backupPair { disk := bareDisk, remote := twinRemote }
      ∧ ¬ PassEnds (Environment.calm plainDigest "root") ⟨backupConfig, false⟩ .nothing
          { disk := bareDisk, remote := twinRemote }
          (fun results last =>
            (∀ result ∈ results, result = .ok ())
            ∧ (∀ key content,
                last.remote.FileAt "root" key content
                ↔ ∃ rel data,
                    Plain rel ∧ key = relKey rel
                    ∧ bareDisk.node? (backupPair.localPath ++ rel) = some (.file data)
                    ∧ IgnoreMatcher.nothing.isIgnored (backupPair.localPath ++ rel) false = false
                    ∧ data.content ≠ [] ∧ data.content = content)
            ∧ Synced plainDigest "root" last) := by
  have orderly : bareDisk.OrderlyAt backupPair.localPath :=
    ⟨_, _, Disk.backup_entry? _ _, by simp [Node.Orderly, Listing.empty]⟩
  have absent : bareDisk.entry? (backupPair.localPath ++ [.utf8 "old.txt"]) = none := by
    simp [bareDisk, Disk.backup, backupPair, Disk.entry?, Node.locate, Node.follow, Listing.empty,
      Listing.single, OsString.isIdle]
  have rooted : twinRemote.Rooted "root" := rfl
  have only (id : DriveId) (item : RemoteItem) (key : String)
      (itemAt : twinRemote.ItemAt "root" id item key)
      : key = "old.txt" ∧ item.name = "old.txt" ∧ item.kind ≠ .folder := by
    obtain ⟨⟨-, rfl⟩ | ⟨-, rfl⟩, rfl⟩ := itemAt_twinRemote.mp itemAt <;> simp [foreignItem]
  refine ⟨.of_empty, .of_foreign orderly absent rooted only, ?_, ?_⟩
  · rintro rel data content plain found ⟨id, item, itemAt, kind⟩
    rw [show bareDisk.node? (backupPair.localPath ++ rel) = none from
      node?_foreign absent plain (only _ _ _ itemAt).1] at found
    cases found
  intro ends
  obtain ⟨results, last, planned, scans, handles⟩ := ends.runs
  obtain ⟨left, orders⟩ := (twins_scanned.reaches scans).2
  have left : TwinLeft { planned with tasks := [] } := ⟨left.disk, left.running, left.left⟩
  obtain ⟨content, stays⟩ := ((left.always_handleInOrder orders).reaches handles).here.fileAt
  obtain ⟨_, same, -, files, -⟩ := ends.handled planned _ last scans handles
  obtain ⟨rel, data, plain, named, there, -⟩ := (files _ _).mp stays
  rw [node?_foreign absent plain named.symm] at there
  cases there

end SyncGDrive
