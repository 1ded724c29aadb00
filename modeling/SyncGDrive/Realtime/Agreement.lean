import SyncGDrive.Engine.Footprints
import SyncGDrive.Realtime.Kept
import SyncGDrive.Reconciliation.Foreign

/-! The real-time path agrees with the scan: once it is quiet, the remote files and the rows
are those that a whole pass would have made of the state at the start and the files as they
are now.
-/

namespace SyncGDrive

open Program

variable {md5 : List UInt8 → String} {cfg : AppConfig} {primary : SyncPair}
  {ignore : IgnoreMatcher} {start w : World} {edits : List Edit} {live : Live} {rel : Path}

-----------------------------------------------------------------------------------------
-- The start of a run
-----------------------------------------------------------------------------------------

/-- The setting of a run: paths are used for files where there is no directory at the start,
on either side.
-/
def Setting.realtime (md5 : List UInt8 → String) (cfg : AppConfig) (primary : SyncPair)
    (configured : cfg.getPrimaryPair = some primary) (ignore : IgnoreMatcher) (start : World)
    : Setting where
  cfg := cfg
  primary := primary
  configured := configured
  ignore := ignore
  md5 := md5
  leaf rel :=
    (∀ listing child, start.disk.node? (primary.localPath ++ rel) ≠ some (.dir listing child))
    ∧ ∀ id item,
        start.remote.ItemAt primary.remoteFolderId id item (relKey rel) → item.kind ≠ .folder

/-- In a synced state the copy and the record of a slot are of one version. -/
theorem Synced.backed {s : Setting} (synced : Synced s.md5 s.folder start) (rel : Path)
    : (s.slot start rel).Backed s.md5 (Version s.folder start [] rel) := by
  have copied {content : List UInt8}
      : (s.slot start rel).copy = some content
        ↔ start.remote.FileAt s.folder (relKey rel) content :=
    Remote.contentAt_eq_some synced.unique
  unfold Mirror.Slot.Backed
  cases copy : (s.slot start rel).copy with
  | some content =>
      have found := copied.mp copy
      obtain ⟨mtime, row⟩ := (synced.rows (relKey rel) (s.md5 content)).mpr ⟨content, found, rfl⟩
      rw [Setting.record_eq_some.mpr row]
      exact ⟨rfl, .inr ⟨found, _, row⟩⟩
  | none =>
      cases recorded : (s.slot start rel).record with
      | none => trivial
      | some record =>
          obtain ⟨hash, mtime⟩ := record
          have row := Setting.record_eq_some.mp recorded
          obtain ⟨content, found, -⟩ := (synced.rows (relKey rel) hash).mp ⟨mtime, row⟩
          rw [copied.mpr found] at copy
          cases copy

/-- A synced state keeps what a run keeps, before anything has happened. -/
theorem Live.Kept.initial (configured : cfg.getPrimaryPair = some primary)
    (synced : Synced md5 primary.remoteFolderId start) (edited : Edited primary ignore start)
    (online : start.offline = false)
    : (Live.mk start [] ∅ 0).Kept (.realtime md5 cfg primary configured ignore start) start [] := by
  have sound : start.remote.Sound primary.remoteFolderId :=
    ⟨edited.rooted, synced.unique, edited.ordinary⟩
  have leaf {rel : Path} {id : DriveId} {item : RemoteItem} {content : List UInt8}
      (itemAt : start.remote.ItemAt primary.remoteFolderId id item (relKey rel))
      (plain : Plain rel) (kind : item.kind = .file content)
      : (Setting.realtime md5 cfg primary configured ignore start).leaf rel := by
    constructor
    · intro listing child found
      have folder := edited.dirs rel listing child id item plain found itemAt
      rw [kind] at folder
      cases folder
    · intro id' item' itemAt' folder
      obtain rfl := synced.unique _ _ _ _ _ itemAt itemAt'
      rw [Option.some.inj (itemAt'.1.symm.trans itemAt.1), kind] at folder
      cases folder
  have kept {rel : Path} {content : List UInt8} (plain : Plain rel)
      (found : start.remote.FileAt primary.remoteFolderId (relKey rel) content)
      : ignore.isIgnored (primary.localPath ++ rel) false = false := by
    obtain ⟨id, item, itemAt, kind⟩ := found
    simpa [kind] using edited.kept rel id item plain itemAt
  have stored : (Setting.realtime md5 cfg primary configured ignore start).Stored start := by
    refine ⟨sound, ?_, fun _ _ => kept, ?_⟩
    · intro rel id item plain itemAt
      constructor
      · exact fun folder leaf => leaf.2 id item itemAt folder
      · intro notLeaf
        cases kind : item.kind with
        | folder => rfl
        | file content => exact absurd (leaf itemAt plain kind) notLeaf
    · intro key row
      obtain ⟨⟨hash, mtime⟩, row⟩ := Option.isSome_iff_exists.mp row
      obtain ⟨content, ⟨id, item, itemAt, kind⟩, -⟩ := (synced.rows key hash).mp ⟨mtime, row⟩
      obtain ⟨above, plain, rfl, -⟩ := sound.item_key itemAt
      exact ⟨_, plain, rfl, leaf itemAt plain kind, kept plain ⟨id, item, itemAt, kind⟩⟩
  exact
    { fits :=
        { orderly := edited.orderly
          files := by
            intro rel data plain found
            constructor
            · intro listing child found'
              rw [show start.disk.node? (primary.localPath ++ rel) = _ from found] at found'
              cases found'
            · exact fun id item itemAt => edited.files rel data id item plain found itemAt
          dirs := fun rel listing child _ found leaf => leaf.1 listing child found }
      stored
      cached := synced.cached
      running := edited.running
      online
      folders := fun _ _ => Iff.rfl
      followed := by simp
      leaf := by simp
      tasks := by simp [edited.idle]
      events := by simp
      waiting := by simp
      files := fun _ _ _ _ => Iff.rfl
      dirs := fun _ _ => Iff.rfl
      same := fun _ _ _ => rfl
      shown := by simp
      backed := fun rel _ => Synced.backed synced rel
      owed := by simp }

-----------------------------------------------------------------------------------------
-- Whole runs
-----------------------------------------------------------------------------------------

theorem Told.mono {root : DriveId} {more : List Edit} (told : Told md5 root start (edits ++ more))
    : Told md5 root start edits where
  times _ _ _ _ version version' :=
    told.times _ _ _ _ (version.mono more) (version'.mono more)
  digests _ _ _ _ _ version version' :=
    told.digests _ _ _ _ _ (version.mono more) (version'.mono more)

/-- Every run keeps it, by induction on the run. -/
theorem Live.Run.kept (configured : cfg.getPrimaryPair = some primary)
    (synced : Synced md5 primary.remoteFolderId start) (edited : Edited primary ignore start)
    (online : start.offline = false) (told : Told md5 primary.remoteFolderId start edits)
    (run
      : Live.Run (Environment.calm md5 primary.remoteFolderId) ⟨cfg, false⟩ primary ignore start
          edits live)
    : live.Kept (.realtime md5 cfg primary configured ignore start) start edits := by
  induction run with
  | start => exact .initial configured synced edited online
  | @edit edits live edit disk run followed changes ih =>
      have kept := ih told.mono
      refine kept.edited followed ⟨?_, followed.notFolder⟩ changes
      intro listing child found
      have there := (changes.dirs edit.1 followed.plain).mpr
        ((kept.dirs edit.1 followed.plain).mpr ⟨listing, child, found⟩)
      obtain ⟨listing, child, there⟩ := there
      rw [changes.here] at there
      obtain ⟨data, -, same⟩ := Option.map_eq_some_iff.mp there
      cases same
  | work run step ih =>
      have kept := ih told
      cases step with
      | receive reported dispatches => exact kept.received reported dispatches
      | tick later order dispatches => exact kept.ticked order dispatches
      | handle queued handles => exact kept.handled told queued handles

-----------------------------------------------------------------------------------------
-- Where a run becomes quiet
-----------------------------------------------------------------------------------------

/-- What is up to date is settled. -/
theorem UpToDate.settled {s : Setting} (upToDate : UpToDate s.md5 s.primary s.ignore w rel)
    (unique : w.remote.UniquePaths s.folder)
    : (s.slot w rel).Settled s.md5 Setting.vacant := by
  have record (record : String × Int)
      : (s.slot w rel).record = some record
        ↔ ∃ data,
            w.disk.node? (s.base ++ rel) = some (.file data)
            ∧ s.ignore.isIgnored (s.base ++ rel) false = false
            ∧ data.content ≠ []
            ∧ record = (s.md5 data.content, data.modified / 1000000000) := by
    obtain ⟨hash, mtime⟩ := record
    rw [Setting.record_eq_some, upToDate.row]
    simp only [FileColumns.mk.injEq, Prod.mk.injEq]
    rfl
  have copy (content : List UInt8)
      : (s.slot w rel).copy = some content
        ↔ ∃ data,
            w.disk.node? (s.base ++ rel) = some (.file data)
            ∧ s.ignore.isIgnored (s.base ++ rel) false = false
            ∧ data.content ≠ [] ∧ data.content = content :=
    (Remote.contentAt_eq_some unique).trans (upToDate.copy content)
  have unseen (nothing : ∀ data, w.disk.node? (s.base ++ rel) = some (.file data)
      → s.ignore.isIgnored (s.base ++ rel) false = false → data.content = [])
      : (s.slot w rel).copy = none ∧ (s.slot w rel).record = none := by
    constructor
    · refine Option.eq_none_iff_forall_ne_some.mpr (fun content copied => ?_)
      obtain ⟨data, found, kept, full, -⟩ := (copy content).mp copied
      exact full (nothing data found kept)
    · refine Option.eq_none_iff_forall_ne_some.mpr (fun columns recorded => ?_)
      obtain ⟨data, found, kept, full, -⟩ := (record columns).mp recorded
      exact full (nothing data found kept)
  unfold Mirror.Slot.Settled
  cases file : (s.slot w rel).file with
  | none =>
      refine unseen (fun data found kept => ?_)
      rw [show (s.slot w rel).file = some (data.content, data.modified / 1000000000) from
        Setting.visible_eq_some.mpr ⟨data, found, kept, rfl, rfl⟩] at file
      cases file
  | some shown =>
      obtain ⟨content, time⟩ := shown
      obtain ⟨data, found, kept, rfl, rfl⟩ := Setting.visible_eq_some.mp file
      simp only
      split
      · rename_i nothing
        refine unseen (fun data' found' _ => ?_)
        obtain rfl := Node.file.inj (Option.some.inj (found.symm.trans found'))
        simpa [Setting.vacant] using nothing
      · rename_i full
        have full : data.content ≠ [] := by simpa [Setting.vacant] using full
        exact ⟨(copy _).mpr ⟨data, found, kept, full, rfl⟩,
          (record _).mpr ⟨data, found, kept, full, rfl⟩⟩

/-- Once nothing is owed any more, an edited path whose file is not empty is settled. -/
theorem Live.Kept.settled {s : Setting} (kept : live.Kept s start edits) (quiet : live.Quiet)
    {edit : Edit} (made : edit ∈ edits)
    (full
      : ∀ data,
          live.world.disk.node? (s.base ++ edit.1) = some (.file data) → data.content ≠ [])
    : (s.slot live.world edit.1).Settled s.md5 Setting.vacant := by
  have current := kept.owed edit made
  have nothing : live.owed (s.base ++ edit.1) = none := by
    simp [Live.owed_eq, quiet.received, quiet.dispatched, quiet.handled, lastFor]
  rw [nothing] at current
  unfold Mirror.Slot.Settled
  cases file : (s.slot live.world edit.1).file with
  | none => simpa only [Setting.Fulfils, Setting.Current, file] using current
  | some shown =>
      obtain ⟨content, time⟩ := shown
      obtain ⟨data, found, -, rfl, -⟩ := Setting.visible_eq_some.mp file
      have full := full data found
      simp only [Setting.Fulfils, Setting.Current, file] at current
      simpa [Setting.vacant, full] using current full

-----------------------------------------------------------------------------------------
-- The scan that could have been run instead
-----------------------------------------------------------------------------------------

/-- Nothing is on either side. -/
theorem Edited.of_empty {disk : Disk} (orderly : disk.OrderlyAt backupPair.localPath)
    : Edited backupPair .nothing { disk } where
  orderly := orderly
  closed := fun _ _ _ _ ignored => by cases ignored
  rooted := rfl
  ordinary := fun _ _ _ itemAt => (itemAt_empty itemAt).elim
  files := fun _ _ _ _ _ _ itemAt => (itemAt_empty itemAt).elim
  dirs := fun _ _ _ _ _ _ _ itemAt => (itemAt_empty itemAt).elim
  kept := fun _ _ _ _ itemAt => (itemAt_empty itemAt).elim
  full := fun _ _ _ _ _ ⟨_, _, itemAt, _⟩ => (itemAt_empty itemAt).elim
  running := rfl
  idle := rfl

end SyncGDrive
