import SyncGDrive.Reconciliation.Handling
import SyncGDrive.Remote.Listing

/-! Resynchronisation: a scan and its tasks bring the remote and the rows to the visible local
files, and do so again from wherever they were interrupted.
-/

namespace SyncGDrive

open Program

-----------------------------------------------------------------------------------------
-- Synced states, and what may have happened since
-----------------------------------------------------------------------------------------

/-- Unique remote paths, a cache that is the map of the remote items, and one row for each
remote file, with the MD5 of its content.
-/
structure Synced (md5 : List UInt8 → String) (root : DriveId) (w : World) : Prop where
  unique : w.remote.UniquePaths root
  cached
    : ∀ key id parent,
        w.pathCache.lookup key = some ⟨id, parent⟩
        ↔ ∃ item, w.remote.ItemAt root id item key ∧ item.parent = parent
  rows
    : ∀ key hash,
        (∃ mtime, w.db.row key = some ⟨hash, mtime⟩)
        ↔ ∃ content, w.remote.FileAt root key content ∧ hash = md5 content

/-- What a scan finds after local edits: an orderly tree, remote items with ordinary names, no
path used for a file on one side and for a folder on the other, no remote path ignored, and
no file with a remote copy emptied.
-/
structure Edited (primary : SyncPair) (ignore : IgnoreMatcher) (w : World) : Prop where
  orderly : w.disk.OrderlyAt primary.localPath
  closed : ignore.DownwardClosed
  rooted : w.remote.Rooted primary.remoteFolderId
  ordinary
    : ∀ id item key, w.remote.ItemAt primary.remoteFolderId id item key → PlainName item.name
  files
    : ∀ rel data id item,
        Plain rel → w.disk.node? (primary.localPath ++ rel) = some (.file data)
        → w.remote.ItemAt primary.remoteFolderId id item (relKey rel) → item.kind ≠ .folder
  dirs
    : ∀ rel listing child id item,
        Plain rel → w.disk.node? (primary.localPath ++ rel) = some (.dir listing child)
        → w.remote.ItemAt primary.remoteFolderId id item (relKey rel) → item.kind = .folder
  kept
    : ∀ rel id item,
        Plain rel → w.remote.ItemAt primary.remoteFolderId id item (relKey rel)
        → ignore.isIgnored (primary.localPath ++ rel) (item.kind = .folder) = false
  full
    : ∀ rel data content,
        Plain rel → w.disk.node? (primary.localPath ++ rel) = some (.file data)
        → w.remote.FileAt primary.remoteFolderId (relKey rel) content → data.content ≠ []
  running : w.shutdown = false
  idle : w.tasks = []

/-- The environment where everything works serves every operation of a rooted state. -/
theorem Environment.calm_served {md5 : List UInt8 → String} {root : DriveId} {w : World}
    (rooted : w.remote.Rooted root) (op : Op)
    : ∃ answer after, (Environment.calm md5 root).sem op w answer after := by
  refine (Environment.calm md5 root).sem_total w ?_ op
  intro call
  obtain ⟨fresh, unused⟩ := w.remote.exists_unused root
  cases call with
  | listRemote folder =>
      obtain ⟨index, lists⟩ := Remote.exists_lists rooted md5
      exact ⟨.ok index, w.remote, rfl, index, rfl, fun _ => lists⟩
  | mkdir parent name => exact ⟨_, _, fresh, unused, rfl, rfl⟩
  | upload path parent name existing =>
      simp only [Environment.calm, honestProvider]
      cases w.disk.read path with
      | none => exact ⟨.error ⟨[]⟩, w.remote, ⟨_, rfl⟩, rfl⟩
      | some content => exact ⟨_, _, fresh, unused, rfl, rfl⟩
  | delete id => exact ⟨_, _, rfl⟩
  | rename id name parent => exact ⟨_, _, rfl⟩

/-- No item ever gets the identifier of the configured folder. -/
theorem Environment.calm_rooted {md5 : List UInt8 → String} {root : DriveId} {w after : World}
    {op : Op} {answer : op.Answer} (rooted : w.remote.Rooted root)
    (served : (Environment.calm md5 root).sem op w answer after)
    : after.remote.Rooted root := by
  have put {id : DriveId} {item : RemoteItem} (other : id ≠ root)
      : (w.remote.put id item).Rooted root := by
    rw [Remote.Rooted, Remote.item?_put, if_neg other.symm]
    exact rooted
  have known {id : DriveId} {item : RemoteItem} (found : w.remote.item? id = some item)
      : id ≠ root := by
    rintro rfl
    rw [rooted] at found
    cases found
  by_cases touches : op.writes = some .remote
  · cases op <;> simp [Op.writes] at touches
    rename_i call
    obtain ⟨remote, answered, rfl⟩ := served
    cases call with
    | listRemote folder =>
        obtain ⟨rfl, -⟩ := answered
        exact rooted
    | mkdir parent name =>
        obtain ⟨fresh, unused, -, rfl⟩ := answered
        change (w.remote.mkdir fresh parent name).2.Rooted root
        unfold Remote.mkdir
        split
        · exact rooted
        · exact put unused.notRoot
    | upload path parent name existing =>
        simp only [Environment.calm, honestProvider] at answered
        split at answered
        · exact answered.2 ▸ rooted
        · obtain ⟨fresh, unused, -, rfl⟩ := answered
          change (w.remote.upload fresh parent name existing _).2.Rooted root
          unfold Remote.upload
          split
          · exact put unused.notRoot
          · split
            · rename_i found
              exact put (known found)
            · exact rooted
    | delete id =>
        obtain ⟨-, rfl⟩ := Prod.mk.inj answered
        change (w.remote.delete id).2.Rooted root
        unfold Remote.delete
        split
        · rename_i found
          exact put (known found)
        · exact rooted
    | rename id name parent =>
        obtain ⟨-, rfl⟩ := Prod.mk.inj answered
        change (w.remote.rename id name parent).2.Rooted root
        unfold Remote.rename
        split
        · rename_i found
          exact put (known found)
        · exact rooted
  · rw [((Environment.calm md5 root).sem_keeps served).remote touches]
    exact rooted

/-- Where everything works, every program comes to an end. -/
theorem Environment.calm_exists_run {md5 : List UInt8 → String} {root : DriveId} {w : World}
    {α : Type} {program : Eff α} {inv : World → Prop} {post : Except Error α → World → Prop}
    (rooted : w.remote.Rooted root)
    (always : Always (Environment.calm md5 root).sem inv program w post)
    : ∃ result last,
        Reaches (Environment.calm md5 root).sem program w (.done result) last
        ∧ post result last := by
  have everywhere
      : Always (Environment.calm md5 root).sem (fun state => state.remote.Rooted root) program w
          (fun _ _ => True) :=
    always_of_sem (fun _ _ _ _ rooted served => Environment.calm_rooted rooted served) rooted
  obtain ⟨result, last, path, holds, -⟩ :=
    (always.and everywhere).exists_run (fun op _ both => Environment.calm_served both.2 op)
  exact ⟨result, last, path, holds⟩

namespace Setting

variable {md5 : List UInt8 → String} {cfg : AppConfig} {primary : SyncPair}
  {ignore : IgnoreMatcher} {w : World}

/-- The setting of a state: paths are used for files where a file is on either side. -/
def ofWorld (md5 : List UInt8 → String) (cfg : AppConfig) (primary : SyncPair)
    (configured : cfg.getPrimaryPair = some primary) (ignore : IgnoreMatcher) (w : World)
    : Setting where
  cfg := cfg
  primary := primary
  configured := configured
  ignore := ignore
  md5 := md5
  leaf rel :=
    (∃ data, w.disk.node? (primary.localPath ++ rel) = some (.file data))
    ∨ ∃ content, w.remote.FileAt primary.remoteFolderId (relKey rel) content

/-- Where a whole pass over each slot of a state ends. -/
noncomputable def goal (s : Setting) (w : World) (rel : Path) : View :=
  (s.slot w rel).pass s.md5 vacant

/-- An edited state whose rows all have their remote file is consistent. -/
theorem ofWorld_consistent (configured : cfg.getPrimaryPair = some primary)
    (edited : Edited primary ignore w) (unique : w.remote.UniquePaths primary.remoteFolderId)
    (copied
      : ∀ key,
          (w.db.row key).isSome → ∃ content, w.remote.FileAt primary.remoteFolderId key content)
    : (ofWorld md5 cfg primary configured ignore w).Consistent
        ((ofWorld md5 cfg primary configured ignore w).goal w) w := by
  have sound : w.remote.Sound primary.remoteFolderId := ⟨edited.rooted, unique, edited.ordinary⟩
  have stored : (ofWorld md5 cfg primary configured ignore w).Stored w := by
    refine ⟨sound, ?_, ?_, ?_⟩
    · intro rel id item plain itemAt
      constructor
      · rintro folder (⟨data, found⟩ | ⟨content, id', item', itemAt', kind⟩)
        · exact edited.files rel data id item plain found itemAt folder
        · obtain rfl := unique _ _ _ _ _ itemAt itemAt'
          rw [Option.some.inj (itemAt.1.symm.trans itemAt'.1), kind] at folder
          cases folder
      · intro notLeaf
        cases kind : item.kind with
        | folder => rfl
        | file content => exact absurd (.inr ⟨content, id, item, itemAt, kind⟩) notLeaf
    · rintro rel content plain ⟨id, item, itemAt, kind⟩
      have kept : ignore.isIgnored (primary.localPath ++ rel) false = false := by
        simpa [kind] using edited.kept rel id item plain itemAt
      exact kept
    · intro key row
      obtain ⟨content, id, item, itemAt, kind⟩ := copied key row
      obtain ⟨above, plain, rfl, -⟩ := sound.item_key itemAt
      have kept : ignore.isIgnored (primary.localPath ++ (above ++ [.utf8 item.name])) false
          = false := by
        simpa [kind] using edited.kept _ id item plain itemAt
      exact ⟨_, plain, rfl, .inr ⟨content, id, item, itemAt, kind⟩, kept⟩
  -- A row of a slot has a copy beside it.
  have beside {rel : Path}
      (recorded
        : ((ofWorld md5 cfg primary configured ignore w).slot w rel).record ≠ none)
      : ∃ content,
          w.remote.FileAt primary.remoteFolderId (relKey rel) content
          ∧ ((ofWorld md5 cfg primary configured ignore w).slot w rel).copy = some content := by
    have row : (w.db.row (relKey rel)).isSome := by
      cases found : w.db.row (relKey rel) with
      | some columns => rfl
      | none => simp [slot, found] at recorded
    obtain ⟨content, found⟩ := copied _ row
    exact ⟨content, found, (copy_eq_some stored.sound).mpr found⟩
  refine ⟨⟨edited.orderly, ?_, ?_⟩, edited.closed, stored, ?_, fun _ _ => rfl⟩
  · exact fun rel data plain found => .inl ⟨data, found⟩
  · rintro rel listing child plain found (⟨data, found'⟩ | ⟨content, id, item, itemAt, kind⟩)
    · rw [show w.disk.node? (primary.localPath ++ rel) = _ from found] at found'
      cases found'
    · have folder := edited.dirs rel listing child id item plain found itemAt
      rw [kind] at folder
      cases folder
  · intro rel plain
    constructor
    · intro content time file nothing
      have empty : content = [] := by simpa [vacant] using nothing
      have noCopy (copy : List UInt8)
          : ((ofWorld md5 cfg primary configured ignore w).slot w rel).copy ≠ some copy := by
        intro copied
        have found := (copy_eq_some stored.sound).mp copied
        have shown : (ofWorld md5 cfg primary configured ignore w).visible w.disk rel
            = some (content, time) := file
        unfold visible at shown
        split at shown
        · rename_i data there
          split at shown
          · cases shown
          · obtain ⟨rfl, -⟩ := Prod.mk.inj (Option.some.inj shown)
            exact edited.full rel data copy plain there found empty
        · cases shown
      refine ⟨Option.eq_none_iff_forall_ne_some.mpr noCopy, ?_⟩
      by_contra recorded
      obtain ⟨copy, -, copied⟩ := beside recorded
      exact noCopy copy copied
    · intro content time record file recorded noCopy
      have some_ : ((ofWorld md5 cfg primary configured ignore w).slot w rel).record ≠ none := by
        simp [recorded]
      obtain ⟨copy, -, copied⟩ := beside some_
      rw [noCopy] at copied
      cases copied

-----------------------------------------------------------------------------------------
-- Whole passes
-----------------------------------------------------------------------------------------

variable {s : Setting} {goal : Path → View} {state last : World} {rel : Path}

/-- A plan remains one when its tasks are taken out of the channel. -/
theorem Pending.taken {tasks : List Task} (pending : s.Pending goal tasks state)
    : s.Pending goal tasks { state with tasks := [] } where
  consistent := pending.consistent.same rfl rfl rfl
  cached := pending.cached
  running := pending.running
  expected := pending.expected
  every := pending.every

/-- From a consistent state a scan makes a plan, and handling the plan carries it out. -/
theorem resync_pending (consistent : s.Consistent goal w) (knows : s.Knows w)
    (running : w.shutdown = false) (idle : w.tasks = [])
    {scanned : Except Error Unit} {planned : World}
    (scans
      : Reaches (Environment.calm s.md5 s.folder).sem (scan ⟨s.cfg, false⟩ s.ignore) w
          (.done scanned) planned)
    : scanned = .ok ()
      ∧ ∀ handled last,
          Reaches (Environment.calm s.md5 s.folder).sem
            (handleInOrder ⟨s.cfg, false⟩ s.ignore planned.tasks) { planned with tasks := [] }
            (.done handled) last
          → (∃ results, handled = .ok results ∧ ∀ entry ∈ results, entry = .ok ())
            ∧ s.Pending goal [] last := by
  obtain ⟨-, fine, pending⟩ := (always_scan consistent knows running idle).reaches scans
  refine ⟨fine, ?_⟩
  intro handled last handles
  exact ((always_handleInOrder pending.taken).reaches handles).2

/-- From a consistent state a whole pass can be run to its end. -/
theorem resync_runs (consistent : s.Consistent goal w) (knows : s.Knows w)
    (running : w.shutdown = false) (idle : w.tasks = [])
    : ∃ planned results last,
        Reaches (Environment.calm s.md5 s.folder).sem (scan ⟨s.cfg, false⟩ s.ignore) w
          (.done (.ok ())) planned
        ∧ Reaches (Environment.calm s.md5 s.folder).sem
            (handleInOrder ⟨s.cfg, false⟩ s.ignore planned.tasks) { planned with tasks := [] }
            (.done (.ok results)) last := by
  obtain ⟨_, planned, scans, rfl, pending⟩ :=
    Environment.calm_exists_run consistent.stored.sound.rooted
      (always_scan consistent knows running idle)
  obtain ⟨_, last, handles, ⟨results, rfl, -⟩, -⟩ :=
    Environment.calm_exists_run pending.taken.consistent.stored.sound.rooted
      (always_handleInOrder pending.taken)
  exact ⟨planned, results, last, scans, handles⟩

-----------------------------------------------------------------------------------------
-- Where a whole pass ends
-----------------------------------------------------------------------------------------

/-- Where a pass is over, the remote files are what the goals say. -/
theorem Pending.fileAt (pending : s.Pending goal [] last) {key : String} {content : List UInt8}
    : last.remote.FileAt s.folder key content
      ↔ ∃ rel, Plain rel ∧ key = relKey rel ∧ (goal rel).copy = some content := by
  rw [pending.consistent.stored.fileAt]
  refine exists_congr (fun rel => and_congr_right (fun plain => ?_))
  rw [pending.done plain]

/-- Where a pass is over, the rows are what the goals say. -/
theorem Pending.row (pending : s.Pending goal [] last) {key hash : String} {mtime : Int}
    : last.db.row key = some ⟨hash, mtime⟩
      ↔ ∃ rel, Plain rel ∧ key = relKey rel ∧ (goal rel).record = some (hash, mtime) := by
  rw [pending.consistent.stored.row]
  refine exists_congr (fun rel => and_congr_right (fun plain => ?_))
  rw [pending.done plain]

/-- Where a pass is over and every goal is settled, the state is synced. -/
theorem Pending.synced (pending : s.Pending goal [] last)
    (settled : ∀ rel, Plain rel → (goal rel).Settled s.md5 vacant)
    : Synced s.md5 s.folder last where
  unique := pending.consistent.stored.sound.unique
  cached := pending.cached
  rows key hash := by
    simp only [pending.row, pending.fileAt]
    -- In a settled slot there is a record exactly beside a copy, with its digest.
    have beside {rel : Path} (plain : Plain rel)
        : (∃ mtime, (goal rel).record = some (hash, mtime))
          ↔ ∃ content, (goal rel).copy = some content ∧ hash = s.md5 content := by
      have settled := settled rel plain
      unfold Mirror.Slot.Settled at settled
      split at settled
      · simp [settled]
      · rename_i content time file
        split at settled
        · simp [settled]
        · simp [settled, eq_comm]
    constructor
    · rintro ⟨mtime, rel, plain, rfl, recorded⟩
      obtain ⟨content, copied, digest⟩ := (beside plain).mp ⟨mtime, recorded⟩
      exact ⟨content, ⟨rel, plain, rfl, copied⟩, digest⟩
    · rintro ⟨content, ⟨rel, plain, rfl, copied⟩, digest⟩
      obtain ⟨mtime, recorded⟩ := (beside plain).mpr ⟨content, copied, digest⟩
      exact ⟨mtime, rel, plain, rfl, recorded⟩

end Setting

end SyncGDrive
