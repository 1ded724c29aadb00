import SyncGDrive.Engine.Effects
import SyncGDrive.Local.Orderly
import SyncGDrive.Reconciliation.Slot
import SyncGDrive.Remote.Paths

/-! The world seen path by path: each relative path below the local root is a slot with its
visible file, its remote copy and its row.
-/

namespace SyncGDrive

-----------------------------------------------------------------------------------------
-- Remote copies
-----------------------------------------------------------------------------------------

open Classical in
/-- The content of the live remote file at a key, when there is one. -/
noncomputable def Remote.contentAt (remote : Remote) (root : DriveId) (key : String)
    : Option (List UInt8) :=
  if found : ∃ content, remote.FileAt root key content then some found.choose else none

/-- With unique paths the content at a key is that of its file. -/
theorem Remote.contentAt_eq_some {remote : Remote} {root : DriveId} {key : String}
    {content : List UInt8} (unique : remote.UniquePaths root)
    : remote.contentAt root key = some content ↔ remote.FileAt root key content := by
  unfold contentAt
  constructor
  · intro same
    split at same
    · rename_i found
      exact Option.some.inj same ▸ found.choose_spec
    · cases same
  · intro found
    have exists_ : ∃ content, remote.FileAt root key content := ⟨content, found⟩
    rw [dif_pos exists_]
    obtain ⟨id, item, itemAt, kind⟩ := found
    obtain ⟨id', item', itemAt', kind'⟩ := exists_.choose_spec
    have same := unique _ _ _ _ _ itemAt itemAt'
    subst same
    have same := itemAt.1.symm.trans itemAt'.1
    rw [Option.some.injEq] at same
    rw [same, kind', ItemKind.file.injEq] at kind
    rw [kind]

theorem Remote.contentAt_eq_none {remote : Remote} {root : DriveId} {key : String}
    : remote.contentAt root key = none ↔ ∀ content, ¬ remote.FileAt root key content := by
  simp [contentAt]

/-- Equal files at a key mean equal contents. -/
theorem Remote.contentAt_congr {remote remote' : Remote} {root : DriveId} {key key' : String}
    (same : ∀ content, remote'.FileAt root key' content ↔ remote.FileAt root key content)
    : remote'.contentAt root key' = remote.contentAt root key := by
  have files : remote'.FileAt root key' = remote.FileAt root key :=
    funext (fun content => propext (same content))
  unfold contentAt
  rw [files]

-----------------------------------------------------------------------------------------
-- Slots
-----------------------------------------------------------------------------------------

/-- What a run of the engine is about: its configuration with the primary pair, the patterns
and the digest, and which paths are used for files.
-/
structure Setting where
  cfg : AppConfig
  primary : SyncPair
  configured : cfg.getPrimaryPair = some primary
  ignore : IgnoreMatcher
  md5 : List UInt8 → String
  leaf : Path → Prop

namespace Setting

variable (s : Setting)

def base : Path := s.primary.localPath

def folder : DriveId := s.primary.remoteFolderId

/-- The world as slots: contents, their MD5 and whole seconds. -/
abbrev View : Type := Mirror.Slot (List UInt8) String Int

/-- An empty file is never sent. -/
def vacant (content : List UInt8) : Bool := content.isEmpty

/-- The regular file at a path, if it is not ignored: its content and its whole seconds. -/
def visible (disk : Disk) (rel : Path) : Option (List UInt8 × Int) :=
  match disk.node? (s.base ++ rel) with
  | some (.file data) =>
      if s.ignore.isIgnored (s.base ++ rel) false then none
      else some (data.content, data.modified / 1000000000)
  | _ => none

noncomputable def slot (w : World) (rel : Path) : View where
  file := s.visible w.disk rel
  copy := w.remote.contentAt s.folder (relKey rel)
  record := (w.db.row (relKey rel)).map (fun row => (row.hash, row.mtime))

/-- Paths are used for files or for directories on the local side, never for both. -/
structure Fits (disk : Disk) : Prop where
  orderly : disk.OrderlyAt s.base
  files : ∀ rel data, Plain rel → disk.node? (s.base ++ rel) = some (.file data) → s.leaf rel
  dirs
    : ∀ rel listing child,
        Plain rel → disk.node? (s.base ++ rel) = some (.dir listing child) → ¬ s.leaf rel

/-- What holds of the remote and the rows at every point of a run, crashes included. -/
structure Stored (w : World) : Prop where
  sound : w.remote.Sound s.folder
  kinds
    : ∀ rel id item,
        Plain rel → w.remote.ItemAt s.folder id item (relKey rel)
        → (item.kind = .folder ↔ ¬ s.leaf rel)
  copies
    : ∀ rel content,
        Plain rel → w.remote.FileAt s.folder (relKey rel) content
        → s.ignore.isIgnored (s.base ++ rel) false = false
  rows
    : ∀ key,
        (w.db.row key).isSome
        → ∃ rel,
            Plain rel ∧ key = relKey rel ∧ s.leaf rel
            ∧ s.ignore.isIgnored (s.base ++ rel) false = false

/-- The cache is the map of the remote items. -/
def Cached (w : World) : Prop :=
  ∀ key id parent,
    w.pathCache.lookup key = some ⟨id, parent⟩
    ↔ ∃ item, w.remote.ItemAt s.folder id item key ∧ item.parent = parent

/-- The stores are sound, and a whole pass over any slot ends in its goal: a state that a
scan can start from.
-/
structure Consistent (goal : Path → View) (w : World) : Prop where
  fits : s.Fits w.disk
  closed : s.ignore.DownwardClosed
  stored : s.Stored w
  coherent : ∀ rel, Plain rel → (s.slot w rel).Coherent vacant
  headed : ∀ rel, Plain rel → (s.slot w rel).pass s.md5 vacant = goal rel

/-- Every slot is settled. -/
def Settled (w : World) : Prop :=
  ∀ rel, Plain rel → (s.slot w rel).Settled s.md5 vacant

/-- Nothing but the slot at `rel` may have changed, and that slot is the given one. -/
structure Moves (w : World) (rel : Path) (slot : View) (state : World) : Prop where
  disk : state.disk = w.disk
  tasks : state.tasks = w.tasks
  running : state.shutdown = w.shutdown
  sound : state.remote.Sound s.folder
  here : s.slot state rel = slot
  others : ∀ rel', Plain rel' → rel' ≠ rel → s.slot state rel' = s.slot w rel'
  folders : ∀ id key, state.remote.FolderAt s.folder id key ↔ w.remote.FolderAt s.folder id key
  rows : ∀ key, key ≠ relKey rel → state.db.row key = w.db.row key

variable {s : Setting} {w state : World} {rel : Path} {view : View}

-----------------------------------------------------------------------------------------
-- Slots and stores
-----------------------------------------------------------------------------------------

theorem copy_eq_some {content : List UInt8} (sound : w.remote.Sound s.folder)
    : (s.slot w rel).copy = some content
      ↔ w.remote.FileAt s.folder (relKey rel) content :=
  Remote.contentAt_eq_some sound.unique

theorem copy_eq_none
    : (s.slot w rel).copy = none
      ↔ ∀ content, ¬ w.remote.FileAt s.folder (relKey rel) content :=
  Remote.contentAt_eq_none

/-- Slots only read the disk, the remote and the rows. -/
theorem slot_congr (disk : state.disk = w.disk) (remote : state.remote = w.remote)
    (db : state.db = w.db)
    : s.slot state rel = s.slot w rel := by
  simp only [slot, disk, remote, db]

/-- A visible file is a regular file that is not ignored. -/
theorem visible_eq_some {disk : Disk} {content : List UInt8} {time : Int}
    : s.visible disk rel = some (content, time)
      ↔ ∃ data,
          disk.node? (s.base ++ rel) = some (.file data)
          ∧ s.ignore.isIgnored (s.base ++ rel) false = false
          ∧ data.content = content ∧ data.modified / 1000000000 = time := by
  unfold visible
  split
  · rename_i data found
    split <;> simp_all
  · rename_i other
    constructor
    · intro shown
      cases shown
    · rintro ⟨data, found, -⟩
      exact absurd found (other data)

/-- What is visible at a path is its file. -/
theorem visible_congr {disk disk' : Disk}
    (same
      : ∀ data,
          disk'.node? (s.base ++ rel) = some (.file data)
          ↔ disk.node? (s.base ++ rel) = some (.file data))
    : s.visible disk' rel = s.visible disk rel := by
  by_cases file : ∃ data, disk.node? (s.base ++ rel) = some (.file data)
  · obtain ⟨data, found⟩ := file
    simp only [visible, found, (same data).mpr found]
  · have nothing {disk : Disk} (none : ¬ ∃ data, disk.node? (s.base ++ rel) = some (.file data))
        : s.visible disk rel = Option.none := by
      unfold visible
      split
      · rename_i data found
        exact absurd ⟨data, found⟩ none
      · rfl
    rw [nothing file, nothing (by simpa only [same] using file)]

/-- Every remote file is the copy of a slot. -/
theorem Stored.fileAt (stored : s.Stored w) {key : String} {content : List UInt8}
    : w.remote.FileAt s.folder key content
      ↔ ∃ rel, Plain rel ∧ key = relKey rel ∧ (s.slot w rel).copy = some content := by
  constructor
  · rintro ⟨id, item, itemAt, kind⟩
    obtain ⟨above, plain, rfl, -⟩ := stored.sound.item_key itemAt
    exact ⟨_, plain, rfl, (copy_eq_some stored.sound).mpr ⟨id, item, itemAt, kind⟩⟩
  · rintro ⟨rel, plain, rfl, copied⟩
    exact (copy_eq_some stored.sound).mp copied

/-- A row is the record of its slot. -/
theorem record_eq_some {hash : String} {mtime : Int}
    : (s.slot w rel).record = some (hash, mtime)
      ↔ w.db.row (relKey rel) = some ⟨hash, mtime⟩ := by
  constructor
  · intro recorded
    obtain ⟨columns, found, same⟩ := Option.map_eq_some_iff.mp recorded
    obtain ⟨rfl, rfl⟩ := Prod.mk.inj same
    exact found
  · intro found
    simp [slot, found]

/-- Every row is the record of a slot. -/
theorem Stored.row (stored : s.Stored w) {key hash : String} {mtime : Int}
    : w.db.row key = some ⟨hash, mtime⟩
      ↔ ∃ rel, Plain rel ∧ key = relKey rel ∧ (s.slot w rel).record = some (hash, mtime) := by
  constructor
  · intro found
    obtain ⟨rel, plain, rfl, -⟩ := stored.rows key (by simp [found])
    exact ⟨rel, plain, rfl, record_eq_some.mpr found⟩
  · rintro ⟨rel, plain, rfl, recorded⟩
    exact record_eq_some.mp recorded

/-- Moving nothing. -/
theorem Moves.refl (rel : Path) (sound : w.remote.Sound s.folder)
    : s.Moves w rel (s.slot w rel) w where
  disk := rfl
  tasks := rfl
  running := rfl
  sound := sound
  here := rfl
  others _ _ _ := rfl
  folders _ _ := Iff.rfl
  rows _ _ := rfl

/-- The stores stay sound when the slot of a file that is not ignored moves. -/
theorem Moves.stored (moves : s.Moves w rel view state) (stored : s.Stored w)
    (plain : Plain rel) (leaf : s.leaf rel)
    (kept : s.ignore.isIgnored (s.base ++ rel) false = false)
    : s.Stored state where
  sound := moves.sound
  kinds := by
    intro rel' id item plain' itemAt
    constructor
    · intro folder
      have before := (moves.folders _ _).mp (itemAt.folderAt folder)
      rcases before.itemAt with ⟨-, empty⟩ | ⟨item', itemAt', folder'⟩
      · exact absurd empty (relKey_ne_empty plain')
      · exact (stored.kinds rel' id item' plain' itemAt').mp folder'
    · intro notLeaf
      by_contra notFolder
      cases kind : item.kind with
      | folder => exact notFolder kind
      | file content =>
          have found : state.remote.FileAt s.folder (relKey rel') content :=
            ⟨id, item, itemAt, kind⟩
          by_cases same : rel' = rel
          · exact notLeaf (same ▸ leaf)
          · have copied := (copy_eq_some moves.sound).mpr found
            rw [moves.others rel' plain' same, copy_eq_some stored.sound] at copied
            obtain ⟨id', item', itemAt', kind'⟩ := copied
            have := (stored.kinds rel' id' item' plain' itemAt').mpr notLeaf
            rw [kind'] at this
            cases this
  copies := by
    intro rel' content plain' found
    by_cases same : rel' = rel
    · exact same ▸ kept
    · have copied := (copy_eq_some moves.sound).mpr found
      rw [moves.others rel' plain' same, copy_eq_some stored.sound] at copied
      exact stored.copies rel' content plain' copied
  rows := by
    intro key row
    by_cases same : key = relKey rel
    · exact ⟨rel, plain, same, leaf, kept⟩
    · rw [moves.rows key same] at row
      exact stored.rows key row

/-- The state stays consistent when the slot of a file moves on towards its goal. -/
theorem Moves.consistent {goal : Path → View} (moves : s.Moves w rel view state)
    (consistent : s.Consistent goal w) (plain : Plain rel) (leaf : s.leaf rel)
    (kept : s.ignore.isIgnored (s.base ++ rel) false = false)
    (coherent : view.Coherent vacant) (headed : view.pass s.md5 vacant = goal rel)
    : s.Consistent goal state where
  fits := moves.disk ▸ consistent.fits
  closed := consistent.closed
  stored := moves.stored consistent.stored plain leaf kept
  coherent := by
    intro rel' plain'
    by_cases same : rel' = rel
    · subst same
      rw [moves.here]
      exact coherent
    · rw [moves.others rel' plain' same]
      exact consistent.coherent rel' plain'
  headed := by
    intro rel' plain'
    by_cases same : rel' = rel
    · subst same
      rw [moves.here]
      exact headed
    · rw [moves.others rel' plain' same]
      exact consistent.headed rel' plain'

end Setting

end SyncGDrive
