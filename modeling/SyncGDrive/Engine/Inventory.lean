import SyncGDrive.Engine.Calm
import SyncGDrive.Local.Walk

/-! What phases 0 to 2 of a scan find, whatever the environment does, and that they end
well where it is undisturbed.
-/

namespace SyncGDrive

open Program

variable {env : Environment} {w : World} {ctx : EngineContext} {primary : SyncPair}
  {ignore : IgnoreMatcher}

-----------------------------------------------------------------------------------------
-- The local inventory
-----------------------------------------------------------------------------------------

/-- The regular files that the walk yields, in its order. -/
def walkedFiles (disk : Disk) (root : Path) (ignore : IgnoreMatcher) : List Path :=
  ((disk.walkDir root ignore.keeps).filter (fun entry => entry.fileType = .file)).map
    DirEntry.path

/-- The directories below the root that the walk yields, in its order. -/
def walkedDirs (disk : Disk) (root : Path) (ignore : IgnoreMatcher) : List Path :=
  ((disk.walkDir root ignore.keeps).filter
    (fun entry => entry.fileType = .dir ∧ Path.isInside root entry.path)).map
    DirEntry.path

/-- A walked file is a regular file that the walk yields. -/
theorem mem_walkedFiles {disk : Disk} {root path : Path}
    : path ∈ walkedFiles disk root ignore
      ↔ ∃ data, disk.Yields root ignore.keeps path (.file data) := by
  simp only [walkedFiles, List.mem_map, List.mem_filter, Disk.mem_walkDir, decide_eq_true_eq]
  constructor
  · rintro ⟨entry, ⟨⟨node, yielded, kind⟩, isFile⟩, rfl⟩
    rw [isFile] at kind
    cases node <;> simp only [Node.fileType, reduceCtorEq] at kind
    exact ⟨_, yielded⟩
  · rintro ⟨data, yielded⟩
    exact ⟨⟨path, .file⟩, ⟨⟨_, yielded, rfl⟩, rfl⟩, rfl⟩

/-- A walked directory is a directory below the root that the walk yields. -/
theorem mem_walkedDirs {disk : Disk} {root path : Path}
    : path ∈ walkedDirs disk root ignore
      ↔ (∃ listing child, disk.Yields root ignore.keeps path (.dir listing child))
        ∧ ∃ name rest, path = root ++ name :: rest := by
  simp only [walkedDirs, List.mem_map, List.mem_filter, Disk.mem_walkDir, decide_eq_true_eq]
  have below {node : Node} (yielded : disk.Yields root ignore.keeps path node)
      : Path.isInside root path = true ↔ ∃ name rest, path = root ++ name :: rest := by
    obtain ⟨rel, rfl, clean⟩ := yielded.underRoot
    rw [clean.isInside, List.ne_nil_iff_exists_cons]
    simp only [List.append_cancel_left_eq]
  constructor
  · rintro ⟨entry, ⟨⟨node, yielded, kind⟩, isDirectory, inside⟩, rfl⟩
    rw [isDirectory] at kind
    cases node <;> simp only [Node.fileType, reduceCtorEq] at kind
    exact ⟨⟨_, _, yielded⟩, (below yielded).mp inside⟩
  · rintro ⟨⟨listing, child, yielded⟩, inside⟩
    exact ⟨⟨path, .dir⟩, ⟨⟨_, yielded, rfl⟩, rfl, (below yielded).mpr inside⟩, rfl⟩

/-- One more entry extends the lists the way the filters do. -/
theorem Inventory.add_lists (inventory : Inventory) (root : Path) (entry : DirEntry)
    (rest : List DirEntry)
    : (inventory.add root entry).localFiles
        ++ (rest.filter (fun entry => entry.fileType = .file)).map DirEntry.path
      = inventory.localFiles
        ++ ((entry :: rest).filter (fun entry => entry.fileType = .file)).map DirEntry.path
      ∧ (inventory.add root entry).localDirs
          ++ (rest.filter
            (fun entry => entry.fileType = .dir ∧ Path.isInside root entry.path)).map
            DirEntry.path
        = inventory.localDirs
          ++ ((entry :: rest).filter
            (fun entry => entry.fileType = .dir ∧ Path.isInside root entry.path)).map
            DirEntry.path := by
  cases kind : entry.fileType <;> simp [Inventory.add, kind]
  split <;> simp_all

/-- Phase 1 finds what the walk yields, or is interrupted. -/
theorem takeInventory_finds
    : Always env.sem (fun state => state.disk = w.disk) (takeInventory primary ignore) w
        (fun result _ =>
          ∀ inventory, result = .ok inventory →
            inventory.localFiles = walkedFiles w.disk primary.localPath ignore
            ∧ inventory.localDirs = walkedDirs w.disk primary.localPath ignore) := by
  refine always_ask_bind.mpr ⟨rfl, ?_⟩
  rintro _ reported served
  have sameDisk := (env.sem_keeps served).disk
  refine always_ask_bind.mpr ⟨sameDisk, ?_⟩
  rintro entries walked ⟨rfl, rfl⟩
  rw [sameDisk]
  refine always_foldlM
    (fun rest inventory state =>
      state.disk = w.disk
      ∧ inventory.localFiles
          ++ (rest.filter (fun entry => entry.fileType = .file)).map DirEntry.path
        = walkedFiles w.disk primary.localPath ignore
      ∧ inventory.localDirs
          ++ (rest.filter (fun entry =>
              entry.fileType = .dir ∧ Path.isInside primary.localPath entry.path)).map
              DirEntry.path
        = walkedDirs w.disk primary.localPath ignore)
    ?kept ?step _ _ ⟨sameDisk, by simp [walkedFiles], by simp [walkedDirs]⟩
  case kept =>
    rintro inventory last ⟨disk, files, dirs⟩
    refine ⟨disk, ?_⟩
    rintro _ ⟨⟩
    exact ⟨by simpa using files, by simpa using dirs⟩
  case step =>
    rintro entry rest inventory middle ⟨disk, files, dirs⟩
    refine always_ask_bind.mpr ⟨disk, ?_⟩
    intro cancelled checked served
    have disk := (env.sem_keeps served).disk.trans disk
    cases cancelled with
    | true => exact ⟨disk, by simp⟩
    | false =>
        obtain ⟨filesStep, dirsStep⟩ := inventory.add_lists primary.localPath entry rest
        refine (always_disk disk _).bind ?_ (fun _ _ _ _ _ => by simp)
        intro _ middle disk _
        exact ⟨disk, disk, filesStep.trans files, dirsStep.trans dirs⟩

end SyncGDrive
