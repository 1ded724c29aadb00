import Mathlib.Data.Fintype.EquivFin
import SyncGDrive.Remote.Paths

/-! What the service can always do: hand out a new identifier, and list what is below a
folder.
-/

namespace SyncGDrive

namespace Remote

variable {remote : Remote} {root : DriveId}

instance : Infinite DriveId :=
  Infinite.of_injective String.ofList (fun _ _ same => String.ofList_injective same)

/-- Some identifier has never been handed out. -/
theorem exists_unused (remote : Remote) (root : DriveId) : ∃ fresh, remote.Unused root fresh := by
  classical
  obtain ⟨fresh, new⟩ := Infinite.exists_notMem_finset
    (root :: (remote.items.keys ++ remote.items.entries.map (·.2.parent))).toFinset
  simp only [List.mem_toFinset, List.mem_cons, List.mem_append, not_or] at new
  refine ⟨fresh, new.1, ?_, ?_⟩
  · exact AList.lookup_eq_none.mpr new.2.1
  · rintro id item found rfl
    exact new.2.2 (List.mem_map.mpr ⟨⟨id, item⟩, AList.mem_lookup_iff.mp found, rfl⟩)

/-- The files of the listing of a rooted tree. -/
theorem exists_files (rooted : remote.Rooted root) (md5 : List UInt8 → String)
    : ∃ files : List RemoteFile,
        (∀ file ∈ files,
          ∃ item content,
            remote.ItemAt root file.driveId item file.relativePath
            ∧ item.parent = file.parentId ∧ item.kind = .file content
            ∧ file.md5 = md5 content ∧ file.size = content.length)
        ∧ ∀ id item key content,
            remote.ItemAt root id item key → item.kind = .file content
            → ∃ file ∈ files, file.driveId = id ∧ file.relativePath = key := by
  classical
  let listed (entry : Σ _ : DriveId, RemoteItem) : Option RemoteFile :=
    match entry.2.kind with
    | .folder => none
    | .file content =>
        if there : ∃ key, remote.ItemAt root entry.1 entry.2 key then
          some ⟨there.choose, entry.1, entry.2.parent, md5 content, content.length, 0⟩
        else none
  refine ⟨remote.items.entries.filterMap listed, ?_, ?_⟩
  · intro file member
    obtain ⟨⟨id, item⟩, -, same⟩ := List.mem_filterMap.mp member
    cases kind : item.kind with
    | folder => simp [listed, kind] at same
    | file content =>
        simp only [listed, kind, Option.dite_none_right_eq_some, Option.some.injEq] at same
        obtain ⟨there, rfl⟩ := same
        exact ⟨item, content, there.choose_spec, rfl, kind, rfl, rfl⟩
  · intro id item key content itemAt kind
    have there : ∃ key, remote.ItemAt root id item key := ⟨key, itemAt⟩
    refine ⟨⟨there.choose, id, item.parent, md5 content, content.length, 0⟩, ?_, rfl, ?_⟩
    · refine List.mem_filterMap.mpr ⟨⟨id, item⟩, AList.mem_lookup_iff.mp itemAt.1, ?_⟩
      simp [listed, kind, dif_pos there]
    · exact rooted.itemAt_unique there.choose_spec itemAt

/-- The folders of the listing of a rooted tree. -/
theorem exists_dirs (rooted : remote.Rooted root)
    : ∃ dirs : List RemoteDir,
        (∀ dir ∈ dirs,
          ∃ item,
            remote.ItemAt root dir.driveId item dir.relativePath ∧ item.parent = dir.parentId
            ∧ item.kind = .folder)
        ∧ ∀ id item key,
            remote.ItemAt root id item key → item.kind = .folder
            → ∃ dir ∈ dirs, dir.driveId = id ∧ dir.relativePath = key := by
  classical
  let listed (entry : Σ _ : DriveId, RemoteItem) : Option RemoteDir :=
    if there : entry.2.kind = .folder ∧ ∃ key, remote.ItemAt root entry.1 entry.2 key then
      some ⟨there.2.choose, entry.1, entry.2.parent⟩
    else none
  refine ⟨remote.items.entries.filterMap listed, ?_, ?_⟩
  · intro dir member
    obtain ⟨⟨id, item⟩, -, same⟩ := List.mem_filterMap.mp member
    simp only [listed, Option.dite_none_right_eq_some, Option.some.injEq] at same
    obtain ⟨there, rfl⟩ := same
    exact ⟨item, there.2.choose_spec, rfl, there.1⟩
  · intro id item key itemAt kind
    have there : ∃ key, remote.ItemAt root id item key := ⟨key, itemAt⟩
    refine ⟨⟨there.choose, id, item.parent⟩, ?_, rfl, ?_⟩
    · refine List.mem_filterMap.mpr ⟨⟨id, item⟩, AList.mem_lookup_iff.mp itemAt.1, ?_⟩
      simp only [listed]
      rw [dif_pos ⟨kind, there⟩]
    · exact rooted.itemAt_unique there.choose_spec itemAt

/-- A rooted tree can be listed. -/
theorem exists_lists (rooted : remote.Rooted root) (md5 : List UInt8 → String)
    : ∃ index, remote.Lists md5 root index := by
  obtain ⟨files, onlyFiles, everyFile⟩ := exists_files rooted md5
  obtain ⟨dirs, onlyDirs, everyDir⟩ := exists_dirs rooted
  exact ⟨⟨files, dirs⟩, onlyFiles, onlyDirs, everyFile, everyDir⟩

end Remote

end SyncGDrive
