import SyncGDrive.Engine.Offline
import SyncGDrive.Engine.Worker
import SyncGDrive.Local.Lossy

/-! Which files their relative keys identify. The keys are decoded lossily, in the scan, in the
workers and in the dispatcher alike, and the scan and the flush turn them back into paths.
-/

namespace SyncGDrive

-----------------------------------------------------------------------------------------
-- Names in UTF-8
-----------------------------------------------------------------------------------------

/-- Every name on the path is UTF-8. -/
def Utf8Names (rel : Path) : Prop := ∀ name ∈ rel, ∃ text, name = .utf8 text

/-- Decoding loses nothing exactly when every name is UTF-8, by induction on the path. -/
theorem Path.lossy_eq_self_iff {rel : Path} : Path.lossy rel = rel ↔ Utf8Names rel := by
  induction rel with
  | nil => simp [Path.lossy, Utf8Names]
  | cons name rel ih =>
      have split : Path.lossy (name :: rel) = .utf8 name.toStringLossy :: Path.lossy rel :=
        rfl
      have here : OsString.utf8 name.toStringLossy = name ↔ ∃ text, name = .utf8 text := by
        constructor
        · intro same
          exact ⟨_, same.symm⟩
        · intro utf8
          obtain ⟨text, rfl⟩ := utf8
          rfl
      rw [split, List.cons.injEq, here, ih]
      simp only [Utf8Names, List.forall_mem_cons]

/-- Joining the key of a file gives the path that the key spells. -/
theorem ProperNames.join_relKey (root : Path) {rel : Path} (proper : ProperNames rel)
    (below : rel ≠ [])
    : root.join (relKey rel) = root ++ rel.lossy := by
  rw [← relKey_lossy rel]
  exact SyncGDrive.join_relKey root (proper.plain below)

-----------------------------------------------------------------------------------------
-- Two files and their keys
-----------------------------------------------------------------------------------------

/-- The keys of two paths are different, and joining the root with a key gives its path back.
-/
def KeysIdentify (root path path' : Path) : Prop :=
  ∃ key key', relStr root path = .ok key ∧ relStr root path' = .ok key'
    ∧ key ≠ key' ∧ root.join key = path ∧ root.join key' = path'

/-- What is written for one file is never taken for the other's: neither the row, nor the remote
id, nor a task of the offline queue.
-/
structure NeverMistaken (root path path' : Path) : Prop where
  row : ∀ db : Database, ∀ entry : FileEntry, ∀ key, relStr root path = .ok key
    → relStr root path' = .ok entry.path → (db.upsert entry).row key = db.row key
  removed : ∀ db : Database, ∀ key key', relStr root path = .ok key
    → relStr root path' = .ok key' → (db.delete key').row key = db.row key
  remoteId : ∀ cache : PathCache, ∀ id parent key key', relStr root path = .ok key
    → relStr root path' = .ok key' → (cache.insert key' id parent).lookup key = cache.lookup key
  queued : ∀ id key, relStr root path = .ok key
    → OfflineTask.task? root ⟨id, "sync", key, none⟩ = some (.syncFile path)
      ∧ OfflineTask.task? root ⟨id, "delete", key, none⟩ = some (.delete path)
  renamed : ∀ id key key', relStr root path = .ok key → relStr root path' = .ok key'
    → OfflineTask.task? root ⟨id, "rename", key, some key'⟩ = some (.rename path' path)

theorem KeysIdentify.neverMistaken {root path path' : Path}
    (identify : KeysIdentify root path path')
    : NeverMistaken root path path' := by
  obtain ⟨key, key', spelled, spelled', other, joined, joined'⟩ := identify
  constructor
  · intro db entry found foundKey foundKey'
    obtain rfl := Except.ok.inj (spelled.symm.trans foundKey)
    obtain rfl := Except.ok.inj (spelled'.symm.trans foundKey')
    rw [Database.row_upsert, if_neg other]
  · intro db found found' foundKey foundKey'
    obtain rfl := Except.ok.inj (spelled.symm.trans foundKey)
    obtain rfl := Except.ok.inj (spelled'.symm.trans foundKey')
    rw [Database.row_delete, if_neg other]
  · intro cache id parent found found' foundKey foundKey'
    obtain rfl := Except.ok.inj (spelled.symm.trans foundKey)
    obtain rfl := Except.ok.inj (spelled'.symm.trans foundKey')
    rw [PathCache.lookup_insert, if_neg other]
  · intro id found foundKey
    obtain rfl := Except.ok.inj (spelled.symm.trans foundKey)
    simp [OfflineTask.task?, joined]
  · intro id found found' foundKey foundKey'
    obtain rfl := Except.ok.inj (spelled.symm.trans foundKey)
    obtain rfl := Except.ok.inj (spelled'.symm.trans foundKey')
    simp [OfflineTask.task?, joined, joined']

/-- Two files below a root are identified by their keys exactly when all their names are UTF-8,
and then neither is ever taken for the other.
-/
theorem keysIdentify_iff (root : Path) {rel rel' : Path} (below : rel ≠ []) (below' : rel' ≠ [])
    (proper : ProperNames rel) (proper' : ProperNames rel') (other : rel ≠ rel')
    : (KeysIdentify root (root ++ rel) (root ++ rel') ↔ Utf8Names rel ∧ Utf8Names rel')
      ∧ (KeysIdentify root (root ++ rel) (root ++ rel')
        → NeverMistaken root (root ++ rel) (root ++ rel')) := by
  have spelled {rel : Path} (proper : ProperNames rel)
      : relStr root (root ++ rel) = .ok (relKey rel) := by
    rw [relStr, proper.clean.stripPrefix]
  -- a key is joined to the decoded path, which is the file's own if decoding loses nothing
  have back {rel : Path} (proper : ProperNames rel) (below : rel ≠ [])
      : root.join (relKey rel) = root ++ rel ↔ Utf8Names rel := by
    rw [proper.join_relKey root below, List.append_cancel_left_eq]
    exact Path.lossy_eq_self_iff
  refine ⟨?_, KeysIdentify.neverMistaken⟩
  constructor
  · intro identify
    obtain ⟨key, key', foundKey, foundKey', -, joined, joined'⟩ := identify
    obtain rfl := Except.ok.inj ((spelled proper).symm.trans foundKey)
    obtain rfl := Except.ok.inj ((spelled proper').symm.trans foundKey')
    exact ⟨(back proper below).mp joined, (back proper' below').mp joined'⟩
  · intro utf8
    obtain ⟨utf8, utf8'⟩ := utf8
    have joined := (back proper below).mpr utf8
    have joined' := (back proper' below').mpr utf8'
    refine ⟨_, _, spelled proper, spelled proper', ?_, joined, joined'⟩
    intro same
    apply other
    rw [same] at joined
    exact List.append_cancel_left (joined.symm.trans joined')

/-- Two files in UTF-8, one of them in a folder. -/
theorem keysIdentify_photos
    : KeysIdentify [.utf8 "data"] [.utf8 "data", .utf8 "été.jpg"]
        [.utf8 "data", .utf8 "photos", .utf8 "été.jpg"] :=
  (@keysIdentify_iff [.utf8 "data"] [.utf8 "été.jpg"] [.utf8 "photos", .utf8 "été.jpg"]
    (by simp) (by simp) (by unfold ProperNames; decide) (by unfold ProperNames; decide)
    (by simp)).1.mpr (by simp [Utf8Names])

/-- Two names in Latin-1 share their key. -/
theorem latin_names_share_key
    : ∃ first second : OsString, first.Proper ∧ second.Proper ∧ first ≠ second
        ∧ relStr [.utf8 "data"] [.utf8 "data", first]
          = relStr [.utf8 "data"] [.utf8 "data", second]
        ∧ ¬ KeysIdentify [.utf8 "data"] [.utf8 "data", first] [.utf8 "data", second] := by
  let first : OsString := .raw [0xE9] (by decide)
  let second : OsString := .raw [0xE8] (by decide)
  have shared : relStr [.utf8 "data"] [.utf8 "data", first]
      = relStr [.utf8 "data"] [.utf8 "data", second] := by decide
  refine ⟨first, second, by decide, by decide, by decide, shared, ?_⟩
  intro identify
  obtain ⟨key, key', spelled, spelled', other, -⟩ := identify
  rw [shared] at spelled
  exact other (Except.ok.inj (spelled.symm.trans spelled'))

end SyncGDrive
