import SyncGDrive.Reconciliation.Foreign

/-! Crash recovery: a pass that was killed is made good by the next one. -/

namespace SyncGDrive

open Program

-----------------------------------------------------------------------------------------
-- Crash recovery
-----------------------------------------------------------------------------------------

section Crash

variable {md5 : List UInt8 → String} {cfg : AppConfig} {primary : SyncPair}
  {ignore : IgnoreMatcher} {w : World}

/-- A synced state that has been edited knows what it caches. -/
theorem Synced.knows (synced : Synced md5 primary.remoteFolderId w)
    (configured : cfg.getPrimaryPair = some primary)
    : (Setting.ofWorld md5 cfg primary configured ignore w).Knows w :=
  fun key entry found => (synced.cached key entry.driveId entry.parentId).mp found

/-- A synced state that has been edited is consistent. -/
theorem Synced.consistent (synced : Synced md5 primary.remoteFolderId w)
    (configured : cfg.getPrimaryPair = some primary) (edited : Edited primary ignore w)
    : (Setting.ofWorld md5 cfg primary configured ignore w).Consistent
        ((Setting.ofWorld md5 cfg primary configured ignore w).goal w) w := by
  refine Setting.ofWorld_consistent configured edited synced.unique ?_
  intro key row
  obtain ⟨⟨hash, mtime⟩, found⟩ := Option.isSome_iff_exists.mp row
  obtain ⟨content, copied, -⟩ := (synced.rows key hash).mp ⟨mtime, found⟩
  exact ⟨content, copied⟩

end Crash

end SyncGDrive
