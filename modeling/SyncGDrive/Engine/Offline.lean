import SyncGDrive.Engine.Retry

/-! The queue of operations recorded offline: how events enter it, and how it is flushed. -/

namespace SyncGDrive

open Program

/-- The task that a row stands for below `root`; `none` for an unknown action. -/
def OfflineTask.task? (root : Path) (row : OfflineTask) : Option Task :=
  if row.action = "sync" then some (.syncFile (root.join row.relativePath))
  else if row.action = "delete" then some (.delete (root.join row.relativePath))
  else if row.action = "rename" then
    some (.rename (root.join (row.extra.getD "")) (root.join row.relativePath))
  else none

/-- Send the rows one by one, each removed once the channel has accepted its task. A closed
channel ends the flush, an unknown action is passed over.
-/
def flushRows (root : Path) : List OfflineTask → Eff Unit
  | [] => return ()
  | row :: rows => do
      match row.task? root with
      | none => flushRows root rows
      | some task =>
          if ← ask (.send task) then
            propagate (← ask (.removeOfflineTask row.id))
            flushRows root rows
          else return ()

/-- `flush_queue`. -/
def flushQueue (localRoot : Path) : Eff Unit := do
  flushRows localRoot (← propagate (← ask .getOfflineTasks))

end SyncGDrive
