import SyncGDrive.Engine.Dispatch
import SyncGDrive.Reconciliation.Passes

/-! The real-time path: local edits reported by the watcher, a dispatcher that debounces the
reports, and the tasks it sends handled one by one between the edits.
-/

namespace SyncGDrive

open Program

-----------------------------------------------------------------------------------------
-- Edits
-----------------------------------------------------------------------------------------

/-- A relative path, and the file that is there after the edit. -/
abbrev Edit : Type := Path × Option FileData

/-- What an edit of one regular file leaves of the disk. -/
structure Edit.Changes (base : Path) (edit : Edit) (disk disk' : Disk) : Prop where
  orderly : disk'.OrderlyAt base
  here : disk'.node? (base ++ edit.1) = edit.2.map Node.file
  others
    : ∀ rel data,
        Plain rel → rel ≠ edit.1
        → (disk'.node? (base ++ rel) = some (.file data)
          ↔ disk.node? (base ++ rel) = some (.file data))
  dirs
    : ∀ rel,
        Plain rel
        → ((∃ listing child, disk'.node? (base ++ rel) = some (.dir listing child))
          ↔ ∃ listing child, disk.node? (base ++ rel) = some (.dir listing child))

/-- How the watcher reports an edit. -/
def Edit.event (base : Path) (edit : Edit) : WatchEvent :=
  match edit.2 with
  | some _ => .modified (base ++ edit.1)
  | none => .deleted (base ++ edit.1)

/-- A path whose edits are synchronised: not ignored, in a synced folder, and not the path of
a remote folder.
-/
structure Followed (primary : SyncPair) (ignore : IgnoreMatcher) (start : World) (rel : Path)
    : Prop where
  plain : Plain rel
  kept : ignore.isIgnored (primary.localPath ++ rel) false = false
  folder
    : ∃ id, start.remote.FolderAt primary.remoteFolderId id (relKey rel.dropLast)
  notFolder
    : ∀ id item,
        start.remote.ItemAt primary.remoteFolderId id item (relKey rel) → item.kind ≠ .folder

-----------------------------------------------------------------------------------------
-- Runs
-----------------------------------------------------------------------------------------

/-- The world, the reports not yet received, the debounce map and the clock. -/
structure Live where
  world : World
  inbox : List WatchEvent := []
  pending : Pending := ∅
  now : Nat := 0

section Runs

variable (env : Environment) (ctx : EngineContext) (primary : SyncPair) (ignore : IgnoreMatcher)

/-- What the engine does between edits: the dispatcher receives a report or ticks, a worker
handles the first task of the channel.
-/
inductive Live.Step : Live → Live → Prop
  | receive {live : Live} {event : WatchEvent} {rest : List WatchEvent} {after : World}
    (reported : live.inbox = event :: rest)
    (dispatches
      : Reaches env.sem (dispatchEvent primary.localPath event) live.world (.done (.ok true))
          after)
    : Live.Step live ⟨after, rest, live.pending.note live.now event, live.now⟩
  | tick {live : Live} {now : Nat} {ready : List Path} {after : World} (later : live.now ≤ now)
    (order : ready.Perm (live.pending.ready now ctx.cfg.advanced.debounceMs))
    (dispatches
      : Reaches env.sem (dispatchAll primary.localPath ready) live.world (.done (.ok true))
          after)
    : Live.Step live ⟨after, live.inbox, live.pending.without ready, now⟩
  | handle {live : Live} {task : Task} {rest : List Task} {result : Except Error Unit}
    {after : World} (queued : live.world.tasks = task :: rest)
    (handles
      : Reaches env.sem (handle ctx ignore task) { live.world with tasks := rest }
          (.done result) after)
    : Live.Step live { live with world := after }

/-- The states reached from `start`, each with the edits made so far. -/
inductive Live.Run (start : World) : List Edit → Live → Prop
  | start : Live.Run start [] ⟨start, [], ∅, 0⟩
  | edit {edits : List Edit} {live : Live} {edit : Edit} {disk : Disk}
    (run : Live.Run start edits live) (followed : Followed primary ignore start edit.1)
    (changes : edit.Changes primary.localPath live.world.disk disk)
    : Live.Run start (edits ++ [edit])
        { live with
          world := { live.world with disk }
          inbox := live.inbox ++ [edit.event primary.localPath] }
  | work {edits : List Edit} {live next : Live} (run : Live.Run start edits live)
    (step : Live.Step env ctx primary ignore live next)
    : Live.Run start edits next

/-- Nothing is left to be received, to wait for, or to handle. -/
structure Live.Quiet (live : Live) : Prop where
  received : live.inbox = []
  dispatched : live.pending = ∅
  handled : live.world.tasks = []

end Runs

-----------------------------------------------------------------------------------------
-- The contents of a file over a run
-----------------------------------------------------------------------------------------

/-- A content that a path has had, with its whole seconds: that of its row at the start, or
that of an edit.
-/
def Version (root : DriveId) (start : World) (edits : List Edit) (rel : Path)
    (content : List UInt8) (time : Int)
    : Prop :=
  (∃ data,
    (rel, some data) ∈ edits ∧ data.content = content ∧ data.modified / 1000000000 = time)
  ∨ start.remote.FileAt root (relKey rel) content
    ∧ ∃ hash, start.db.row (relKey rel) = some ⟨hash, time⟩

theorem Version.mono {root : DriveId} {start : World} {edits : List Edit} {rel : Path}
    {content : List UInt8} {time : Int} (version : Version root start edits rel content time)
    (more : List Edit)
    : Version root start (edits ++ more) rel content time := by
  rcases version with ⟨data, made, rest⟩ | recorded
  · exact .inl ⟨data, List.mem_append_left _ made, rest⟩
  · exact .inr recorded

/-- The contents of one file differ in their times and in their digests. -/
structure Told (md5 : List UInt8 → String) (root : DriveId) (start : World) (edits : List Edit)
    : Prop where
  times
    : ∀ rel content content' time,
        Version root start edits rel content time
        → Version root start edits rel content' time → content = content'
  digests
    : ∀ rel content content' time time',
        Version root start edits rel content time
        → Version root start edits rel content' time' → md5 content = md5 content'
        → content = content'

/-- The remote file and the row at a path are those of the visible file, if it is not empty. -/
structure UpToDate (md5 : List UInt8 → String) (primary : SyncPair) (ignore : IgnoreMatcher)
    (w : World) (rel : Path)
    : Prop where
  copy
    : ∀ content,
        w.remote.FileAt primary.remoteFolderId (relKey rel) content
        ↔ ∃ data,
            w.disk.node? (primary.localPath ++ rel) = some (.file data)
            ∧ ignore.isIgnored (primary.localPath ++ rel) false = false
            ∧ data.content ≠ [] ∧ data.content = content
  row
    : ∀ columns,
        w.db.row (relKey rel) = some columns
        ↔ ∃ data,
            w.disk.node? (primary.localPath ++ rel) = some (.file data)
            ∧ ignore.isIgnored (primary.localPath ++ rel) false = false
            ∧ data.content ≠ []
            ∧ columns = ⟨md5 data.content, data.modified / 1000000000⟩

end SyncGDrive
