import SyncGDrive.Engine.Scan

/-! The dispatcher behind the watcher: modifications wait until their path has been quiet for
the debounce delay, deletions and renames are passed on at once. What is passed on goes to
the workers, or into the offline queue.
-/

namespace SyncGDrive

open Program

-----------------------------------------------------------------------------------------
-- Watch events
-----------------------------------------------------------------------------------------

inductive WatchEvent
  | modified (path : Path)
  | deleted (path : Path)
  | renamed (source target : Path)
  deriving DecidableEq

-----------------------------------------------------------------------------------------
-- The debounce map
-----------------------------------------------------------------------------------------

/-- The paths that have been modified, each with the time of its last event in milliseconds. -/
abbrev Pending : Type := AList (fun _ : Path => Nat)

namespace Pending

/-- What an event does to the map. -/
def note (now : Nat) (pending : Pending) : WatchEvent → Pending
  | .modified path => pending.insert path now
  | .deleted path => pending.erase path
  | .renamed source target => (pending.erase source).erase target

/-- The paths whose delay has elapsed; a `HashMap` gives them in any order. -/
def ready (pending : Pending) (now debounceMs : Nat) : List Path :=
  (pending.entries.filter (fun entry => debounceMs ≤ now - entry.2)).map (·.1)

/-- The map without the paths that have been passed on. -/
def without (pending : Pending) (paths : List Path) : Pending :=
  paths.foldl (fun pending path => pending.erase path) pending

end Pending

-----------------------------------------------------------------------------------------
-- Passing on
-----------------------------------------------------------------------------------------

/-- Record an operation for later; a path outside the root is dropped, and so is an error of
the database.
-/
def recordOffline (localRoot : Path) (action : String) (path : Path) : Eff Bool := do
  match Path.stripPrefix localRoot path with
  | some rel =>
      let _ ← ask (.pushOfflineTask action (relKey rel) none)
      return true
  | none => return true

/-- A path whose delay has elapsed. The answer tells whether the dispatcher goes on. -/
def dispatchReady (localRoot path : Path) : Eff Bool := do
  if ← ask .isOffline then recordOffline localRoot "sync" path
  else
    let size ← sizeOf path
    ask (.report (.addTotals 1 size))
    ask (.send (.syncFile path))

/-- The paths of one tick in turn, until the channel is closed. -/
def dispatchAll (localRoot : Path) : List Path → Eff Bool
  | [] => return true
  | path :: paths => do
      if ← dispatchReady localRoot path then dispatchAll localRoot paths else return false

/-- An event that is passed on at once; a modification only enters the debounce map. -/
def dispatchEvent (localRoot : Path) : WatchEvent → Eff Bool
  | .modified _ => return true
  | .deleted path => do
      if ← ask .isOffline then recordOffline localRoot "delete" path
      else
        ask (.report (.addTotals 1 0))
        ask (.send (.delete path))
  | .renamed source target => do
      if ← ask .isOffline then
        match Path.stripPrefix localRoot source, Path.stripPrefix localRoot target with
        | some sourceRel, some targetRel =>
            let _ ← ask (.pushOfflineTask "rename" (relKey targetRel) (some (relKey sourceRel)))
            return true
        | _, _ => return true
      else
        ask (.report (.addTotals 1 0))
        ask (.send (.rename source target))

end SyncGDrive
