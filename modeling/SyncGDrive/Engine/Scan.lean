import SyncGDrive.Engine.Retry

/-! The scan: one comparison of the disk, the database and the remote, in the phases of
`scan::run`. Each phase is a program of its own.
-/

namespace SyncGDrive

open Program

-----------------------------------------------------------------------------------------
-- Helpers
-----------------------------------------------------------------------------------------

def scanProgress (phase : ScanPhase) (done total : Nat) (current : String) : Eff Unit :=
  reportStatus (.scanProgress phase done total current)

/-- What a simulation leaves out. -/
def unlessDryRun (ctx : EngineContext) (body : Eff Unit) : Eff Unit :=
  if ctx.dryRun then pure () else body

/-- The check made at the head of every loop. -/
def unlessShutdown {α : Type} (body : Eff α) : Eff α := do
  if ← ask .isCancelled then throw (.msg "shutdown: scan interrupted") else body

/-- Pass a task to the workers. -/
def enqueue (task : Task) : Eff Unit := do
  if ← ask (.send task) then return () else throw (.msg "shutdown: task queue closed")

/-- `mtime_of`: whole seconds, and zero for what has none. -/
def mtimeOf (path : Path) : Eff Int := do
  match ← ask (.metadata path) with
  | .ok metadata => return if metadata.modified < 0 then 0 else metadata.seconds
  | .error _ => return 0

/-- The size of a file, zero when it cannot be read. -/
def sizeOf (path : Path) : Eff Nat := do
  match ← ask (.metadata path) with
  | .ok metadata => return metadata.len
  | .error _ => return 0

-----------------------------------------------------------------------------------------
-- Phases 0 and 1: the inventories
-----------------------------------------------------------------------------------------

/-- Phase 0: a listing that fails counts as an empty remote. -/
def listRemote (primary : SyncPair) : Eff RemoteIndex := do
  scanProgress .remoteListing 0 0 "listing remote…"
  match ← ask (.provider (.listRemote primary.remoteFolderId)) with
  | .ok index => return index
  | .error _ => return ⟨[], []⟩

/-- The listed items enter the cache; what it held before stays. -/
def fillCache (index : RemoteIndex) : Eff Unit := do
  index.dirs.forM (fun dir => ask (.insert dir.relativePath dir.driveId dir.parentId))
  index.files.forM (fun file => ask (.insert file.relativePath file.driveId file.parentId))

/-- What the walk has found, and how many entries it has yielded. -/
structure Inventory where
  localDirs : List Path := []
  localFiles : List Path := []
  localCount : Nat := 0
  deriving DecidableEq

/-- One entry of the walk: directories below the root and regular files are kept. -/
def Inventory.add (inventory : Inventory) (root : Path) (entry : DirEntry) : Inventory :=
  match entry.fileType with
  | .dir =>
      { inventory with
        localDirs :=
          if Path.isInside root entry.path then inventory.localDirs ++ [entry.path]
          else inventory.localDirs
        localCount := inventory.localCount + 1 }
  | .file =>
      { inventory with
        localFiles := inventory.localFiles ++ [entry.path]
        localCount := inventory.localCount + 1 }
  | _ => { inventory with localCount := inventory.localCount + 1 }

/-- Phase 1: the walk, without what is ignored. -/
def takeInventory (primary : SyncPair) (ignore : IgnoreMatcher) : Eff Inventory := do
  scanProgress .localListing 0 0 "inventaire local…"
  let entries ← ask (.walkDir primary.localPath ignore.keeps)
  entries.foldlM visit {}
where
  visit (inventory : Inventory) (entry : DirEntry) : Eff Inventory :=
    unlessShutdown do
      let inventory := inventory.add primary.localPath entry
      reportWhen (inventory.localCount % 100 = 0)
        (.scanProgress .localListing inventory.localCount 0
          (toString inventory.localCount ++ " éléments indexés"))
      return inventory

-----------------------------------------------------------------------------------------
-- Phase 2: the folders
-----------------------------------------------------------------------------------------

/-- One name further down: the cached folder, or a new one. The pair is the key reached and
its folder.
-/
def enterFolder (ctx : EngineContext) (current : String × DriveId) (name : OsString)
    : Eff (String × DriveId) := do
  let part := name.toStringLossy
  let currentRel := pushKey current.1 part
  match ← ask (.lookup currentRel) with
  | some entry => return (currentRel, entry.driveId)
  | none =>
      let newId ← create currentRel part
      ask (.insert currentRel newId current.2)
      return (currentRel, newId)
where
  /-- In a simulation the folder gets a made-up identifier. -/
  create (currentRel part : String) : Eff DriveId :=
    if ctx.dryRun then
      return "dry_run_dir_" ++ currentRel.map (fun c => if c = '/' then '_' else c)
    else retry ctx.cfg (ask (.provider (.mkdir current.2 part)))

/-- One local directory of phase 2. -/
def ensureFolder (ctx : EngineContext) (primary : SyncPair) (totalDirs : Nat)
    (dir : Path × Nat)
    : Eff Unit :=
  unlessShutdown do
    match Path.stripPrefix primary.localPath dir.1 with
    | none => throw (.msg "prefix not found")
    | some rel =>
        scanProgress .directories (dir.2 + 1) totalDirs ((Path.fileName? rel).getD "")
        match ← ask (.lookup (relKey rel)) with
        | some _ => return ()
        | none => discard (rel.foldlM (enterFolder ctx) ("", primary.remoteFolderId))

/-- Phase 2: every local directory gets its remote folder. -/
def createFolders (ctx : EngineContext) (primary : SyncPair) (localDirs : List Path)
    : Eff Unit :=
  localDirs.zipIdx.forM (ensureFolder ctx primary localDirs.length)

-----------------------------------------------------------------------------------------
-- Phases 3 and 4: the comparison, and what it sends
-----------------------------------------------------------------------------------------

/-- Must this file be synchronised? A row that only lost its time gets the new one, and a
file that is new to the database but not to the remote is recorded as it stands.
-/
def compareFile (path : Path) (rel : String) (inDb remoteExists : Bool) : Eff Bool := do
  if inDb && remoteExists then
    match ← ask (.get rel) with
    | .ok (some entry) =>
        let mtime ← mtimeOf path
        if mtime = entry.mtime then return false
        else
          match ← ask (.md5 path) with
          | .ok hash =>
              if hash = entry.hash then
                let _ ← ask (.upsert ⟨rel, hash, mtime⟩)
                return false
              else return true
          | .error _ => return true
    | _ => return true
  else if remoteExists then
    match ← ask (.md5 path) with
    | .ok hash =>
        let mtime ← mtimeOf path
        let _ ← ask (.upsert ⟨rel, hash, mtime⟩)
        return false
    | .error _ => return false
  else return true

/-- One local file of phase 3: it joins the list when it must be synchronised. -/
def compareNext (primary : SyncPair) (dbIndex : List String) (totalFiles : Nat)
    (toSync : List Path) (file : Path × Nat)
    : Eff (List Path) :=
  unlessShutdown do
    match Path.stripPrefix primary.localPath file.1 with
    | none => return toSync
    | some relPath =>
        let rel := relKey relPath
        reportWhen (file.2 % 50 = 0 ∨ file.2 + 1 = totalFiles)
          (.scanProgress .comparing (file.2 + 1) totalFiles
            ((Path.fileName? file.1).getD ""))
        let remoteExists := (← ask (.lookup rel)).isSome
        if ← compareFile file.1 rel (dbIndex.contains rel) remoteExists then
          return toSync ++ [file.1]
        else return toSync

/-- Phase 3: the files to synchronise, empty ones left out. -/
def compareFiles (primary : SyncPair) (dbIndex : List String) (localFiles : List Path)
    : Eff (List Path) := do
  let toSync ← localFiles.zipIdx.foldlM (compareNext primary dbIndex localFiles.length) []
  toSync.foldlM keepNonEmpty []
where
  keepNonEmpty (kept : List Path) (path : Path) : Eff (List Path) := do
    let size ← sizeOf path
    return if 0 < size then kept ++ [path] else kept

/-- Phase 4: one file to synchronise is sent. -/
def sendFile (ctx : EngineContext) (total : Nat) (file : Path × Nat) : Eff Unit :=
  unlessShutdown do
    scanProgress .comparing (file.2 + 1) total ((Path.fileName? file.1).getD "")
    unlessDryRun ctx (enqueue (.syncFile file.1))

/-- Phase 4: the totals, then every file to synchronise. -/
def sendFiles (ctx : EngineContext) (toSync : List Path) : Eff Unit := do
  let bytes ← toSync.foldlM (fun bytes path => return bytes + (← sizeOf path)) 0
  unlessDryRun ctx (ask (.report (.storeTotals toSync.length bytes)))
  toSync.zipIdx.forM (sendFile ctx toSync.length)

-----------------------------------------------------------------------------------------
-- Phases 5 and 6: the orphans
-----------------------------------------------------------------------------------------

/-- Order the deletion of one path. -/
def sendDelete (ctx : EngineContext) (path : Path) : Eff Unit :=
  unlessDryRun ctx do
    ask (.report (.addTotals 1 0))
    enqueue (.delete path)

/-- Phase 5: a row without a local file. -/
def orphanRow (ctx : EngineContext) (primary : SyncPair) (localRelSet : List String)
    (dbPath : String)
    : Eff Unit :=
  unlessShutdown do
    if dbPath ∈ localRelSet then return ()
    else sendDelete ctx (primary.localPath.join dbPath)

/-- Phase 6: a remote file without a local file and without a row. -/
def orphanRemote (ctx : EngineContext) (primary : SyncPair) (ignore : IgnoreMatcher)
    (localRelSet dbIndex : List String) (file : RemoteFile)
    : Eff Unit :=
  unlessShutdown do
    if file.relativePath ∈ localRelSet then return ()
    else
      let localPath := primary.localPath.join file.relativePath
      if ← isDir localPath then return ()
      else if file.relativePath ∈ dbIndex then return ()
      else if ignore.isIgnored localPath (← isDir localPath) then return ()
      else sendDelete ctx localPath

-----------------------------------------------------------------------------------------
-- The scan
-----------------------------------------------------------------------------------------

/-- The keys of the local files. -/
def localKeys (primary : SyncPair) (localFiles : List Path) : List String :=
  localFiles.filterMap (fun path => (Path.stripPrefix primary.localPath path).map relKey)

/-- Phases 3 to 6: compare, send what changed, then order what disappeared deleted. -/
def reconcile (ctx : EngineContext) (primary : SyncPair) (ignore : IgnoreMatcher)
    (remoteIndex : RemoteIndex) (localFiles : List Path)
    : Eff Unit := do
  scanProgress .comparing 0 localFiles.length "comparaison…"
  let dbIndex ← propagate (← ask .allPaths)
  let toSync ← compareFiles primary dbIndex localFiles
  sendFiles ctx toSync
  let localRelSet := localKeys primary localFiles
  dbIndex.forM (orphanRow ctx primary localRelSet)
  remoteIndex.files.forM (orphanRemote ctx primary ignore localRelSet dbIndex)
  reportWhen ctx.dryRun .idle

/-- `scan::run`. -/
def scan (ctx : EngineContext) (ignore : IgnoreMatcher) : Eff Unit := do
  let primary ← propagate (orError "Aucun dossier" ctx.cfg.getPrimaryPair)
  let remoteIndex ← listRemote primary
  fillCache remoteIndex
  let inventory ← takeInventory primary ignore
  createFolders ctx primary inventory.localDirs
  reconcile ctx primary ignore remoteIndex inventory.localFiles

end SyncGDrive
