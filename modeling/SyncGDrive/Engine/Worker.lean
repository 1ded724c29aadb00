import SyncGDrive.Engine.Retry

/-! The worker: one task, carried out against the remote, the cache and the database. -/

namespace SyncGDrive

open Program

-----------------------------------------------------------------------------------------
-- Helpers
-----------------------------------------------------------------------------------------

/-- The relative key of the directory that holds a file; the empty text at the root. -/
def parentRelStr (root path : Path) : String :=
  ((path.parent.bind (Path.stripPrefix root)).map relKey).getD ""

/-- `rel_str`. -/
def relStr (root path : Path) : Except Error String :=
  match Path.stripPrefix root path with
  | some rel => .ok (relKey rel)
  | none =>
      .error ((Error.msg "prefix not found").context
        (path.display ++ " not under " ++ root.display))

/-- The context that a failing read gets. -/
def withContext {α : Type} (message : String) (answer : Except Error α) : Except Error α :=
  answer.mapError (Error.context message)

/-- `mtime`: whole seconds, and an error before the epoch. -/
def mtime (path : Path) : Eff Int := do
  let metadata ← propagate (withContext "stat" (← ask (.metadata path)))
  if metadata.modified < 0 then throw (.msg "second time provided was later than self")
  else return metadata.seconds

/-- `hash_file`. -/
def hashFile (path : Path) : Eff (Except Error String) := do
  return withContext "read" (← ask (.md5 path))

/-- The identifier of a folder: the configured one at the root, else the cached one. -/
def folderId (primary : SyncPair) (rel missing : String) : Eff DriveId := do
  if rel = "" then return primary.remoteFolderId
  else propagate (orError missing ((← ask (.lookup rel)).map CacheEntry.driveId))

inductive IntegrityResult
  | ok
  | mismatch (localMd5 remoteMd5 : String)
  deriving DecidableEq

/-- `verify_upload`. -/
def verifyUpload (localPath : Path) (result : UploadResult)
    : Eff (Except Error IntegrityResult) := do
  match ← ask (.md5 localPath) with
  | .error error => return .error error
  | .ok localHash =>
      if localHash = result.md5Checksum then return .ok .ok
      else return .ok (.mismatch localHash result.md5Checksum)

-----------------------------------------------------------------------------------------
-- Synchronising a file
-----------------------------------------------------------------------------------------

/-- One turn of the upload loop; `again` is the next one, while attempts are left. -/
def uploadAttempt (retry : RetryConfig) (path : Path) (parentId : DriveId) (fileName : String)
    (lastAttemptId : Option DriveId) (again : Option (Option DriveId → Eff UploadResult))
    : Eff UploadResult := do
  if ← ask .isCancelled then throw (.msg "Annulé")
  else
    match ← ask (.provider (.upload path parentId fileName lastAttemptId)) with
    | .ok result =>
        match ← verifyUpload path result with
        | .ok .ok => return result
        | _ =>
            match again with
            | none =>
                throw (.msg ("mismatch md5 détecté post-upload après "
                  ++ toString retry.maxAttempts ++ " essais"))
            | some next => pauseThen (next (some result.driveId))
    | .error error =>
        match again with
        | none => throw (.msg ("upload a échoué: " ++ error.display))
        | some next => pauseThen (next lastAttemptId)
where
  /-- Wait before the next attempt. -/
  pauseThen (next : Eff UploadResult) : Eff UploadResult := do
    if ← ask (.sleep retry.initialBackoffMs) then
      throw (.msg "Annulé proprement pendant le retry")
    else next

/-- What follows an attempt that is not accepted: the next one, or an error after the last. -/
def uploadAttempt.orNext (retry : RetryConfig) (again : Option (Option DriveId → Eff UploadResult))
    (error : Error) (target : Option DriveId)
    : Eff UploadResult :=
  match again with
  | none => throw error
  | some next => uploadAttempt.pauseThen retry (next target)

/-- The upload loop, with `left` attempts after the first: what an attempt has stored is
the target of the next one.
-/
def uploadLoop (retry : RetryConfig) (path : Path) (parentId : DriveId) (fileName : String)
    (lastAttemptId : Option DriveId)
    : Nat → Eff UploadResult
  | 0 => uploadAttempt retry path parentId fileName lastAttemptId none
  | left + 1 =>
      uploadAttempt retry path parentId fileName lastAttemptId
        (some (fun id => uploadLoop retry path parentId fileName id left))

/-- Send a file that is not up to date, then record it. -/
def uploadFile (ctx : EngineContext) (primary : SyncPair) (path : Path) (rel hash : String)
    (mtime : Int) (fileSize : Nat)
    : Eff Unit := do
  let fileName ← propagate (orError "called Option::unwrap() on a None value" path.fileName?)
  let parentRel := parentRelStr primary.localPath path
  let parentId ←
    folderId primary parentRel ("Dossier parent introuvable dans le cache : " ++ parentRel)
  let existing ← ask (.lookup rel)
  ask (.report (.currentFile ((path.parent.map Path.display).getD "") fileName fileSize))
  let result ←
    uploadLoop ctx.cfg.retry path parentId fileName (existing.map CacheEntry.driveId)
      (ctx.cfg.retry.maxAttempts - 1)
  ask (.insert rel result.driveId parentId)
  propagate (← ask (.upsert ⟨rel, hash, mtime⟩))

/-- `sync_file`: upload a file unless its row and its cache entry say it is there. -/
def syncFile (ctx : EngineContext) (ignore : IgnoreMatcher) (path : Path) : Eff Unit := do
  let stat ← propagate (← ask (.metadata path))
  if ignore.isIgnored path stat.isDir || !stat.isFile then return ()
  else
    let metadata ← propagate (withContext "Metadata inaccessible" (← ask (.metadata path)))
    if metadata.len = 0 then return ()
    else
      let primary ← propagate (orError "Aucun dossier" ctx.cfg.getPrimaryPair)
      let rel ← propagate (relStr primary.localPath path)
      let mtime ← mtime path
      if ← recorded rel (fun entry => entry.mtime = mtime) then return ()
      else if ← ask .isCancelled then return ()
      else
        match ← hashFile path with
        | .error error =>
            if !(← isFile path) then return ()
            else if ← ask .isCancelled then return ()
            else throw error
        | .ok hash =>
            if ← recorded rel (fun entry => entry.hash = hash) then
              propagate (← ask (.upsert ⟨rel, hash, mtime⟩))
            else uploadFile ctx primary path rel hash mtime metadata.len
where
  /-- Has `rel` a row that passes the test, and a cache entry? -/
  recorded (rel : String) (test : FileEntry → Bool) : Eff Bool := do
    match ← propagate (← ask (.get rel)) with
    | some entry => if test entry then return (← ask (.lookup rel)).isSome else return false
    | none => return false

-----------------------------------------------------------------------------------------
-- Deleting and renaming
-----------------------------------------------------------------------------------------

/-- Remove the remote item that the cache knows at `rel`, and the cache entries from there
on.
-/
def deleteItem (ctx : EngineContext) (rel : String) : Eff Unit := do
  match ← ask (.lookup rel) with
  | some entry =>
      retry ctx.cfg (ask (.provider (.delete entry.driveId)))
      ask (.removeCascades rel)
  | none => return ()

/-- `delete`: remove the remote item, then the row. -/
def delete (ctx : EngineContext) (ignore : IgnoreMatcher) (path : Path) : Eff Unit := do
  if ignore.isIgnored path (← isDir path) then return ()
  else
    let primary ← propagate (orError "Aucun dossier" ctx.cfg.getPrimaryPair)
    match relStr primary.localPath path with
    | .error _ => return ()
    | .ok rel =>
        deleteItem ctx rel
        propagate (← ask (.deleteRow rel))

/-- `rename`: move the remote item, its cache entry and its row; a source that is not
fully known makes the target a new file.
-/
def rename (ctx : EngineContext) (ignore : IgnoreMatcher) (source target : Path)
    : Eff Unit := do
  if ← bothIgnored then return ()
  else
    let primary ← propagate (orError "Aucun dossier" ctx.cfg.getPrimaryPair)
    let sourceRel := (relStr primary.localPath source).toOption.getD ""
    let targetRel := (relStr primary.localPath target).toOption.getD ""
    let sourceEntry ← ask (.lookup sourceRel)
    let sourceInDb ← inDb sourceRel
    match sourceEntry, sourceInDb with
    | some entry, true =>
        let newName ←
          propagate (orError "called Option::unwrap() on a None value" target.fileName?)
        let newParentId ←
          folderId primary (parentRelStr primary.localPath target)
            "Dossier destination introuvable"
        retry ctx.cfg (ask (.provider (.rename entry.driveId newName newParentId)))
        ask (.removeCascades sourceRel)
        ask (.insert targetRel entry.driveId newParentId)
        propagate (← ask (.renameRow sourceRel targetRel))
    | _, _ =>
        if ← isFile target then
          if ignore.isIgnored target (← isDir target) then return ()
          else syncFile ctx ignore target
        else return ()
where
  bothIgnored : Eff Bool := do
    if ignore.isIgnored source (← isDir source) then
      return ignore.isIgnored target (← isDir target)
    else return false
  inDb (rel : String) : Eff Bool := do
    if rel = "" then return false
    else return (← propagate (← ask (.get rel))).isSome

/-- `handle`: a simulation only logs. -/
def handle (ctx : EngineContext) (ignore : IgnoreMatcher) (task : Task) : Eff Unit :=
  if ctx.dryRun then return ()
  else
    match task with
    | .syncFile path => syncFile ctx ignore path
    | .delete path => delete ctx ignore path
    | .rename source target => rename ctx ignore source target

/-- Tasks handled one after another, each for its result. -/
def handleInOrder (ctx : EngineContext) (ignore : IgnoreMatcher)
    : List Task → Eff (List (Except Error Unit))
  | [] => return []
  | task :: rest => do
      let result ← outcome (handle ctx ignore task)
      return result :: (← handleInOrder ctx ignore rest)

end SyncGDrive
