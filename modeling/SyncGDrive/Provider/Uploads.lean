import SyncGDrive.Provider.Listing
import SyncGDrive.Settings.File

/-! Uploads and deletions over HTTP: a small file in one form, a large one as a stream of blocks
that the transport pulls, and an item that goes to the trash or away.
-/

namespace SyncGDrive

open Program

-----------------------------------------------------------------------------------------
-- Exchanges
-----------------------------------------------------------------------------------------

inductive Verb
  | post
  | patch
  | put
  | delete
  deriving DecidableEq

inductive Body
  | empty
  | json (value : Json)
  /-- A multipart form: the metadata, then the file. -/
  | form (metadata : Json) (fileName : String) (content : List UInt8)
  /-- The blocks that were pulled, under the announced length. -/
  | stream (contentLength : Nat) (blocks : List (List UInt8))

structure Transfer where
  verb : Verb
  url : String
  query : List (String × String) := []
  bearer : Option String := none
  body : Body := .empty

/-- An answer, with its `Location` header. -/
structure Reply extends Response where
  location : Option (List UInt8) := none

/-- What the provider does with local files, the uplink and the progress besides. -/
inductive TransferOp
  /-- `tokio::fs::read`. -/
  | readFile (path : Path)
  | openFile (path : Path)
  /-- Read at most so many bytes of the open file; none at its end. -/
  | readBlock (size : Nat)
  /-- Does the transport ask for another block? -/
  | pull
  | isCancelled
  /-- Wait for so many bytes of the uplink: were they granted before a shutdown? -/
  | grant (bytes : Nat)
  | recordBytes (bytes : Nat)
  | send (request : Transfer)
  /-- Send beside a shutdown: no answer where that comes first. -/
  | race (request : Transfer)

@[reducible] def TransferOp.Answer : TransferOp → Type
  | .readFile _ | .readBlock _ => Except Error (List UInt8)
  | .openFile _ => Except Error Unit
  | .pull | .isCancelled | .grant _ => Bool
  | .recordBytes _ => Unit
  | .send _ => Except Error Reply
  | .race _ => Option (Except Error Reply)

/-- The operations of the provider, transfers included. -/
inductive DriveOp
  | client (op : ClientOp)
  | transfer (op : TransferOp)

@[reducible] def DriveOp.Answer : DriveOp → Type
  | .client op => op.Answer
  | .transfer op => op.Answer

@[reducible] def drives : Signature := ⟨DriveOp, DriveOp.Answer⟩

/-- A program of the provider that transfers. -/
abbrev Drive (α : Type) : Type := Prog drives Error α

/-- One operation of a transfer, as a program. -/
abbrev transfer (op : TransferOp) : Drive op.Answer := @perform drives Error (.transfer op)

/-- A program without transfers. -/
def Client.lift {α : Type} (program : Client α) : Drive α :=
  program.inline (fun op => @perform drives Error (.client op))

namespace GDriveProvider

-----------------------------------------------------------------------------------------
-- Helpers
-----------------------------------------------------------------------------------------

/-- `parse_upload_result`. -/
def parseUploadResult (data : Json) : UploadResult where
  driveId := textOf data "id"
  md5Checksum := textOf data "md5Checksum"
  sizeBytes := (parseU64 ((data.field "size").asStr.getD "0").toList).getD 0

/-- What an upload tells about the file: one that exists stays in its folder. -/
def uploadMetadata (parentId fileName : String) (existingId : Option DriveId) : Json :=
  match existingId with
  | some _ => .object [("name", .string fileName)]
  | none => .object [("name", .string fileName), ("parents", .array [.string parentId])]

def uploadVerb (existingId : Option DriveId) : Verb :=
  if existingId.isSome then .patch else .post

/-- Where an upload goes, with what follows the path. -/
def uploadUrl (uploadBase : String) (existingId : Option DriveId) (params : String) : String :=
  match existingId with
  | some id => uploadBase ++ "/files/" ++ id ++ params
  | none => uploadBase ++ "/files" ++ params

/-- A 429 punishes the limiter, and nothing but a success goes on. -/
def accept (res : Reply) (context failure : String) : Drive Unit := do
  Client.lift (checkRateLimit res.toResponse context)
  if !res.isSuccess then
    throw (.msg ("Erreur API (" ++ failure ++ ") : " ++ res.statusText))
  else return ()

/-- What a request that was sent beside a shutdown brings. -/
def raced (answer : Option (Except Error Reply)) (context cancelled : String) : Drive Reply :=
  match answer with
  | some answer => propagate (answer.mapError (Error.context context))
  | none => throw (.msg cancelled)

-----------------------------------------------------------------------------------------
-- Small files
-----------------------------------------------------------------------------------------

def formParams : String := "?uploadType=multipart&fields=id,md5Checksum,size"

def formRequest (uploadBase token parentId fileName : String) (existingId : Option DriveId)
    (content : List UInt8)
    : Transfer where
  verb := uploadVerb existingId
  url := uploadUrl uploadBase existingId formParams
  bearer := some token
  body := .form (uploadMetadata parentId fileName existingId) fileName content

/-- Wait for the uplink; without a limit, only a shutdown is looked for. -/
def awaitUplink (uploadLimitKbps size : Nat) : Drive Unit := do
  if uploadLimitKbps > 0 then
    if ← transfer (.grant size) then return () else throw (.msg "Upload annulé proprement.")
  else
    if ← transfer .isCancelled then throw (.msg "Upload annulé.") else return ()

/-- `upload_simple`: the whole file in one form. -/
def uploadSimple (cfg : AdvancedSettings) (localPath : Path) (parentId : DriveId)
    (fileName : String) (existingId : Option DriveId)
    : Drive UploadResult := do
  Client.lift (http .acquire)
  let token ← propagate (← Client.lift (http .getToken))
  let fileBytes ← propagate
    ((← transfer (.readFile localPath)).mapError
      (Error.context "Erreur de lecture du fichier local"))
  awaitUplink cfg.uploadLimitKbps fileBytes.length
  let request := formRequest cfg.uploadBase token parentId fileName existingId fileBytes
  let res ←
    raced (← transfer (.race request)) "Erreur réseau (upload simple)" "Upload annulé proprement."
  accept res "upload simple" "upload simple"
  transfer (.recordBytes fileBytes.length)
  return parseUploadResult (← Client.lift (readJson res.toResponse))

-----------------------------------------------------------------------------------------
-- Large files
-----------------------------------------------------------------------------------------

def sessionRequest (uploadBase token parentId fileName : String) (existingId : Option DriveId)
    : Transfer where
  verb := uploadVerb existingId
  url := uploadUrl uploadBase existingId "?uploadType=resumable"
  query := [("fields", "id,md5Checksum,size")]
  bearer := some token
  body := .json (uploadMetadata parentId fileName existingId)

/-- The address of a session, from the answer that opens it. -/
def sessionUri (res : Reply) : Drive String := do
  let value ← propagate (orError "L'API Google n'a pas renvoyé l'en-tête Location" res.location)
  let text ← propagate (orError "failed to convert header to a str" (headerText value))
  return String.ofList text

/-- Open a session of `upload_resumable`. -/
def openSession (cfg : AdvancedSettings) (parentId : DriveId) (fileName : String)
    (existingId : Option DriveId)
    : Drive String := do
  Client.lift (http .acquire)
  let token ← propagate (← Client.lift (http .getToken))
  let request := sessionRequest cfg.uploadBase token parentId fileName existingId
  let initRes ← propagate
    ((← transfer (.send request)).mapError (Error.context "Erreur réseau (init resumable)"))
  accept initRes "init resumable" "init resumable"
  sessionUri initRes

/-- 64 KiB. -/
def blockSize : Nat := 64 * 1024

/-- One block for the transport; none at the end of the file. -/
def nextBlock (uploadLimitKbps : Nat) : Drive (Option (List UInt8)) := do
  let block ← propagate
    ((← transfer (.readBlock blockSize)).mapError (Error.context "Erreur réseau (streaming)"))
  if block = [] then return none
  else
    if uploadLimitKbps > 0 then
      if !(← transfer (.grant block.length)) then
        throw (.msg "Upload lourd annulé proprement.")
    transfer (.recordBytes block.length)
    return some block

/-- The stream of `upload_resumable`, as far as it is pulled: no block is empty, so a transport that
has the announced length asks for no more blocks than that has bytes.
-/
def pullBlocks (uploadLimitKbps : Nat) : Nat → List (List UInt8) → Drive (List (List UInt8))
  | 0, blocks => return blocks
  | left + 1, blocks => do
      if ← transfer .pull then
        match ← nextBlock uploadLimitKbps with
        | some block => pullBlocks uploadLimitKbps left (blocks ++ [block])
        | none => return blocks
      else return blocks

def putRequest (uri : String) (contentLength : Nat) (blocks : List (List UInt8)) : Transfer where
  verb := .put
  url := uri
  body := .stream contentLength blocks

/-- `upload_resumable`: a session, then the file in blocks. -/
def uploadResumable (cfg : AdvancedSettings) (localPath : Path) (parentId : DriveId)
    (fileName : String) (existingId : Option DriveId) (fileSize : Nat)
    : Drive UploadResult := do
  let uri ← openSession cfg parentId fileName existingId
  propagate (← transfer (.openFile localPath))
  Client.lift (http .acquire)
  let blocks ← pullBlocks cfg.uploadLimitKbps fileSize []
  let res ←
    raced (← transfer (.race (putRequest uri fileSize blocks))) "Erreur réseau (streaming)"
      "Upload lourd annulé proprement."
  accept res "streaming resumable" "envoi du fichier"
  return parseUploadResult (← Client.lift (readJson res.toResponse))

/-- `upload`: by the size of the file. -/
def upload (cfg : AdvancedSettings) (localPath : Path) (parentId : DriveId) (fileName : String)
    (existingId : Option DriveId)
    : Drive UploadResult := do
  let metadata ← propagate
    ((← Client.lift (@perform exchanges Error (.engine (.metadata localPath)))).mapError
      (Error.context "Metadata inaccessibles"))
  if metadata.len ≤ cfg.chunkThreshold then
    uploadSimple cfg localPath parentId fileName existingId
  else
    uploadResumable cfg localPath parentId fileName existingId metadata.len

-----------------------------------------------------------------------------------------
-- Deletions
-----------------------------------------------------------------------------------------

def deleteRequest (cfg : AdvancedSettings) (token fileId : String) : Transfer :=
  if cfg.deleteMode = "permanent" then
    { verb := .delete, url := cfg.apiBase ++ "/files/" ++ fileId, bearer := some token }
  else
    { verb := .patch
      url := cfg.apiBase ++ "/files/" ++ fileId
      bearer := some token
      body := .json (.object [("trashed", .bool true)]) }

/-- `delete`: into the trash, or for good. -/
def delete (cfg : AdvancedSettings) (fileId : DriveId) : Drive Unit := do
  Client.lift (http .acquire)
  let token ← propagate (← Client.lift (http .getToken))
  let res ← propagate (← transfer (.send (deleteRequest cfg token fileId)))
  accept res "delete" "suppression"

/-- The calls of the engine that change the remote, carried out over HTTP; a listing stays one
operation here.
-/
def carryOutAll (cfg : AdvancedSettings) : (op : Op) → Drive op.Answer
  | .provider (.mkdir parentId name) => Client.lift (outcome (mkdir cfg.apiBase parentId name))
  | .provider (.upload localPath parentId fileName existingId) =>
      outcome (upload cfg localPath parentId fileName existingId)
  | .provider (.delete fileId) => outcome (delete cfg fileId)
  | .provider (.rename fileId newName newParentId) =>
      Client.lift (outcome (rename cfg.apiBase fileId (some newName) (some newParentId)))
  | op => @perform drives Error (.client (.engine op))

end GDriveProvider

end SyncGDrive
