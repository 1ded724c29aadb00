import SyncGDrive.Engine.Effects
import SyncGDrive.Provider.Folders
import SyncGDrive.Provider.Moves
import SyncGDrive.Provider.Uploads

/-! The Drive service over the store of remote items: how it reads a request, what an accepted one
does, and how an exchange may go wrong.
-/

namespace SyncGDrive

open Program GDriveProvider

-----------------------------------------------------------------------------------------
-- Demands
-----------------------------------------------------------------------------------------

/-- An identifier as the service makes them: letters, digits, `-` and `_`. -/
def SafeId (id : DriveId) : Prop :=
  ∀ c ∈ id.toList, c.isAlphanum = true ∨ c = '-' ∨ c = '_'

instance (id : DriveId) : Decidable (SafeId id) :=
  List.decidableBAll _ id.toList

/-- What a request asks of the service. -/
inductive Demand
  | search (parentId : DriveId) (name : String)
  | create (parentId : DriveId) (name : String)
  | parents (id : DriveId)
  | update (id : DriveId) (name : Option String) (move : Option (DriveId × List DriveId))
    (trashed : Option Bool)
  | form (parentId : DriveId) (name : String) (existing : Option DriveId) (content : List UInt8)
  | session (parentId : DriveId) (name : String) (existing : Option DriveId)
  | put (uri : String) (contentLength : Nat) (content : List UInt8)
  | remove (id : DriveId)

/-- The file that an address below `/files` names, if it names one, and what follows. -/
def readFileUrl (base url : String) : Option (Option DriveId × String) :=
  match url.toList.dropPrefix? (base ++ "/files").toList with
  | some ('/' :: rest) =>
      some (some (String.ofList (rest.takeWhile (· ≠ '?'))),
        String.ofList (rest.dropWhile (· ≠ '?')))
  | some rest => some (none, String.ofList rest)
  | none => none

def Json.asBool : Json → Option Bool
  | .bool value => some value
  | _ => none

/-- The new parent of an update and the ones it removes. -/
def readMove (query : List (String × String)) : Option (DriveId × List DriveId) :=
  (query.lookup "addParents").map
    (fun added => (added, ((query.lookup "removeParents").map readIds).getD []))

/-- An update of a file, from its address, its parameters and its body. -/
def readUpdate (apiBase url : String) (query : List (String × String)) (body : Json)
    : Option Demand :=
  match readFileUrl apiBase url with
  | some (some id, "") =>
      some (.update id (body.field "name").asStr (readMove query) (body.field "trashed").asBool)
  | _ => none

/-- What a request without a file asks for. -/
def Request.demand (apiBase : String) (request : Request) : Option Demand :=
  match request.method with
  | .get =>
      match readFileUrl apiBase request.url with
      | some (none, "") =>
          ((request.query.lookup "q").bind readSearch).map
            (fun (name, parentId) => .search parentId name)
      | some (some id, "?fields=parents") => some (.parents id)
      | _ => none
  | .post =>
      (request.json.bind readCreation).map (fun (name, parentId) => .create parentId name)
  | .patch => readUpdate apiBase request.url request.query (request.json.getD .null)

/-- The name and the parent that the metadata of an upload tells; a file that exists has one. -/
def readMetadata (metadata : Json) (existing : Option DriveId) : Option (DriveId × String) :=
  match (metadata.field "name").asStr, metadata.field "parents", existing with
  | some name, .array [.string parentId], none => some (parentId, name)
  | some name, .null, some _ => some ("", name)
  | _, _, _ => none

/-- An upload, by its address and its body. -/
def readUpload (uploadBase : String) (request : Transfer) : Option Demand := do
  let (existing, params) ← readFileUrl uploadBase request.url
  if request.verb ≠ uploadVerb existing then none
  else
    match request.body with
    | .form metadata _ content =>
        let (parentId, name) ← readMetadata metadata existing
        if params = formParams then some (.form parentId name existing content) else none
    | .json metadata =>
        let (parentId, name) ← readMetadata metadata existing
        if params = "?uploadType=resumable" then some (.session parentId name existing) else none
    | _ => none

/-- What a transfer asks for. -/
def Transfer.demand (apiBase uploadBase : String) (request : Transfer) : Option Demand :=
  match request.verb, request.body with
  | .put, .stream contentLength blocks => some (.put request.url contentLength blocks.flatten)
  | .delete, .empty =>
      match readFileUrl apiBase request.url with
      | some (some id, "") => some (.remove id)
      | _ => none
  | .patch, .json body =>
      (readUpload uploadBase request).or (readUpdate apiBase request.url request.query body)
  | _, _ => readUpload uploadBase request

-----------------------------------------------------------------------------------------
-- The service
-----------------------------------------------------------------------------------------

/-- An upload that was announced: under which name, where, and for which file. -/
structure UploadSession where
  parentId : DriveId
  name : String
  existing : Option DriveId

/-- The engine's world with what is behind the wire: the sessions of the service, and what is left
of the file that is being read.
-/
structure Wire where
  world : World
  sessions : List (String × UploadSession) := []
  reading : List UInt8 := []

def Wire.setRemote (here : Wire) (remote : Remote) : Wire :=
  { here with world := { here.world with remote } }

/-- The folders of a name, in the order of the store. -/
def Remote.foldersNamed (remote : Remote) (parent : DriveId) (name : String) : List DriveId :=
  (remote.items.entries.filter (fun entry =>
    entry.2.kind = .folder ∧ entry.2.parent = parent ∧ entry.2.name = name
      ∧ entry.2.trashed = false)).map (·.1)

/-- An item for good out of the store. -/
def Remote.erase (remote : Remote) (id : DriveId) : Remote := ⟨remote.items.erase id⟩

/-- The description of an uploaded file. -/
structure Described (md5 : List UInt8 → String) (id : DriveId) (content : List UInt8) (data : Json)
    : Prop where
  id : data.field "id" = .string id
  md5 : data.field "md5Checksum" = .string (md5 content)
  size : data.field "size" = .string (toString content.length)

/-- The upload of a content, answered with a description. -/
def Stored (md5 : List UInt8 → String) (root parentId : DriveId) (name : String)
    (existing : Option DriveId) (content : List UInt8) (here : Wire) (reply : Reply) (after : Wire)
    : Prop :=
  ∃ fresh id data,
    here.world.remote.Unused root fresh
    ∧ SafeId fresh
    ∧ (here.world.remote.upload fresh parentId name existing content).1 = .ok id
    ∧ after = here.setRemote (here.world.remote.upload fresh parentId name existing content).2
    ∧ reply.body = some data
    ∧ Described md5 id content data

/-- What an accepted demand answers and changes. -/
def Demand.Done (md5 : List UInt8 → String) (root : DriveId)
    : Demand → Wire → Reply → Wire → Prop
  | .search parentId name, here, reply, after =>
      after = here
      ∧ ∃ data files,
          reply.body = some data
          ∧ data.field "files" = .array files
          ∧ files.map (fun file => file.field "id")
            = (here.world.remote.foldersNamed parentId name).map Json.string
  | .create parentId name, here, reply, after =>
      ∃ fresh data,
        here.world.remote.Unused root fresh
        ∧ SafeId fresh
        ∧ after = here.setRemote (here.world.remote.put fresh ⟨name, parentId, .folder, false⟩)
        ∧ reply.body = some data
        ∧ data.field "id" = .string fresh
  | .parents id, here, reply, after =>
      after = here
      ∧ ∃ item data,
          here.world.remote.item? id = some item
          ∧ reply.body = some data
          ∧ data.field "parents" = .array [.string item.parent]
  | .update id name move trashed, here, _, after =>
      ∃ item,
        here.world.remote.item? id = some item
        ∧ (∀ added removed, move = some (added, removed) → item.parent ∈ removed)
        ∧ after
          = here.setRemote
              (here.world.remote.put id
                { item with
                  name := name.getD item.name
                  parent := (move.map Prod.fst).getD item.parent
                  trashed := trashed.getD item.trashed })
  | .form parentId name existing content, here, reply, after =>
      Stored md5 root parentId name existing content here reply after
  | .session parentId name existing, here, reply, after =>
      ∃ uri value,
        reply.location = some value
        ∧ headerText value = some uri.toList
        ∧ after = { here with sessions := (uri, ⟨parentId, name, existing⟩) :: here.sessions }
  | .put uri contentLength content, here, reply, after =>
      ∃ session,
        here.sessions.lookup uri = some session
        ∧ content.length = contentLength
        ∧ Stored md5 root session.parentId session.name session.existing content here reply after
  | .remove id, here, _, after =>
      (here.world.remote.item? id).isSome = true
      ∧ after = here.setRemote (here.world.remote.erase id)

/-- A Drive service, with the requests that it may refuse though it could serve them. -/
structure DriveService where
  apiBase : String
  uploadBase : String
  md5 : List UInt8 → String
  root : DriveId
  refuses : Demand → Nat → Prop

/-- How an exchange may go: the demand is served, or refused, or the answer is lost on the way or
cannot be read, with the demand served or not.
-/
inductive Exchanged (service : DriveService) (demand : Option Demand) (here : Wire)
    : Except Error Reply → Wire → Prop
  | served {asked : Demand} {reply : Reply} {after : Wire} (read : demand = some asked)
    (success : reply.isSuccess = true) (done : asked.Done service.md5 service.root here reply after)
    : Exchanged service demand here (.ok reply) after
  | refused {reply : Reply} (refusal : reply.isSuccess = false)
    (allowed
      : ∀ asked,
          demand = some asked
          → service.refuses asked reply.status
            ∨ ∀ reply after, ¬ asked.Done service.md5 service.root here reply after)
    : Exchanged service demand here (.ok reply) here
  | missed (error : Error) : Exchanged service demand here (.error error) here
  | lost {asked : Demand} {reply : Reply} {after : Wire} (error : Error)
    (read : demand = some asked) (done : asked.Done service.md5 service.root here reply after)
    : Exchanged service demand here (.error error) after
  | garbled {asked : Demand} {reply : Reply} {after : Wire} (read : demand = some asked)
    (success : reply.isSuccess = true) (done : asked.Done service.md5 service.root here reply after)
    : Exchanged service demand here (.ok { reply with body := none }) after

/-- What the transfers of the provider meet: the local disk, the uplink and the service. -/
def DriveService.transfers (service : DriveService)
    : (op : TransferOp) → Wire → op.Answer → Wire → Prop
  | .readFile path, here, answer, after =>
      after = here
      ∧ match here.world.disk.read path with
        | some content => answer = .ok content
        | none => ∃ error, answer = .error error
  | .openFile path, here, answer, after =>
      match here.world.disk.read path with
      | some content => answer = .ok () ∧ after = { here with reading := content }
      | none => (∃ error, answer = .error error) ∧ after = here
  | .readBlock size, here, answer, after =>
      (∃ error, answer = .error error) ∧ after = here
      ∨ ∃ block rest,
          answer = .ok block
          ∧ here.reading = block ++ rest
          ∧ block.length ≤ size
          ∧ (block = [] → rest = [])
          ∧ after = { here with reading := rest }
  | .pull, here, _, after | .isCancelled, here, _, after | .grant _, here, _, after
  | .recordBytes _, here, _, after => after = here
  | .send request, here, answer, after =>
      Exchanged service (request.demand service.apiBase service.uploadBase) here answer after
  | .race request, here, answer, after =>
      ∃ brought,
        Exchanged service (request.demand service.apiBase service.uploadBase) here brought after
        ∧ (answer = some brought ∨ answer = none)

/-- The environment of a program that reaches the service over HTTP: what is not carried out there
is as `env` has it.
-/
def DriveService.sem (service : DriveService) (env : Environment) : Semantics drives Wire
  | .client (.engine op), here, answer, after =>
      env.sem op here.world answer after.world ∧ after = { here with world := after.world }
  | .client (.http (.send request)), here, answer, after =>
      ∃ brought,
        Exchanged service (request.demand service.apiBase) here brought after
        ∧ answer = brought.map Reply.toResponse
  | .client (.http _), here, _, after => after = here
  | .transfer op, here, answer, after => service.transfers op here answer after

end SyncGDrive
