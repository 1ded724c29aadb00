import SyncGDrive.Engine.Retry
import SyncGDrive.Program.Inlining
import SyncGDrive.Remote.Answers

/-! The provider's calls as programs over HTTP exchanges: what `GDriveProvider` sends to the
service and what it makes of the answers.
-/

namespace SyncGDrive

open Program

-----------------------------------------------------------------------------------------
-- Exchanges
-----------------------------------------------------------------------------------------

/-- `serde_json::Value`. -/
inductive Json
  | null
  | bool (value : Bool)
  | number (literal : String)
  | string (value : String)
  | array (items : List Json)
  | object (fields : List (String × Json))

namespace Json

/-- `value[key]`: null where there is no such field. -/
def field (value : Json) (key : String) : Json :=
  match value with
  | .object fields => (fields.lookup key).getD .null
  | _ => .null

def asStr : Json → Option String
  | .string value => some value
  | _ => none

def asArray : Json → Option (List Json)
  | .array items => some items
  | _ => none

end Json

inductive Method
  | get
  | post
  | patch
  deriving DecidableEq

structure Request where
  method : Method
  url : String
  query : List (String × String) := []
  bearer : String
  json : Option Json := none

/-- A status with its text, the `Retry-After` header and the body, if that is JSON. -/
structure Response where
  status : Nat
  reason : String := ""
  retryAfter : Option (List UInt8) := none
  body : Option Json := none

def Response.isSuccess (response : Response) : Bool :=
  200 ≤ response.status && response.status < 300

/-- How a status is displayed. -/
def Response.statusText (response : Response) : String :=
  toString response.status ++ " " ++ response.reason

/-- What the provider does with the limiter, the tokens and the network. -/
inductive HttpOp
  | acquire
  | handleRateLimit (retryAfterSecs : Nat)
  | getToken
  /-- Send a request, for an answer or a transport error. -/
  | send (request : Request)
  | sleep (secs : Nat)

@[reducible] def HttpOp.Answer : HttpOp → Type
  | .acquire | .handleRateLimit _ | .sleep _ => Unit
  | .getToken => Except Error String
  | .send _ => Except Error Response

/-- The operations of the engine, and those of the provider behind it. -/
inductive ClientOp
  | engine (op : Op)
  | http (op : HttpOp)

@[reducible] def ClientOp.Answer : ClientOp → Type
  | .engine op => op.Answer
  | .http op => op.Answer

@[reducible] def exchanges : Signature := ⟨ClientOp, ClientOp.Answer⟩

/-- A program of the provider. -/
abbrev Client (α : Type) : Type := Prog exchanges Error α

/-- One operation of the provider, as a program. -/
abbrev http (op : HttpOp) : Client op.Answer := @perform exchanges Error (.http op)

-----------------------------------------------------------------------------------------
-- Helpers
-----------------------------------------------------------------------------------------

namespace GDriveProvider

/-- `replace('\'', "\\'")`. -/
def escapeQuotes (text : String) : String :=
  String.ofList (text.toList.flatMap (fun c => if c = '\'' then ['\\', '\''] else [c]))

/-- `handle_429`. -/
def handle429 (response : Response) : Client Nat := do
  let wait := parseRetryAfter response.retryAfter
  http (.handleRateLimit wait)
  return wait

/-- `check_rate_limit`. -/
def checkRateLimit (response : Response) (context : String) : Client Unit := do
  if response.status = 429 then
    let wait ← handle429 response
    throw (.msg ("Erreur API 429 (" ++ context ++ ") : Pause exigée de " ++ toString wait ++ "s"))
  else return ()

/-- `res.json()`. -/
def readJson (response : Response) : Client Json :=
  propagate (orError "error decoding response body" response.body)

def folderMime : String := "application/vnd.google-apps.folder"

-----------------------------------------------------------------------------------------
-- Folders
-----------------------------------------------------------------------------------------

/-- What a search for a folder asks after the parent. -/
def searchTail : String :=
  " in parents and mimeType = 'application/vnd.google-apps.folder' and trashed = false"

/-- The query by which `mkdir` looks for a folder. -/
def searchQuery (parentId name : String) : String :=
  "name = '" ++ escapeQuotes name ++ "'" ++ " and '" ++ parentId ++ "'" ++ searchTail

/-- The identifier of the first file of a listing. -/
def firstFileId (data : Json) : Option String := do
  let files ← (data.field "files").asArray
  let firstFile ← files.head?
  (firstFile.field "id").asStr

def searchRequest (apiBase token parentId name : String) : Request where
  method := .get
  url := apiBase ++ "/files"
  query := [("q", searchQuery parentId name), ("fields", "files(id)")]
  bearer := token

def createRequest (apiBase token parentId name : String) : Request where
  method := .post
  url := apiBase ++ "/files"
  bearer := token
  json := some (.object [("name", .string name), ("mimeType", .string folderMime),
    ("parents", .array [.string parentId])])

/-- The search of `mkdir`: the folder that is there, if there is one. -/
def searchFolder (apiBase token parentId name : String) : Client (Option DriveId) := do
  let searchRes ← propagate (← http (.send (searchRequest apiBase token parentId name)))
  checkRateLimit searchRes "mkdir search"
  if !searchRes.isSuccess then
    throw (.msg ("Erreur API (vérification dossier) : " ++ searchRes.statusText))
  else return firstFileId (← readJson searchRes)

/-- The creation of `mkdir`. -/
def createFolder (apiBase token parentId name : String) : Client DriveId := do
  http .acquire
  let createRes ← propagate (← http (.send (createRequest apiBase token parentId name)))
  checkRateLimit createRes "mkdir create"
  if !createRes.isSuccess then
    throw (.msg ("Erreur API (création dossier) : " ++ createRes.statusText))
  else
    let createData ← readJson createRes
    propagate (orError "L'API Google n'a pas retourné d'ID" (createData.field "id").asStr)

/-- `mkdir`: reuse a folder of that name, or create one. -/
def mkdir (apiBase : String) (parentId : DriveId) (name : String) : Client DriveId := do
  http .acquire
  let token ← propagate (← http .getToken)
  match ← searchFolder apiBase token parentId name with
  | some id => return id
  | none => createFolder apiBase token parentId name

-----------------------------------------------------------------------------------------
-- Moves
-----------------------------------------------------------------------------------------

def parentsRequest (apiBase token fileId : String) : Request where
  method := .get
  url := apiBase ++ "/files/" ++ fileId ++ "?fields=parents"
  bearer := token

def renameRequest (apiBase token fileId : String) (params : List (String × String))
    (newName : Option String)
    : Request where
  method := .patch
  url := apiBase ++ "/files/" ++ fileId
  query := params
  bearer := token
  json := some (.object (newName.toList.map (fun name => ("name", .string name))))

/-- What `rename` adds to its request once the parents are known. -/
def moveParams (apiBase token fileId newParent : String) : Client (List (String × String)) := do
  http .acquire
  let getRes ← propagate (← http (.send (parentsRequest apiBase token fileId)))
  checkRateLimit getRes "rename get_parents"
  if getRes.isSuccess then
    let getData ← readJson getRes
    match (getData.field "parents").asArray with
    | some parents =>
        let oldParents := parents.filterMap Json.asStr
        return [("addParents", newParent), ("removeParents", ",".intercalate oldParents)]
    | none => return []
  else return []

/-- `rename`: give a file another name, or another folder. -/
def rename (apiBase : String) (fileId : DriveId) (newName : Option String)
    (newParentId : Option DriveId)
    : Client Unit := do
  let token ← propagate (← http .getToken)
  let params ←
    match newParentId with
    | some newParent => moveParams apiBase token fileId newParent
    | none => pure []
  http .acquire
  let res ← propagate (← http (.send (renameRequest apiBase token fileId params newName)))
  checkRateLimit res "rename patch"
  if !res.isSuccess then throw (.msg ("Erreur API (renommage) : " ++ res.statusText))
  else return ()

/-- The calls that are carried out over HTTP here; the others stay operations. -/
def carryOut (apiBase : String) : (op : Op) → Client op.Answer
  | .provider (.mkdir parentId name) => outcome (mkdir apiBase parentId name)
  | .provider (.rename fileId newName newParentId) =>
      outcome (rename apiBase fileId (some newName) (some newParentId))
  | op => @perform exchanges Error (.engine op)

end GDriveProvider

-----------------------------------------------------------------------------------------
-- Rules
-----------------------------------------------------------------------------------------

section Rules

variable {State α β : Type} {sem : Semantics exchanges State} {inv : State → Prop} {state : State}

/-- An accepted answer is no 429. -/
theorem not_punished {response : Response} (success : response.isSuccess = true)
    : response.status ≠ 429 := by
  intro punished
  simp [Response.isSuccess, punished] at success

/-- Punishing the limiter changes nothing else. -/
def Punishes (sem : Semantics exchanges State) : Prop :=
  ∀ secs state answer after, sem (.http (.handleRateLimit secs)) state answer after → after = state

/-- An answer that is no 429 passes the check, and any other ends the call. -/
theorem always_checkRateLimit {response : Response} {context : String} {f : Unit → Client β}
    {post : Except Error β → State → Prop} (punishes : Punishes sem) (here : inv state)
    (failed : ∀ error, response.status = 429 → post (.error error) state)
    (passed : response.status ≠ 429 → Always sem inv (f ()) state post)
    : Always sem inv (GDriveProvider.checkRateLimit response context >>= f) state post := by
  unfold GDriveProvider.checkRateLimit
  by_cases punished : response.status = 429
  · rw [if_pos punished]
    refine ⟨here, fun answer after served => ?_⟩
    obtain rfl := punishes _ _ _ _ served
    exact ⟨here, failed _ punished⟩
  · rw [if_neg punished]
    exact passed punished

/-- A body is read or ends the call. -/
theorem always_readJson {response : Response} {f : Json → Client β}
    {post : Except Error β → State → Prop} (here : inv state)
    (failed : ∀ error, response.body = none → post (.error error) state)
    (read : ∀ data, response.body = some data → Always sem inv (f data) state post)
    : Always sem inv (GDriveProvider.readJson response >>= f) state post := by
  unfold GDriveProvider.readJson
  cases body : response.body with
  | none => exact ⟨here, failed _ body⟩
  | some data => exact read data body

/-- Being asked for a shutdown and waiting change nothing that the provider looks at. -/
structure Waits (sem : Semantics effects State) : Prop where
  isCancelled : ∀ state answer after, sem .isCancelled state answer after → after = state
  sleep : ∀ time state answer after, sem (.sleep time) state answer after → after = state

/-- A retried operation succeeds with what one of its attempts succeeds with. -/
theorem always_retry_attempts {sem : Semantics effects State} (waits : Waits sem)
    (cfg : AppConfig) {operation : Eff (Except Error α)} {good : α → State → Prop}
    (attempt
      : ∀ state,
          inv state
          → Always sem inv operation state
              (fun result after =>
                ∃ answer, result = .ok answer ∧ ∀ value, answer = .ok value → good value after))
    (here : inv state)
    : Always sem inv (retry cfg operation) state
        (fun result after => ∀ value, result = .ok value → good value after) := by
  apply always_retry (fun _ => inv) (fun _ _ _ => True) _ (fun _ _ _ _ => nofun) _ here
  · intro left state here
    refine ⟨here, fun cancelled after served => ?_⟩
    obtain rfl := waits.isCancelled _ _ _ served
    cases cancelled with
    | true => exact ⟨here, nofun⟩
    | false =>
        apply (attempt _ here).mono
        rintro result last - ⟨answer, rfl, fine⟩
        cases answer with
        | ok value =>
            intro other told
            cases told
            exact fine value rfl
        | error error => trivial
  · intro left error state here _ stopped after slept
    obtain rfl := waits.sleep _ _ _ _ slept
    cases stopped with
    | true => exact ⟨here, nofun⟩
    | false => exact here

end Rules

end SyncGDrive
