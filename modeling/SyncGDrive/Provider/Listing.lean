import SyncGDrive.Provider.Tree

/-! Listing a remote tree over HTTP: the traversal of `list_remote`, and a service that answers it
page by page, with pauses and failures in between.
-/

namespace SyncGDrive

open Program

-----------------------------------------------------------------------------------------
-- The traversal
-----------------------------------------------------------------------------------------

/-- The state of `list_remote` between two requests: the folders still to be listed, with their
paths, and what was found.
-/
structure Traversal where
  queue : List (DriveId × String)
  files : List RemoteFile := []
  dirs : List RemoteDir := []

namespace GDriveProvider

/-- `item[key].as_str().unwrap_or_default()`. -/
def textOf (item : Json) (key : String) : String :=
  (item.field key).asStr.getD ""

/-- The path of an item in the folder that is listed. -/
def relPath (currentPath name : String) : String :=
  if currentPath = "" then name else currentPath ++ "/" ++ name

/-- One item of a page. The time is parsed by `timestamp`. -/
def addItem (timestamp : String → Option Int) (folderId currentPath : String) (listing : Traversal)
    (item : Json)
    : Traversal :=
  let id := textOf item "id"
  let path := relPath currentPath (textOf item "name")
  if textOf item "mimeType" = folderMime then
    { listing with
      dirs := listing.dirs ++ [⟨path, id, folderId⟩]
      queue := listing.queue ++ [(id, path)] }
  else
    { listing with
      files :=
        listing.files
          ++ [{ relativePath := path
                driveId := id
                parentId := folderId
                md5 := textOf item "md5Checksum"
                size := (parseU64 ((item.field "size").asStr.getD "0").toList).getD 0
                modifiedTime := (timestamp (textOf item "modifiedTime")).getD 0 }] }

/-- The query by which `list_remote` asks for the content of a folder. -/
def listQuery (folderId : DriveId) : String :=
  "'" ++ escapeQuotes folderId ++ "' in parents and trashed = false"

def listFields : String :=
  "nextPageToken, files(id, name, mimeType, parents, md5Checksum, size, modifiedTime)"

def listRequest (apiBase token folderId : String) (pageToken : Option String) : Request where
  method := .get
  url := apiBase ++ "/files"
  query :=
    [("q", listQuery folderId), ("fields", listFields), ("pageSize", "1000")]
      ++ pageToken.toList.map (fun token => ("pageToken", token))
  bearer := token

/-- One request of the inner loop: a page, or nothing after a pause. -/
def listPage (apiBase folderId currentPath : String) (pageToken : Option String)
    : Client (Option Json) := do
  http .acquire
  let token ← propagate (← http .getToken)
  let res ← propagate
    ((← http (.send (listRequest apiBase token folderId pageToken))).mapError
      (Error.context "Erreur réseau (listing BFS)"))
  if res.status = 429 then
    let wait ← handle429 res
    http (.sleep wait)
    return none
  else if !res.isSuccess then
    throw (.msg ("Erreur API (listing dossier " ++ currentPath ++ ") : " ++ res.statusText))
  else return some (← readJson res)

mutual

/-- The outer loop of `list_remote`; nothing comes of it where the turns do not suffice. -/
def nextFolder (apiBase : String) (timestamp : String → Option Int)
    : Nat → Traversal → Client (Option RemoteIndex)
  | 0, _ => return none
  | turns + 1, listing =>
      match listing.queue with
      | [] => return some ⟨listing.files, listing.dirs⟩
      | (folderId, currentPath) :: queue =>
          nextPage apiBase timestamp turns folderId currentPath none { listing with queue }

/-- The inner loop: one page after the other, and the same page again after a pause. -/
def nextPage (apiBase : String) (timestamp : String → Option Int)
    : Nat → DriveId → String → Option String → Traversal → Client (Option RemoteIndex)
  | 0, _, _, _, _ => return none
  | turns + 1, folderId, currentPath, pageToken, listing => do
      match ← listPage apiBase folderId currentPath pageToken with
      | none => nextPage apiBase timestamp turns folderId currentPath pageToken listing
      | some data =>
          let items := (data.field "files").asArray.getD []
          let listing := items.foldl (addItem timestamp folderId currentPath) listing
          match (data.field "nextPageToken").asStr with
          | some token =>
              nextPage apiBase timestamp turns folderId currentPath (some token) listing
          | none => nextFolder apiBase timestamp turns listing

end

/-- `list_remote`, for so many turns of its loops. -/
def listRemote (apiBase : String) (timestamp : String → Option Int) (rootId : DriveId)
    (turns : Nat)
    : Client (Option RemoteIndex) :=
  nextFolder apiBase timestamp turns { queue := [(rootId, "")] }

end GDriveProvider

open GDriveProvider

-----------------------------------------------------------------------------------------
-- The service
-----------------------------------------------------------------------------------------

/-- What is below a folder, no two items of one identifier. -/
structure RemoteTree where
  rootId : DriveId
  branches : List Branch
  unique
    : (rootId :: (livingIn rootId [] branches).map (fun found => found.branch.entry.id)).Nodup

namespace RemoteTree

variable (tree : RemoteTree)

def root : Place := ⟨tree.rootId, [], tree.branches⟩

/-- The items that are not in the trash. -/
def living : List Found := tree.root.below

/-- The folders that can be listed. -/
def places : List Place :=
  tree.root :: (tree.living.filter (fun found => found.branch.isFolder)).map Found.place

end RemoteTree

/-- The pages that follow a token up to the last one. -/
inductive Chain (serve : Option String → List Branch × Option String)
    : Option String → List (List Branch) → Prop
  | last {token : Option String} {items : List Branch} (served : serve token = (items, none))
    : Chain serve token [items]
  | more {token : Option String} {items : List Branch} {next : String}
    {rest : List (List Branch)} (served : serve token = (items, some next))
    (later : Chain serve (some next) rest)
    : Chain serve token (items :: rest)

/-- A way to cut the content of every folder into pages. -/
structure Paging (tree : RemoteTree) where
  serve : DriveId → Option String → List Branch × Option String
  pages : DriveId → List (List Branch)
  chained : ∀ place ∈ tree.places, Chain (serve place.id) none (pages place.id)
  whole
    : ∀ place ∈ tree.places,
        (pages place.id).flatten.Perm (place.children.filter (fun branch => !branch.trashed))

/-- How many pauses the service may still ask for, and whether a request has failed. -/
structure Troubles where
  pauses : Nat
  failed : Bool := false

/-- The answers to a request: a pause, a failure or a page. -/
inductive Answers {tree : RemoteTree} (paging : Paging tree) (request : Request) (here : Troubles)
    : Except Error Response → Troubles → Prop
  | paused {response : Response} {left : Nat} (punished : response.status = 429)
    (allowed : here.pauses = left + 1)
    : Answers paging request here (.ok response) { here with pauses := left }
  | lost (error : Error) : Answers paging request here (.error error) { here with failed := true }
  | refused {response : Response} (unpunished : response.status ≠ 429)
    (refused : response.isSuccess = false)
    : Answers paging request here (.ok response) { here with failed := true }
  | unreadable {response : Response} (success : response.isSuccess = true)
    (unreadable : response.body = none)
    : Answers paging request here (.ok response) { here with failed := true }
  | page {response : Response} {data : Json} {folderId : DriveId} {items : List Branch}
    {next : Option String} (success : response.isSuccess = true)
    (readable : response.body = some data)
    (asked : request.query.lookup "q" = some (listQuery folderId))
    (served : paging.serve folderId (request.query.lookup "pageToken") = (items, next))
    (files
      : (data.field "files").asArray.getD [] = items.map (fun branch => branch.entry.json))
    (more : (data.field "nextPageToken").asStr = next)
    : Answers paging request here (.ok response) here

/-- How a listing describes the file. -/
def Found.file (timestamp : String → Option Int) (found : Found) : RemoteFile where
  relativePath := found.path
  driveId := found.branch.entry.id
  parentId := found.parentId
  md5 := textOf found.branch.entry.json "md5Checksum"
  size := (parseU64 ((found.branch.entry.json.field "size").asStr.getD "0").toList).getD 0
  modifiedTime := (timestamp (textOf found.branch.entry.json "modifiedTime")).getD 0

/-- Names that can be told apart in a path: without slashes, and different in one folder. -/
structure RemoteTree.PlainlyNamed (tree : RemoteTree) : Prop where
  solid : ∀ found ∈ tree.living, '/' ∉ found.branch.entry.name.toList
  apart : ∀ place ∈ tree.places, place.Apart

/-- Every item is listed once, a folder before what is below it, and under a path of its own. -/
structure Listed (timestamp : String → Option Int) (tree : RemoteTree) (index : RemoteIndex)
    : Prop where
  dirs
    : index.dirs.Perm
        ((tree.living.filter (fun found => found.branch.isFolder)).map Found.dir)
  files
    : index.files.Perm
        ((tree.living.filter (fun found => !found.branch.isFolder)).map (Found.file timestamp))
  once : (index.dirs.map RemoteDir.driveId ++ index.files.map RemoteFile.driveId).Nodup
  ordered
    : ∀ folder ∈ tree.living,
        ∀ inner ∈ folder.place.below,
          inner.branch.isFolder = true → [folder.dir, inner.dir].Sublist index.dirs
  distinct
    : tree.PlainlyNamed
      → (index.dirs.map RemoteDir.relativePath ++ index.files.map RemoteFile.relativePath).Nodup

end SyncGDrive
