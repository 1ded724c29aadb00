import SyncGDrive.Engine.Frames
import SyncGDrive.Provider.Client

/-! Creating a folder over HTTP, any number of times. The service searches by the text of a query
and may apply a creation whose answer never arrives.
-/

namespace SyncGDrive

open Program GDriveProvider

-----------------------------------------------------------------------------------------
-- The service
-----------------------------------------------------------------------------------------

/-- An identifier of the service has no character that a query would have to escape. -/
def PlainId (id : DriveId) : Prop :=
  ∀ c ∈ id.toList, c ≠ '\'' ∧ c ≠ '\\'

/-- A live folder below another one. -/
structure Folder where
  id : DriveId
  name : String
  parentId : DriveId
  plain : PlainId parentId

/-- The folders of a name below a parent. -/
def named (parentId name : String) (folders : List Folder) : List DriveId :=
  (folders.filter (fun folder => folder.parentId = parentId ∧ folder.name = name)).map Folder.id

/-- A quoted text of a query, up to its closing quote. A backslash escapes a quote or another
backslash.
-/
def readLiteral : List Char → Option (List Char × List Char)
  | [] => none
  | '\'' :: rest => some ([], rest)
  | '\\' :: '\'' :: rest => (readLiteral rest).map (fun (text, rest) => ('\'' :: text, rest))
  | '\\' :: '\\' :: rest => (readLiteral rest).map (fun (text, rest) => ('\\' :: text, rest))
  | '\\' :: _ => none
  | c :: rest => (readLiteral rest).map (fun (text, rest) => (c :: text, rest))

/-- The name and the parent that a search asks for, as the service reads it. -/
def readSearch (query : String) : Option (String × String) := do
  let rest ← query.toList.dropPrefix? "name = '".toList
  let (name, rest) ← readLiteral rest
  let rest ← rest.dropPrefix? " and '".toList
  let (parentId, rest) ← readLiteral rest
  if rest = searchTail.toList then some (String.ofList name, String.ofList parentId) else none

/-- The name and the parent of a folder to be created. -/
def readCreation (json : Json) : Option (String × String) := do
  let name ← (json.field "name").asStr
  match (json.field "mimeType").asStr, json.field "parents" with
  | some mime, .array [.string parentId] =>
      if mime = folderMime then some (name, parentId) else none
  | _, _ => none

/-- The identifier that the answer to a creation tells. -/
def createdId (answer : Except Error Response) : Option DriveId := do
  let response ← answer.toOption
  if response.isSuccess then ((← response.body).field "id").asStr else none

/-- A readable answer to a search shows one of the folders searched for, if there are any. -/
structure Shows (query : String) (folders : List Folder) (data : Json) : Prop where
  read
    : ∃ name parentId,
        readSearch query = some (name, parentId)
        ∧ (∀ id, firstFileId data = some id → id ∈ named parentId name folders)
        ∧ (firstFileId data = none → named parentId name folders = [])

/-- What a request may be answered and may change. A creation is applied or not, and only an
applied one is answered with an identifier, that of the new folder.
-/
def Exchange (request : Request) (folders : List Folder) (answer : Except Error Response)
    (after : List Folder)
    : Prop :=
  match request.method with
  | .get =>
      after = folders
      ∧ ∀ response data,
          answer = .ok response
          → response.isSuccess = true
          → response.body = some data
          → ∀ query ∈ request.query.lookup "q", Shows query folders data
  | .post =>
      (after = folders ∧ createdId answer = none)
      ∨ ∃ folder : Folder,
          request.json.bind readCreation = some (folder.name, folder.parentId)
          ∧ after = folders ++ [folder]
          ∧ ∀ id ∈ createdId answer, id = folder.id
  | .patch => after = folders

/-- The service, with nobody else creating folders. -/
def folderService : Semantics exchanges (List Folder)
  | .http (.send request), folders, answer, after => Exchange request folders answer after
  | _, folders, _, after => after = folders

-----------------------------------------------------------------------------------------
-- Reading a query
-----------------------------------------------------------------------------------------

/-- A plain character of a literal stands for itself. -/
theorem readLiteral_cons {c : Char} (quote : c ≠ '\'') (slash : c ≠ '\\') (rest : List Char)
    : readLiteral (c :: rest)
      = (readLiteral rest).map (fun (text, rest) => (c :: text, rest)) := by
  rw [readLiteral]
  all_goals grind

/-- A text without special characters reads as itself. -/
theorem readLiteral_of_plain {text : List Char} (plain : ∀ c ∈ text, c ≠ '\'' ∧ c ≠ '\\')
    (rest : List Char)
    : readLiteral (text ++ '\'' :: rest) = some (text, rest) := by
  induction text with
  | nil => rfl
  | cons c text ih =>
      obtain ⟨quote, slash⟩ := plain c List.mem_cons_self
      rw [List.cons_append, readLiteral_cons quote slash,
        ih (fun c member => plain c (List.mem_cons_of_mem _ member))]
      rfl

/-- Escaping the quotes of a text without backslashes is undone by reading. -/
theorem readLiteral_escaped {text : List Char} (straight : '\\' ∉ text) (rest : List Char)
    : readLiteral
        (text.flatMap (fun c => if c = '\'' then ['\\', '\''] else [c]) ++ '\'' :: rest)
      = some (text, rest) := by
  induction text with
  | nil => rfl
  | cons c text ih =>
      have slash : c ≠ '\\' := fun same => straight (same ▸ List.mem_cons_self)
      have later := ih (fun member => straight (List.mem_cons_of_mem _ member))
      rw [List.flatMap_cons, List.append_assoc]
      by_cases quote : c = '\''
      · subst quote
        simp only [if_true, List.cons_append, List.nil_append, readLiteral, later,
          Option.map_some]
      · rw [if_neg quote, List.singleton_append, readLiteral_cons quote slash, later]
        rfl

/-- A literal that reads as a text without special characters is that text. -/
theorem eq_of_readLiteral {literal text rest : List Char}
    (read : readLiteral literal = some (text, rest))
    (plain : ∀ c ∈ text, c ≠ '\'' ∧ c ≠ '\\')
    : literal = text ++ '\'' :: rest := by
  induction literal using readLiteral.induct generalizing text rest with
  | case1 => simp [readLiteral] at read
  | case2 tail =>
      simp only [readLiteral, Option.some.injEq, Prod.mk.injEq] at read
      obtain ⟨rfl, rfl⟩ := read
      rfl
  | case3 tail _ =>
      rw [readLiteral] at read
      obtain ⟨_, _, same⟩ := Option.map_eq_some_iff.mp read
      obtain ⟨rfl, _⟩ := Prod.mk.inj same
      exact absurd rfl (plain _ List.mem_cons_self).1
  | case4 tail _ =>
      rw [readLiteral] at read
      obtain ⟨_, _, same⟩ := Option.map_eq_some_iff.mp read
      obtain ⟨rfl, _⟩ := Prod.mk.inj same
      exact absurd rfl (plain _ List.mem_cons_self).2
  | case5 tail quote slash => rw [readLiteral] at read <;> simp_all
  | case6 c tail quote _ _ slash ih =>
      rw [readLiteral_cons quote slash] at read
      obtain ⟨⟨deeper, last⟩, found, same⟩ := Option.map_eq_some_iff.mp read
      obtain ⟨rfl, rfl⟩ := Prod.mk.inj same
      rw [ih found (fun c member => plain c (List.mem_cons_of_mem _ member)), List.cons_append]

/-- The text of a search, cut where the service cuts it. -/
theorem searchQuery_toList (parentId name : String)
    : (searchQuery parentId name).toList
      = "name = '".toList
        ++ (name.toList.flatMap (fun c => if c = '\'' then ['\\', '\''] else [c])
          ++ '\'' :: (" and '".toList ++ (parentId.toList ++ '\'' :: searchTail.toList))) := by
  simp only [searchQuery, escapeQuotes, String.toList_append, String.toList_ofList,
    List.append_assoc]
  rfl

/-- The service reads the name that the search was made for, and the parent, unless that has a
character no identifier has.
-/
theorem readSearch_searchQuery {parentId name asked parent : String}
    (straight : '\\' ∉ name.toList)
    (read : readSearch (searchQuery parentId name) = some (asked, parent))
    : asked = name ∧ (PlainId parent ∨ PlainId parentId → parent = parentId) := by
  rw [readSearch, searchQuery_toList, List.dropPrefix?_append_of_beq _ (beq_self_eq_true _)] at read
  simp only [Option.bind_eq_bind, Option.bind_some] at read
  rw [readLiteral_escaped straight] at read
  simp only [Option.bind_some] at read
  rw [List.dropPrefix?_append_of_beq _ (beq_self_eq_true _), Option.bind_some] at read
  obtain ⟨⟨literal, rest⟩, found, kept⟩ := Option.bind_eq_some_iff.mp read
  split at kept
  · next ends =>
    simp only at ends
    subst ends
    obtain ⟨rfl, rfl⟩ := Prod.mk.inj (Option.some.inj kept)
    refine ⟨String.ofList_toList, fun plain => ?_⟩
    rcases plain with ours | theirs
    · have whole := eq_of_readLiteral found (by simpa [PlainId] using ours)
      have same : parentId.toList = literal := List.append_cancel_right whole
      rw [← same, String.ofList_toList]
    · have whole := readLiteral_of_plain theirs searchTail.toList
      rw [found] at whole
      obtain ⟨rfl, _⟩ := Prod.mk.inj (Option.some.inj whole)
      exact String.ofList_toList
  · cases kept

/-- No folder is below a parent that no identifier names. -/
theorem named_of_not_plain {parentId : String} (odd : ¬ PlainId parentId) (name : String)
    (folders : List Folder)
    : named parentId name folders = [] := by
  simp only [named, List.map_eq_nil_iff, List.filter_eq_nil_iff, decide_eq_true_eq, not_and]
  intro folder _ same
  exact absurd (same ▸ folder.plain) odd

/-- A search is answered about the folders it is made for. -/
theorem named_of_readSearch {parentId name asked parent : String}
    (straight : '\\' ∉ name.toList)
    (read : readSearch (searchQuery parentId name) = some (asked, parent))
    (folders : List Folder)
    : named parent asked folders = named parentId name folders := by
  obtain ⟨rfl, same⟩ := readSearch_searchQuery straight read
  by_cases plain : PlainId parent ∨ PlainId parentId
  · rw [same plain]
  · obtain ⟨ours, theirs⟩ := not_or.mp plain
    rw [named_of_not_plain ours, named_of_not_plain theirs]

-----------------------------------------------------------------------------------------
-- One call of mkdir
-----------------------------------------------------------------------------------------

/-- At most one folder of the name is below the parent. -/
def Few (parentId name : String) (folders : List Folder) : Prop :=
  (named parentId name folders).length ≤ 1

variable {apiBase token parentId name : String} {folders : List Folder}

/-- What an answer to the search shows is about the folder that is to be created. -/
theorem Shows.named {data : Json} (straight : '\\' ∉ name.toList)
    (shows : Shows (searchQuery parentId name) folders data)
    : (∀ id, firstFileId data = some id → id ∈ named parentId name folders)
      ∧ (firstFileId data = none → SyncGDrive.named parentId name folders = []) := by
  obtain ⟨asked, parent, read, some_folder, no_folder⟩ := shows.read
  rw [named_of_readSearch straight read] at some_folder no_folder
  exact ⟨some_folder, no_folder⟩

/-- The only folder there is, if there is one. -/
theorem Few.eq_singleton {id : DriveId} (few : Few parentId name folders)
    (member : id ∈ named parentId name folders)
    : named parentId name folders = [id] := by
  obtain ⟨only, same⟩ := List.length_eq_one_iff.mp
    (Nat.le_antisymm few (List.length_pos_of_mem member))
  rw [same] at member ⊢
  rw [List.mem_singleton.mp member]

/-- A folder that is added counts for its own name and parent. -/
theorem named_append (folders : List Folder) (folder : Folder)
    : named folder.parentId folder.name (folders ++ [folder])
      = named folder.parentId folder.name folders ++ [folder.id] := by
  simp [named]

/-- The service reads of a creation what the provider has put there. -/
theorem readCreation_createRequest (apiBase token parentId name : String)
    : (createRequest apiBase token parentId name).json.bind readCreation
      = some (name, parentId) := by
  simp [createRequest, readCreation, Json.field, Json.asStr, List.lookup_cons]

/-- What the service may answer to a search. -/
theorem exchange_searchRequest {answer : Except Error Response} {after : List Folder}
    (served : Exchange (searchRequest apiBase token parentId name) folders answer after)
    : after = folders
      ∧ ∀ response data,
          answer = .ok response
          → response.isSuccess = true
          → response.body = some data
          → Shows (searchQuery parentId name) folders data :=
  ⟨served.1, fun response data told success body => served.2 response data told success body _ rfl⟩

theorem folderService_punishes : Punishes folderService :=
  fun _ _ _ _ served => served

/-- The search changes nothing, and where it succeeds it tells whether there is a folder. -/
theorem always_searchFolder (straight : '\\' ∉ name.toList) (few : Few parentId name folders)
    : Always folderService (Few parentId name) (searchFolder apiBase token parentId name) folders
        (fun result after =>
          after = folders
          ∧ (∀ id, result = .ok (some id) → named parentId name folders = [id])
          ∧ (result = .ok none → named parentId name folders = [])) := by
  refine ⟨few, fun answer after served => ?_⟩
  obtain ⟨rfl, shown⟩ := exchange_searchRequest served
  cases answer with
  | error error => exact ⟨few, rfl, nofun, nofun⟩
  | ok response =>
      apply always_checkRateLimit folderService_punishes few
      · exact fun _ _ => ⟨rfl, nofun, nofun⟩
      · intro _
        by_cases success : response.isSuccess = true
        · simp only [success, Bool.not_true, Bool.false_eq_true, if_false]
          apply always_readJson few
          · exact fun _ _ => ⟨rfl, nofun, nofun⟩
          · intro data body
            obtain ⟨some_folder, no_folder⟩ :=
              Shows.named straight (shown response data rfl success body)
            refine ⟨few, rfl, ?_, ?_⟩
            · intro id found
              exact few.eq_singleton (some_folder id (Except.ok.inj found))
            · intro found
              exact no_folder (Except.ok.inj found)
        · simp only [Bool.not_eq_true] at success
          simp only [success, Bool.not_false, if_true]
          exact ⟨few, rfl, nofun, nofun⟩

/-- A creation leaves one folder where there was none, or nothing new. -/
theorem always_createFolder (none_yet : named parentId name folders = [])
    : Always folderService (Few parentId name) (createFolder apiBase token parentId name) folders
        (fun result after => ∀ id, result = .ok id → named parentId name after = [id]) := by
  have few : Few parentId name folders := by simp [Few, none_yet]
  refine ⟨few, fun _ middle served => ?_⟩
  obtain rfl : middle = folders := served
  refine ⟨few, fun answer after served => ?_⟩
  -- what the creation may have done, and the identifier it may tell
  have created : Few parentId name after
      ∧ ∀ id ∈ createdId answer, named parentId name after = [id] := by
    rcases served with ⟨rfl, untold⟩ | ⟨folder, asked, rfl, told⟩
    · exact ⟨few, by simp [untold]⟩
    · rw [readCreation_createRequest] at asked
      obtain ⟨rfl, rfl⟩ := Prod.mk.inj (Option.some.inj asked)
      have one : named folder.parentId folder.name (middle ++ [folder]) = [folder.id] := by
        rw [named_append, none_yet, List.nil_append]
      exact ⟨by rw [Few, one]; rfl, fun id known => told id known ▸ one⟩
  obtain ⟨few', told⟩ := created
  cases answer with
  | error error => exact ⟨few', nofun⟩
  | ok response =>
      apply always_checkRateLimit folderService_punishes few'
      · exact fun _ _ => nofun
      · intro _
        by_cases success : response.isSuccess = true
        · simp only [success, Bool.not_true, Bool.false_eq_true, if_false]
          apply always_readJson few'
          · exact fun _ _ => nofun
          · intro data body
            refine ⟨few', fun id found => told id ?_⟩
            have known : (data.field "id").asStr = some id := by
              cases text : (data.field "id").asStr with
              | none => simp [text, orError] at found
              | some other => simpa [text, orError] using found
            simp [createdId, Except.toOption, success, body, known]
        · simp only [Bool.not_eq_true] at success
          simp only [success, Bool.not_false, if_true]
          exact ⟨few', nofun⟩

/-- A call of `mkdir` leaves at most one folder, and tells it where it succeeds. -/
theorem always_mkdir (straight : '\\' ∉ name.toList) (few : Few parentId name folders)
    : Always folderService (Few parentId name) (mkdir apiBase parentId name) folders
        (fun result after => ∀ id, result = .ok id → named parentId name after = [id]) := by
  refine ⟨few, fun _ after served => ?_⟩
  obtain rfl : after = folders := served
  refine ⟨few, fun answer after served => ?_⟩
  obtain rfl : after = _ := served
  cases answer with
  | error error => exact ⟨few, nofun⟩
  | ok token =>
      apply (always_searchFolder straight few).bind
      · intro found middle _ told
        obtain ⟨rfl, one, none_yet⟩ := told
        cases found with
        | some id =>
            refine ⟨few, fun other same => ?_⟩
            cases same
            exact one id rfl
        | none => exact always_createFolder (none_yet rfl)
      · intro error middle _ _
        nofun

-----------------------------------------------------------------------------------------
-- Retried calls
-----------------------------------------------------------------------------------------

/-- What the engine sees of the service: a `mkdir` leaves one folder at most, and a successful one
tells it.
-/
def mkdirCalls (parentId name : String) : Semantics effects (List Folder)
  | .provider (.mkdir _ _), _, answer, after =>
      Few parentId name after ∧ ∀ id, answer = .ok id → named parentId name after = [id]
  | _, folders, _, after => after = folders

/-- The operations of `mkdir` called through `retry`. -/
inductive Retries (parentId name : String) : Op → Prop
  | isCancelled : Retries parentId name .isCancelled
  | sleep (milliseconds : Nat) : Retries parentId name (.sleep milliseconds)
  | mkdir : Retries parentId name (.provider (.mkdir parentId name))

/-- The exchanges of the provider implement what the engine sees. -/
theorem mkdirCalls_implemented (apiBase : String) (straight : '\\' ∉ name.toList)
    : Implements folderService (Few parentId name) (Retries parentId name)
        (carryOut apiBase) (mkdirCalls parentId name) := by
  intro op folders allowed few
  cases allowed with
  | isCancelled =>
      refine ⟨few, fun answer after served => ?_⟩
      obtain rfl : after = folders := served
      exact ⟨few, answer, rfl, rfl⟩
  | sleep milliseconds =>
      refine ⟨few, fun answer after served => ?_⟩
      obtain rfl : after = folders := served
      exact ⟨few, answer, rfl, rfl⟩
  | mkdir =>
      apply always_outcome.mpr
      apply (always_mkdir straight few).mono
      intro result after kept told
      exact ⟨result, rfl, kept, told⟩

theorem mkdirCalls_waits (parentId name : String) : Waits (mkdirCalls parentId name) where
  isCancelled _ _ _ served := served
  sleep _ _ _ _ served := served

/-- At every moment of creating a folder through `retry` there is at most one of the name, and a
success tells which.
-/
def CreatedOnce (cfg : AppConfig) (apiBase parentId name : String) (folders : List Folder)
    : Prop :=
  Always folderService (fun here => (named parentId name here).length ≤ 1)
    ((retry cfg (ask (.provider (.mkdir parentId name)))).inline (carryOut apiBase)) folders
    (fun result after => ∀ id, result = .ok id → named parentId name after = [id])

/-- However often it is retried and whatever the exchanges come to, a folder is created once. -/
theorem retried_mkdir_once (cfg : AppConfig) (apiBase : String)
    (straight : '\\' ∉ name.toList) (few : (named parentId name folders).length ≤ 1)
    : CreatedOnce cfg apiBase parentId name folders := by
  apply Always.inline (mkdirCalls_implemented apiBase straight)
  · exact uses_retry .isCancelled .sleep (uses_perform.mpr .mkdir)
  · apply always_retry_attempts (mkdirCalls_waits parentId name) cfg _ few
    intro state here
    exact ⟨here, fun answer after served => ⟨served.1, answer, rfl, served.2⟩⟩

/-- A name with an apostrophe, in a folder without any. -/
theorem quoted_name_created_once : CreatedOnce {} "drive" "racine" "l'été" [] :=
  retried_mkdir_once {} "drive" (by decide) (by decide)

end SyncGDrive
