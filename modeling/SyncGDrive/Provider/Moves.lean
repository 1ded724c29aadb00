import Mathlib.Data.List.Dedup
import SyncGDrive.Engine.Calls
import SyncGDrive.Provider.Client

/-! Moving an item over HTTP: what a move that is reported as done has sent, and what the worker
then records.
-/

namespace SyncGDrive

open Program GDriveProvider

-----------------------------------------------------------------------------------------
-- The service
-----------------------------------------------------------------------------------------

/-- The item that is moved, as the service has it. -/
structure Item where
  name : String
  parents : List DriveId

/-- The identifiers of a comma-separated list. -/
def readIds (text : String) : List DriveId :=
  (text.toList.splitOn ',').map String.ofList

/-- The name that the body of an update gives. -/
def Request.newName (request : Request) : Option String :=
  (request.json.map (fun body => body.field "name")).bind Json.asStr

/-- What the service documents of an update: the item gets the name in the body, loses the parents
of `removeParents` and gets that of `addParents`, and never has a parent twice.
-/
structure PatchSpec (patched : Item → Request → Item) : Prop where
  named (item : Item) {request : Request} {newName : String}
    : request.newName = some newName → (patched item request).name = newName
  kept (item : Item) {request : Request}
    : request.query.lookup "addParents" = none
      → request.query.lookup "removeParents" = none
      → (patched item request).parents = item.parents
  moved (item : Item) {request : Request} {added removed : String}
    : request.query.lookup "addParents" = some added
      → request.query.lookup "removeParents" = some removed
      → (patched item request).parents.Nodup
        ∧ ∀ id,
            id ∈ (patched item request).parents
            ↔ id = added ∨ id ∈ item.parents ∧ id ∉ readIds removed

/-- The item with the updates that the service has carried out, and the parents that the cache
has been told.
-/
structure Moving where
  item : Item
  updates : List Request := []
  recorded : List (DriveId × DriveId) := []

def Moving.update (patched : Item → Request → Item) (here : Moving) (request : Request) : Moving :=
  { here with item := patched here.item request, updates := here.updates ++ [request] }

def Moving.record (here : Moving) (driveId parentId : DriveId) : Moving :=
  { here with recorded := here.recorded ++ [(driveId, parentId)] }

/-- The parents that an answer reports. -/
def reportedParents (response : Response) : Option (List DriveId) :=
  if response.isSuccess then
    (response.body.bind (fun data => (data.field "parents").asArray)).map
      (fun parents => parents.filterMap Json.asStr)
  else none

/-- A service with the given answers, for each parents that the item may have. A success of an
update has carried it out, and any other answer may have.
-/
structure Served (patched : Item → Request → Item)
    (answers : List DriveId → Request → Except Error Response → Prop)
    (request : Request) (here : Moving) (answer : Except Error Response) (after : Moving)
    : Prop where
  told : answers here.item.parents request answer
  kept : request.method ≠ .patch → after = here
  updated
    : request.method = .patch
      → after = here.update patched request
        ∨ after = here ∧ ∀ response, answer = .ok response → response.isSuccess = false

def moveService (patched : Item → Request → Item) (tokens : Except Error String → Prop)
    (answers : List DriveId → Request → Except Error Response → Prop)
    : Semantics exchanges Moving
  | .http .getToken, here, answer, after => tokens answer ∧ after = here
  | .http (.send request), here, answer, after => Served patched answers request here answer after
  | .engine (.insert _ driveId parentId), here, _, after => after = here.record driveId parentId
  | _, here, _, after => after = here

-----------------------------------------------------------------------------------------
-- One call of rename
-----------------------------------------------------------------------------------------

/-- An answer about the parents that reports none, and yet lets the call go on. -/
structure Unreporting (response : Response) : Prop where
  unpunished : response.status ≠ 429
  untold : reportedParents response = none
  readable : response.isSuccess = true → response.body.isSome = true

/-- What `rename` adds to its update, from the answer about the parents. -/
inductive Adds (newParent : DriveId) (response : Response) : List (String × String) → Prop
  | move {parents : List DriveId} (told : reportedParents response = some parents)
    : Adds newParent response
        [("addParents", newParent), ("removeParents", ",".intercalate parents)]
  | nothing (unreporting : Unreporting response) : Adds newParent response []

variable {patched : Item → Request → Item} {tokens : Except Error String → Prop}
  {answers : List DriveId → Request → Except Error Response → Prop} {apiBase token newName : String}
  {fileId newParent : DriveId} {here : Moving} {inv : Moving → Prop}

theorem moveService_punishes : Punishes (moveService patched tokens answers) :=
  fun _ _ _ _ served => served

/-- Asking for the parents changes nothing, and what it adds follows from the answer. -/
theorem always_moveParams (start : inv here)
    : Always (moveService patched tokens answers) inv
        (moveParams apiBase token fileId newParent) here
        (fun result after =>
          after = here
          ∧ ∀ params,
              result = .ok params
              → ∃ response,
                  answers here.item.parents (parentsRequest apiBase token fileId) (.ok response)
                  ∧ Adds newParent response params) := by
  refine ⟨start, fun _ middle served => ?_⟩
  obtain rfl : middle = here := served
  refine ⟨start, fun answer after served => ?_⟩
  have served : Served patched answers (parentsRequest apiBase token fileId) middle answer after :=
    served
  obtain rfl := served.kept (by simp [parentsRequest])
  cases answer with
  | error error => exact ⟨start, rfl, nofun⟩
  | ok response =>
      apply always_checkRateLimit moveService_punishes start (fun _ _ => ⟨rfl, nofun⟩)
      intro unpunished
      by_cases success : response.isSuccess = true
      · rw [if_pos success]
        apply always_readJson start (fun _ _ => ⟨rfl, nofun⟩)
        intro data body
        cases parents : (data.field "parents").asArray with
        | some parents =>
            refine ⟨start, rfl, fun params same => ⟨response, served.told, ?_⟩⟩
            cases same
            apply Adds.move
            simp [reportedParents, success, body, parents]
        | none =>
            refine ⟨start, rfl, fun params same => ⟨response, served.told, ?_⟩⟩
            cases same
            apply Adds.nothing
            exact ⟨unpunished, by simp [reportedParents, body, parents], fun _ => by simp [body]⟩
      · rw [if_neg success]
        refine ⟨start, rfl, fun params same => ⟨response, served.told, ?_⟩⟩
        cases same
        apply Adds.nothing
        exact ⟨unpunished, by simp [reportedParents, success], fun yes => absurd yes success⟩

/-- The update that `rename` sends, after the answer about the parents. -/
structure Sent (tokens : Except Error String → Prop)
    (answers : List DriveId → Request → Except Error Response → Prop) (apiBase newName : String)
    (fileId newParent : DriveId) (parents : List DriveId) (request : Request)
    : Prop where
  follows
    : ∃ token response params,
        tokens (.ok token)
        ∧ answers parents (parentsRequest apiBase token fileId) (.ok response)
        ∧ Adds newParent response params
        ∧ request = renameRequest apiBase token fileId params (some newName)

/-- The request is answered with a success. -/
def Accepted (answers : List DriveId → Request → Except Error Response → Prop)
    (parents : List DriveId) (request : Request)
    : Prop :=
  ∃ response, answers parents request (.ok response) ∧ response.isSuccess = true

/-- A call of `rename` carries out one update at most. If it succeeds, it has carried out one, and
that was accepted.
-/
theorem always_rename (start : inv here)
    (kept
      : ∀ request,
          Sent tokens answers apiBase newName fileId newParent here.item.parents request
          → inv (here.update patched request))
    : Always (moveService patched tokens answers) inv
        (GDriveProvider.rename apiBase fileId (some newName) (some newParent)) here
        (fun result after =>
          (result ≠ .ok () ∧ after = here)
          ∨ ∃ request,
              Sent tokens answers apiBase newName fileId newParent here.item.parents request
              ∧ after = here.update patched request
              ∧ (result = .ok () → Accepted answers here.item.parents request)) := by
  refine ⟨start, fun answer middle served => ?_⟩
  obtain ⟨told, rfl⟩ := served
  cases answer with
  | error error => exact ⟨start, Or.inl ⟨nofun, rfl⟩⟩
  | ok token =>
      apply (always_moveParams start).bind
      · intro params after _ asked
        obtain ⟨rfl, adds⟩ := asked
        obtain ⟨response, answered, added⟩ := adds params rfl
        refine ⟨start, fun _ still served => ?_⟩
        obtain rfl : still = after := served
        refine ⟨start, fun answer last served => ?_⟩
        have served : Served patched answers
            (renameRequest apiBase token fileId params (some newName)) still answer last :=
          served
        have sent : Sent tokens answers apiBase newName fileId newParent still.item.parents
            (renameRequest apiBase token fileId params (some newName)) :=
          ⟨⟨token, response, params, told, answered, added, rfl⟩⟩
        have there : inv last := by
          rcases served.updated rfl with carried | ⟨untouched, _⟩
          · exact carried ▸ kept _ sent
          · exact untouched ▸ start
        have ends (result : Except Error Unit)
            (honest
              : result = .ok () → ∃ response, answer = .ok response ∧ response.isSuccess = true)
            : (result ≠ .ok () ∧ last = still)
              ∨ ∃ request,
                  Sent tokens answers apiBase newName fileId newParent still.item.parents request
                  ∧ last = still.update patched request
                  ∧ (result = .ok () → Accepted answers still.item.parents request) := by
          rcases served.updated rfl with carried | ⟨untouched, refused⟩
          · refine Or.inr ⟨_, sent, carried, fun done => ?_⟩
            obtain ⟨response, rfl, success⟩ := honest done
            exact ⟨response, served.told, success⟩
          · refine Or.inl ⟨fun done => ?_, untouched⟩
            obtain ⟨response, same, success⟩ := honest done
            rw [refused response same] at success
            cases success
        cases answer with
        | error error => exact ⟨there, ends _ nofun⟩
        | ok response =>
            apply always_checkRateLimit moveService_punishes there
            · exact fun error _ => ends _ nofun
            · intro _
              by_cases success : response.isSuccess = true
              · simp only [success, Bool.not_true, Bool.false_eq_true, if_false]
                exact ⟨there, ends _ (fun _ => ⟨response, rfl, success⟩)⟩
              · simp only [Bool.not_eq_true] at success
                simp only [success, Bool.not_false, if_true]
                exact ⟨there, ends _ nofun⟩
      · intro error after _ asked
        exact Or.inl ⟨nofun, asked.1⟩

/-- The service may leave the parents out and accept the update that follows. -/
structure PassesOver (tokens : Except Error String → Prop)
    (answers : List DriveId → Request → Except Error Response → Prop) (apiBase newName : String)
    (fileId : DriveId) (parents : List DriveId)
    : Prop where
  happens
    : ∃ token response,
        tokens (.ok token)
        ∧ answers parents (parentsRequest apiBase token fileId) (.ok response)
        ∧ Unreporting response
        ∧ Accepted answers parents (renameRequest apiBase token fileId [] (some newName))

/-- Passing over the parents, an accepted update only names the item, and yet it is a success. -/
theorem reaches_passing_over (here : Moving) (newParent : DriveId)
    (passes : PassesOver tokens answers apiBase newName fileId here.item.parents)
    : ∃ token,
        Reaches (moveService patched tokens answers)
          (GDriveProvider.rename apiBase fileId (some newName) (some newParent)) here
          (.done (.ok ()))
          (here.update patched (renameRequest apiBase token fileId [] (some newName))) := by
  obtain ⟨token, response, told, answered, unreported, update, updated, success⟩ := passes.happens
  obtain ⟨unpunished, untold, readable⟩ := unreported
  use token
  have token_told : moveService patched tokens answers (.http .getToken) here (.ok token) here :=
    ⟨told, rfl⟩
  have acquired : moveService patched tokens answers (.http .acquire) here () here := rfl
  have parents_told
      : moveService patched tokens answers
          (.http (.send (parentsRequest apiBase token fileId))) here
          (.ok response) here :=
    ⟨answered, fun _ => rfl, by intro moves; cases moves⟩
  have update_told
      : moveService patched tokens answers
          (.http (.send (renameRequest apiBase token fileId [] (some newName)))) here (.ok update)
          (here.update patched (renameRequest apiBase token fileId [] (some newName))) :=
    ⟨updated, nofun, fun _ => Or.inl rfl⟩
  have nothing_added
      : Reaches (moveService patched tokens answers)
          (moveParams apiBase token fileId newParent) here
          (.done (.ok [])) here := by
    apply Reaches.step acquired
    apply Reaches.step parents_told
    change Reaches _ (checkRateLimit response _ >>= _) _ _ _
    rw [checkRateLimit, if_neg unpunished]
    change Reaches _ (if response.isSuccess = true then _ else _) _ _ _
    by_cases got : response.isSuccess = true
    · obtain ⟨data, body⟩ := Option.isSome_iff_exists.mp (readable got)
      have unlisted : (data.field "parents").asArray = none := by
        simpa [reportedParents, got, body] using untold
      rw [if_pos got, readJson, body]
      simp only [orError, propagate, Prog.ok_bind, unlisted]
      exact .refl
    · rw [if_neg got]
      exact .refl
  apply Reaches.step token_told
  apply Reaches.bind nothing_added
  apply Reaches.step acquired
  apply Reaches.step update_told
  change Reaches _ (checkRateLimit update _ >>= _) _ _ _
  rw [checkRateLimit, if_neg (not_punished success)]
  change Reaches _ (if (!update.isSuccess) = true then _ else _) _ _ _
  rw [success]
  exact .refl

-----------------------------------------------------------------------------------------
-- What an update does to the item
-----------------------------------------------------------------------------------------

/-- No identifier has a comma in it. -/
def Separable (ids : List DriveId) : Prop :=
  ∀ id ∈ ids, ',' ∉ id.toList

/-- A list of identifiers reads as it was joined. -/
theorem readIds_intercalate {ids : List DriveId} (separable : Separable ids) (some_id : ids ≠ [])
    : readIds (",".intercalate ids) = ids := by
  have split : (",".intercalate ids).toList.splitOn ',' = ids.map String.toList := by
    rw [String.toList_intercalate]
    apply List.splitOn_intercalate ',' _ (by simpa using some_id)
    intro text member
    obtain ⟨id, known, rfl⟩ := List.mem_map.mp member
    exact separable id known
  rw [readIds, split, List.map_map]
  simp [Function.comp_def, String.ofList_toList]

/-- The update that `rename` sends for a move. -/
def moveRequest (apiBase token newName : String) (fileId newParent : DriveId)
    (parents : List DriveId)
    : Request :=
  renameRequest apiBase token fileId
    [("addParents", newParent), ("removeParents", ",".intercalate parents)] (some newName)

/-- A move away from all its parents leaves the item with its new parent only. -/
theorem PatchSpec.parents_moveRequest (spec : PatchSpec patched) {item : Item}
    (separable : Separable item.parents)
    : (patched item (moveRequest apiBase token newName fileId newParent item.parents)).parents
      = [newParent] := by
  have added : (moveRequest apiBase token newName fileId newParent
      item.parents).query.lookup "addParents" = some newParent := by
    simp [moveRequest, renameRequest]
  have removed : (moveRequest apiBase token newName fileId newParent
      item.parents).query.lookup "removeParents" = some (",".intercalate item.parents) := by
    simp [moveRequest, renameRequest, List.lookup_cons]
  obtain ⟨distinct, members⟩ := spec.moved item added removed
  apply List.perm_singleton.mp
  apply (List.perm_ext_iff_of_nodup distinct (List.nodup_singleton newParent)).mpr
  intro id
  rw [members, List.mem_singleton, or_iff_left_iff_imp]
  intro left
  refine absurd ?_ left.2
  rw [readIds_intercalate separable (List.ne_nil_of_mem left.1)]
  exact left.1

/-- An update that adds nothing leaves the item where it is. -/
theorem PatchSpec.parents_renameRequest (spec : PatchSpec patched) (item : Item)
    : (patched item (renameRequest apiBase token fileId [] (some newName))).parents
      = item.parents := by
  apply spec.kept item
  · simp [renameRequest]
  · simp [renameRequest]

/-- Any update of `rename` gives the item its new name. -/
theorem PatchSpec.name_renameRequest (spec : PatchSpec patched) (item : Item)
    (params : List (String × String))
    : (patched item (renameRequest apiBase token fileId params (some newName))).name
      = newName := by
  apply spec.named item
  simp [Request.newName, renameRequest, Json.field, Json.asStr]

-----------------------------------------------------------------------------------------
-- When a success is a move
-----------------------------------------------------------------------------------------

/-- The answers to the exchanges of one call. -/
structure Script where
  token : Except Error String
  parents : Except Error Response
  update : Except Error Response

namespace Script

variable (script : Script)

/-- The call gets its token and its update is accepted. -/
def Accepts : Prop :=
  (∃ token, script.token = .ok token)
  ∧ ∃ response, script.update = .ok response ∧ response.isSuccess = true

/-- The answer about the parents lets the call go on and reports none. -/
def Unreported : Prop :=
  ∃ response, script.parents = .ok response ∧ Unreporting response

def replies (_ : List DriveId) (request : Request) (answer : Except Error Response) : Prop :=
  answer = if request.method = .get then script.parents else script.update

/-- The service that answers by the script. -/
def service (patched : Item → Request → Item) : Semantics exchanges Moving :=
  moveService patched (fun token => token = script.token) script.replies

/-- The one update carried out is the move, away from the parents that were reported, so the
item is named and placed as it was to be.
-/
structure Moved (apiBase newName : String) (fileId newParent : DriveId) (item : Item)
    (after : Moving)
    : Prop where
  carried
    : ∃ token response parents,
        script.token = .ok token
        ∧ script.parents = .ok response
        ∧ reportedParents response = some parents
        ∧ after.updates = [moveRequest apiBase token newName fileId newParent parents]
        ∧ (parents = item.parents → Separable parents → after.item.parents = [newParent])
  named : after.item.name = newName

/-- A success of `rename` is a move. -/
def SuccessMoves (patched : Item → Request → Item) (apiBase newName : String)
    (fileId newParent : DriveId) (item : Item) : Prop :=
  Always (script.service patched) (fun _ => True)
    (GDriveProvider.rename apiBase fileId (some newName) (some newParent)) { item }
    (fun result after =>
      result = .ok () → script.Moved apiBase newName fileId newParent item after)

variable {script} {item : Item}

/-- Where the parents are not passed over, a success is a move. -/
theorem successMoves_of_reported (spec : PatchSpec patched)
    (reported : ¬ (script.Accepts ∧ script.Unreported))
    : script.SuccessMoves patched apiBase newName fileId newParent item := by
  apply (always_rename trivial (fun _ _ => trivial)).mono
  intro result after _ ends done
  rcases ends with ⟨failed, _⟩ | ⟨request, sent, rfl, accepted⟩
  · exact absurd done failed
  · obtain ⟨token, response, params, told, answered, added, rfl⟩ := sent.follows
    obtain ⟨update, took, success⟩ := accepted done
    have told : script.token = .ok token := told.symm
    have answered : script.parents = .ok response := answered.symm
    have updated : script.update = .ok update := took.symm
    cases added with
    | move reports =>
        rename_i parents
        refine ⟨⟨token, response, parents, told, answered, reports, rfl, ?_⟩,
          spec.name_renameRequest ..⟩
        intro same separable
        subst same
        exact spec.parents_moveRequest separable
    | nothing unreporting =>
        have unreported : script.Unreported := ⟨response, answered, unreporting⟩
        exact absurd ⟨⟨⟨token, told⟩, update, updated, success⟩, unreported⟩ reported

/-- Where the parents are passed over, an accepted update is a success and no move. -/
theorem unreported_not_moved (accepts : script.Accepts) (unreported : script.Unreported)
    : ¬ script.SuccessMoves patched apiBase newName fileId newParent item := by
  obtain ⟨⟨token, told⟩, update, updated, success⟩ := accepts
  obtain ⟨response, answered, unreporting⟩ := unreported
  have passes : PassesOver (fun token => token = script.token) script.replies apiBase newName fileId
      item.parents :=
    ⟨⟨token, response, told.symm, answered.symm, unreporting, update, updated.symm, success⟩⟩
  intro moves
  obtain ⟨token, reached⟩ := reaches_passing_over { item } newParent passes
  obtain ⟨_, _, _, _, _, _, carried, _⟩ := ((moves.reaches reached).2 rfl).carried
  simp [Moving.update, moveRequest, renameRequest] at carried

end Script

-----------------------------------------------------------------------------------------
-- What the worker records
-----------------------------------------------------------------------------------------

/-- The parents that the service reports are those of the item. -/
def Honest (answers : List DriveId → Request → Except Error Response → Prop) : Prop :=
  ∀ parents request response reported,
    request.method = .get
    → answers parents request (.ok response)
    → reportedParents response = some reported
    → reported = parents

/-- The cache has been told only of the item, and of the parent that it has. -/
def RecordedTruly (id : DriveId) (here : Moving) : Prop :=
  ∀ entry ∈ here.recorded, entry.1 = id ∧ here.item.parents = [entry.2]

/-- Before the record the item is where it was or where it is to be. -/
structure Underway (parents : List DriveId) (newParent : DriveId) (here : Moving) : Prop where
  placed : here.item.parents = parents ∨ here.item.parents = [newParent]
  unrecorded : here.recorded = []

/-- What the engine sees of the service: a move that succeeds has been made. -/
def moveCalls (parents : List DriveId) (newParent : DriveId) : Semantics effects Moving
  | .provider (.rename _ _ _), _, answer, after =>
      Underway parents newParent after
      ∧ (answer = .ok () → after.item.parents = [newParent])
  | _, here, _, after => after = here

theorem moveCalls_waits (parents : List DriveId) (newParent : DriveId)
    : Waits (moveCalls parents newParent) where
  isCancelled _ _ _ served := served
  sleep _ _ _ _ served := served

/-- An update that is sent leaves the item underway, and moves it where it is accepted. -/
theorem Underway.update {parents : List DriveId} {request : Request} (spec : PatchSpec patched)
    (honest : Honest answers)
    (separable : Separable parents) (plain : Separable [newParent])
    (reported : parents = [newParent] ∨ ¬ PassesOver tokens answers apiBase newName fileId parents)
    (underway : Underway parents newParent here)
    (sent : Sent tokens answers apiBase newName fileId newParent here.item.parents request)
    : Underway parents newParent (here.update patched request)
      ∧ (Accepted answers here.item.parents request
        → (here.update patched request).item.parents = [newParent]) := by
  obtain ⟨token, response, params, told, answered, added, rfl⟩ := sent.follows
  cases added with
  | move reports =>
      obtain rfl := honest _ _ _ _ rfl answered reports
      have apart : Separable here.item.parents := by
        rcases underway.placed with same | same
        · exact same ▸ separable
        · exact same ▸ plain
      have moved : (here.update patched (moveRequest apiBase token newName fileId newParent
          here.item.parents)).item.parents = [newParent] :=
        spec.parents_moveRequest apart
      exact ⟨⟨Or.inr moved, underway.unrecorded⟩, fun _ => moved⟩
  | nothing unreporting =>
      have stays : (here.update patched
          (renameRequest apiBase token fileId [] (some newName))).item.parents
            = here.item.parents :=
        spec.parents_renameRequest here.item
      refine ⟨⟨stays ▸ underway.placed, underway.unrecorded⟩, fun accepted => ?_⟩
      rw [stays]
      rcases underway.placed with same | same
      · rcases reported with there | reported
        · rw [same, there]
        · rw [same] at answered accepted
          exact absurd ⟨⟨token, response, told, answered, unreporting, accepted⟩⟩ reported
      · exact same

/-- A call that is not passed over leaves the item underway, and moves it where it succeeds. -/
theorem always_rename_underway {parents : List DriveId} (spec : PatchSpec patched)
    (honest : Honest answers) (separable : Separable parents) (plain : Separable [newParent])
    (reported : parents = [newParent] ∨ ¬ PassesOver tokens answers apiBase newName fileId parents)
    (underway : Underway parents newParent here)
    : Always (moveService patched tokens answers) (Underway parents newParent)
        (GDriveProvider.rename apiBase fileId (some newName) (some newParent)) here
        (fun result after => result = .ok () → after.item.parents = [newParent]) := by
  apply (always_rename underway
    (fun request sent => (underway.update spec honest separable plain reported sent).1)).mono
  intro result after _ ends done
  rcases ends with ⟨failed, _⟩ | ⟨request, sent, rfl, accepted⟩
  · exact absurd done failed
  · exact (underway.update spec honest separable plain reported sent).2 (accepted done)

/-- The operations of a move called through `retry`. -/
inductive RetriesMove (id newParent : DriveId) (newName : String) : Op → Prop
  | isCancelled : RetriesMove id newParent newName .isCancelled
  | sleep (milliseconds : Nat) : RetriesMove id newParent newName (.sleep milliseconds)
  | rename : RetriesMove id newParent newName (.provider (.rename id newName newParent))

variable {ctx : EngineContext} {primary : SyncPair} {source target : Path} {id : DriveId}
  {item : Item}

/-- The exchanges of the provider implement what the engine sees. -/
theorem moveCalls_implemented {parents : List DriveId} (spec : PatchSpec patched)
    (honest : Honest answers) (separable : Separable parents) (plain : Separable [newParent])
    (reported : parents = [newParent] ∨ ¬ PassesOver tokens answers apiBase newName id parents)
    : Implements (moveService patched tokens answers) (Underway parents newParent)
        (RetriesMove id newParent newName) (carryOut apiBase) (moveCalls parents newParent) := by
  intro op here allowed underway
  cases allowed with
  | isCancelled =>
      refine ⟨underway, fun answer after served => ?_⟩
      obtain rfl : after = here := served
      exact ⟨underway, answer, rfl, rfl⟩
  | sleep milliseconds =>
      refine ⟨underway, fun answer after served => ?_⟩
      obtain rfl : after = here := served
      exact ⟨underway, answer, rfl, rfl⟩
  | rename =>
      apply always_outcome.mpr
      apply (always_rename_underway spec honest separable plain reported underway).mono
      intro result after kept moved
      exact ⟨result, rfl, kept, moved⟩

/-- However the exchanges with the service go, the cache is told only what is the case. -/
def RecordsTruly (patched : Item → Request → Item) (tokens : Except Error String → Prop)
    (answers : List DriveId → Request → Except Error Response → Prop) (apiBase : String)
    (ctx : EngineContext) (primary : SyncPair) (source target : Path) (id newParent : DriveId)
    (newName : String) (item : Item)
    : Prop :=
  Always (moveService patched tokens answers) (RecordedTruly id)
    ((movingItem ctx primary source target id newParent newName).inline (carryOut apiBase)) { item }
    (fun _ _ => True)

/-- Where the parents are not passed over, the worker records what is the case. -/
theorem recordsTruly_of_reported (spec : PatchSpec patched) (honest : Honest answers)
    (separable : Separable item.parents)
    (plain : Separable [newParent])
    (reported
      : item.parents = [newParent] ∨ ¬ PassesOver tokens answers apiBase newName id item.parents)
    : RecordsTruly patched tokens answers apiBase ctx primary source target id newParent newName
        item := by
  have start : Underway item.parents newParent { item } := ⟨Or.inl rfl, rfl⟩
  have retried : Always (moveService patched tokens answers) (Underway item.parents newParent)
      ((retry ctx.cfg (ask (.provider (.rename id newName newParent)))).inline (carryOut apiBase))
      { item }
      (fun result after => ∀ value, result = .ok value → after.item.parents = [newParent]) := by
    apply Always.inline (moveCalls_implemented spec honest separable plain reported)
    · exact uses_retry .isCancelled .sleep (uses_perform.mpr .rename)
    · apply always_retry_attempts (moveCalls_waits item.parents newParent) ctx.cfg _ start
      intro state here
      exact ⟨here, fun answer after served => ⟨served.1, answer, rfl, fun _ done => served.2 done⟩⟩
  have ends (here : Moving) (underway : Underway item.parents newParent here)
      : RecordedTruly id here := by
    simp [RecordedTruly, underway.unrecorded]
  unfold RecordsTruly movingItem
  rw [inline_bind]
  apply retried.seq ends
  · intro value middle underway moved
    have moved := moved value rfl
    have truly := ends middle underway
    have recorded : RecordedTruly id (middle.record id newParent) := by
      simp [RecordedTruly, Moving.record, underway.unrecorded, moved]
    refine ⟨truly, fun _ last served => ?_⟩
    obtain rfl : last = middle := served
    refine ⟨truly, fun _ after served => ?_⟩
    obtain rfl : after = last.record id newParent := served
    refine ⟨recorded, fun answer still served => ?_⟩
    obtain rfl : still = _ := served
    cases answer <;> exact ⟨recorded, trivial⟩
  · exact fun _ _ _ _ => trivial

/-- Where they are, the worker may record a parent that the item does not have. -/
theorem not_recordsTruly (spec : PatchSpec patched) (elsewhere : item.parents ≠ [newParent])
    (passes : PassesOver tokens answers apiBase newName id item.parents)
    : ¬ RecordsTruly patched tokens answers apiBase ctx primary source target id newParent newName
        item := by
  obtain ⟨token, renamed⟩ := reaches_passing_over { item } newParent passes
  have asked
      : moveService patched tokens answers (.engine .isCancelled) { item } false { item } := rfl
  have attempted (again : Option (Eff Unit))
      : Reaches (moveService patched tokens answers)
          ((retryAttempt ctx.cfg.retry.initialBackoffMs
            (ask (.provider (.rename id newName newParent))) again).inline (carryOut apiBase))
          { item } (.done (.ok ()))
          (Moving.update patched { item } (renameRequest apiBase token id [] (some newName))) := by
    apply Reaches.step asked
    exact renamed.outcome.bind .refl
  have retried
      : Reaches (moveService patched tokens answers)
          ((retry ctx.cfg (ask (.provider (.rename id newName newParent)))).inline
            (carryOut apiBase))
          { item } (.done (.ok ()))
          (Moving.update patched { item } (renameRequest apiBase token id [] (some newName))) := by
    unfold retry
    cases ctx.cfg.retry.maxAttempts - 1 with
    | zero => exact attempted none
    | succ left => exact attempted _
  intro truly
  unfold RecordsTruly movingItem at truly
  rw [inline_bind] at truly
  have recorded := (((truly.reaches (retried.bind .refl)).2 () _ rfl).2 () _ rfl).here
  have placed := (recorded (id, newParent) (by simp [Moving.record])).2
  apply elsewhere
  rw [← placed]
  exact (spec.parents_renameRequest item).symm

-----------------------------------------------------------------------------------------
-- The condition
-----------------------------------------------------------------------------------------

/-- A success of `rename` is a move unless the answer about the parents reports none, lets the
call go on and the update is accepted. So it is with what the worker records, if the item is not
in its new folder already.
-/
theorem moves_iff_reported {patched : Item → Request → Item} (spec : PatchSpec patched)
    (script : Script) (apiBase newName : String) (fileId newParent : DriveId) (item : Item)
    : (script.SuccessMoves patched apiBase newName fileId newParent item
        ↔ ¬ (script.Accepts ∧ script.Unreported))
      ∧ ∀ (tokens : Except Error String → Prop)
          (answers : List DriveId → Request → Except Error Response → Prop)
          (ctx : EngineContext) (primary : SyncPair) (source target : Path),
          Honest answers
          → Separable item.parents
          → Separable [newParent]
          → (RecordsTruly patched tokens answers apiBase ctx primary source target fileId newParent
            newName
              item
            ↔ item.parents = [newParent]
              ∨ ¬ PassesOver tokens answers apiBase newName fileId item.parents) := by
  constructor
  · constructor
    · intro moves unreported
      exact Script.unreported_not_moved unreported.1 unreported.2 moves
    · exact Script.successMoves_of_reported spec
  · intro tokens answers ctx primary source target honest separable plain
    constructor
    · intro truly
      by_contra other
      obtain ⟨elsewhere, passes⟩ := not_or.mp other
      exact not_recordsTruly spec elsewhere (not_not.mp passes) truly
    · exact recordsTruly_of_reported spec honest separable plain

/-- An update as it is documented: the parents that are left come first. -/
def documentedPatch (item : Item) (request : Request) : Item where
  name := request.newName.getD item.name
  parents :=
    match request.query.lookup "addParents", request.query.lookup "removeParents" with
    | none, none => item.parents
    | added, removed =>
        let gone := (removed.map readIds).getD []
        (item.parents.filter (fun parent => parent ∉ gone) ++ added.toList).dedup

theorem patchSpec_documentedPatch : PatchSpec documentedPatch where
  named item request newName named := by simp [documentedPatch, named]
  kept item request added removed := by simp [documentedPatch, added, removed]
  moved item request parent listed added removed := by
    simp only [documentedPatch, added, removed]
    refine ⟨List.nodup_dedup _, ?_⟩
    intro id
    simp [or_comm]

/-- The parents cannot be read, and then the update is accepted. -/
def refusedParents : Script where
  token := .ok "jeton"
  parents := .ok { status := 403, reason := "Forbidden" }
  update := .ok { status := 200, reason := "OK", body := some (.object []) }

/-- Every request is answered with the parents that the item has. -/
def tellParents (parents : List DriveId) (_ : Request) (answer : Except Error Response) : Prop :=
  answer
    = .ok
        { status := 200
          body := some (.object [("parents", .array (parents.map Json.string))]) }

theorem reportedParents_tellParents {parents : List DriveId} {request : Request}
    {response : Response} (told : tellParents parents request (.ok response))
    : reportedParents response = some parents := by
  obtain rfl := Except.ok.inj told
  simp [reportedParents, Response.isSuccess, Json.field, Json.asArray, List.filterMap_map,
    Function.comp_def, Json.asStr]

/-- A file goes to another folder, and is recorded there. -/
theorem told_move_recorded
    : RecordsTruly documentedPatch (fun _ => True) tellParents "drive" { cfg := {} }
        { localPath := [] } (components "origine/note.txt") (components "destination/note.txt")
        "fichier" "destination" "note.txt" ⟨"note.txt", ["origine"]⟩ := by
  have honest : Honest tellParents := by
    intro parents request response reported _ told reports
    rw [reportedParents_tellParents told] at reports
    exact (Option.some.inj reports).symm
  apply ((moves_iff_reported patchSpec_documentedPatch refusedParents _ _ _ _ _).2 _ _ _ _ _ _
    honest _ _).mpr
  · refine Or.inr (fun passes => ?_)
    obtain ⟨_, _, _, told, unreporting, _⟩ := passes.happens
    have untold := unreporting.untold
    rw [reportedParents_tellParents told] at untold
    cases untold
  · simp [Separable]
  · simp [Separable]

/-- A file that stays in its folder is reported as moved. -/
theorem stayed_reported_moved
    : ¬ refusedParents.SuccessMoves documentedPatch "drive" "note.txt" "fichier" "destination"
        ⟨"note.txt", ["origine"]⟩ := by
  apply Script.unreported_not_moved
  · exact ⟨⟨"jeton", rfl⟩, _, rfl, rfl⟩
  · exact ⟨_, rfl, by decide, rfl, nofun⟩

end SyncGDrive
