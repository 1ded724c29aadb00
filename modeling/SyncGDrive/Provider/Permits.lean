import SyncGDrive.Auth.Token
import SyncGDrive.Program.Monitors
import SyncGDrive.Provider.Changes
import SyncGDrive.Provider.Uploads

/-! The discipline of the provider: every request to the service has a permit and the token of its
own, and a 429 is passed on to the limiter before anything else is asked for.
-/

namespace SyncGDrive

open Program GDriveProvider

-----------------------------------------------------------------------------------------
-- Allowances
-----------------------------------------------------------------------------------------

/-- A permit that was not used yet, the token, and the pause that the service has asked for. -/
structure Allowance where
  permit : Bool := false
  token : Option String := none
  owed : Option Nat := none

/-- The pause that an answer asks for. -/
def pauseAsked : Except Error Response → Option Nat
  | .ok response =>
      if response.status = 429 then some (parseRetryAfter response.retryAfter) else none
  | .error _ => none

/-- A request uses up its permit. -/
def Allowance.sent (here : Allowance) (answer : Except Error Response) : Allowance :=
  { here with permit := false, owed := pauseAsked answer }

/-- A request with a permit, and with nothing owed. -/
structure Allowance.MaySend (here : Allowance) (bearer : Option String) : Prop where
  settled : here.owed = none
  permit : here.permit = true
  token : bearer.isSome = true → bearer = here.token

/-- The monitor of the provider. -/
def permits : Monitor drives Allowance where
  permits
    | .client (.http (.handleRateLimit secs)), here => here.owed = some secs
    | .client (.http (.send request)), here => here.MaySend (some request.bearer)
    | .transfer (.send request), here | .transfer (.race request), here =>
        here.MaySend request.bearer ∧ (request.bearer = none → request.verb = .put)
    | .client (.engine op), here => (∃ path, op = .metadata path) ∧ here.owed = none
    | _, here => here.owed = none
  next
    | .client (.http .acquire), _, here => { here with permit := true }
    | .client (.http .getToken), answer, here => { here with token := answer.toOption }
    | .client (.http (.handleRateLimit _)), _, here => { here with owed := none }
    | .client (.http (.send _)), answer, here => here.sent answer
    | .transfer (.send _), answer, here => here.sent (answer.map Reply.toResponse)
    | .transfer (.race _), some answer, here => here.sent (answer.map Reply.toResponse)
    | .transfer (.race _), none, here => { here with permit := false }
    | _, _, here => here

/-- And of its programs without transfers. -/
def clientPermits : Monitor exchanges Allowance where
  permits op := permits.permits (.client op)
  next op := permits.next (.client op)

/-- `refresh_auth`. -/
def GDriveProvider.refreshAuth : Client Unit := do
  let _ ← propagate (← http .getToken)

/-- The methods of the trait, as programs of the provider. -/
inductive GDriveProvider.OfTrait (cfg : AdvancedSettings) (timestamp : String → Option Int)
    : {α : Type} → Drive α → Prop
  | listRemote (rootId : DriveId) (turns : Nat)
    : OfTrait cfg timestamp
        (Client.lift (GDriveProvider.listRemote cfg.apiBase timestamp rootId turns))
  | mkdir (parentId : DriveId) (name : String)
    : OfTrait cfg timestamp (Client.lift (GDriveProvider.mkdir cfg.apiBase parentId name))
  | upload (localPath : Path) (parentId : DriveId) (fileName : String)
    (existingId : Option DriveId)
    : OfTrait cfg timestamp (GDriveProvider.upload cfg localPath parentId fileName existingId)
  | delete (fileId : DriveId) : OfTrait cfg timestamp (GDriveProvider.delete cfg fileId)
  | rename (fileId : DriveId) (newName : Option String) (newParentId : Option DriveId)
    : OfTrait cfg timestamp
        (Client.lift (GDriveProvider.rename cfg.apiBase fileId newName newParentId))
  | getChanges (cursor : Option String)
    : OfTrait cfg timestamp (Client.lift (GDriveProvider.getChanges cfg.apiBase cursor))
  | checkHealth : OfTrait cfg timestamp (Client.lift (GDriveProvider.checkHealth cfg.apiBase))
  | refreshAuth : OfTrait cfg timestamp (Client.lift GDriveProvider.refreshAuth)

-----------------------------------------------------------------------------------------
-- Rules
-----------------------------------------------------------------------------------------

/-- Nothing is owed at the end. -/
def OwesNothing {α : Type} (_ : Except Error α) (last : Allowance) : Prop := last.owed = none

/-- Nothing is owed at the end, and what succeeds leaves the allowance there. -/
structure LeavesAt {α : Type} (there : Allowance) (result : Except Error α) (last : Allowance)
    : Prop where
  settled : last.owed = none
  there : ∀ value, result = .ok value → last = there

/-- Wherever nothing is owed, a call may fail. -/
def Lenient {α : Type} (post : Except Error α → Allowance → Prop) : Prop :=
  ∀ error last, last.owed = none → post (.error error) last

theorem lenient_owesNothing {α : Type} : Lenient (@OwesNothing α) :=
  fun _ _ settled => settled

theorem lenient_leavesAt {α : Type} {there : Allowance} : Lenient (@LeavesAt α there) :=
  fun _ _ settled => ⟨settled, fun _ same => by cases same⟩

section Rules

variable {α β : Type} {here : Allowance} {post : Except Error β → Allowance → Prop}

theorem accepts_lift {program : Client α} {post : Except Error α → Allowance → Prop}
    : Accepts permits (Client.lift program) here post
      ↔ Accepts clientPermits program here post := by
  induction program generalizing here with
  | done result => exact Iff.rfl
  | call op next ih => exact and_congr_right (fun _ => forall_congr' (fun answer => ih answer))

/-- What leaves the allowance somewhere is gone on with from there. -/
theorem accepts_then {monitor : Monitor sig Allowance} {program : Prog sig Error α}
    {f : α → Prog sig Error β} {there : Allowance} (lenient : Lenient post)
    (first : Accepts monitor program here (LeavesAt there))
    (second : ∀ value, Accepts monitor (f value) there post)
    : Accepts monitor (program >>= f) here post := by
  apply first.bind
  · intro value middle left
    obtain rfl := left.there value rfl
    exact second value
  · intro error middle left
    exact lenient error middle left.settled

/-- A 429 that is checked is passed on, and ends the call. -/
theorem accepts_checkRateLimit {response : Response} {context : String}
    (owes : here.owed = pauseAsked (.ok response))
    : Accepts clientPermits (checkRateLimit response context) here
        (LeavesAt { here with owed := none }) := by
  unfold checkRateLimit
  by_cases punished : response.status = 429
  · rw [if_pos punished]
    have owed : here.owed = some (parseRetryAfter response.retryAfter) := by
      rw [owes, pauseAsked, if_pos punished]
    exact ⟨owed, fun _ => lenient_leavesAt _ _ rfl⟩
  · rw [if_neg punished]
    have settled : here.owed = none := by rw [owes, pauseAsked, if_neg punished]
    refine ⟨settled, ?_⟩
    intro _ _
    rw [← settled]

/-- A request whose answer is checked for a 429. -/
theorem accepts_checked {request : Request} {context : String} {f : Response → Client β}
    (lenient : Lenient post) (may : here.MaySend (some request.bearer))
    (passed
      : ∀ response,
          Accepts clientPermits (f response) { here with permit := false, owed := none } post)
    : Accepts clientPermits
        (do
          let response ← propagate (← http (.send request))
          checkRateLimit response context
          f response)
        here post := by
  refine ⟨may, ?_⟩
  intro answer
  cases answer with
  | error error => exact lenient _ _ rfl
  | ok response =>
      have checked
          : Accepts clientPermits (checkRateLimit response context) (here.sent (.ok response))
              (LeavesAt { here with permit := false, owed := none }) :=
        accepts_checkRateLimit rfl
      have rest
          : Accepts clientPermits (checkRateLimit response context >>= fun _ => f response)
              (here.sent (.ok response)) post :=
        accepts_then lenient checked (fun _ => passed response)
      exact rest

/-- A refused answer ends the call. -/
theorem accepts_success {monitor : Monitor sig Allowance} {response : Response} {error : Error}
    {program : Prog sig Error β} (lenient : Lenient post) (settled : here.owed = none)
    (success : Accepts monitor program here post)
    : Accepts monitor (if !response.isSuccess then throw error else program) here post := by
  apply Accepts.ite
  · intro _
    exact lenient _ _ settled
  · intro _
    exact success

/-- What cannot be read ends the call. -/
theorem accepts_propagate {monitor : Monitor sig Allowance} {result : Except Error α}
    {f : α → Prog sig Error β} (lenient : Lenient post) (settled : here.owed = none)
    (read : ∀ value, Accepts monitor (f value) here post)
    : Accepts monitor (propagate result >>= f) here post := by
  cases result with
  | ok value => exact read value
  | error error => exact lenient _ _ settled

end Rules

-----------------------------------------------------------------------------------------
-- The methods
-----------------------------------------------------------------------------------------

/-- The allowance before a request, and after it. -/
def Allowance.ready (token : String) : Allowance := ⟨true, some token, none⟩

def Allowance.spent (token : String) : Allowance := ⟨false, some token, none⟩

section Methods

variable {α : Type} {apiBase token : String} {here : Allowance}
  {post : Except Error α → Allowance → Prop}

theorem ready_maySend : (Allowance.ready token).MaySend (some token) :=
  ⟨rfl, rfl, fun _ => rfl⟩

/-- A permit is asked for, and then the token. -/
theorem accepts_begin {f : String → Client α} (lenient : Lenient post)
    (settled : here.owed = none)
    (later : ∀ token, Accepts clientPermits (f token) (.ready token) post)
    : Accepts clientPermits
        (do
          http .acquire
          let token ← propagate (← http .getToken)
          f token)
        here post := by
  obtain ⟨permit, known, owed⟩ := here
  obtain rfl : owed = none := settled
  refine ⟨rfl, ?_⟩
  intro _
  refine ⟨rfl, ?_⟩
  intro answer
  cases answer with
  | error error => exact lenient _ _ rfl
  | ok token => exact later token

/-- Another permit, for the token that is known. -/
theorem accepts_acquire {f : Unit → Client α}
    (later : Accepts clientPermits (f ()) (.ready token) post)
    : Accepts clientPermits (http .acquire >>= f) (.spent token) post :=
  ⟨rfl, fun _ => later⟩

theorem accepts_searchFolder (parentId name : String)
    : Accepts clientPermits (searchFolder apiBase token parentId name) (.ready token)
        (LeavesAt (.spent token)) := by
  apply accepts_checked lenient_leavesAt ready_maySend
  intro response
  apply accepts_success lenient_leavesAt rfl
  apply accepts_propagate lenient_leavesAt rfl
  intro data
  exact ⟨rfl, fun _ _ => rfl⟩

theorem accepts_createFolder (parentId name : String)
    : Accepts clientPermits (createFolder apiBase token parentId name) (.spent token)
        OwesNothing := by
  apply accepts_acquire
  apply accepts_checked lenient_owesNothing ready_maySend
  intro response
  apply accepts_success lenient_owesNothing rfl
  apply accepts_propagate lenient_owesNothing rfl
  intro data
  exact rfl

theorem accepts_mkdir (parentId name : String)
    : Accepts clientPermits (GDriveProvider.mkdir apiBase parentId name) {} OwesNothing := by
  apply accepts_begin lenient_owesNothing rfl
  intro token
  apply accepts_then lenient_owesNothing (accepts_searchFolder parentId name)
  intro found
  cases found with
  | some id => exact rfl
  | none => exact accepts_createFolder parentId name

theorem accepts_moveParams (fileId newParent : String)
    : Accepts clientPermits (moveParams apiBase token fileId newParent) (.spent token)
        (LeavesAt (.spent token)) := by
  apply accepts_acquire
  apply accepts_checked lenient_leavesAt ready_maySend
  intro response
  apply Accepts.ite
  · intro _
    apply accepts_propagate lenient_leavesAt rfl
    intro data
    cases (data.field "parents").asArray with
    | none => exact ⟨rfl, fun _ _ => rfl⟩
    | some parents => exact ⟨rfl, fun _ _ => rfl⟩
  · intro _
    exact ⟨rfl, fun _ _ => rfl⟩

theorem accepts_rename (fileId : DriveId) (newName : Option String) (newParentId : Option DriveId)
    : Accepts clientPermits (GDriveProvider.rename apiBase fileId newName newParentId) {}
        OwesNothing := by
  refine ⟨rfl, ?_⟩
  intro answer
  cases answer with
  | error error => exact rfl
  | ok token =>
      have updated (params : List (String × String))
          : Accepts clientPermits
              (do
                http .acquire
                let res ←
                  propagate (← http (.send (renameRequest apiBase token fileId params newName)))
                checkRateLimit res "rename patch"
                if !res.isSuccess then
                  throw (.msg ("Erreur API (renommage) : " ++ res.statusText))
                else return ())
              (.spent token) OwesNothing := by
        apply accepts_acquire
        apply accepts_checked lenient_owesNothing ready_maySend
        intro response
        exact accepts_success lenient_owesNothing rfl rfl
      cases newParentId with
      | none => exact updated []
      | some newParent =>
          have moved
              : Accepts clientPermits (moveParams apiBase token fileId newParent >>= _)
                  (.spent token) OwesNothing :=
            accepts_then lenient_owesNothing (accepts_moveParams fileId newParent) updated
          exact moved

/-- A page, or a pause that was passed on. -/
theorem accepts_listPage (folderId currentPath : String) (pageToken : Option String)
    (settled : here.owed = none)
    : Accepts clientPermits (listPage apiBase folderId currentPath pageToken) here OwesNothing := by
  apply accepts_begin lenient_owesNothing settled
  intro token
  refine ⟨ready_maySend, ?_⟩
  intro answer
  cases answer with
  | error error => exact rfl
  | ok response =>
      apply Accepts.ite
      · intro punished
        refine ⟨if_pos punished, ?_⟩
        intro _
        exact ⟨rfl, fun _ => rfl⟩
      · intro unpunished
        have settled : pauseAsked (.ok response) = none := if_neg unpunished
        apply accepts_success lenient_owesNothing settled
        apply accepts_propagate lenient_owesNothing settled
        intro data
        exact settled

/-- Both loops of a listing, by induction on the turns. -/
theorem accepts_turns (timestamp : String → Option Int) (turns : Nat)
    : (∀ listing here,
        here.owed = none
        → Accepts clientPermits (nextFolder apiBase timestamp turns listing) here OwesNothing)
      ∧ ∀ folderId currentPath pageToken listing here,
          here.owed = none
          → Accepts clientPermits
              (nextPage apiBase timestamp turns folderId currentPath pageToken listing) here
              OwesNothing := by
  induction turns with
  | zero => exact ⟨fun _ _ settled => settled, fun _ _ _ _ _ settled => settled⟩
  | succ turns ih =>
      constructor
      · intro listing here settled
        unfold nextFolder
        cases listing.queue with
        | nil => exact settled
        | cons folder queue => exact ih.2 folder.1 folder.2 none _ here settled
      · intro folderId currentPath pageToken listing here settled
        unfold nextPage
        apply (accepts_listPage folderId currentPath pageToken settled).bind
        · intro answer middle settled
          cases answer with
          | none => exact ih.2 folderId currentPath pageToken listing middle settled
          | some data =>
              simp only
              split
              · exact ih.2 folderId currentPath _ _ middle settled
              · exact ih.1 _ middle settled
        · intro error middle settled
          exact settled

theorem accepts_getChanges (cursor : Option String)
    : Accepts clientPermits (GDriveProvider.getChanges apiBase cursor) {} OwesNothing := by
  apply accepts_begin lenient_owesNothing rfl
  intro token
  have fetched (cursor : String) {permit : Bool}
      : Accepts clientPermits (fetchChanges apiBase token cursor) ⟨permit, some token, none⟩
          OwesNothing := by
    refine ⟨rfl, ?_⟩
    intro _
    apply accepts_checked lenient_owesNothing ready_maySend
    intro response
    apply accepts_success lenient_owesNothing rfl
    apply accepts_propagate lenient_owesNothing rfl
    intro data
    exact rfl
  cases cursor with
  | some cursor => exact fetched cursor
  | none =>
      have started
          : Accepts clientPermits (startCursor apiBase token) (.ready token)
              (LeavesAt (.spent token)) := by
        apply accepts_checked lenient_leavesAt ready_maySend
        intro response
        apply accepts_propagate lenient_leavesAt rfl
        intro data
        exact ⟨rfl, fun _ _ => rfl⟩
      exact accepts_then lenient_owesNothing started (fun cursor => fetched cursor)

theorem accepts_checkHealth
    : Accepts clientPermits (GDriveProvider.checkHealth apiBase) {} OwesNothing := by
  apply accepts_begin lenient_owesNothing rfl
  intro token
  refine ⟨ready_maySend, ?_⟩
  intro answer
  cases answer with
  | error error => exact rfl
  | ok response =>
      apply Accepts.ite
      · intro punished
        exact ⟨if_pos punished, fun _ => rfl⟩
      · intro unpunished
        have settled : pauseAsked (.ok response) = none := if_neg unpunished
        apply Accepts.ite
        · intro _
          exact Accepts.ite (fun _ => settled) (fun _ => settled)
        · intro _
          exact accepts_propagate lenient_owesNothing settled (fun _ => settled)

end Methods

-----------------------------------------------------------------------------------------
-- Transfers
-----------------------------------------------------------------------------------------

section Transfers

variable {cfg : AdvancedSettings} {token : String} {localPath : Path} {parentId : DriveId}
  {fileName : String} {existingId : Option DriveId}

/-- An answer that is accepted, or passed on and refused. -/
theorem accepts_accept {here : Allowance} {res : Reply} {context failure : String}
    (owes : here.owed = pauseAsked (.ok res.toResponse))
    : Accepts permits (accept res context failure) here (LeavesAt { here with owed := none }) := by
  apply accepts_then lenient_leavesAt (accepts_lift.mpr (accepts_checkRateLimit owes))
  intro _
  apply accepts_success lenient_leavesAt rfl
  exact ⟨rfl, fun _ _ => rfl⟩

theorem accepts_awaitUplink {uploadLimitKbps size : Nat} {there : Allowance}
    (settled : there.owed = none)
    : Accepts permits (awaitUplink uploadLimitKbps size) there (LeavesAt there) := by
  have ends (answer : Bool) {ended : Error}
      : Accepts permits (if answer then pure () else throw ended : Drive Unit) there
          (LeavesAt there) :=
    .ite (fun _ => ⟨settled, fun _ _ => rfl⟩) (fun _ => lenient_leavesAt _ _ settled)
  apply Accepts.ite
  · intro _
    exact ⟨settled, fun granted => ends granted⟩
  · intro _
    refine ⟨settled, fun cancelled => ?_⟩
    exact .ite (fun _ => lenient_leavesAt _ _ settled) (fun _ => ⟨settled, fun _ _ => rfl⟩)

/-- A permit is asked for, and then the token. -/
theorem accepts_enter {α : Type} {here : Allowance} {f : String → Drive α}
    {post : Except Error α → Allowance → Prop} (lenient : Lenient post)
    (settled : here.owed = none) (later : ∀ token, Accepts permits (f token) (.ready token) post)
    : Accepts permits
        (do
          Client.lift (http .acquire)
          let token ← propagate (← Client.lift (http .getToken))
          f token)
        here post := by
  obtain ⟨permit, known, owed⟩ := here
  obtain rfl : owed = none := settled
  refine ⟨rfl, ?_⟩
  intro _
  refine ⟨rfl, ?_⟩
  intro answer
  cases answer with
  | error error => exact lenient _ _ rfl
  | ok token => exact later token

/-- A request beside a shutdown, whose answer is accepted or not. -/
theorem accepts_race {α : Type} {here : Allowance} {request : Transfer}
    {context cancelled step failure : String} {f : Reply → Drive α} (may : permits.permits
      (.transfer (.race request)) here)
    (later
      : ∀ res, Accepts permits (f res) { here with permit := false, owed := none } OwesNothing)
    : Accepts permits
        (do
          let res ← raced (← transfer (.race request)) context cancelled
          accept res step failure
          f res)
        here OwesNothing := by
  refine ⟨may, ?_⟩
  intro answer
  cases answer with
  | none => exact may.1.settled
  | some brought =>
      cases brought with
      | error error => exact rfl
      | ok res =>
          have accepted
              : Accepts permits (accept res step failure) (here.sent (.ok res.toResponse))
                  (LeavesAt { here with permit := false, owed := none }) :=
            accepts_accept rfl
          have rest
              : Accepts permits (accept res step failure >>= fun _ => f res)
                  (here.sent (.ok res.toResponse)) OwesNothing :=
            accepts_then lenient_owesNothing accepted (fun _ => later res)
          exact rest

/-- The description of what was uploaded is read, or not. -/
theorem accepts_result {here : Allowance} (res : Reply) (settled : here.owed = none)
    : Accepts permits
        (do return parseUploadResult (← Client.lift (readJson res.toResponse)))
        here OwesNothing := by
  unfold readJson
  cases res.body with
  | none => exact settled
  | some data => exact settled

theorem accepts_uploadSimple
    : Accepts permits (uploadSimple cfg localPath parentId fileName existingId) {}
        OwesNothing := by
  apply accepts_enter lenient_owesNothing rfl
  intro token
  refine ⟨rfl, ?_⟩
  intro answer
  cases answer with
  | error error => exact rfl
  | ok fileBytes =>
      have awaited {f : Unit → Drive UploadResult}
          (later : Accepts permits (f ()) (.ready token) OwesNothing)
          : Accepts permits (awaitUplink cfg.uploadLimitKbps fileBytes.length >>= f)
              (.ready token) OwesNothing :=
        accepts_then lenient_owesNothing (accepts_awaitUplink rfl) (fun _ => later)
      apply awaited
      apply accepts_race
      · exact ⟨ready_maySend, fun bare => by cases bare⟩
      · intro res
        refine ⟨rfl, ?_⟩
        intro _
        exact accepts_result res rfl

theorem accepts_openSession
    : Accepts permits (openSession cfg parentId fileName existingId) {} OwesNothing := by
  apply accepts_enter lenient_owesNothing rfl
  intro token
  refine ⟨⟨ready_maySend, fun bare => by cases bare⟩, ?_⟩
  intro answer
  cases answer with
  | error error => exact rfl
  | ok res =>
      have accepted
          : Accepts permits (accept res "init resumable" "init resumable")
              ((Allowance.ready token).sent (.ok res.toResponse)) (LeavesAt (.spent token)) :=
        accepts_accept rfl
      have rest
          : Accepts permits
              (accept res "init resumable" "init resumable" >>= fun _ => sessionUri res)
              ((Allowance.ready token).sent (.ok res.toResponse)) OwesNothing := by
        apply accepts_then lenient_owesNothing accepted
        intro _
        apply accepts_propagate lenient_owesNothing rfl
        intro value
        exact accepts_propagate lenient_owesNothing rfl (fun text => rfl)
      exact rest

/-- Streaming asks for nothing but the uplink. -/
theorem accepts_nextBlock {uploadLimitKbps : Nat} {there : Allowance}
    (settled : there.owed = none)
    : Accepts permits (nextBlock uploadLimitKbps) there (LeavesAt there) := by
  refine ⟨settled, ?_⟩
  intro answer
  cases answer with
  | error error => exact lenient_leavesAt _ _ settled
  | ok block =>
      apply Accepts.ite
      · intro _
        exact ⟨settled, fun _ _ => rfl⟩
      · intro _
        have recorded
            : Accepts permits
                (do
                  transfer (.recordBytes block.length)
                  return some block)
                there (LeavesAt there) :=
          ⟨settled, fun _ => ⟨settled, fun _ _ => rfl⟩⟩
        apply Accepts.ite
        · intro _
          refine ⟨settled, ?_⟩
          intro granted
          exact .ite (fun _ => lenient_leavesAt _ _ settled) (fun _ => recorded)
        · intro _
          exact recorded

/-- And so do all the blocks, by induction on those that may be pulled. -/
theorem accepts_pullBlocks {uploadLimitKbps left : Nat} {blocks : List (List UInt8)}
    {there : Allowance} (settled : there.owed = none)
    : Accepts permits (pullBlocks uploadLimitKbps left blocks) there (LeavesAt there) := by
  induction left generalizing blocks with
  | zero => exact ⟨settled, fun _ _ => rfl⟩
  | succ left ih =>
      refine ⟨settled, ?_⟩
      intro pulled
      apply Accepts.ite
      · intro _
        apply accepts_then lenient_leavesAt (accepts_nextBlock settled)
        intro block
        cases block with
        | none => exact ⟨settled, fun _ _ => rfl⟩
        | some block => exact ih
      · intro _
        exact ⟨settled, fun _ _ => rfl⟩

theorem accepts_uploadResumable {fileSize : Nat}
    : Accepts permits (uploadResumable cfg localPath parentId fileName existingId fileSize) {}
        OwesNothing := by
  apply accepts_openSession.bind
  · intro uri middle settled
    refine ⟨settled, ?_⟩
    intro opened
    cases opened with
    | error error => exact settled
    | ok _ =>
        refine ⟨settled, ?_⟩
        intro _
        have pulled
            : Accepts permits (pullBlocks cfg.uploadLimitKbps fileSize [])
                { middle with permit := true } (LeavesAt { middle with permit := true }) :=
          accepts_pullBlocks settled
        apply accepts_then lenient_owesNothing pulled
        intro blocks
        apply accepts_race
        · exact ⟨⟨settled, rfl, fun bare => by cases bare⟩, fun _ => rfl⟩
        · intro res
          exact accepts_result res rfl
  · intro error middle settled
    exact settled

theorem accepts_upload
    : Accepts permits (GDriveProvider.upload cfg localPath parentId fileName existingId) {}
        OwesNothing := by
  refine ⟨⟨⟨localPath, rfl⟩, rfl⟩, ?_⟩
  intro answer
  cases answer with
  | error error => exact rfl
  | ok metadata => exact .ite (fun _ => accepts_uploadSimple) (fun _ => accepts_uploadResumable)

theorem accepts_delete (fileId : DriveId)
    : Accepts permits (GDriveProvider.delete cfg fileId) {} OwesNothing := by
  apply accepts_enter lenient_owesNothing rfl
  intro token
  have bearer : (deleteRequest cfg token fileId).bearer = some token := by
    unfold deleteRequest
    split <;> rfl
  refine ⟨⟨bearer ▸ ready_maySend, fun bare => by simp [bearer] at bare⟩, ?_⟩
  intro answer
  cases answer with
  | error error => exact rfl
  | ok res =>
      have accepted
          : Accepts permits (accept res "delete" "suppression")
              ((Allowance.ready token).sent (.ok res.toResponse)) (LeavesAt (.spent token)) :=
        accepts_accept rfl
      exact accepted.mono (fun _ _ left => left.settled)

end Transfers

theorem accepts_method {cfg : AdvancedSettings} {timestamp : String → Option Int} {α : Type}
    {program : Drive α} (method : OfTrait cfg timestamp program)
    : Accepts permits program {} OwesNothing := by
  cases method with
  | listRemote rootId turns =>
      exact accepts_lift.mpr ((accepts_turns timestamp turns).1 _ {} rfl)
  | mkdir parentId name => exact accepts_lift.mpr (accepts_mkdir parentId name)
  | upload localPath parentId fileName existingId => exact accepts_upload
  | delete fileId => exact accepts_delete fileId
  | rename fileId newName newParentId =>
      exact accepts_lift.mpr (accepts_rename fileId newName newParentId)
  | getChanges cursor => exact accepts_lift.mpr (accepts_getChanges cursor)
  | checkHealth => exact accepts_lift.mpr accepts_checkHealth
  | refreshAuth => exact accepts_lift.mpr ⟨rfl, fun answer => by cases answer <;> rfl⟩

/-- Whatever the service answers and whenever the engine is stopped, each method of the provider has
a permit and the token of its own for every request, and passes on every pause that it is asked for
before anything else.
-/
theorem methods_keep_permits {cfg : AdvancedSettings} {timestamp : String → Option Int} {α : Type}
    {program : Drive α} (method : OfTrait cfg timestamp program)
    : Accepts permits program {} (fun _ last => last.owed = none) :=
  accepts_method method

theorem deletion_keeps_permits
    : Accepts permits (GDriveProvider.delete {} "1") {} (fun _ last => last.owed = none) :=
  @methods_keep_permits {} (fun _ => none) Unit _ (.delete "1")

end SyncGDrive
