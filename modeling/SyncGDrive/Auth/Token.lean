import SyncGDrive.Engine.Calls
import SyncGDrive.Loop.Engine
import SyncGDrive.Provider.Client

/-! The tokens of the session: how a valid one is obtained from the stored ones, and when that takes
the session away.
-/

namespace SyncGDrive

open Program

-----------------------------------------------------------------------------------------
-- Tokens
-----------------------------------------------------------------------------------------

structure GoogleTokens where
  accessToken : String
  refreshToken : String
  expiresAt : Int
  scope : String
  deriving DecidableEq

/-- What the endpoint answers to a refresh token. -/
structure TokenResponse where
  accessToken : String
  refreshToken : Option String := none
  expiresIn : Option Nat := none

/-- Why a refresh fails: the server rejects the token, it has an error of its own, or no answer
comes through.
-/
inductive RefreshError
  | rejected (message : String)
  | server (message : String)
  | transport (message : String)

/-- What `GoogleAuth` does with the storage, the clock, the endpoint and the browser. -/
inductive AuthOp
  | load
  | now
  | exchangeRefreshToken (refreshToken : String)
  | clear
  | authenticate
  | store (tokens : GoogleTokens)

@[reducible] def AuthOp.Answer : AuthOp → Type
  | .load => Except Error (Option GoogleTokens)
  | .now => Int
  | .exchangeRefreshToken _ => Except RefreshError TokenResponse
  | .clear | .store _ => Except Error Unit
  | .authenticate => Except Error GoogleTokens

@[reducible] def authorisation : Signature := ⟨AuthOp, AuthOp.Answer⟩

/-- A program of `GoogleAuth`. -/
abbrev Auth (α : Type) : Type := Prog authorisation Error α

abbrev auth (op : AuthOp) : Auth op.Answer := @perform authorisation Error op

namespace GoogleAuth

/-- The stored tokens are deleted, and the user is asked for others in the browser. -/
def reconnect : Auth String := do
  let _ ← auth .clear
  let newTokens ← propagate ((← auth .authenticate).mapError
    (Error.context "Échec de la nouvelle authentification via le navigateur"))
  propagate (← auth (.store newTokens))
  return newTokens.accessToken

/-- The tokens are replaced by those of the endpoint, whose lifetime is cast to `i64`. -/
def renew (tokens : GoogleTokens) (response : TokenResponse) : Auth String := do
  let newTokens : GoogleTokens := {
    accessToken := response.accessToken
    refreshToken := response.refreshToken.getD tokens.refreshToken
    expiresAt := (← auth .now) + Int.bmod (response.expiresIn.getD 3599 : Nat) (2 ^ 64)
    scope := tokens.scope }
  propagate (← auth (.store newTokens))
  return newTokens.accessToken

/-- `get_valid_token`. -/
def getValidToken : Auth String := do
  let tokens ← propagate (orError
    "Aucun jeton trouvé. Veuillez vous connecter dans les paramètres."
    (← propagate (← auth .load)))
  let now ← auth .now
  if tokens.expiresAt > now + 300 then return tokens.accessToken
  else
    match ← auth (.exchangeRefreshToken tokens.refreshToken) with
    | .ok response => renew tokens response
    | .error _ => reconnect

end GoogleAuth

-----------------------------------------------------------------------------------------
-- The health check
-----------------------------------------------------------------------------------------

namespace GDriveProvider

def aboutRequest (apiBase token : String) : Request where
  method := .get
  url := apiBase ++ "/about"
  query := [("fields", "user,storageQuota")]
  bearer := token

/-- A quota, as the service spells it. -/
def quota (data : Json) (key : String) : Nat :=
  (parseU64 ((((data.field "storageQuota").field key).asStr).getD "0").toList).getD 0

/-- What an answer tells about the service. -/
def readHealth (res : Response) : Client HealthStatus := do
  if res.status = 429 then
    let _ ← handle429 res
    return .unreachable
  else if 400 ≤ res.status ∧ res.status < 500 then
    if res.status = 401 then return .authExpired else return .unreachable
  else
    let data ← readJson res
    return .ok ((((data.field "user").field "emailAddress").asStr).getD "Inconnu")
      (quota data "usage") (quota data "limit")

/-- `check_health`. -/
def checkHealth (apiBase : String) : Client HealthStatus := do
  http .acquire
  let token ← propagate (← http .getToken)
  readHealth (← propagate (← http (.send (aboutRequest apiBase token))))

end GDriveProvider

-----------------------------------------------------------------------------------------
-- One call
-----------------------------------------------------------------------------------------

/-- The file of the encrypted storage. -/
inductive TokenFile
  | absent
  | unreadable (error : Error)
  | stored (tokens : GoogleTokens)

def TokenFile.load : TokenFile → Except Error (Option GoogleTokens)
  | .absent => .ok none
  | .unreadable error => .error error
  | .stored tokens => .ok (some tokens)

/-- What a call meets: the times that the clock tells it, the answer of the endpoint, whether the
file can be removed, what the browser brings, and whether the file can be written; where it cannot,
what it is left as.
-/
structure AuthCall where
  clock : Nat → Int
  endpoint : Except RefreshError TokenResponse
  removal : Except Error Unit
  browser : Except Error GoogleTokens
  writing : Except (Error × TokenFile) Unit

/-- The storage, how often the clock has been read, and what has been started in this call. -/
structure AuthState where
  file : TokenFile
  reads : Nat := 0
  cleared : Bool := false
  interactive : Bool := false

/-- How the operations of a call are served. -/
def AuthCall.serve (call : AuthCall) : Handler authorisation AuthState
  | .load, state => (state.file.load, state)
  | .now, state => (call.clock state.reads, { state with reads := state.reads + 1 })
  | .exchangeRefreshToken _, state => (call.endpoint, state)
  | .clear, state =>
      match call.removal with
      | .ok () => (.ok (), { state with file := .absent, cleared := true })
      | .error error => (.error error, { state with cleared := true })
  | .authenticate, state => (call.browser, { state with interactive := true })
  | .store tokens, state =>
      match call.writing with
      | .ok () => (.ok (), { state with file := .stored tokens })
      | .error (error, left) => (.error error, { state with file := left })

/-- A call of `get_valid_token`. -/
def AuthCall.made (call : AuthCall) (file : TokenFile) : Except Error String × AuthState :=
  run call.serve GoogleAuth.getValidToken { file }

/-- The stored tokens have to be refreshed. -/
def AuthCall.Refreshes (call : AuthCall) (file : TokenFile) : Prop :=
  ∃ tokens, file = .stored tokens ∧ tokens.expiresAt ≤ call.clock 0 + 300

/-- The endpoint fails without a rejection. -/
def AuthCall.Outage (call : AuthCall) : Prop :=
  ∃ message, call.endpoint = .error (.server message) ∨ call.endpoint = .error (.transport message)

/-- What a call owes to the session: only a rejected refresh token is removed and asked for again,
and any other failure leaves the tokens as they are.
-/
structure KeepsLogin {α : Type} (call : AuthCall) (file : TokenFile) (result : Except Error α)
    (after : AuthState)
    : Prop where
  removed
    : after.cleared = true ∨ after.interactive = true
      → call.Refreshes file ∧ ∃ message, call.endpoint = .error (.rejected message)
  kept
    : (∀ tokens, file ≠ .stored tokens) ∨ call.Refreshes file ∧ call.Outage
      → (∃ error, result = .error error) ∧ after.file = file

section Calls

variable {call : AuthCall} {file : TokenFile}

/-- Without tokens a call fails, and touches nothing. -/
theorem AuthCall.made_without (none_ : ∀ tokens, file ≠ .stored tokens)
    : ∃ error, call.made file = (.error error, { file }) := by
  cases file with
  | absent => exact ⟨_, rfl⟩
  | unreadable error => exact ⟨error, rfl⟩
  | stored tokens => exact absurd rfl (none_ tokens)

/-- With tokens that are good for a while, it gives the stored one. -/
theorem AuthCall.made_fresh {tokens : GoogleTokens} (fresh : call.clock 0 + 300 < tokens.expiresAt)
    : call.made (.stored tokens)
      = (.ok tokens.accessToken, { file := .stored tokens, reads := 1 }) := by
  simp [AuthCall.made, GoogleAuth.getValidToken, auth, perform, propagate, AuthCall.serve,
    TokenFile.load, orError, fresh]

/-- With others, it does as the endpoint says. -/
theorem AuthCall.made_stale {tokens : GoogleTokens} (stale : tokens.expiresAt ≤ call.clock 0 + 300)
    : call.made (.stored tokens)
      = run call.serve
          (match call.endpoint with
            | .ok response => GoogleAuth.renew tokens response
            | .error _ => GoogleAuth.reconnect)
          { file := .stored tokens, reads := 1 } := by
  simp [AuthCall.made, GoogleAuth.getValidToken, auth, perform, propagate, AuthCall.serve,
    TokenFile.load, orError, Int.not_lt.mpr stale]
  cases call.endpoint <;> rfl

/-- Renewed tokens are stored without a question to the user. -/
theorem AuthCall.renews (call : AuthCall) (tokens : GoogleTokens) (response : TokenResponse)
    (state : AuthState)
    : (run call.serve (GoogleAuth.renew tokens response) state).2.cleared = state.cleared
      ∧ (run call.serve (GoogleAuth.renew tokens response) state).2.interactive
        = state.interactive := by
  cases written : call.writing <;>
    simp [GoogleAuth.renew, auth, perform, propagate, AuthCall.serve, written]

/-- A new connection deletes the stored tokens and asks the user. -/
theorem AuthCall.reconnects (call : AuthCall) (state : AuthState)
    : (run call.serve GoogleAuth.reconnect state).2.interactive = true := by
  cases removed : call.removal <;> cases brought : call.browser <;> cases written : call.writing <;>
    simp [GoogleAuth.reconnect, auth, perform, propagate, AuthCall.serve, removed, brought, written,
      Except.mapError]

/-- In an outage with tokens to refresh, the user is asked for others. -/
theorem AuthCall.asks_in_outage (refreshes : call.Refreshes file) (outage : call.Outage)
    : (call.made file).2.interactive = true := by
  obtain ⟨tokens, rfl, stale⟩ := refreshes
  obtain ⟨message, outage⟩ := outage
  rw [AuthCall.made_stale stale]
  rcases outage with down | down
  · rw [down]
    exact call.reconnects _
  · rw [down]
    exact call.reconnects _

/-- Otherwise a call keeps the session. -/
theorem AuthCall.made_keepsLogin (untroubled : ¬ (call.Refreshes file ∧ call.Outage))
    : KeepsLogin call file (call.made file).1 (call.made file).2 := by
  by_cases some_ : ∃ tokens, file = .stored tokens
  · obtain ⟨tokens, rfl⟩ := some_
    constructor
    · intro lost
      by_cases stale : tokens.expiresAt ≤ call.clock 0 + 300
      · have refreshes : call.Refreshes (.stored tokens) := ⟨tokens, rfl, stale⟩
        refine ⟨refreshes, ?_⟩
        rw [AuthCall.made_stale stale] at lost
        cases endpoint : call.endpoint with
        | ok response =>
            rw [endpoint] at lost
            simp [call.renews tokens response] at lost
        | error error =>
            cases error with
            | rejected message => exact ⟨message, rfl⟩
            | server message => exact absurd ⟨refreshes, message, .inl endpoint⟩ untroubled
            | transport message => exact absurd ⟨refreshes, message, .inr endpoint⟩ untroubled
      · rw [AuthCall.made_fresh (Int.not_le.mp stale)] at lost
        simp at lost
    · intro failing
      rcases failing with none_ | troubled
      · exact absurd rfl (none_ tokens)
      · exact absurd troubled untroubled
  · obtain ⟨error, made⟩ := call.made_without (not_exists.mp some_)
    rw [made]
    exact ⟨by simp, fun _ => ⟨⟨error, rfl⟩, rfl⟩⟩

end Calls

-----------------------------------------------------------------------------------------
-- Health checks and sequences of calls
-----------------------------------------------------------------------------------------

/-- What a program of the provider does to the tokens: it obtains them by a call. -/
def AuthCall.through (call : AuthCall) : Semantics exchanges AuthState
  | .http .getToken, here, answer, after => (answer, after) = call.made here.file
  | _, here, _, after => after = here

/-- Reading an answer does not ask for the tokens. -/
theorem uses_readHealth (res : Response)
    : Uses (fun op : ClientOp => op ≠ .http .getToken) (GDriveProvider.readHealth res) := by
  apply Uses.ite
  · intro _
    exact ⟨nofun, fun _ => trivial⟩
  · intro _
    apply Uses.ite
    · intro _
      exact Uses.ite (fun _ => trivial) (fun _ => trivial)
    · intro _
      exact uses_propagate.bind (fun _ => uses_pure)

/-- A health check does to the tokens what its one call does; it fails if the call fails. -/
theorem always_checkHealth (call : AuthCall) (apiBase : String) (file : TokenFile)
    : Always call.through (fun _ => True) (GDriveProvider.checkHealth apiBase) { file }
        (fun result after =>
          after = (call.made file).2
          ∧ ∀ error, (call.made file).1 = .error error → result = .error error) := by
  refine ⟨trivial, fun _ state served => ?_⟩
  obtain rfl : state = { file } := served
  refine ⟨trivial, fun token state served => ?_⟩
  have made : call.made file = (token, state) := served.symm
  simp only [made]
  cases token with
  | error error =>
      refine ⟨trivial, rfl, ?_⟩
      intro error' same
      rw [Except.error.inj same]
  | ok token =>
      have rest
          : Uses (fun op : ClientOp => op ≠ .http .getToken)
              (http (.send (GDriveProvider.aboutRequest apiBase token)) >>= fun answer =>
                propagate answer >>= GDriveProvider.readHealth) := by
        apply (uses_perform.mpr nofun).bind
        intro answer
        exact uses_propagate.bind uses_readHealth
      have quiet (op : ClientOp) (here : AuthState) (answer : op.Answer) (after : AuthState)
          (other : op ≠ .http .getToken) (same : here = state)
          (served : call.through op here answer after)
          : after = state := by
        cases op with
        | engine op => exact (show after = here from served).trans same
        | http op =>
            cases op with
            | getToken => exact absurd rfl other
            | _ => exact (show after = here from served).trans same
      apply ((rest.always quiet rfl).weaken (fun _ _ => trivial)).mono
      intro result after _ ends
      exact ⟨ends.1, nofun⟩

/-- Whatever is asked, something is answered. -/
theorem AuthCall.through_total (call : AuthCall) (op : ClientOp) (here : AuthState)
    : ∃ answer after, call.through op here answer after := by
  cases op with
  | engine op =>
      obtain ⟨answer, -⟩ :=
        Environment.steady_total (fun _ => "") op { disk := .backup .empty (fun _ => .special) }
      exact ⟨answer, here, rfl⟩
  | http op =>
      cases op with
      | getToken => exact ⟨_, _, rfl⟩
      | send request => exact ⟨.error (.msg "error sending request"), here, rfl⟩
      | _ => exact ⟨(), here, rfl⟩

/-- Who makes a call. -/
inductive AuthUse
  | getValidToken
  | checkHealth (apiBase : String)
  deriving DecidableEq

/-- How a use of the tokens ends. -/
def AuthCall.Ends (call : AuthCall) (file : TokenFile)
    : AuthUse → Except Error Unit → AuthState → Prop
  | .getValidToken, result, after =>
      result = (call.made file).1.map (fun _ => ()) ∧ after = (call.made file).2
  | .checkHealth apiBase, result, after =>
      ∃ answer,
        result = answer.map (fun _ => ())
        ∧ Reaches call.through (GDriveProvider.checkHealth apiBase) { file } (.done answer) after

section Sessions

variable {call : AuthCall} {file : TokenFile} {use : AuthUse} {result : Except Error Unit}
  {after : AuthState}

/-- Some end there is. -/
theorem AuthCall.exists_end (call : AuthCall) (file : TokenFile) (use : AuthUse)
    : ∃ result after, call.Ends file use result after := by
  cases use with
  | getValidToken => exact ⟨_, _, rfl, rfl⟩
  | checkHealth apiBase =>
      obtain ⟨answer, after, reached, -⟩ :=
        (always_checkHealth call apiBase file).exists_run
          (fun op here _ => call.through_total op here)
      exact ⟨_, after, answer, rfl, reached⟩

/-- Each use leaves the tokens as its call does, and fails where the call fails. -/
theorem AuthCall.Ends.made (ends : call.Ends file use result after)
    : after = (call.made file).2
      ∧ ∀ error, (call.made file).1 = .error error → result = .error error := by
  cases use with
  | getValidToken =>
      obtain ⟨rfl, rfl⟩ := ends
      refine ⟨rfl, ?_⟩
      intro error failed
      rw [failed]
      rfl
  | checkHealth apiBase =>
      obtain ⟨answer, rfl, reached⟩ := ends
      obtain ⟨-, same, fails⟩ := (always_checkHealth call apiBase file).reaches reached
      refine ⟨same, ?_⟩
      intro error failed
      rw [fails error failed]
      rfl

/-- So a use of the tokens keeps the session exactly when its call meets no outage with tokens to
refresh.
-/
theorem AuthCall.Ends.keepsLogin_iff (ends : call.Ends file use result after)
    : KeepsLogin call file result after ↔ ¬ (call.Refreshes file ∧ call.Outage) := by
  obtain ⟨rfl, fails⟩ := ends.made
  constructor
  · intro keeps troubled
    have asked := AuthCall.asks_in_outage troubled.1 troubled.2
    obtain ⟨-, _, rejected⟩ := keeps.removed (.inr asked)
    obtain ⟨-, message, outage⟩ := troubled
    rcases outage with down | down <;> cases down.symm.trans rejected
  · intro untroubled
    have keeps := AuthCall.made_keepsLogin untroubled
    refine ⟨keeps.removed, ?_⟩
    intro failing
    obtain ⟨⟨error, failed⟩, same⟩ := keeps.kept failing
    exact ⟨⟨error, fails error failed⟩, same⟩

/-- Every use of a sequence keeps the session, however the uses before it have ended. -/
def LoginsKept : TokenFile → List (AuthUse × AuthCall) → Prop
  | _, [] => True
  | file, (use, call) :: uses =>
      ∀ result after,
        call.Ends file use result after
        → KeepsLogin call file result after ∧ LoginsKept after.file uses

/-- No call of a sequence meets an outage with tokens to refresh. -/
def NeverTroubled : TokenFile → List (AuthUse × AuthCall) → Prop
  | _, [] => True
  | file, (_, call) :: uses =>
      ¬ (call.Refreshes file ∧ call.Outage) ∧ NeverTroubled (call.made file).2.file uses

/-- A session lives through a sequence of uses exactly when no call meets an outage with tokens to
refresh. By induction on the sequence.
-/
theorem loginsKept_iff (file : TokenFile) (uses : List (AuthUse × AuthCall))
    : LoginsKept file uses ↔ NeverTroubled file uses := by
  induction uses generalizing file with
  | nil => exact Iff.rfl
  | cons first uses ih =>
      obtain ⟨use, call⟩ := first
      constructor
      · intro kept
        obtain ⟨result, after, ends⟩ := call.exists_end file use
        obtain ⟨keeps, rest⟩ := kept result after ends
        rw [ends.made.1, ih] at rest
        exact ⟨ends.keepsLogin_iff.mp keeps, rest⟩
      · intro untroubled result after ends
        refine ⟨ends.keepsLogin_iff.mpr untroubled.1, ?_⟩
        rw [ends.made.1, ih]
        exact untroubled.2

/-- Tokens that a call has left are renewed silently by a later one. -/
theorem AuthCall.renews_later {tokens : GoogleTokens} {response : TokenResponse}
    (stale : tokens.expiresAt ≤ call.clock 0 + 300) (endpoint : call.endpoint = .ok response)
    (writing : call.writing = .ok ())
    : (call.made (.stored tokens)).1 = .ok response.accessToken
      ∧ (call.made (.stored tokens)).2.interactive = false := by
  rw [AuthCall.made_stale stale, endpoint]
  simp [GoogleAuth.renew, auth, perform, propagate, AuthCall.serve, writing]

/-- No failure of the network logs the user out exactly when none is met with tokens to refresh; and
tokens that are left can be renewed silently.
-/
theorem logins_kept_iff (file : TokenFile) (uses : List (AuthUse × AuthCall))
    : (LoginsKept file uses ↔ NeverTroubled file uses)
      ∧ ∀ (call : AuthCall) (tokens : GoogleTokens) (response : TokenResponse),
          file = .stored tokens
          → tokens.expiresAt ≤ call.clock 0 + 300
          → call.endpoint = .ok response
          → call.writing = .ok ()
          → (call.made file).1 = .ok response.accessToken
            ∧ (call.made file).2.interactive = false := by
  refine ⟨loginsKept_iff file uses, ?_⟩
  intro call tokens response stored stale endpoint writing
  rw [stored]
  exact AuthCall.renews_later stale endpoint writing

/-- The network is down, the tokens expire within five minutes, and the user is logged out by the
health check: the browser brings nothing either.
-/
theorem offline_health_check_logs_out
    : let tokens : GoogleTokens := ⟨"ya29", "1//refresh", 1000, "drive.file"⟩
      let call : AuthCall := {
        clock := fun _ => 800
        endpoint := .error (.transport "dns error")
        removal := .ok ()
        browser := .error (.msg "Code d'autorisation non trouvé dans la requête")
        writing := .ok () }
      (call.made (.stored tokens)).2.file = .absent
        ∧ ¬ LoginsKept (.stored tokens) [(.checkHealth "https://www.googleapis.com/drive/v3", call)]
    := by
  intro tokens call
  refine ⟨rfl, ?_⟩
  rw [loginsKept_iff]
  intro untroubled
  exact untroubled.1 ⟨⟨tokens, rfl, by decide⟩, "dns error", .inr rfl⟩

end Sessions

end SyncGDrive
