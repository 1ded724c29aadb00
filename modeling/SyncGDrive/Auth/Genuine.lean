import SyncGDrive.Auth.Storage
import SyncGDrive.Data.Concat

/-! Which tokens a session works with. Whatever fails or is cut short, only tokens that the service
has issued are kept in the file, handed out to requests, and sent back to the service.
-/

namespace SyncGDrive

open Program

-----------------------------------------------------------------------------------------
-- Issued tokens
-----------------------------------------------------------------------------------------

/-- The tokens that the service has issued. -/
structure Issued where
  access : String → Prop
  refresh : String → Prop

structure Issued.Genuine (issued : Issued) (tokens : GoogleTokens) : Prop where
  access : issued.access tokens.accessToken
  refresh : issued.refresh tokens.refreshToken

/-- The answer to a refresh token brings issued tokens only. -/
structure Issued.Renews (issued : Issued) (response : TokenResponse) : Prop where
  access : issued.access response.accessToken
  refresh : ∀ token ∈ response.refreshToken, issued.refresh token

/-- The service answers with tokens that it has issued. -/
structure Google.Issues (google : Google) (issued : Issued) : Prop where
  renews
    : ∀ refreshToken response, google.endpoint refreshToken (.ok response) → issued.Renews response
  connects : ∀ tokens, google.browser (.ok tokens) → issued.Genuine tokens

-----------------------------------------------------------------------------------------
-- The contract of the session
-----------------------------------------------------------------------------------------

/-- What a session may rely on of the answers to its operations. -/
def Issued.tells (issued : Issued) : Rely authorisation
  | .load, answer => ∀ tokens, answer = .ok (some tokens) → issued.Genuine tokens
  | .exchangeRefreshToken _, answer => ∀ response, answer = .ok response → issued.Renews response
  | .authenticate, answer => ∀ tokens, answer = .ok tokens → issued.Genuine tokens
  | .now, _ | .clear, _ | .store _, _ => True

/-- Only issued tokens are stored and sent. -/
def AuthOp.Honest (issued : Issued) : AuthOp → Prop
  | .exchangeRefreshToken refreshToken => issued.refresh refreshToken
  | .store tokens => issued.Genuine tokens
  | .load | .now | .clear | .authenticate => True

section Session

variable {issued : Issued}

theorem relies_auth (issued : Issued) (op : AuthOp) (fine : op.Honest issued)
    : Relies issued.tells (AuthOp.Honest issued) (issued.tells op) (auth op) :=
  relies_perform fine

theorem relies_reconnect
    : Relies issued.tells (AuthOp.Honest issued) issued.access GoogleAuth.reconnect := by
  unfold GoogleAuth.reconnect
  apply (relies_auth issued .clear trivial).bind
  intro _ _
  apply (relies_auth issued .authenticate trivial).bind
  intro connected kept
  cases connected with
  | error error => trivial
  | ok newTokens =>
      have genuine := kept newTokens rfl
      apply (relies_auth issued (.store newTokens) genuine).bind
      intro stored _
      cases stored with
      | error error => trivial
      | ok value => exact genuine.access

theorem relies_renew {tokens : GoogleTokens} {response : TokenResponse}
    (genuine : issued.Genuine tokens) (renews : issued.Renews response)
    : Relies issued.tells (AuthOp.Honest issued) issued.access
        (GoogleAuth.renew tokens response) := by
  unfold GoogleAuth.renew
  apply (relies_auth issued .now trivial).bind
  intro now _
  have refresh : issued.refresh (response.refreshToken.getD tokens.refreshToken) := by
    cases given : response.refreshToken with
    | none => exact genuine.refresh
    | some token => exact renews.refresh token given
  apply (relies_auth issued (.store _) ⟨renews.access, refresh⟩).bind
  intro stored _
  cases stored with
  | error error => trivial
  | ok value => exact renews.access

/-- A call hands out an issued token. -/
theorem relies_getValidToken
    : Relies issued.tells (AuthOp.Honest issued) issued.access GoogleAuth.getValidToken := by
  unfold GoogleAuth.getValidToken
  apply (relies_auth issued .load trivial).bind
  intro loaded kept
  cases loaded with
  | error error => trivial
  | ok found =>
      cases found with
      | none => trivial
      | some tokens =>
          have genuine := kept tokens rfl
          apply (relies_auth issued .now trivial).bind
          intro now _
          apply Relies.ite
          · intro _
            exact genuine.access
          · intro _
            apply (relies_auth issued (.exchangeRefreshToken _) genuine.refresh).bind
            intro answer renewed
            cases answer with
            | ok response => exact relies_renew genuine (renewed response rfl)
            | error error => exact relies_reconnect

end Session

-----------------------------------------------------------------------------------------
-- The contract of the file
-----------------------------------------------------------------------------------------

/-- What may be relied on of the answers below: what the file holds is refused or issued. -/
def Issued.tellsFile (issued : Issued) (storage : EncryptedFileStorage) : Rely vaultEffects
  | .read, answer =>
      ∀ data tokens,
        answer = .ok data → storage.decode data = .ok tokens → issued.Genuine tokens
  | .generateNonce, nonce => nonce.length = 12
  | .exchangeRefreshToken _, answer => ∀ response, answer = .ok response → issued.Renews response
  | .authenticate, answer => ∀ tokens, answer = .ok tokens → issued.Genuine tokens
  | .pathExists, _ | .createDirAll, _ | .write _, _ | .restrict, _ | .removeFile, _ | .now, _
  | .revoke _, _ => True

/-- Whatever is left of what is written is refused or issued. -/
def VaultOp.Honest (storage : EncryptedFileStorage) (issued : Issued) : VaultOp → Prop
  | .write content =>
      ∀ part tokens,
        part <+: content → storage.decode part = .ok tokens → issued.Genuine tokens
  | .exchangeRefreshToken refreshToken | .revoke refreshToken => issued.refresh refreshToken
  | .pathExists | .read | .generateNonce | .createDirAll | .restrict | .removeFile | .now
  | .authenticate => True

/-- The operations of the session, carried out on the file. -/
def EncryptedFileStorage.serve (storage : EncryptedFileStorage) : (op : AuthOp) → Vault op.Answer
  | .load => outcome storage.load
  | .now => vault .now
  | .exchangeRefreshToken refreshToken => vault (.exchangeRefreshToken refreshToken)
  | .clear => outcome EncryptedFileStorage.clear
  | .authenticate => vault .authenticate
  | .store tokens => outcome (storage.store tokens)

section File

variable {storage : EncryptedFileStorage} {issued : Issued} {tokens : GoogleTokens}

theorem relies_vault (storage : EncryptedFileStorage) (issued : Issued) (op : VaultOp)
    (fine : op.Honest storage issued)
    : Relies (issued.tellsFile storage) (VaultOp.Honest storage issued)
        (issued.tellsFile storage op) (vault op) :=
  relies_perform fine

theorem relies_store (lawful : storage.Lawful) (genuine : issued.Genuine tokens)
    : Relies (issued.tellsFile storage) (VaultOp.Honest storage issued) (fun _ => True)
        (storage.store tokens) := by
  unfold EncryptedFileStorage.store
  apply (relies_propagate (fun _ written => written)).bind
  intro json written
  apply (relies_vault storage issued .generateNonce trivial).bind
  intro nonce twelve
  apply (relies_propagate (fun _ encoded => encoded)).bind
  intro content encoded
  have encodes : storage.Encodes tokens content :=
    ⟨nonce, json, twelve, withContext_ok written, encoded⟩
  have honest : VaultOp.Honest storage issued (.write content) := by
    intro part read beginning decoded
    by_cases whole : part = content
    · have same := storage.decode_encodes lawful encodes
      rw [← whole, decoded] at same
      exact Except.ok.inj same ▸ genuine
    · obtain ⟨error, refused⟩ := storage.decode_part lawful encodes beginning whole
      cases decoded.symm.trans refused
  apply (relies_vault storage issued .createDirAll trivial).bind
  intro created _
  apply (relies_propagate (fun _ _ => trivial)).bind
  intro _ _
  apply (relies_vault storage issued (.write content) honest).bind
  intro answer _
  apply (relies_propagate (fun _ _ => trivial)).bind
  intro _ _
  exact relies_vault storage issued .restrict trivial

theorem relies_load
    : Relies (issued.tellsFile storage) (VaultOp.Honest storage issued)
        (fun loaded => ∀ tokens, loaded = some tokens → issued.Genuine tokens) storage.load := by
  unfold EncryptedFileStorage.load
  apply (relies_vault storage issued .pathExists trivial).bind
  intro there _
  apply Relies.ite
  · intro _
    apply (relies_vault storage issued .read trivial).bind
    intro answer kept
    apply (relies_propagate (fun _ read => read)).bind
    intro data read
    apply (relies_propagate (fun _ decoded => decoded)).bind
    intro tokens decoded loaded same
    obtain rfl := Option.some.inj same
    exact kept data tokens (withContext_ok read) decoded
  · intro _ tokens none_
    cases none_

theorem relies_clear
    : Relies (issued.tellsFile storage) (VaultOp.Honest storage issued) (fun _ => True)
        EncryptedFileStorage.clear := by
  unfold EncryptedFileStorage.clear
  apply (relies_vault storage issued .pathExists trivial).bind
  intro there _
  apply Relies.ite
  · intro _
    apply (relies_vault storage issued .removeFile trivial).bind
    intro answer _
    exact relies_propagate (fun _ _ => trivial)
  · intro _
    trivial

/-- The file carries the operations of the session out under their contract. -/
theorem relies_serve (lawful : storage.Lawful) (op : AuthOp) (fine : op.Honest issued)
    : Relies (issued.tellsFile storage) (VaultOp.Honest storage issued) (issued.tells op)
        (storage.serve op) := by
  cases op with
  | load =>
      apply (relies_outcome relies_load).mono
      intro answer kept tokens loaded
      exact kept (some tokens) loaded tokens rfl
  | now => exact relies_vault storage issued .now trivial
  | exchangeRefreshToken refreshToken =>
      exact relies_vault storage issued (.exchangeRefreshToken refreshToken) fine
  | clear => exact (relies_outcome relies_clear).mono (fun _ _ => trivial)
  | authenticate => exact relies_vault storage issued .authenticate trivial
  | store tokens => exact (relies_outcome (relies_store lawful fine)).mono (fun _ _ => trivial)

/-- The file holds nothing but issued tokens, and nothing else has been sent. -/
structure Shelf.Sound (storage : EncryptedFileStorage) (issued : Issued) (shelf : Shelf)
    : Prop where
  file
    : ∀ content tokens,
        shelf.file = some content → storage.decode content = .ok tokens → issued.Genuine tokens
  sent : ∀ refreshToken ∈ shelf.sent, issued.refresh refreshToken

theorem honours_vault {google : Google} (issues : google.Issues issued)
    : Honours google.sem (Shelf.Sound storage issued) (issued.tellsFile storage)
        (VaultOp.Honest storage issued) := by
  intro op shelf answer after honest sound served
  have sends {refreshToken : String} (fine : issued.refresh refreshToken)
      : Shelf.Sound storage issued { shelf with sent := shelf.sent ++ [refreshToken] } := by
    exact ⟨sound.file, List.forall_mem_concat.mpr ⟨sound.sent, fine⟩⟩
  cases op with
  | pathExists =>
      obtain ⟨-, rfl⟩ := served
      exact ⟨trivial, sound⟩
  | read =>
      obtain ⟨answered, rfl⟩ := served
      refine ⟨fun data tokens read decoded => ?_, sound⟩
      rcases answered with ⟨content, found, rfl⟩ | ⟨error, rfl⟩
      · obtain rfl := Except.ok.inj read
        exact sound.file content tokens found decoded
      · cases read
  | generateNonce =>
      obtain ⟨twelve, rfl⟩ := served
      exact ⟨twelve, sound⟩
  | write content =>
      have left {part : List UInt8} (beginning : part <+: content)
          : Shelf.Sound storage issued { shelf with file := some part } := by
        refine ⟨fun content' tokens found decoded => ?_, sound.sent⟩
        obtain rfl := Option.some.inj found
        exact honest _ tokens beginning decoded
      rcases served with ⟨-, rfl⟩ | ⟨-, rfl | ⟨part, beginning, rfl⟩⟩
      · exact ⟨trivial, left List.prefix_rfl⟩
      · exact ⟨trivial, sound⟩
      · exact ⟨trivial, left beginning⟩
  | removeFile =>
      rcases served with ⟨-, rfl⟩ | ⟨-, rfl⟩
      · exact ⟨trivial, by rintro _ _ ⟨⟩, sound.sent⟩
      · exact ⟨trivial, sound⟩
  | exchangeRefreshToken refreshToken =>
      obtain ⟨answered, rfl⟩ := served
      exact ⟨fun response same => issues.renews _ _ (same ▸ answered), sends honest⟩
  | authenticate =>
      obtain ⟨answered, rfl⟩ := served
      exact ⟨fun tokens same => issues.connects _ (same ▸ answered), sound⟩
  | revoke refreshToken =>
      obtain rfl : after = _ := served
      exact ⟨trivial, sends honest⟩
  | createDirAll | restrict | now =>
      obtain rfl : after = _ := served
      exact ⟨trivial, sound⟩

end File

-----------------------------------------------------------------------------------------
-- Sessions
-----------------------------------------------------------------------------------------

/-- `revoke_token`. -/
def EncryptedFileStorage.revokeToken (storage : EncryptedFileStorage) : Vault Unit := do
  match ← outcome storage.load with
  | .ok (some tokens) =>
      let _ ← vault (.revoke tokens.refreshToken)
  | _ => pure ()
  propagate (withContext "Erreur lors de la suppression du fichier de tokens"
    (← outcome EncryptedFileStorage.clear))

/-- `is_locally_connected`. -/
def EncryptedFileStorage.isLocallyConnected (storage : EncryptedFileStorage) : Vault Bool := do
  match ← outcome storage.load with
  | .ok tokens => return tokens.isSome
  | .error _ => return false

/-- How `GoogleAuth` is used. -/
inductive TokenUse
  | getValidToken
  | saveTokens (tokens : GoogleTokens)
  | revokeToken
  | isLocallyConnected

/-- A use of the tokens on the file, and the access token that it hands out. -/
def TokenUse.program (storage : EncryptedFileStorage) : TokenUse → Vault (Option String)
  | .getValidToken => do return some (← GoogleAuth.getValidToken.inline storage.serve)
  | .saveTokens tokens => do
      storage.store tokens
      return none
  | .revokeToken => do
      storage.revokeToken
      return none
  | .isLocallyConnected => do
      let _ ← storage.isLocallyConnected
      return none

/-- The access token that a use has handed out, if it has come to its end. -/
def handedOut : Vault (Option String) → List String
  | .done (.ok (some token)) => [token]
  | _ => []

/-- Uses of the tokens one after another, each of them cut short at any point: the access tokens
handed out, and what is left.
-/
inductive TokenSession (google : Google) (storage : EncryptedFileStorage)
    (allowed : TokenUse → Prop) (start : Shelf)
    : List String → Shelf → Prop
  | start : TokenSession google storage allowed start [] start
  | used {handed : List String} {shelf after : Shelf} {use : TokenUse}
    {rest : Vault (Option String)}
    (earlier : TokenSession google storage allowed start handed shelf) (fine : allowed use)
    (reached : Reaches google.sem (use.program storage) shelf rest after)
    : TokenSession google storage allowed start (handed ++ handedOut rest) after

section Sessions

variable {storage : EncryptedFileStorage} {issued : Issued}

theorem relies_revokeToken
    : Relies (issued.tellsFile storage) (VaultOp.Honest storage issued) (fun _ => True)
        storage.revokeToken := by
  have clears
      : Relies (issued.tellsFile storage) (VaultOp.Honest storage issued) (fun _ => True)
          (do
            propagate (withContext "Erreur lors de la suppression du fichier de tokens"
              (← outcome EncryptedFileStorage.clear)) : Vault Unit) := by
    apply (relies_outcome relies_clear).bind
    intro answer _
    exact relies_propagate (fun _ _ => trivial)
  unfold EncryptedFileStorage.revokeToken
  apply (relies_outcome relies_load).bind
  intro loaded kept
  cases loaded with
  | error error => exact clears
  | ok found =>
      cases found with
      | none => exact clears
      | some tokens =>
          have genuine := kept (some tokens) rfl tokens rfl
          apply (relies_vault storage issued (.revoke tokens.refreshToken) genuine.refresh).bind
          intro _ _
          exact clears

theorem relies_isLocallyConnected
    : Relies (issued.tellsFile storage) (VaultOp.Honest storage issued) (fun _ => True)
        storage.isLocallyConnected := by
  unfold EncryptedFileStorage.isLocallyConnected
  apply (relies_outcome relies_load).bind
  intro loaded _
  cases loaded <;> trivial

/-- Every use hands out an issued token or none. -/
theorem relies_use (lawful : storage.Lawful) (use : TokenUse)
    (saves : ∀ tokens, use = .saveTokens tokens → issued.Genuine tokens)
    : Relies (issued.tellsFile storage) (VaultOp.Honest storage issued)
        (fun handed => ∀ token, handed = some token → issued.access token)
        (use.program storage) := by
  cases use with
  | getValidToken =>
      apply (relies_getValidToken.inline (relies_serve lawful)).bind
      intro token access other same
      exact Option.some.inj same ▸ access
  | saveTokens tokens =>
      apply (relies_store lawful (saves tokens rfl)).bind
      rintro _ _ token ⟨⟩
  | revokeToken =>
      apply relies_revokeToken.bind
      rintro _ _ token ⟨⟩
  | isLocallyConnected =>
      apply relies_isLocallyConnected.bind
      rintro _ _ token ⟨⟩

/-- In every session, wherever its uses are cut short, the access tokens handed out and the refresh
tokens sent are issued ones, and so is whatever can still be loaded. By induction on the
session.
-/
theorem tokens_stay_genuine {google : Google} {allowed : TokenUse → Prop} {start last : Shelf}
    {handed : List String} (lawful : storage.Lawful) (issues : google.Issues issued)
    (saves : ∀ tokens, allowed (.saveTokens tokens) → issued.Genuine tokens)
    (sound : start.Sound storage issued)
    (session : TokenSession google storage allowed start handed last)
    : (∀ token ∈ handed, issued.access token) ∧ last.Sound storage issued := by
  induction session with
  | start => exact ⟨by simp, sound⟩
  | @used handed shelf after use rest earlier fine reached ih =>
      have relies := relies_use lawful use (fun tokens same => saves tokens (same ▸ fine))
      obtain ⟨left, here⟩ := relies.follows (honours_vault issues) ih.2 reached
      refine ⟨fun token member => ?_, here⟩
      rcases List.mem_append.mp member with before | now
      · exact ih.1 token before
      · unfold handedOut at now
        split at now
        · obtain rfl := List.mem_singleton.mp now
          exact left _ rfl
        · cases now

end Sessions

/-- What the service has issued in one session. -/
def sessionIssued : Issued where
  access token := token = "ya29"
  refresh token := token = "1//refresh"

theorem run_session_save
    : run offlineDisk ((TokenUse.saveTokens sessionTokens).program sessionStorage) {}
      = (.ok none, sessionShelf) := by
  exact run_bind run_session_store

theorem run_session_token
    : run offlineDisk (TokenUse.getValidToken.program sessionStorage) sessionShelf
      = (.ok (some "ya29"), sessionShelf) := by
  have loaded
      : run offlineDisk (outcome sessionStorage.load : Vault (Except Error (Option GoogleTokens)))
          sessionShelf
        = (.ok (.ok (some sessionTokens)), sessionShelf) := by
    rw [run_outcome, run_session_load]
  have found
      : run offlineDisk ((auth .load).inline sessionStorage.serve) sessionShelf
        = (.ok (.ok (some sessionTokens)), sessionShelf) :=
    run_bind loaded
  have fresh
      : run offlineDisk (GoogleAuth.getValidToken.inline sessionStorage.serve) sessionShelf
        = (.ok "ya29", sessionShelf) := by
    unfold GoogleAuth.getValidToken
    rw [inline_bind, run_bind found]
    simp [sessionTokens, orError, propagate, Prog.inline, auth, perform,
      EncryptedFileStorage.serve, vault, offlineDisk]
  exact run_bind fresh

/-- Tokens are saved, and one of them handed out. -/
theorem session_hands_out_genuine
    : ∃ handed last,
        TokenSession Google.offline sessionStorage
          (fun use => use = .saveTokens sessionTokens ∨ use = .getValidToken) {} handed last
        ∧ handed = ["ya29"] ∧ last = sessionShelf
        ∧ (∀ token ∈ handed, sessionIssued.access token)
        ∧ last.Sound sessionStorage sessionIssued := by
  have saved := reaches_offlineDisk run_session_save
  have taken := reaches_offlineDisk run_session_token
  have session
      : TokenSession Google.offline sessionStorage
          (fun use => use = .saveTokens sessionTokens ∨ use = .getValidToken) {} ["ya29"]
          sessionShelf :=
    (TokenSession.start.used (.inl rfl) saved).used (.inr rfl) taken
  have issues : Google.offline.Issues sessionIssued := by
    constructor
    · rintro _ _ ⟨message, ⟨⟩⟩
    · rintro _ ⟨error, ⟨⟩⟩
  have saves (tokens : GoogleTokens)
      (allowed : TokenUse.saveTokens tokens = .saveTokens sessionTokens
        ∨ TokenUse.saveTokens tokens = .getValidToken)
      : sessionIssued.Genuine tokens := by
    rcases allowed with ⟨⟨⟩⟩ | ⟨⟨⟩⟩
    exact ⟨rfl, rfl⟩
  have sound : Shelf.Sound sessionStorage sessionIssued {} := by
    constructor
    · rintro _ _ ⟨⟩
    · rintro _ ⟨⟩
  exact ⟨_, _, session, rfl, rfl,
    tokens_stay_genuine sessionStorage_lawful issues saves sound session⟩

end SyncGDrive
