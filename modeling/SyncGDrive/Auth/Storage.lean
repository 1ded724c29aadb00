import SyncGDrive.Auth.Token
import SyncGDrive.Engine.Worker
import SyncGDrive.Program.Contracts

/-! The file that keeps the tokens: how it is written and read back, and what is left of it when a
program is cut short. The session works on this file.
-/

namespace SyncGDrive

open Program

-----------------------------------------------------------------------------------------
-- The format
-----------------------------------------------------------------------------------------

/-- `EncryptedFileStorage`, with what it takes from other crates: AES-256-GCM under the key of the
client secret, which gives the ciphertext with its tag, and the JSON of the tokens.
-/
structure EncryptedFileStorage where
  encrypt : (nonce plaintext : List UInt8) → Option (List UInt8)
  decrypt : (nonce ciphertext : List UInt8) → Option (List UInt8)
  toJson : GoogleTokens → Except Error String
  fromJson : String → Except Error GoogleTokens

/-- `as_bytes`. -/
def utf8Bytes (text : String) : List UInt8 := text.toByteArray.data.toList

/-- `String::from_utf8`. -/
def fromUtf8 (bytes : List UInt8) : Option String := String.fromUTF8? ⟨bytes.toArray⟩

theorem fromUtf8_bytes (text : String) : fromUtf8 (utf8Bytes text) = some text := by
  have same : (⟨(utf8Bytes text).toArray⟩ : ByteArray) = text.toByteArray := by simp [utf8Bytes]
  rw [fromUtf8, same]
  exact dif_pos text.isValidUTF8

namespace EncryptedFileStorage

/-- What `store` writes: the nonce, then the ciphertext with its tag. -/
def fileContent (storage : EncryptedFileStorage) (nonce : List UInt8) (json : String)
    : Except Error (List UInt8) :=
  (orError "Échec du chiffrement AES-256-GCM : Error" (storage.encrypt nonce (utf8Bytes json))).map
    (nonce ++ ·)

/-- What `load` makes of the content of the file. -/
def decode (storage : EncryptedFileStorage) (data : List UInt8) : Except Error GoogleTokens :=
  if data.length < 28 then
    throw (.msg
      "Fichier de tokens corrompu (taille insuffisante pour contenir un Nonce et un MAC)")
  else do
    let plaintext ← orError
      "Échec du déchiffrement. Le CLIENT_SECRET a-t-il été modifié depuis la dernière connexion ?"
      (storage.decrypt (data.take 12) (data.drop 12))
    let json ← withContext
      "Les données déchiffrées ne forment pas une chaîne de caractères UTF-8 valide"
      (orError "invalid utf-8 sequence" (fromUtf8 plaintext))
    withContext "Structure JSON des tokens illisible ou corrompue" (storage.fromJson json)

/-- What the storage relies on: a ciphertext is decrypted to what was encrypted, it carries a tag
that tells it from what is left of it when its end is missing, and tokens are read back from
their JSON.
-/
structure Lawful (storage : EncryptedFileStorage) : Prop where
  decrypts
    : ∀ nonce plaintext ciphertext,
        storage.encrypt nonce plaintext = some ciphertext
        → storage.decrypt nonce ciphertext = some plaintext
  tagged
    : ∀ nonce plaintext ciphertext,
        storage.encrypt nonce plaintext = some ciphertext → 16 ≤ ciphertext.length
  authentic
    : ∀ nonce plaintext ciphertext part,
        storage.encrypt nonce plaintext = some ciphertext
        → part <+: ciphertext
        → part ≠ ciphertext
        → storage.decrypt nonce part = none
  reads : ∀ tokens json, storage.toJson tokens = .ok json → storage.fromJson json = .ok tokens

/-- The content is what `store` writes for the tokens, with some nonce. -/
def Encodes (storage : EncryptedFileStorage) (tokens : GoogleTokens) (content : List UInt8)
    : Prop :=
  ∃ nonce json,
    nonce.length = 12 ∧ storage.toJson tokens = .ok json
    ∧ storage.fileContent nonce json = .ok content

section Format

variable {storage : EncryptedFileStorage} {content part : List UInt8} {tokens : GoogleTokens}

/-- What is written is a nonce and a ciphertext. -/
theorem Encodes.split (encodes : storage.Encodes tokens content)
    : ∃ nonce json ciphertext,
        nonce.length = 12 ∧ storage.toJson tokens = .ok json
        ∧ storage.encrypt nonce (utf8Bytes json) = some ciphertext
        ∧ content = nonce ++ ciphertext := by
  obtain ⟨nonce, json, twelve, written, encoded⟩ := encodes
  unfold fileContent at encoded
  cases made : storage.encrypt nonce (utf8Bytes json) with
  | none =>
      rw [made] at encoded
      cases encoded
  | some ciphertext =>
      rw [made] at encoded
      exact ⟨nonce, json, ciphertext, twelve, written, made, (Except.ok.inj encoded).symm⟩

/-- The nonce and what follows it are told apart by its length. -/
theorem decode_append {nonce rest : List UInt8} (twelve : nonce.length = 12)
    (long : 16 ≤ rest.length)
    : storage.decode (nonce ++ rest)
      = (do
          let plaintext ← orError
            "Échec du déchiffrement. Le CLIENT_SECRET a-t-il été modifié depuis la dernière connexion ?"
            (storage.decrypt nonce rest)
          let json ← withContext
            "Les données déchiffrées ne forment pas une chaîne de caractères UTF-8 valide"
            (orError "invalid utf-8 sequence" (fromUtf8 plaintext))
          withContext "Structure JSON des tokens illisible ou corrompue"
            (storage.fromJson json)) := by
  have enough : ¬ (nonce ++ rest).length < 28 := by
    rw [List.length_append]
    omega
  unfold decode
  rw [if_neg enough, List.take_append_of_le_length twelve.ge, List.take_of_length_le twelve.le,
    List.drop_append_of_le_length twelve.ge, List.drop_of_length_le twelve.le, List.nil_append]

/-- Tokens are read back from what was written for them. -/
theorem decode_encodes (lawful : storage.Lawful) (encodes : storage.Encodes tokens content)
    : storage.decode content = .ok tokens := by
  obtain ⟨nonce, json, ciphertext, twelve, written, made, rfl⟩ := encodes.split
  rw [decode_append twelve (lawful.tagged _ _ _ made), lawful.decrypts _ _ _ made]
  simp only [orError, bind, Except.bind, fromUtf8_bytes, withContext, Except.mapError]
  rw [lawful.reads _ _ written]

/-- What is left of it when its end is missing is refused. -/
theorem decode_part (lawful : storage.Lawful) (encodes : storage.Encodes tokens content)
    (beginning : part <+: content) (cut : part ≠ content)
    : ∃ error, storage.decode part = .error error := by
  obtain ⟨nonce, json, ciphertext, twelve, written, made, rfl⟩ := encodes.split
  by_cases short : part.length < 28
  · exact ⟨_, by rw [decode, if_pos short]; rfl⟩
  · -- a part that is long enough consists of the nonce and of a part of the ciphertext
    have start : nonce <+: part :=
      List.prefix_of_prefix_length_le (List.prefix_append _ _) beginning (by omega)
    obtain ⟨rest, rfl⟩ := start
    have rests : rest <+: ciphertext := (List.prefix_append_right_inj nonce).mp beginning
    have refused := lawful.authentic _ _ _ rest made rests
      (fun whole => cut (congrArg (nonce ++ ·) whole))
    rw [decode_append twelve (by rw [List.length_append] at short; omega), refused]
    exact ⟨_, rfl⟩

end Format

end EncryptedFileStorage

-----------------------------------------------------------------------------------------
-- Storing and loading
-----------------------------------------------------------------------------------------

/-- What the session does outside itself, down to the file of the tokens. -/
inductive VaultOp
  | pathExists
  | read
  | generateNonce
  | createDirAll
  | write (content : List UInt8)
  /-- Only the owner may read and write the file, as far as the system lets it be so. -/
  | restrict
  | removeFile
  | now
  | exchangeRefreshToken (refreshToken : String)
  | authenticate
  | revoke (refreshToken : String)

@[reducible] def VaultOp.Answer : VaultOp → Type
  | .pathExists => Bool
  | .read => Except Error (List UInt8)
  | .generateNonce => List UInt8
  | .createDirAll | .write _ | .removeFile => Except Error Unit
  | .restrict => Unit
  | .now => Int
  | .exchangeRefreshToken _ => Except RefreshError TokenResponse
  | .authenticate => Except Error GoogleTokens
  | .revoke _ => Except Error Unit

@[reducible] def vaultEffects : Signature := ⟨VaultOp, VaultOp.Answer⟩

abbrev Vault (α : Type) : Type := Prog vaultEffects Error α

abbrev vault (op : VaultOp) : Vault op.Answer := @perform vaultEffects Error op

namespace EncryptedFileStorage

/-- `TokenStorage::store`. -/
def store (storage : EncryptedFileStorage) (tokens : GoogleTokens) : Vault Unit := do
  let json ← propagate
    (withContext "Erreur de sérialisation des tokens vers JSON" (storage.toJson tokens))
  let nonce ← vault .generateNonce
  let fileContent ← propagate (storage.fileContent nonce json)
  propagate (withContext "Impossible de créer l'arborescence du dossier de configuration"
    (← vault .createDirAll))
  propagate (withContext "Impossible d'écrire le fichier chiffré sur le disque"
    (← vault (.write fileContent)))
  vault .restrict

/-- `TokenStorage::load`. -/
def load (storage : EncryptedFileStorage) : Vault (Option GoogleTokens) := do
  if ← vault .pathExists then
    let data ← propagate (withContext "Impossible de lire le fichier chiffré depuis le disque"
      (← vault .read))
    let tokens ← propagate (storage.decode data)
    return some tokens
  else return none

/-- `TokenStorage::clear`. -/
def clear : Vault Unit := do
  if ← vault .pathExists then
    propagate (withContext "Impossible de supprimer le fichier de tokens" (← vault .removeFile))
  else return

end EncryptedFileStorage

/-- What the services of the provider may answer: the endpoint to a refresh token, and the browser.
-/
structure Google where
  endpoint : String → Except RefreshError TokenResponse → Prop
  browser : Except Error GoogleTokens → Prop

/-- The file of the tokens, and the refresh tokens that have been sent away. -/
structure Shelf where
  file : Option (List UInt8) := none
  sent : List String := []

/-- How an operation is served. A write that fails, or is cut short, leaves the file as it was or
with the beginning of its content.
-/
def Google.sem (google : Google) : Semantics vaultEffects Shelf
  | .pathExists, shelf, answer, after => (answer = true → shelf.file.isSome) ∧ after = shelf
  | .read, shelf, answer, after =>
      ((∃ data, shelf.file = some data ∧ answer = .ok data) ∨ ∃ error, answer = .error error)
      ∧ after = shelf
  | .generateNonce, shelf, answer, after => answer.length = 12 ∧ after = shelf
  | .createDirAll, shelf, _, after => after = shelf
  | .write content, shelf, answer, after =>
      answer = .ok () ∧ after = { shelf with file := some content }
      ∨ (∃ error, answer = .error error)
        ∧ (after = shelf ∨ ∃ part, part <+: content ∧ after = { shelf with file := some part })
  | .restrict, shelf, _, after => after = shelf
  | .removeFile, shelf, answer, after =>
      answer = .ok () ∧ after = { shelf with file := none }
      ∨ (∃ error, answer = .error error) ∧ after = shelf
  | .now, shelf, _, after => after = shelf
  | .exchangeRefreshToken refreshToken, shelf, answer, after =>
      google.endpoint refreshToken answer
      ∧ after = { shelf with sent := shelf.sent ++ [refreshToken] }
  | .authenticate, shelf, answer, after => google.browser answer ∧ after = shelf
  | .revoke refreshToken, shelf, _, after =>
      after = { shelf with sent := shelf.sent ++ [refreshToken] }

section AllOrNothing

variable {storage : EncryptedFileStorage} {google : Google} {tokens : GoogleTokens}
  {shelf : Shelf}

/-- The file is what it was, holds the tokens, or is refused. -/
def Shelf.Stores (storage : EncryptedFileStorage) (tokens : GoogleTokens) (before after : Shelf)
    : Prop :=
  after.file = before.file
  ∨ ∃ content, after.file = some content
    ∧ (storage.decode content = .ok tokens ∨ ∃ error, storage.decode content = .error error)

/-- An operation first, and then the rest. -/
theorem always_vault_bind {β : Type} {op : VaultOp} {f : op.Answer → Vault β}
    {inv : Shelf → Prop} {post : Except Error β → Shelf → Prop}
    : Always google.sem inv (vault op >>= f) shelf post
      ↔ inv shelf
        ∧ ∀ answer after,
            google.sem op shelf answer after → Always google.sem inv (f answer) after post :=
  Iff.rfl

/-- A value that a program goes on with, or the error it ends with. -/
theorem always_propagate_bind {α β : Type} {f : α → Vault β} {inv : Shelf → Prop}
    {post : Except Error β → Shelf → Prop} {result : Except Error α} (here : inv shelf)
    (goes : ∀ value, result = .ok value → Always google.sem inv (f value) shelf post)
    (fails : ∀ error, result = .error error → post (.error error) shelf)
    : Always google.sem inv (propagate result >>= f) shelf post := by
  cases result with
  | ok value => exact goes value rfl
  | error error => exact ⟨here, fails error rfl⟩

theorem withContext_ok {α : Type} {message : String} {result : Except Error α} {value : α}
    (ok : withContext message result = .ok value)
    : result = .ok value := by
  cases result with
  | ok value' => exact ok
  | error error => cases ok

/-- At no point of a store is there another file. -/
theorem always_store (lawful : storage.Lawful) (google : Google) (tokens : GoogleTokens)
    (shelf : Shelf)
    : Always google.sem (fun here => shelf.Stores storage tokens here) (storage.store tokens) shelf
        (fun result last =>
          result = .ok ()
          → ∃ content, last.file = some content ∧ storage.decode content = .ok tokens) := by
  have failed {error : Error} {last : Shelf} (ok : Except.error error = .ok ())
      : ∃ content, last.file = some content ∧ storage.decode content = .ok tokens := by
    cases ok
  unfold EncryptedFileStorage.store
  refine always_propagate_bind (.inl rfl) (fun json written => ?_) (fun _ _ => failed)
  refine always_vault_bind.mpr ⟨.inl rfl, fun nonce after served => ?_⟩
  obtain ⟨twelve, rfl⟩ := served
  refine always_propagate_bind (.inl rfl) (fun content encoded => ?_) (fun _ _ => failed)
  have encodes : storage.Encodes tokens content :=
    ⟨nonce, json, twelve, withContext_ok written, encoded⟩
  refine always_vault_bind.mpr ⟨.inl rfl, fun created last same => ?_⟩
  obtain rfl : after = last := same.symm
  refine always_propagate_bind (.inl rfl) (fun _ _ => ?_) (fun _ _ => failed)
  refine always_vault_bind.mpr ⟨.inl rfl, fun answer last served => ?_⟩
  rcases served with ⟨rfl, rfl⟩ | ⟨⟨error, rfl⟩, left⟩
  · have decoded := storage.decode_encodes lawful encodes
    have whole : Shelf.Stores storage tokens after { after with file := some content } :=
      .inr ⟨content, rfl, .inl decoded⟩
    refine always_propagate_bind whole (fun _ _ => ⟨whole, ?_⟩) (fun _ _ => failed)
    intro _ end_ same
    obtain rfl : end_ = _ := same
    exact ⟨whole, fun _ => ⟨content, rfl, decoded⟩⟩
  · have cut : Shelf.Stores storage tokens after last := by
      rcases left with rfl | ⟨part, beginning, rfl⟩
      · exact .inl rfl
      · refine .inr ⟨part, rfl, ?_⟩
        by_cases whole : part = content
        · exact .inl (whole ▸ storage.decode_encodes lawful encodes)
        · exact .inr (storage.decode_part lawful encodes beginning whole)
    exact ⟨cut, failed⟩

/-- What is loaded is in the file, and stays there. -/
theorem always_load (storage : EncryptedFileStorage) (google : Google) (shelf : Shelf)
    : Always google.sem (fun here => here = shelf) storage.load shelf
        (fun result _ =>
          ∀ loaded,
            result = .ok (some loaded)
            → ∃ content, shelf.file = some content ∧ storage.decode content = .ok loaded) := by
  unfold EncryptedFileStorage.load
  refine always_vault_bind.mpr ⟨rfl, fun there after served => ?_⟩
  obtain ⟨-, rfl⟩ := served
  split
  · refine always_vault_bind.mpr ⟨rfl, fun answer last served => ?_⟩
    obtain ⟨answered, rfl⟩ := served
    refine always_propagate_bind rfl (fun data found => ?_) (by rintro _ _ _ ⟨⟩)
    refine always_propagate_bind rfl (fun tokens decoded => ⟨rfl, ?_⟩) (by rintro _ _ _ ⟨⟩)
    rintro _ ⟨⟩
    rcases answered with ⟨content, stored, rfl⟩ | ⟨error, rfl⟩
    · obtain rfl := Except.ok.inj found
      exact ⟨content, stored, decoded⟩
    · cases found
  · exact ⟨rfl, by rintro _ ⟨⟩⟩

/-- Wherever a store is cut short, the file is what it was, holds the tokens, or is refused: what is
loaded afterwards, if anything is, are the tokens or those that were stored before. A store that has
succeeded leaves its own.
-/
theorem stored_all_or_nothing {middle after : Shelf} {rest : Vault Unit}
    {result : Except Error (Option GoogleTokens)} (lawful : storage.Lawful)
    (storing : Reaches google.sem (storage.store tokens) shelf rest middle)
    (loading : Reaches google.sem storage.load middle (.done result) after)
    : shelf.Stores storage tokens middle
      ∧ (∀ loaded,
          result = .ok (some loaded)
          → loaded = tokens
            ∨ ∃ content, shelf.file = some content ∧ storage.decode content = .ok loaded)
      ∧ (rest = .done (.ok ())
        → (∃ content, middle.file = some content ∧ storage.decode content = .ok tokens)
          ∧ ∀ loaded, result = .ok (some loaded) → loaded = tokens) := by
  have stored := (always_store lawful google tokens shelf).reaches storing
  have loads := ((always_load storage google middle).reaches loading).2
  refine ⟨stored.here, ?_, ?_⟩
  · intro loaded same
    obtain ⟨content, found, decoded⟩ := loads loaded same
    rcases stored.here with unchanged | ⟨content', found', whole | ⟨error, refused⟩⟩
    · exact .inr ⟨content, unchanged ▸ found, decoded⟩
    · obtain rfl := Option.some.inj (found.symm.trans found')
      exact .inl (Except.ok.inj (decoded.symm.trans whole))
    · obtain rfl := Option.some.inj (found.symm.trans found')
      cases decoded.symm.trans refused
  · rintro rfl
    obtain ⟨content, found, whole⟩ := stored.2 rfl
    refine ⟨⟨content, found, whole⟩, ?_⟩
    intro loaded same
    obtain ⟨content', found', decoded⟩ := loads loaded same
    obtain rfl := Option.some.inj (found.symm.trans found')
    exact Except.ok.inj (decoded.symm.trans whole)

end AllOrNothing

-----------------------------------------------------------------------------------------
-- One file
-----------------------------------------------------------------------------------------

/-- The tokens of a session. -/
def sessionTokens : GoogleTokens := ⟨"ya29", "1//refresh", 1700000000, "drive.file"⟩

def sessionJson : String :=
  "\x7b\"access_token\":\"ya29\",\"refresh_token\":\"1//refresh\",\"expires_at\":1700000000," ++
    "\"scope\":\"drive.file\"\x7d"

def sessionNonce : List UInt8 := List.replicate 12 7

def sessionCiphertext : List UInt8 := utf8Bytes sessionJson ++ List.replicate 16 9

/-- A storage that knows this one file. -/
def sessionStorage : EncryptedFileStorage where
  encrypt nonce plaintext :=
    if nonce = sessionNonce ∧ plaintext = utf8Bytes sessionJson then some sessionCiphertext
    else none
  decrypt nonce ciphertext :=
    if nonce = sessionNonce ∧ ciphertext = sessionCiphertext then some (utf8Bytes sessionJson)
    else none
  toJson tokens := if tokens = sessionTokens then .ok sessionJson else .error (.msg "unknown")
  fromJson json := if json = sessionJson then .ok sessionTokens else .error (.msg "unknown")

theorem sessionStorage_lawful : sessionStorage.Lawful where
  decrypts nonce plaintext ciphertext made := by
    simp only [sessionStorage, Option.ite_none_right_eq_some, Option.some.injEq] at made ⊢
    obtain ⟨⟨rfl, rfl⟩, rfl⟩ := made
    exact ⟨⟨rfl, rfl⟩, rfl⟩
  tagged nonce plaintext ciphertext made := by
    simp only [sessionStorage, Option.ite_none_right_eq_some, Option.some.injEq] at made
    obtain ⟨-, rfl⟩ := made
    simp [sessionCiphertext]
  authentic nonce plaintext ciphertext part made beginning cut := by
    simp only [sessionStorage, Option.ite_none_right_eq_some, Option.some.injEq] at made ⊢
    obtain ⟨-, rfl⟩ := made
    exact if_neg (fun both => cut both.2)
  reads tokens json made := by
    simp only [sessionStorage] at made ⊢
    split at made
    · rename_i same
      rw [same, ← Except.ok.inj made]
      exact if_pos rfl
    · cases made

/-- The services are out of reach. -/
def Google.offline : Google where
  endpoint _ answer := ∃ message, answer = .error (.transport message)
  browser answer := ∃ error, answer = .error error

/-- A disk that works, while they are. -/
def offlineDisk : Handler vaultEffects Shelf
  | .pathExists, shelf => (shelf.file.isSome, shelf)
  | .read, shelf => (orError "No such file or directory" shelf.file, shelf)
  | .generateNonce, shelf => (sessionNonce, shelf)
  | .createDirAll, shelf => (.ok (), shelf)
  | .write content, shelf => (.ok (), { shelf with file := some content })
  | .restrict, shelf => ((), shelf)
  | .removeFile, shelf => (.ok (), { shelf with file := none })
  | .now, shelf => (1699990000, shelf)
  | .exchangeRefreshToken refreshToken, shelf =>
      (.error (.transport "dns error"), { shelf with sent := shelf.sent ++ [refreshToken] })
  | .authenticate, shelf => (.error (.msg "Code d'autorisation non trouvé dans la requête"), shelf)
  | .revoke refreshToken, shelf =>
      (.error (.msg "dns error"), { shelf with sent := shelf.sent ++ [refreshToken] })

theorem offlineDisk_served (op : VaultOp) (shelf : Shelf) (answer : op.Answer) (after : Shelf)
    (served : offlineDisk.sem op shelf answer after)
    : Google.offline.sem op shelf answer after := by
  have answered : (offlineDisk op shelf).1 = answer := congrArg Prod.fst served
  have left : (offlineDisk op shelf).2 = after := congrArg Prod.snd served
  subst answered
  subst left
  cases op with
  | pathExists => exact ⟨id, rfl⟩
  | read =>
      refine ⟨?_, rfl⟩
      obtain ⟨file, sent⟩ := shelf
      cases file with
      | none => exact .inr ⟨_, rfl⟩
      | some data => exact .inl ⟨data, rfl, rfl⟩
  | generateNonce => exact ⟨rfl, rfl⟩
  | write content => exact .inl ⟨rfl, rfl⟩
  | removeFile => exact .inl ⟨rfl, rfl⟩
  | exchangeRefreshToken refreshToken => exact ⟨⟨_, rfl⟩, rfl⟩
  | authenticate => exact ⟨⟨_, rfl⟩, rfl⟩
  | createDirAll | restrict | now | revoke refreshToken => rfl

/-- Executions on that disk. -/
theorem reaches_offlineDisk {α : Type} {program : Vault α} {shelf after : Shelf}
    {result : Except Error α} (ran : run offlineDisk program shelf = (result, after))
    : Reaches Google.offline.sem program shelf (.done result) after := by
  have path := (reaches_run offlineDisk program shelf).mono offlineDisk_served
  rwa [ran] at path

def sessionShelf : Shelf := { file := some (sessionNonce ++ sessionCiphertext) }

theorem session_encodes
    : sessionStorage.Encodes sessionTokens (sessionNonce ++ sessionCiphertext) :=
  ⟨sessionNonce, sessionJson, rfl, by simp [sessionStorage],
    by simp [EncryptedFileStorage.fileContent, sessionStorage, orError, Except.map]⟩

theorem run_session_store
    : run offlineDisk (sessionStorage.store sessionTokens) {} = (.ok (), sessionShelf) := by
  have written : sessionStorage.toJson sessionTokens = .ok sessionJson := by simp [sessionStorage]
  have encoded
      : sessionStorage.fileContent sessionNonce sessionJson
        = .ok (sessionNonce ++ sessionCiphertext) := by
    simp [EncryptedFileStorage.fileContent, sessionStorage, orError, Except.map]
  simp [EncryptedFileStorage.store, vault, perform, propagate, withContext, written, encoded,
    Except.mapError, offlineDisk, sessionShelf]

theorem run_session_load
    : run offlineDisk sessionStorage.load sessionShelf
      = (.ok (some sessionTokens), sessionShelf) := by
  have decoded := sessionStorage.decode_encodes sessionStorage_lawful session_encodes
  simp [EncryptedFileStorage.load, vault, perform, propagate, withContext, Except.mapError,
    offlineDisk, sessionShelf, orError, decoded]

/-- The tokens of the session are stored, and loaded again. -/
theorem session_comes_back
    : ∃ loaded,
        Reaches Google.offline.sem (sessionStorage.store sessionTokens) {} (.done (.ok ()))
          sessionShelf
        ∧ Reaches Google.offline.sem sessionStorage.load sessionShelf (.done (.ok (some loaded)))
          sessionShelf
        ∧ loaded = sessionTokens := by
  have stores := reaches_offlineDisk run_session_store
  have loads := reaches_offlineDisk run_session_load
  obtain ⟨_, _, whole⟩ := stored_all_or_nothing sessionStorage_lawful stores loads
  exact ⟨_, stores, loads, (whole rfl).2 _ rfl⟩

end SyncGDrive
