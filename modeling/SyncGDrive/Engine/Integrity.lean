import SyncGDrive.Engine.Calls

/-! The integrity gate of an upload: whatever the attempts come to, a file is recorded exactly when
one of them is verified.
-/

namespace SyncGDrive

open Program

-----------------------------------------------------------------------------------------
-- Attempts
-----------------------------------------------------------------------------------------

/-- What the attempts of one file come to: the answers of the provider, and what the file digests
to when each upload is verified.
-/
structure Attempts where
  uploads : Nat → Except Error UploadResult
  digests : Nat → Except Error String

namespace Attempts

variable (attempts : Attempts)

/-- The attempt is an upload of what the file digests to. -/
def Verified (k : Nat) (result : UploadResult) : Prop :=
  attempts.uploads k = .ok result ∧ attempts.digests k = .ok result.md5Checksum

/-- The item that an attempt sends to: that of the latest earlier upload, or else the cached one. -/
def target (cached : Option DriveId) : Nat → Option DriveId
  | 0 => cached
  | k + 1 =>
      match attempts.uploads k with
      | .ok result => some result.driveId
      | .error _ => target cached k

/-- The targets of the first attempts. -/
def targets (cached : Option DriveId) (made : Nat) : List (Option DriveId) :=
  (List.range made).map (attempts.target cached)

theorem targets_succ (cached : Option DriveId) (made : Nat)
    : attempts.targets cached (made + 1)
      = attempts.targets cached made ++ [attempts.target cached made] := by
  simp [targets, List.range_succ]

@[simp]
theorem targets_length (cached : Option DriveId) (made : Nat)
    : (attempts.targets cached made).length = made := by
  simp [targets]

/-- The world in which the attempts come out so, with the targets written down: nothing is stopped
and SQLite takes every write.
-/
def sem (md5 : List UInt8 → String) : Semantics effects (World × List (Option DriveId))
  | .isCancelled, here, answer, after => answer = false ∧ after = here
  | .sleep _, here, answer, after => answer = false ∧ after = here
  | .md5 _, here, answer, after => answer = attempts.digests (here.2.length - 1) ∧ after = here
  | .provider (.upload _ _ _ existing), here, answer, after =>
      answer = attempts.uploads here.2.length
      ∧ ∃ remote, after = ({ here.1 with remote }, here.2 ++ [existing])
  | op, here, answer, after =>
      (Environment.steady md5).sem op here.1 answer after.1 ∧ after.2 = here.2

/-- Whatever is asked, something is answered. -/
theorem sem_total (md5 : List UInt8 → String) (op : Op) (here : World × List (Option DriveId))
    : ∃ answer after, attempts.sem md5 op here answer after := by
  obtain ⟨answer, after, served⟩ := Environment.steady_total md5 op here.1
  cases op with
  | isCancelled => exact ⟨false, here, rfl, rfl⟩
  | sleep milliseconds => exact ⟨false, here, rfl, rfl⟩
  | md5 path => exact ⟨_, here, rfl, rfl⟩
  | provider call =>
      cases call with
      | upload path parentId name existing => exact ⟨_, _, rfl, here.1.remote, rfl⟩
      | _ => exact ⟨answer, (after, here.2), served, rfl⟩
  | _ => exact ⟨answer, (after, here.2), served, rfl⟩

/-- How a loop ends that begins with an attempt and has some left after it. -/
inductive Ends (cached : Option DriveId) (first left : Nat)
    : Except Error UploadResult → List (Option DriveId) → Prop
  | verified {k : Nat} {result : UploadResult} (begun : first ≤ k) (allowed : k ≤ first + left)
    (verified : attempts.Verified k result)
    : Ends cached first left (.ok result) (attempts.targets cached (k + 1))
  | refused {error : Error}
    (never : ∀ k result, first ≤ k → k ≤ first + left → ¬ attempts.Verified k result)
    : Ends cached first left (.error error) (attempts.targets cached (first + left + 1))

end Attempts

-----------------------------------------------------------------------------------------
-- The upload loop
-----------------------------------------------------------------------------------------

section Loop

variable {attempts : Attempts} {md5 : List UInt8 → String} {retry : RetryConfig} {path : Path}
  {parentId : DriveId} {fileName : String} {cached : Option DriveId} {w here : World}
  {again : Option (Option DriveId → Eff UploadResult)} {first left : Nat}

/-- Only the remote differs. -/
structure Recordless (w last : World) : Prop where
  db : last.db = w.db
  pathCache : last.pathCache = w.pathCache

/-- What the loop owes. -/
def Attempts.Owed (attempts : Attempts) (cached : Option DriveId) (w : World) (first left : Nat)
    (result : Except Error UploadResult) (last : World × List (Option DriveId))
    : Prop :=
  Recordless w last.1 ∧ attempts.Ends cached first left result last.2

/-- A loop that goes on after a failed attempt ends as the rest of it does. -/
theorem Attempts.Ends.later {result : Except Error UploadResult} {made : List (Option DriveId)}
    (failed : ∀ result, ¬ attempts.Verified first result)
    (rest : attempts.Ends cached (first + 1) left result made)
    : attempts.Ends cached first (left + 1) result made := by
  cases rest with
  | verified begun allowed verified => exact .verified (by omega) (by omega) verified
  | refused never =>
      rw [show first + 1 + left + 1 = first + (left + 1) + 1 by omega]
      apply Attempts.Ends.refused
      intro k result begun allowed verified
      rcases Nat.eq_or_lt_of_le begun with rfl | later
      · exact failed result verified
      · exact never k result later (by omega) verified

/-- What follows an attempt that is not verified: the next one, or an error after the last. -/
theorem always_unverified {message : Error} (recordless : Recordless w here)
    (unverified : ∀ result, ¬ attempts.Verified first result) (exhausted : again = none → left = 0)
    (rest
      : ∀ next ∈ again, ∀ state,
          Recordless w state
          → Always (attempts.sem md5) (fun _ => True) (next (attempts.target cached (first + 1)))
              (state, attempts.targets cached (first + 1)) (attempts.Owed cached w first left))
    : Always (attempts.sem md5) (fun _ => True)
        (uploadAttempt.orNext retry again message (attempts.target cached (first + 1)))
        (here, attempts.targets cached (first + 1)) (attempts.Owed cached w first left) := by
  cases again with
  | none =>
      obtain rfl := exhausted rfl
      refine ⟨trivial, recordless, Attempts.Ends.refused ?_⟩
      intro k result begun allowed verified
      obtain rfl : k = first := by omega
      exact unverified result verified
  | some next =>
      refine ⟨trivial, fun stopped state served => ?_⟩
      obtain ⟨rfl, rfl⟩ := served
      exact rest next rfl here recordless

/-- One attempt, given what the next one does. -/
theorem always_uploadAttempt_owed (recordless : Recordless w here)
    (exhausted : again = none → left = 0)
    (rest
      : (∀ result, ¬ attempts.Verified first result)
        → ∀ next ∈ again, ∀ state,
            Recordless w state
            → Always (attempts.sem md5) (fun _ => True) (next (attempts.target cached (first + 1)))
                (state, attempts.targets cached (first + 1)) (attempts.Owed cached w first left))
    : Always (attempts.sem md5) (fun _ => True)
        (uploadAttempt retry path parentId fileName (attempts.target cached first) again)
        (here, attempts.targets cached first) (attempts.Owed cached w first left) := by
  refine ⟨trivial, fun stopped state served => ?_⟩
  obtain ⟨rfl, rfl⟩ := served
  refine ⟨trivial, fun answer state served => ?_⟩
  obtain ⟨answered, remote, rfl⟩ := served
  rw [attempts.targets_length] at answered
  rw [← attempts.targets_succ]
  have sent : Recordless w { here with remote } := ⟨recordless.db, recordless.pathCache⟩
  cases answer with
  | error error =>
      have same : attempts.target cached first = attempts.target cached (first + 1) := by
        simp [Attempts.target, ← answered]
      have unverified (result : UploadResult) : ¬ attempts.Verified first result := by
        simp [Attempts.Verified, ← answered]
      rw [same]
      exact always_unverified sent unverified exhausted (rest unverified)
  | ok stored =>
      have aimed : some stored.driveId = attempts.target cached (first + 1) := by
        simp [Attempts.target, ← answered]
      refine ⟨trivial, fun digest state served => ?_⟩
      obtain ⟨digested, rfl⟩ := served
      rw [attempts.targets_length, Nat.add_sub_cancel] at digested
      have refused (differs : digest ≠ .ok stored.md5Checksum)
          : Always (attempts.sem md5) (fun _ => True)
              (uploadAttempt.orNext retry again
                (.msg ("mismatch md5 détecté post-upload après "
                  ++ toString retry.maxAttempts ++ " essais"))
                (some stored.driveId))
              ({ here with remote }, attempts.targets cached (first + 1))
              (attempts.Owed cached w first left) := by
        have unverified (result : UploadResult) : ¬ attempts.Verified first result := by
          intro verified
          obtain rfl := Except.ok.inj (answered.trans verified.1)
          exact differs (digested.trans verified.2)
        rw [aimed]
        exact always_unverified sent unverified exhausted (rest unverified)
      cases digest with
      | error error => exact refused nofun
      | ok hash =>
          by_cases equal : hash = stored.md5Checksum
          · simp only [Prog.bind, equal, if_true]
            have verified : attempts.Verified first stored :=
              ⟨answered.symm, equal ▸ digested.symm⟩
            exact ⟨trivial, sent, .verified (Nat.le_refl _) (Nat.le_add_right _ _) verified⟩
          · simp only [Prog.bind, equal, if_false]
            exact refused (by simpa using equal)

/-- The loop, by induction on the attempts left. -/
theorem always_uploadLoop_owed (recordless : Recordless w here)
    : Always (attempts.sem md5) (fun _ => True)
        (uploadLoop retry path parentId fileName (attempts.target cached first) left)
        (here, attempts.targets cached first) (attempts.Owed cached w first left) := by
  induction left generalizing here first with
  | zero => exact always_uploadAttempt_owed recordless (fun _ => rfl) (fun _ => nofun)
  | succ left ih =>
      apply always_uploadAttempt_owed recordless
      · exact nofun
      · intro unverified next same state recordless
        cases same
        apply (ih recordless).mono
        intro result last _ owed
        exact ⟨owed.1, owed.2.later unverified⟩

end Loop

-----------------------------------------------------------------------------------------
-- The gate
-----------------------------------------------------------------------------------------

/-- A verified attempt within the limit is recorded, under its identifier and as the last one;
without one nothing is.
-/
structure Gated (attempts : Attempts) (maxAttempts : Nat) (cached : Option DriveId)
    (entry : FileEntry) (parentId : DriveId) (w : World) (result : Except Error Unit)
    (last : World × List (Option DriveId))
    : Prop where
  limited : last.2.length ≤ max 1 maxAttempts
  aimed : last.2 = attempts.targets cached last.2.length
  recorded
    : (∃ k < max 1 maxAttempts, ∃ result, attempts.Verified k result)
      → ∃ k < max 1 maxAttempts, ∃ stored,
          attempts.Verified k stored
          ∧ last.2.length = k + 1
          ∧ result = .ok ()
          ∧ last.1.db = w.db.upsert entry
          ∧ last.1.pathCache = w.pathCache.insert entry.path stored.driveId parentId
  refused
    : (∀ k < max 1 maxAttempts, ∀ result, ¬ attempts.Verified k result)
      → (∃ error, result = .error error) ∧ last.1.db = w.db ∧ last.1.pathCache = w.pathCache

section Gate

variable {attempts : Attempts} {md5 : List UInt8 → String} {path : Path} {primary : SyncPair}
  {key fileName : String} {parentId : DriveId} {w : World}

/-- A folder that is known is found. -/
theorem always_folderId_known {made : List (Option DriveId)} {missing : String} {β : Type}
    {f : DriveId → Eff β} {post : Except Error β → World × List (Option DriveId) → Prop}
    (folder : w.folderId? primary key = some parentId)
    (rest : Always (attempts.sem md5) (fun _ => True) (f parentId) (w, made) post)
    : Always (attempts.sem md5) (fun _ => True) (folderId primary key missing >>= f) (w, made)
        post := by
  unfold folderId
  by_cases top : key = ""
  · obtain rfl : primary.remoteFolderId = parentId := by simpa [World.folderId?, top] using folder
    simpa [top] using rest
  · rw [if_neg top, bind_assoc]
    refine ⟨trivial, fun answer after served => ?_⟩
    obtain ⟨⟨rfl, same⟩, still⟩ := served
    obtain rfl : after = (w, made) := Prod.ext same still
    have known : (w.pathCache.lookup key).map CacheEntry.driveId = some parentId := by
      simpa [World.folderId?, top] using folder
    change Always _ _
      (propagate (orError missing ((w.pathCache.lookup key).map CacheEntry.driveId)) >>= f) _ _
    rw [known]
    exact rest

/-- A loop that starts afresh ends in the gate, once its result is recorded. -/
theorem Attempts.Ends.gated {cached : Option DriveId} {maxAttempts : Nat} {stored : UploadResult}
    {made : List (Option DriveId)} {entry : FileEntry} {last : World}
    (ends : attempts.Ends cached 0 (maxAttempts - 1) (.ok stored) made)
    (db : last.db = w.db.upsert entry)
    (pathCache : last.pathCache = w.pathCache.insert entry.path stored.driveId parentId)
    : Gated attempts maxAttempts cached entry parentId w (.ok ()) (last, made) := by
  cases ends with
  | @verified k _ begun allowed verified =>
      have within : k < max 1 maxAttempts := by omega
      constructor
      · rw [Attempts.targets_length]
        exact within
      · rw [Attempts.targets_length]
      · intro _
        exact ⟨k, within, stored, verified, attempts.targets_length cached _, rfl, db, pathCache⟩
      · intro never
        exact absurd verified (never k within stored)

/-- And one that gives up has recorded nothing. -/
theorem Attempts.Ends.ungated {cached : Option DriveId} {maxAttempts : Nat} {error : Error}
    {made : List (Option DriveId)} {entry : FileEntry} {last : World}
    (ends : attempts.Ends cached 0 (maxAttempts - 1) (.error error) made)
    (recordless : Recordless w last)
    : Gated attempts maxAttempts cached entry parentId w (.error error) (last, made) := by
  cases ends with
  | refused never =>
      constructor
      · rw [Attempts.targets_length]
        omega
      · rw [Attempts.targets_length]
      · intro some_verified
        obtain ⟨k, within, result, verified⟩ := some_verified
        exact absurd verified (never k result (Nat.zero_le k) (by omega))
      · intro _
        exact ⟨⟨error, rfl⟩, recordless.db, recordless.pathCache⟩

/-- Uploading a file passes the gate. -/
theorem always_uploadFile_gated (attempts : Attempts) (md5 : List UInt8 → String)
    (ctx : EngineContext) (rel hash : String) (time : Int) (size : Nat)
    (named : path.fileName? = some fileName)
    (folder : w.folderId? primary (parentRelStr primary.localPath path) = some parentId)
    : Always (attempts.sem md5) (fun _ => True) (uploadFile ctx primary path rel hash time size)
        (w, [])
        (Gated attempts ctx.cfg.retry.maxAttempts ((w.pathCache.lookup rel).map CacheEntry.driveId)
          ⟨rel, hash, time⟩ parentId w) := by
  unfold uploadFile
  simp only [named, orError, propagate, Prog.ok_bind]
  apply always_folderId_known folder
  refine ⟨trivial, fun answer state served => ?_⟩
  obtain ⟨⟨rfl, same⟩, still⟩ := served
  obtain rfl : state = (w, []) := Prod.ext same still
  refine ⟨trivial, fun _ state served => ?_⟩
  obtain ⟨reported, still⟩ := served
  obtain ⟨here, made⟩ := state
  obtain rfl : made = [] := still
  obtain rfl := reported
  let started := w.report
    (.currentFile ((path.parent.map Path.display).getD "") fileName size)
  have recordless : Recordless w started := ⟨(w.agrees_report _).db, w.report_pathCache _⟩
  let cached := (w.pathCache.lookup rel).map CacheEntry.driveId
  have looped
      : Always (attempts.sem md5) (fun _ => True)
          (uploadLoop ctx.cfg.retry path parentId fileName (attempts.target cached 0)
            (ctx.cfg.retry.maxAttempts - 1))
          (started, attempts.targets cached 0)
          (attempts.Owed cached w 0 (ctx.cfg.retry.maxAttempts - 1)) :=
    always_uploadLoop_owed recordless
  apply looped.bind
  · intro stored last _ owed
    obtain ⟨kept, ends⟩ := owed
    refine ⟨trivial, fun _ inserted served => ?_⟩
    obtain ⟨cache, sameMade⟩ := served
    refine ⟨trivial, fun answer written served => ?_⟩
    obtain ⟨stores, sameMade'⟩ := served
    have targets : written.2 = last.2 := sameMade'.trans sameMade
    rcases stores with ⟨rfl, row⟩ | ⟨faulty, _⟩
    · refine ⟨trivial, ?_⟩
      rw [← targets] at ends
      apply ends.gated
      · rw [row, cache, kept.db]
      · rw [row, cache, kept.pathCache]
    · exact absurd faulty (fun faulty => faulty)
  · intro error last _ owed
    exact owed.2.ungated owed.1

end Gate

/-- The upload of a file comes to an end, and to no other than the gate allows. -/
structure PassesGate (attempts : Attempts) (md5 : List UInt8 → String) (ctx : EngineContext)
    (primary : SyncPair) (path : Path) (rel hash : String) (time : Int) (size : Nat)
    (parentId : DriveId) (w : World)
    : Prop where
  ends
    : ∃ result last,
        Reaches (attempts.sem md5) (uploadFile ctx primary path rel hash time size) (w, [])
          (.done result) last
  gated
    : ∀ result last,
        Reaches (attempts.sem md5) (uploadFile ctx primary path rel hash time size) (w, [])
          (.done result) last
        → Gated attempts ctx.cfg.retry.maxAttempts
            ((w.pathCache.lookup rel).map CacheEntry.driveId) ⟨rel, hash, time⟩ parentId w result
            last

/-- A file whose folder is known is recorded exactly if one of the attempts that the configuration
allows is verified, whatever they come to.
-/
theorem uploadFile_gated (attempts : Attempts) (md5 : List UInt8 → String) (ctx : EngineContext)
    (primary : SyncPair) (path : Path) (rel hash fileName : String) (time : Int) (size : Nat)
    (parentId : DriveId) (w : World) (named : path.fileName? = some fileName)
    (folder : w.folderId? primary (parentRelStr primary.localPath path) = some parentId)
    : PassesGate attempts md5 ctx primary path rel hash time size parentId w where
  ends := exists_run (attempts.sem_total md5) _ _
  gated _ _ reached :=
    ((always_uploadFile_gated attempts md5 ctx rel hash time size named folder).reaches reached).2

/-- The first upload is damaged, the second one fails and the third one is as it should be. -/
def thirdTime : Attempts where
  uploads k :=
    match k with
    | 0 => .ok ⟨"premier", "abîmé", 3⟩
    | 1 => .error (.msg "connexion perdue")
    | _ => .ok ⟨"premier", "empreinte", 3⟩
  digests _ := .ok "empreinte"

theorem third_time_gated
    : PassesGate thirdTime (fun _ => "empreinte") { cfg := {} } { localPath := [] }
        (components "note.txt") "note.txt" "empreinte" 5 3 "" { disk := ⟨.brokenLink⟩ } :=
  uploadFile_gated _ _ _ _ _ _ _ "note.txt" _ _ _ _ rfl rfl

end SyncGDrive
