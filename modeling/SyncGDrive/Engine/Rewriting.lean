import SyncGDrive.Engine.Footprints

/-! A file that is rewritten while it is synchronised. Every access of `sync_file` may find another
disk, and what each of them was shown is kept beside the world.
-/

namespace SyncGDrive

open Program

-----------------------------------------------------------------------------------------
-- A disk that changes between accesses
-----------------------------------------------------------------------------------------

/-- What the accesses of one call were shown. -/
structure Shown where
  /-- The disk of the last `metadata`. -/
  stat : Option Disk := none
  /-- The disk of the first digest. -/
  hashed : Option Disk := none
  /-- The last upload answered `Ok`: the disk it read, its result, and the remote it left. -/
  upload : Option (Disk × UploadResult × Remote) := none
  /-- The disk of the last digest. -/
  verified : Option Disk := none

/-- What an access adds. -/
def Shown.note (shown : Shown) (disk : Disk) (remote : Remote) : (op : Op) → op.Answer → Shown
  | .metadata _, _ => { shown with stat := some disk }
  | .md5 _, _ => { shown with hashed := some (shown.hashed.getD disk), verified := some disk }
  | .provider (.upload ..), .ok result => { shown with upload := some (disk, result, remote) }
  | _, _ => shown

/-- The environment, and whoever else writes to the disk: at every access it may be another one. -/
def Environment.rewriting (env : Environment) : Semantics effects (World × Shown) :=
  fun op here answer next =>
    ∃ disk,
      env.sem op { here.1 with disk } answer next.1
      ∧ next.2 = here.2.note disk next.1.remote op answer

section Rules

variable {env : Environment} {w : World} {shown : Shown} {α β : Type}
  {post : Except Error α → World × Shown → Prop}

theorem rewriting_call {op : Op} {next : op.Answer → Eff α}
    : Always env.rewriting (fun _ => True) (.call op next) (w, shown) post
      ↔ ∀ disk answer after,
          env.sem op { w with disk } answer after
          → Always env.rewriting (fun _ => True) (next answer)
              (after, shown.note disk after.remote op answer) post := by
  constructor
  · rintro ⟨-, later⟩ disk answer after served
    exact later answer (after, _) ⟨disk, served, rfl⟩
  · intro later
    refine ⟨trivial, ?_⟩
    rintro answer ⟨after, shown'⟩ ⟨disk, served, noted⟩
    obtain rfl : shown' = shown.note disk after.remote op answer := noted
    exact later disk answer after served

/-- An operation that does not look at the file. -/
def Op.Unseen (op : Op) : Prop :=
  ∀ (shown : Shown) disk remote answer, shown.note disk remote op answer = shown

theorem unseen_get {key : String} : Op.Unseen (.get key) := fun _ _ _ _ => rfl

theorem unseen_lookup {key : String} : Op.Unseen (.lookup key) := fun _ _ _ _ => rfl

theorem unseen_isCancelled : Op.Unseen .isCancelled := fun _ _ _ _ => rfl

theorem unseen_sleep {milliseconds : Nat} : Op.Unseen (.sleep milliseconds) := fun _ _ _ _ => rfl

theorem unseen_report {report : Report} : Op.Unseen (.report report) := fun _ _ _ _ => rfl

theorem unseen_insert {key : String} {id parent : DriveId} : Op.Unseen (.insert key id parent) :=
  fun _ _ _ _ => rfl

/-- A program that does not look at the file, where failing owes nothing. -/
theorem rewriting_unseen {program : Eff β} {f : β → Eff α} (unseen : Uses Op.Unseen program)
    (failed : ∀ error last, post (.error error) last)
    (rest
      : ∀ value w, Always env.rewriting (fun _ => True) (f value) (w, shown) post)
    : Always env.rewriting (fun _ => True) (program >>= f) (w, shown) post := by
  have kept
      : Always env.rewriting (fun here => here.2 = shown) program (w, shown) (fun _ _ => True) := by
    refine unseen.always ?_ rfl
    rintro op ⟨state, shown'⟩ answer ⟨after, _⟩ unseen same ⟨disk, -, noted⟩
    exact (noted.trans (unseen shown' disk after.remote answer)).trans same
  refine kept.seq (fun _ _ => trivial) ?_ (fun error last _ _ => failed error last)
  rintro value ⟨state, _⟩ rfl -
  exact rest value state

/-- A step that may fail, where failing owes nothing. -/
theorem rewriting_propagate {answer : Except Error β} {f : β → Eff α}
    (failed : ∀ error last, post (.error error) last)
    (rest
      : ∀ value, answer = .ok value
        → Always env.rewriting (fun _ => True) (f value) (w, shown) post)
    : Always env.rewriting (fun _ => True) (propagate answer >>= f) (w, shown) post := by
  cases answer with
  | ok value => exact rest value rfl
  | error error => exact ⟨trivial, failed error _⟩

/-- `mtime` gives the whole seconds of what it is shown. -/
theorem rewriting_mtime {path : Path} {f : Int → Eff α}
    (failed : ∀ error last, post (.error error) last)
    (rest
      : ∀ disk metadata w,
          disk.metadata path = some metadata
          → Always env.rewriting (fun _ => True) (f metadata.seconds)
              (w, { shown with stat := some disk }) post)
    : Always env.rewriting (fun _ => True) (mtime path >>= f) (w, shown) post := by
  refine rewriting_call.mpr ?_
  rintro disk answer after ⟨rfl, answered⟩
  simp only at answered
  cases found : disk.metadata path with
  | none =>
      simp only [found] at answered
      obtain ⟨error, rfl⟩ := answered
      exact ⟨trivial, failed _ _⟩
  | some metadata =>
      simp only [found] at answered
      subst answered
      have onward := rest disk metadata { w with disk } found
      change Always env.rewriting (fun _ => True)
        ((if metadata.modified < 0 then throw (.msg "second time provided was later than self")
          else pure metadata.seconds) >>= f) _ post
      split
      · exact ⟨trivial, failed _ _⟩
      · exact onward

/-- `hash_file` digests what it is shown. -/
theorem rewriting_hashFile {path : Path} {f : Except Error String → Eff α}
    (read
      : ∀ disk content w,
          disk.read path = some content
          → Always env.rewriting (fun _ => True) (f (.ok (env.md5 content)))
              (w, { shown with
                hashed := some (shown.hashed.getD disk), verified := some disk }) post)
    (unread
      : ∀ error disk w,
          Always env.rewriting (fun _ => True) (f (.error error))
            (w, { shown with
              hashed := some (shown.hashed.getD disk), verified := some disk }) post)
    : Always env.rewriting (fun _ => True) (hashFile path >>= f) (w, shown) post := by
  refine rewriting_call.mpr ?_
  rintro disk answer after ⟨rfl, answered⟩
  simp only at answered
  cases found : disk.read path with
  | none =>
      simp only [found] at answered
      obtain ⟨error, rfl⟩ := answered
      exact unread _ disk _
  | some content =>
      simp only [found] at answered
      subst answered
      exact read disk content _ found

/-- `isFile` looks once. -/
theorem rewriting_isFile {path : Path} {f : Bool → Eff α}
    (rest
      : ∀ answer disk w,
          Always env.rewriting (fun _ => True) (f answer)
            (w, { shown with stat := some disk }) post)
    : Always env.rewriting (fun _ => True) (isFile path >>= f) (w, shown) post := by
  refine rewriting_call.mpr (fun disk answer after _ => ?_)
  cases answer <;> exact rest _ disk after

end Rules

-----------------------------------------------------------------------------------------
-- The upload loop
-----------------------------------------------------------------------------------------

/-- The service answers an upload with the digest of what it has stored. -/
def Environment.DigestsStored (env : Environment) : Prop :=
  ∀ path parent name existing disk remote result after,
    env.provider (.upload path parent name existing) disk remote (.ok result) after
    → ∃ item content,
        after.item? result.driveId = some item ∧ item.kind = .file content
        ∧ result.md5Checksum = env.md5 content

/-- An upload has been accepted: what it stored has the digest of what was read last. -/
structure Verified (env : Environment) (path : Path) (stat : Option Disk) (hashed : Disk)
    (result : UploadResult) (shown : Shown)
    : Prop where
  stat : shown.stat = stat
  hashed : shown.hashed = some hashed
  upload
    : ∃ disk remote item content,
        shown.upload = some (disk, result, remote) ∧ remote.item? result.driveId = some item
        ∧ item.kind = .file content ∧ result.md5Checksum = env.md5 content
  verified
    : ∃ disk content,
        shown.verified = some disk ∧ disk.read path = some content
        ∧ env.md5 content = result.md5Checksum

section Loop

variable {env : Environment} {path : Path} {stat : Option Disk} {hashed : Disk}

/-- One attempt of the loop, given what its next one does. -/
theorem rewriting_uploadAttempt (truthful : env.DigestsStored) {retry : RetryConfig}
    {parentId : DriveId} {fileName : String} {existing : Option DriveId}
    {again : Option (Option DriveId → Eff UploadResult)}
    (rest
      : ∀ next ∈ again, ∀ id (w : World) (shown : Shown),
          shown.stat = stat → shown.hashed = some hashed
          → Always env.rewriting (fun _ => True) (next id) (w, shown)
              (fun result last =>
                ∀ value, result = .ok value → Verified env path stat hashed value last.2))
    (w : World) (shown : Shown) (sameStat : shown.stat = stat)
    (sameHashed : shown.hashed = some hashed)
    : Always env.rewriting (fun _ => True)
        (uploadAttempt retry path parentId fileName existing again) (w, shown)
        (fun result last =>
          ∀ value, result = .ok value → Verified env path stat hashed value last.2) := by
  have pauses (next : Eff UploadResult) (w : World) (shown : Shown)
      (rest
        : ∀ w,
            Always env.rewriting (fun _ => True) next (w, shown)
              (fun result last =>
                ∀ value, result = .ok value → Verified env path stat hashed value last.2))
      : Always env.rewriting (fun _ => True) (uploadAttempt.pauseThen retry next) (w, shown)
          (fun result last =>
            ∀ value, result = .ok value → Verified env path stat hashed value last.2) := by
    refine rewriting_unseen (uses_ask unseen_sleep) (by rintro _ _ _ ⟨⟩) (fun stopped w => ?_)
    cases stopped with
    | true => exact ⟨trivial, by rintro _ ⟨⟩⟩
    | false => exact rest w
  refine rewriting_unseen (uses_ask unseen_isCancelled) (by rintro _ _ _ ⟨⟩) (fun stopped w => ?_)
  cases stopped with
  | true => exact ⟨trivial, by rintro _ ⟨⟩⟩
  | false =>
      refine rewriting_call.mpr ?_
      rintro disk answer after ⟨remote, uploaded, rfl⟩
      cases answer with
      | error error =>
          cases again with
          | none => exact ⟨trivial, by rintro _ ⟨⟩⟩
          | some next => exact pauses _ _ _ (fun w => rest next rfl _ w _ sameStat sameHashed)
      | ok stored =>
          obtain ⟨item, content, found, kind, digested⟩ := truthful _ _ _ _ _ _ _ _ uploaded
          refine rewriting_call.mpr ?_
          rintro disk' answer after ⟨rfl, answered⟩
          have refused (shown : Shown) (w : World) (sameStat : shown.stat = stat)
              (sameHashed : shown.hashed = some hashed)
              : Always env.rewriting (fun _ => True)
                  (uploadAttempt.orNext retry again
                    (.msg ("mismatch md5 détecté post-upload après "
                      ++ toString retry.maxAttempts ++ " essais"))
                    (some stored.driveId))
                  (w, shown)
                  (fun result last =>
                    ∀ value, result = .ok value → Verified env path stat hashed value last.2) := by
            cases again with
            | none => exact ⟨trivial, by rintro _ ⟨⟩⟩
            | some next =>
                exact pauses _ _ _ (fun w => rest next rfl _ w _ sameStat sameHashed)
          have kept : some (shown.hashed.getD disk') = some hashed := by simp [sameHashed]
          cases read : disk'.read path with
          | none =>
              simp only [read] at answered
              obtain ⟨error, rfl⟩ := answered
              exact refused _ _ sameStat kept
          | some content' =>
              simp only [read] at answered
              subst answered
              by_cases equal : env.md5 content' = stored.md5Checksum
              · simp only [Prog.bind, equal, if_true]
                refine ⟨trivial, ?_⟩
                rintro _ ⟨⟩
                exact ⟨sameStat, kept, ⟨disk, remote, item, content, rfl, found, kind, digested⟩,
                  ⟨disk', content', rfl, read, equal⟩⟩
              · simp only [Prog.bind, equal, if_false]
                exact refused _ _ sameStat kept

/-- The whole loop, by induction on the attempts left. -/
theorem rewriting_uploadLoop (truthful : env.DigestsStored) {retry : RetryConfig}
    {parentId : DriveId} {fileName : String} {left : Nat} {existing : Option DriveId} (w : World)
    (shown : Shown) (sameStat : shown.stat = stat) (sameHashed : shown.hashed = some hashed)
    : Always env.rewriting (fun _ => True)
        (uploadLoop retry path parentId fileName existing left) (w, shown)
        (fun result last =>
          ∀ value, result = .ok value → Verified env path stat hashed value last.2) := by
  induction left generalizing existing w shown with
  | zero => exact rewriting_uploadAttempt truthful (by rintro _ ⟨⟩) w shown sameStat sameHashed
  | succ left ih =>
      refine rewriting_uploadAttempt truthful ?_ w shown sameStat sameHashed
      rintro next ⟨⟩ id w shown sameStat sameHashed
      exact ih w shown sameStat sameHashed

end Loop

-----------------------------------------------------------------------------------------
-- The row of an upload
-----------------------------------------------------------------------------------------

/-- The row describes the upload: its hash is the digest of what was stored, and its time is not
later than the file the upload was shown.
-/
def RowDescribes (env : Environment) (path : Path) (key : String) (last : World × Shown) : Prop :=
  ∀ disk result remote,
    last.2.upload = some (disk, result, remote)
    → ∃ columns item content,
        last.1.db.row key = some columns
        ∧ remote.item? result.driveId = some item ∧ item.kind = .file content
        ∧ columns.hash = env.md5 content
        ∧ ∀ metadata, disk.metadata path = some metadata → columns.mtime ≤ metadata.seconds

/-- The file that was hashed had the digest of the file read by the accepted check, and it was not
younger than the one the accepted upload was shown.
-/
structure Steady (env : Environment) (path : Path) (shown : Shown) : Prop where
  content
    : ∀ hashed verified content content',
        shown.hashed = some hashed → hashed.read path = some content
        → shown.verified = some verified → verified.read path = some content'
        → env.md5 content = env.md5 content'
  time
    : ∀ stat metadata disk result remote metadata',
        shown.stat = some stat → stat.metadata path = some metadata
        → shown.upload = some (disk, result, remote) → disk.metadata path = some metadata'
        → metadata.seconds ≤ metadata'.seconds

/-- A call that ends well after an upload has recorded what it stored exactly where the file was
steady.
-/
def RecordsUpload (env : Environment) (path : Path) (key : String) (result : Except Error Unit)
    (last : World × Shown)
    : Prop :=
  result = .ok () → last.2.upload ≠ none
  → (RowDescribes env path key last ↔ Steady env path last.2)

section Calls

variable {env : Environment} {ctx : EngineContext} {ignore : IgnoreMatcher} {primary : SyncPair}
  {path : Path}

/-- Committing an accepted upload. -/
theorem Verified.records {stat hashed : Disk} {metadata : Metadata} {content : List UInt8}
    {result : UploadResult} {shown : Shown} {key : String} {w : World}
    (verified : Verified env path (some stat) hashed result shown)
    (looked : stat.metadata path = some metadata) (read : hashed.read path = some content)
    (row : w.db.row key = some ⟨env.md5 content, metadata.seconds⟩)
    : RecordsUpload env path key (.ok ()) (w, shown) := by
  obtain ⟨sameStat, sameHashed, ⟨disk, remote, item, stored, upload, found, kind, digested⟩,
    disk', content', sameVerified, read', equal⟩ := verified
  intro _ _
  constructor
  · intro describes
    obtain ⟨columns, item', stored', row', found', kind', hash, time⟩ :=
      describes disk result remote upload
    obtain rfl := Option.some.inj (row.symm.trans row')
    obtain rfl := Option.some.inj (found.symm.trans found')
    obtain ⟨rfl⟩ : stored = stored' := by simpa [kind] using kind'
    refine ⟨?_, ?_⟩
    · rintro _ _ _ _ hashed' readHashed verified' readVerified
      obtain rfl := Option.some.inj (sameHashed.symm.trans hashed')
      obtain rfl := Option.some.inj (sameVerified.symm.trans verified')
      obtain rfl := Option.some.inj (read.symm.trans readHashed)
      obtain rfl := Option.some.inj (read'.symm.trans readVerified)
      rw [equal, digested]
      exact hash
    · rintro _ _ _ _ _ metadata' stat' looked' upload' shownMetadata
      obtain rfl := Option.some.inj (sameStat.symm.trans stat')
      obtain rfl := Option.some.inj (looked.symm.trans looked')
      obtain ⟨⟩ := upload.symm.trans upload'
      exact time metadata' shownMetadata
  · rintro ⟨sameContent, younger⟩ disk'' result' remote' upload'
    obtain ⟨⟩ := upload.symm.trans upload'
    refine ⟨_, item, stored, row, found, kind, ?_, ?_⟩
    · have same := sameContent _ _ _ _ sameHashed read sameVerified read'
      exact same.trans (equal.trans digested)
    · intro metadata' shownMetadata
      exact younger _ _ _ _ _ _ sameStat looked upload shownMetadata

/-- Whatever is written to the file while `sync_file` runs, a call that ends well after an upload
has recorded what the upload stored exactly where the file was steady between the accesses that
count.
-/
theorem row_describes_upload_iff (configured : ctx.cfg.getPrimaryPair = some primary)
    (truthful : env.DigestsStored) (w : World)
    : Always env.rewriting (fun _ => True) (syncFile ctx ignore path) (w, {})
        (RecordsUpload env path (keyOf primary path)) := by
  let key := keyOf primary path
  have failed (error : Error) (last : World × Shown)
      : RecordsUpload env path key (.error error) last := by rintro ⟨⟩
  have ended {w : World} {shown : Shown} (unsent : shown.upload = none)
      : Always env.rewriting (fun _ => True) (.done (.ok ())) (w, shown)
          (RecordsUpload env path key) :=
    ⟨trivial, fun _ sent => absurd unsent sent⟩
  have looks {f : Except Error Metadata → Eff Unit} {w : World} {shown : Shown}
      (rest
        : ∀ answer disk w,
            Always env.rewriting (fun _ => True) (f answer) (w, { shown with stat := some disk })
              (RecordsUpload env path key))
      : Always env.rewriting (fun _ => True) (ask (.metadata path) >>= f) (w, shown)
          (RecordsUpload env path key) :=
    rewriting_call.mpr (fun disk answer after _ => rest answer disk after)
  have recorded (test : FileEntry → Bool) : Uses Op.Unseen (syncFile.recorded key test) :=
    uses_recorded unseen_get unseen_lookup
  have committed {entry : FileEntry} {w : World} {shown : Shown}
      (rest
        : ∀ w : World, w.db.row entry.path = some ⟨entry.hash, entry.mtime⟩
          → RecordsUpload env path key (.ok ()) (w, shown))
      : Always env.rewriting (fun _ => True) (do propagate (← ask (.upsert entry))) (w, shown)
          (RecordsUpload env path key) := by
    refine rewriting_call.mpr ?_
    rintro disk answer after (⟨rfl, rfl⟩ | ⟨-, ⟨error, rfl⟩, -⟩)
    · refine ⟨trivial, rest _ ?_⟩
      rw [Database.row_upsert, if_pos rfl]
    · exact ⟨trivial, failed _ _⟩
  unfold syncFile
  refine looks (fun answer disk w => rewriting_propagate failed (fun stat _ => ?_))
  split
  · exact ended rfl
  refine looks (fun answer disk w => rewriting_propagate failed (fun metadata _ => ?_))
  split
  · exact ended rfl
  refine rewriting_propagate failed (fun primary' configured' => ?_)
  obtain rfl : primary = primary' := by simpa [configured, orError] using configured'
  refine rewriting_propagate failed (fun key' spelled => ?_)
  obtain rfl : key = key' := by simp [key, keyOf, spelled, Except.toOption]
  refine rewriting_mtime failed (fun stat shownStat w looked => ?_)
  refine rewriting_unseen (recorded _) failed (fun current w => ?_)
  split
  · exact ended rfl
  refine rewriting_unseen (uses_ask unseen_isCancelled) failed (fun stopped w => ?_)
  split
  · exact ended rfl
  refine rewriting_hashFile (fun hashed content w read => ?_) (fun error hashed w => ?_)
  · refine rewriting_unseen (recorded _) failed (fun touched w => ?_)
    split
    · exact committed (fun _ _ _ sent => absurd rfl sent)
    refine rewriting_propagate failed (fun fileName _ => ?_)
    refine rewriting_unseen (uses_folderId unseen_lookup) failed (fun parentId w => ?_)
    refine rewriting_unseen (uses_ask unseen_lookup) failed (fun existing w => ?_)
    refine rewriting_unseen (uses_ask unseen_report) failed (fun _ w => ?_)
    refine (rewriting_uploadLoop truthful w _ rfl rfl).bind ?_ (fun error last _ _ => failed _ _)
    rintro result ⟨w, shown⟩ - verified
    refine rewriting_unseen (uses_ask unseen_insert) failed (fun _ w => ?_)
    exact committed (fun w row => (verified result rfl).records looked read row)
  · refine rewriting_isFile (fun there disk w => ?_)
    split
    · exact ended rfl
    refine rewriting_unseen (uses_ask unseen_isCancelled) failed (fun stopped w => ?_)
    split
    · exact ended rfl
    · exact ⟨trivial, failed _ _⟩

end Calls

-----------------------------------------------------------------------------------------
-- A file rewritten before its upload
-----------------------------------------------------------------------------------------

/-- A provider that never fails digests what it stores. -/
theorem calm_digestsStored {md5 : List UInt8 → String} {root : DriveId}
    : (Environment.calm md5 root).DigestsStored := by
  intro path parent name existing disk remote result after answered
  simp only [Environment.calm, honestProvider] at answered
  split at answered
  · obtain ⟨⟨error, ⟨⟩⟩, -⟩ := answered
  · obtain ⟨fresh, -, answer, rfl⟩ := answered
    unfold Remote.upload at answer ⊢
    split at answer
    · cases answer
      exact ⟨_, _, by rw [Remote.item?_put, if_pos rfl], rfl, rfl⟩
    · split at answer
      · cases answer
        exact ⟨_, _, by rw [Remote.item?_put, if_pos rfl], rfl, rfl⟩
      · cases answer

/-- The file `a.txt`, with this content. -/
def draftDisk (content : List UInt8) : Disk :=
  .backup (.single (.utf8 "a.txt") OsString.proper_text) (fun _ => .file ⟨content, 0, true⟩)

def draftPath : Path := [.utf8 "backup", .utf8 "a.txt"]

/-- A digest that tells the two drafts apart. -/
def draftDigest (content : List UInt8) : String := if content = [2] then "2" else "1"

/-- One access of an execution during which the disk changes. -/
theorem reaches_rewriting {env : Environment} {α : Type} {op : Op} {next : op.Answer → Eff α}
    {w : World} {shown : Shown} {rest : Eff α} {last : World × Shown} (disk : Disk)
    (answer : op.Answer) (after : World) (served : env.sem op { w with disk } answer after)
    (tail
      : Reaches env.rewriting (next answer)
          (after, shown.note disk after.remote op answer) rest last)
    : Reaches env.rewriting (.call op next) (w, shown) rest last :=
  .step
    (show env.rewriting op (w, shown) answer (after, shown.note disk after.remote op answer) from
      ⟨disk, served, rfl⟩)
    tail

/-- The second draft is stored, and recorded under the digest of the first. -/
theorem rewritten_file_misrecorded
    : ¬ ∀ (env : Environment) ctx (ignore : IgnoreMatcher) (primary : SyncPair) (path : Path)
          (w : World),
          ctx.cfg.getPrimaryPair = some primary → env.DigestsStored
          → Always env.rewriting (fun _ => True) (syncFile ctx ignore path) (w, {})
              (fun result last =>
                result = .ok () → last.2.upload ≠ none
                → RowDescribes env path (keyOf primary path) last) := by
  intro claim
  have always := claim (.calm draftDigest "root")
      ⟨backupConfig, false⟩ .nothing backupPair draftPath
    { disk := draftDisk [1] } rfl calm_digestsStored
  have metadata (w : World)
      : (Environment.calm draftDigest "root").sem (.metadata draftPath)
          { w with disk := draftDisk [1] } (.ok ⟨false, true, 1, 0⟩)
          { w with disk := draftDisk [1] } := by
    refine ⟨rfl, ?_⟩
    rw [show (draftDisk [1]).metadata draftPath = some ⟨false, true, 1, 0⟩ by decide +kernel]
  have digest (w : World) (content : List UInt8)
      (read : (draftDisk content).read draftPath = some content)
      : (Environment.calm draftDigest "root").sem (.md5 draftPath)
          { w with disk := draftDisk content } (.ok (draftDigest content))
          { w with disk := draftDisk content } := by
    refine ⟨rfl, ?_⟩
    rw [read]
    rfl
  have uploads (w : World) (empty : w.remote = {})
      : (Environment.calm draftDigest "root").sem
          (.provider (.upload draftPath "root" "a.txt" none)) { w with disk := draftDisk [2] }
          (.ok ⟨"1", "2", 1⟩)
          { w with
            disk := draftDisk [2]
            remote := ({} : Remote).put "1" ⟨"a.txt", "root", .file [2], false⟩ } := by
    refine ⟨_, ?_, rfl⟩
    have read : (draftDisk [2]).read draftPath = some [2] := by decide +kernel
    simp only [Environment.calm, honestProvider, read, empty]
    exact ⟨"1", ⟨by decide, rfl, by simp [Remote.item?]⟩, rfl, rfl⟩
  have path
      : ∃ last,
          Reaches (Environment.calm draftDigest "root").rewriting
            (syncFile ⟨backupConfig, false⟩ .nothing draftPath)
            ({ disk := draftDisk [1] }, {}) (.done (.ok ())) last
          ∧ last.1.db.row "a.txt" = some ⟨"1", 0⟩
          ∧ last.2.upload
            = some (draftDisk [2], ⟨"1", "2", 1⟩,
                ({} : Remote).put "1" ⟨"a.txt", "root", .file [2], false⟩) := by
    refine ⟨({ disk := draftDisk [2]
               db := ({} : Database).upsert ⟨"a.txt", "1", 0⟩
               pathCache := ({} : PathCache).insert "a.txt" "1" "root"
               remote := ({} : Remote).put "1" ⟨"a.txt", "root", .file [2], false⟩
               tracker := { currentDir := "/backup", currentName := "a.txt", currentFileSize := 1 }
                 },
             { stat := some (draftDisk [1])
               hashed := some (draftDisk [1])
               upload := some (draftDisk [2], ⟨"1", "2", 1⟩,
                 ({} : Remote).put "1" ⟨"a.txt", "root", .file [2], false⟩)
               verified := some (draftDisk [2]) }), ?_, by decide +kernel, rfl⟩
    refine reaches_rewriting (draftDisk [1]) _ _ (metadata _) ?_
    refine reaches_rewriting (draftDisk [1]) _ _ (metadata _) ?_
    refine reaches_rewriting (draftDisk [1]) _ _ (metadata _) ?_
    refine reaches_rewriting (draftDisk [1]) (.ok none) _ (.inl ⟨rfl, rfl⟩) ?_
    refine reaches_rewriting (draftDisk [1]) false _ ⟨.inl rfl, rfl⟩ ?_
    refine reaches_rewriting (draftDisk [1]) _ _ (digest _ [1] (by decide +kernel)) ?_
    refine reaches_rewriting (draftDisk [1]) (.ok none) _ (.inl ⟨rfl, rfl⟩) ?_
    refine reaches_rewriting (draftDisk [1]) none _ ⟨rfl, rfl⟩ ?_
    refine reaches_rewriting (draftDisk [1]) () _ rfl ?_
    refine reaches_rewriting (draftDisk [1]) false _ ⟨.inl rfl, rfl⟩ ?_
    -- the second draft is saved here
    refine reaches_rewriting (draftDisk [2]) _ _ (uploads _ rfl) ?_
    refine reaches_rewriting (draftDisk [2]) _ _ (digest _ [2] (by decide +kernel)) ?_
    refine reaches_rewriting (draftDisk [2]) () _ rfl ?_
    refine reaches_rewriting (draftDisk [2]) (.ok ()) _ (.inl ⟨rfl, rfl⟩) ?_
    exact .refl
  obtain ⟨last, path, row, upload⟩ := path
  have describes := (always.reaches path).2 rfl (by rw [upload]; simp)
  obtain ⟨columns, item, content, row', found, kind, hash, -⟩ := describes _ _ _ upload
  have spelled : keyOf backupPair draftPath = "a.txt" := by decide +kernel
  rw [spelled, row] at row'
  obtain rfl := Option.some.inj row'
  rw [Remote.item?_put, if_pos rfl] at found
  obtain rfl := Option.some.inj found
  obtain ⟨⟩ : ([2] : List UInt8) = content := by simpa using kind
  exact absurd hash (by decide)

/-- Where nothing else is known of the file, the row of the first draft is as good as the file was
steady.
-/
theorem draft_recorded
    : Always (Environment.calm draftDigest "root").rewriting (fun _ => True)
        (syncFile ⟨backupConfig, false⟩ .nothing draftPath) ({ disk := draftDisk [1] }, {})
        (RecordsUpload (.calm draftDigest "root") draftPath "a.txt") := by
  have spelled : keyOf backupPair draftPath = "a.txt" := by decide +kernel
  exact spelled ▸ row_describes_upload_iff rfl calm_digestsStored _

end SyncGDrive
