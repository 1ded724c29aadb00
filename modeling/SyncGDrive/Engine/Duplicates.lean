import SyncGDrive.Engine.Calls
import SyncGDrive.Program.Notes

/-! How many remote items successive handlings of one file create: one for each handling that
stores something, until one of them has its upload accepted.
-/

namespace SyncGDrive

open Program

-----------------------------------------------------------------------------------------
-- The outcomes of a handling
-----------------------------------------------------------------------------------------

/-- What the provider and the disk answer while a file is synchronised. -/
inductive UploadEvent
  | uploaded (existingId : Option DriveId) (answer : Except Error UploadResult)
  | digested (answer : Except Error String)

/-- The answers of one handling, in order. -/
abbrev UploadLog : Type := List UploadEvent

def UploadLog.note : Noting effects UploadLog
  | .provider (.upload _ _ _ existingId), answer, log => log ++ [.uploaded existingId answer]
  | .md5 _, answer, log => log ++ [.digested answer]
  | _, _, log => log

/-- The calls without a known item that were answered `Ok`: each has created an item. -/
def creations : UploadLog → Nat
  | [] => 0
  | .uploaded none (.ok _) :: rest => creations rest + 1
  | _ :: rest => creations rest

/-- Some upload was answered `Ok`. -/
def stores : UploadLog → Bool
  | [] => false
  | .uploaded _ (.ok _) :: _ => true
  | _ :: rest => stores rest

/-- Some upload was answered with the digest that was read next. -/
def accepts : UploadLog → Bool
  | .uploaded _ (.ok result) :: .digested (.ok hash) :: rest =>
      decide (hash = result.md5Checksum) || accepts rest
  | _ :: rest => accepts rest
  | [] => false

/-- Nothing was sent. -/
def Idle (log : UploadLog) : Prop := ∀ event ∈ log, ∃ answer, event = .digested answer

/-- What was read before does not matter. -/
theorem Idle.append {log more : UploadLog} (idle : Idle log)
    : creations (log ++ more) = creations more ∧ stores (log ++ more) = stores more
      ∧ accepts (log ++ more) = accepts more := by
  induction log with
  | nil => exact ⟨rfl, rfl, rfl⟩
  | cons event rest ih =>
      obtain ⟨answer, rfl⟩ := idle event (by simp)
      exact ih (fun event member => idle event (by simp [member]))

/-- Nothing created, stored or accepted. -/
theorem Idle.nothing {log : UploadLog} (idle : Idle log)
    : creations log = 0 ∧ stores log = false ∧ accepts log = false := by
  have same := @Idle.append log [] idle
  rwa [List.append_nil] at same

-----------------------------------------------------------------------------------------
-- The upload loop
-----------------------------------------------------------------------------------------

section Loop

variable {env : Environment} {ctx : EngineContext} {ignore : IgnoreMatcher} {primary : SyncPair}
  {path : Path} {w : World} {α β : Type}

/-- The loop ends with a result where an upload is accepted; without a known item it has created
one where anything was stored.
-/
def Tried (cache : PathCache) (existing : Option DriveId) (log : UploadLog)
    (result : Except Error UploadResult) (last : World × UploadLog)
    : Prop :=
  last.1.pathCache = cache
  ∧ ∃ more,
      last.2 = log ++ more
      ∧ creations more = (if existing = none ∧ stores more = true then 1 else 0)
      ∧ (accepts more = true ↔ ∃ value, result = .ok value)

/-- What follows a failed attempt. -/
theorem Tried.after_failure {cache : PathCache} {existing : Option DriveId} {log : UploadLog}
    {error : Error} {result : Except Error UploadResult} {last : World × UploadLog}
    (later : Tried cache existing (log ++ [.uploaded existing (.error error)]) result last)
    : Tried cache existing log result last := by
  obtain ⟨same, more, spelled, created, accepted⟩ := later
  refine ⟨same, .uploaded existing (.error error) :: more, by simpa using spelled, ?_, accepted⟩
  cases existing <;> simpa [creations, stores] using created

/-- What follows an attempt that stored something else: its item is the target from then on. -/
theorem Tried.after_mismatch {cache : PathCache} {existing : Option DriveId} {log : UploadLog}
    {stored : UploadResult} {digest : Except Error String} {result : Except Error UploadResult}
    {last : World × UploadLog} (id : DriveId) (differs : digest ≠ .ok stored.md5Checksum)
    (later
      : Tried cache (some id) (log ++ [.uploaded existing (.ok stored), .digested digest]) result
          last)
    : Tried cache existing log result last := by
  obtain ⟨same, more, spelled, created, accepted⟩ := later
  refine ⟨same, .uploaded existing (.ok stored) :: .digested digest :: more, by simpa using spelled,
    ?_, ?_⟩
  · have none_created : creations more = 0 := by simpa using created
    cases existing <;> simp [creations, stores, none_created]
  · cases digest with
    | error error => exact accepted
    | ok hash =>
        have other : hash ≠ stored.md5Checksum := fun same => differs (by rw [same])
        simpa [accepts, other] using accepted

/-- The loop ends before another attempt. -/
theorem attempted_stopped {cache : PathCache} {existing : Option DriveId} {log : UploadLog}
    {error : Error} {last : World} (same : last.pathCache = cache)
    : Tried cache existing log (.error error) (last, log) :=
  ⟨same, [], (List.append_nil log).symm, by simp [creations, stores], by simp [accepts]⟩

/-- The wait between two attempts. -/
theorem always_pauseThen {retry : RetryConfig} {existing : Option DriveId} {next : Eff UploadResult}
    {state : World} {log : UploadLog}
    (rest
      : ∀ state : World,
          Always (noted env.sem UploadLog.note) (fun _ => True) next (state, log)
            (Tried state.pathCache existing log))
    : Always (noted env.sem UploadLog.note) (fun _ => True)
        (uploadAttempt.pauseThen retry next) (state, log)
        (Tried state.pathCache existing log) := by
  refine always_noted.mpr ⟨trivial, fun stopped slept served => ?_⟩
  have cache := (env.sem_keeps served).pathCache (by simp [Op.writes])
  rw [← cache]
  cases stopped with
  | true => exact ⟨trivial, attempted_stopped rfl⟩
  | false => exact rest slept

/-- One attempt of the loop, given what its next one does. -/
theorem always_uploadAttempt {retry : RetryConfig} {parentId : DriveId} {fileName : String}
    {existing : Option DriveId} {again : Option (Option DriveId → Eff UploadResult)}
    (rest
      : ∀ next ∈ again, ∀ id (state : World) (log : UploadLog),
          Always (noted env.sem UploadLog.note) (fun _ => True) (next id) (state, log)
            (Tried state.pathCache id log))
    (state : World) (log : UploadLog)
    : Always (noted env.sem UploadLog.note) (fun _ => True)
        (uploadAttempt retry path parentId fileName existing again) (state, log)
        (Tried state.pathCache existing log) := by
  refine always_noted.mpr ⟨trivial, fun stopped checked served => ?_⟩
  rw [← (env.sem_keeps served).pathCache (by simp [Op.writes])]
  cases stopped with
  | true => exact ⟨trivial, attempted_stopped rfl⟩
  | false =>
      refine always_noted.mpr ⟨trivial, fun answer sent served => ?_⟩
      rw [← (env.sem_keeps served).pathCache (by simp [Op.writes])]
      cases answer with
      | error error =>
          cases again with
          | none => exact ⟨trivial, (attempted_stopped rfl).after_failure⟩
          | some next =>
              refine (always_pauseThen (fun state => rest next rfl existing state _)).mono ?_
              exact fun _ _ _ later => later.after_failure
      | ok stored =>
          refine always_noted.mpr ⟨trivial, fun digest read served => ?_⟩
          rw [← (env.sem_keeps served).pathCache (by simp [Op.writes])]
          have refused (differs : digest ≠ .ok stored.md5Checksum)
              : Always (noted env.sem UploadLog.note) (fun _ => True)
                  (uploadAttempt.orNext retry again
                    (.msg ("mismatch md5 détecté post-upload après "
                      ++ toString retry.maxAttempts ++ " essais"))
                    (some stored.driveId))
                  (read, log ++ [.uploaded existing (.ok stored)] ++ [.digested digest])
                  (Tried read.pathCache existing log) := by
            rw [List.append_assoc]
            cases again with
            | none => exact ⟨trivial, (attempted_stopped rfl).after_mismatch stored.driveId differs⟩
            | some next =>
                refine (always_pauseThen (fun state => rest next rfl (some _) state _)).mono ?_
                exact fun _ _ _ later => later.after_mismatch _ differs
          cases digest with
          | error error => exact refused (by simp)
          | ok hash =>
              by_cases equal : hash = stored.md5Checksum
              · simp only [Prog.bind, equal, if_true]
                refine ⟨trivial, rfl, _, List.append_assoc .., ?_, ?_⟩
                · cases existing <;> simp [creations, stores]
                · simp [accepts]
              · simp only [Prog.bind, equal, if_false]
                exact refused (by simpa using equal)

/-- The whole loop, by induction on the attempts left. -/
theorem always_uploadLoop {retry : RetryConfig} {parentId : DriveId} {fileName : String}
    {left : Nat}
    {existing : Option DriveId} (state : World) (log : UploadLog)
    : Always (noted env.sem UploadLog.note) (fun _ => True)
        (uploadLoop retry path parentId fileName existing left) (state, log)
        (Tried state.pathCache existing log) := by
  induction left generalizing existing state log with
  | zero => exact always_uploadAttempt (by rintro _ ⟨⟩) state log
  | succ left ih =>
      refine always_uploadAttempt ?_ state log
      rintro next ⟨⟩ id state log
      exact ih state log

end Loop

-----------------------------------------------------------------------------------------
-- One handling
-----------------------------------------------------------------------------------------

/-- A handling creates an item where it stores something without a known one, and the cache knows
one from then on where an upload is accepted.
-/
structure HandledOnce (cache : PathCache) (key : String) (here : World × UploadLog) : Prop where
  created
    : creations here.2 = if cache.lookup key = none ∧ stores here.2 = true then 1 else 0
  cached
    : (here.1.pathCache.lookup key).isSome
      = ((cache.lookup key).isSome || accepts here.2)

/-- Nothing was sent, and nothing entered the cache. -/
def Before (cache : PathCache) (here : World × UploadLog) : Prop :=
  here.1.pathCache = cache ∧ Idle here.2

/-- The operations of `sync_file` before and after its uploads. -/
def Op.Aside (op : Op) : Prop :=
  op.writes ≠ some .pathCache
  ∧ ∀ path parent name existing, op ≠ .provider (.upload path parent name existing)

section Handling

variable {env : Environment} {ctx : EngineContext} {ignore : IgnoreMatcher} {primary : SyncPair}
  {path : Path} {cache : PathCache} {here : World × UploadLog} {α β : Type}

theorem Before.handled {key : String} (before : Before cache here)
    : HandledOnce cache key here := by
  obtain ⟨created, stored, accepted⟩ := before.2.nothing
  exact ⟨by simp [created, stored], by simp [before.1, accepted]⟩

theorem aside_metadata {path : Path} : Op.Aside (.metadata path) := ⟨by simp [Op.writes], by simp⟩

theorem aside_md5 {path : Path} : Op.Aside (.md5 path) := ⟨by simp [Op.writes], by simp⟩

theorem aside_get {key : String} : Op.Aside (.get key) := ⟨by simp [Op.writes], by simp⟩

theorem aside_lookup {key : String} : Op.Aside (.lookup key) := ⟨by simp [Op.writes], by simp⟩

theorem aside_upsert {entry : FileEntry}
    : Op.Aside (.upsert entry) := ⟨by simp [Op.writes], by simp⟩

theorem aside_isCancelled : Op.Aside .isCancelled := ⟨by simp [Op.writes], by simp⟩

/-- Before the uploads. -/
theorem always_aside {program : Eff α} (uses : Uses Op.Aside program) (before : Before cache here)
    : Always (noted env.sem UploadLog.note) (Before cache) program here (fun _ _ => True) := by
  refine uses.always ?_ before
  rintro op ⟨state, log⟩ answer ⟨after, _⟩ ⟨spares, sends⟩ ⟨same, idle⟩ ⟨served, rfl⟩
  refine ⟨((env.sem_keeps served).pathCache spares).trans same, ?_⟩
  cases op with
  | md5 path =>
      intro event member
      rcases List.mem_append.mp member with old | new
      · exact idle event old
      · exact ⟨answer, List.mem_singleton.mp new⟩
  | provider call =>
      cases call with
      | upload path parent name existing => exact absurd rfl (sends path parent name existing)
      | _ => exact idle
  | _ => exact idle

theorem always_aside_bind {program : Eff α} {f : α → Eff β}
    {post : Except Error β → World × UploadLog → Prop} (uses : Uses Op.Aside program)
    (before : Before cache here)
    (failed : ∀ error last, Before cache last → post (.error error) last)
    (rest
      : ∀ value middle,
          Before cache middle
          → Always (noted env.sem UploadLog.note) (fun _ => True) (f value) middle post)
    : Always (noted env.sem UploadLog.note) (fun _ => True) (program >>= f) here post :=
  (always_aside uses before).seq (fun _ _ => trivial)
    (fun value middle before _ => rest value middle before)
    (fun error last before _ => failed error last before)

/-- `sync_file`, whatever the provider answers. -/
theorem syncFile_handledOnce (configured : ctx.cfg.getPrimaryPair = some primary) (w : World)
    : Always (noted env.sem UploadLog.note) (fun _ => True) (syncFile ctx ignore path) (w, [])
        (fun _ last => HandledOnce w.pathCache (keyOf primary path) last) := by
  let post (_ : Except Error Unit) (last : World × UploadLog) : Prop :=
    HandledOnce w.pathCache (keyOf primary path) last
  have failed (error : Error) (last : World × UploadLog) (before : Before w.pathCache last)
      : post (.error error) last := before.handled
  have ended {here : World × UploadLog} (before : Before w.pathCache here)
      : Always (noted env.sem UploadLog.note) (fun _ => True) (.done (.ok ())) here post :=
    ⟨trivial, before.handled⟩
  have onward {α : Type} {answer : Except Error α} {f : α → Eff Unit} {here : World × UploadLog}
      (before : Before w.pathCache here)
      (rest
        : ∀ value, answer = .ok value
          → Always (noted env.sem UploadLog.note) (fun _ => True) (f value) here post)
      : Always (noted env.sem UploadLog.note) (fun _ => True)
          (propagate answer >>= f) here post := by
    cases answer with
    | ok value => exact rest value rfl
    | error error => exact ⟨trivial, failed error here before⟩
  unfold syncFile
  refine always_aside_bind (uses_ask aside_metadata) ⟨rfl, nofun⟩ failed
    (fun answer here before => ?_)
  refine onward before (fun stat _ => ?_)
  split
  · exact ended before
  refine always_aside_bind (uses_ask aside_metadata) before failed (fun answer here before => ?_)
  refine onward before (fun metadata _ => ?_)
  split
  · exact ended before
  refine onward before (fun primary' configured' => onward before (fun key spelled => ?_))
  obtain rfl : primary = primary' := by simpa [configured, orError] using configured'
  have sameKey : keyOf primary path = key := by
    simp [keyOf, spelled, Except.toOption]
  have recorded (test : FileEntry → Bool) : Uses Op.Aside (syncFile.recorded key test) :=
    uses_recorded aside_get aside_lookup
  refine always_aside_bind (uses_mtime aside_metadata) before failed (fun time here before => ?_)
  refine always_aside_bind (recorded _) before failed (fun current here before => ?_)
  split
  · exact ended before
  refine always_aside_bind (uses_ask aside_isCancelled) before failed
    (fun stopped here before => ?_)
  split
  · exact ended before
  refine always_aside_bind (Uses.bind (uses_ask aside_md5) (fun _ => uses_pure)) before failed
    (fun hashed here before => ?_)
  cases hashed with
  | error error =>
      refine always_aside_bind (uses_isFile aside_metadata) before failed
        (fun there here before => ?_)
      split
      · exact ended before
      refine always_aside_bind (uses_ask aside_isCancelled) before failed
        (fun stopped here before => ?_)
      split
      · exact ended before
      · exact ⟨trivial, failed error here before⟩
  | ok hash =>
      refine always_aside_bind (recorded _) before failed (fun touched here before => ?_)
      split
      · refine always_aside_bind (uses_ask aside_upsert) before failed
          (fun answer here before => ?_)
        cases answer with
        | ok value => exact ended before
        | error error => exact ⟨trivial, failed error here before⟩
      refine onward before (fun fileName _ => ?_)
      refine always_aside_bind (uses_folderId aside_lookup) before failed
        (fun parentId here before => ?_)
      obtain ⟨state, log⟩ := here
      refine always_noted.mpr ⟨trivial, ?_⟩
      rintro existing state' ⟨rfl, rfl⟩
      refine always_noted.mpr ⟨trivial, ?_⟩
      rintro ⟨⟩ reported rfl
      have cache (report : Report) := (World.report_pathCache _ report).trans before.1
      refine (always_uploadLoop _ log).bind ?_ ?_
      · rintro result ⟨sent, _⟩ - ⟨same, more, rfl, created, accepted⟩
        replace same := same.trans (cache _)
        rw [before.1] at created
        refine always_noted.mpr ⟨trivial, ?_⟩
        rintro ⟨⟩ inserted rfl
        refine always_noted.mpr ⟨trivial, fun answer written served => ?_⟩
        have kept := (env.sem_keeps served).pathCache (by simp [Op.writes])
        have handled : post (.ok ()) (written, log ++ more) := by
          obtain ⟨creationsSame, storesSame, acceptsSame⟩ := @Idle.append log more before.2
          refine ⟨?_, ?_⟩
          · simp only [creationsSame, storesSame, created, sameKey, Option.map_eq_none_iff]
          · rw [show written.pathCache = _ from kept, acceptsSame, accepted.mpr ⟨_, rfl⟩, sameKey]
            simp [PathCache.lookup_insert]
        cases answer with
        | ok value => exact ⟨trivial, handled⟩
        | error error => exact ⟨trivial, handled⟩
      · rintro error ⟨sent, _⟩ - ⟨same, more, rfl, created, accepted⟩
        replace same := same.trans (cache _)
        rw [before.1] at created
        obtain ⟨creationsSame, storesSame, acceptsSame⟩ := @Idle.append log more before.2
        have refused : accepts more = false := by simpa using accepted.not.mpr (by simp)
        refine ⟨?_, ?_⟩
        · simp only [creationsSame, storesSame, created, sameKey, Option.map_eq_none_iff]
        · simp only [show sent.pathCache = _ from same, acceptsSame, refused, Bool.or_false]

/-- And so does its handling; a simulation does nothing. -/
theorem handle_handledOnce (configured : ctx.cfg.getPrimaryPair = some primary) (w : World)
    : Always (noted env.sem UploadLog.note) (fun _ => True) (handle ctx ignore (.syncFile path))
        (w, []) (fun _ last => HandledOnce w.pathCache (keyOf primary path) last) := by
  unfold handle
  split
  · exact ⟨trivial, Before.handled ⟨rfl, nofun⟩⟩
  · exact syncFile_handledOnce configured w

end Handling

-----------------------------------------------------------------------------------------
-- Successive handlings
-----------------------------------------------------------------------------------------

/-- Handlings of one file, each with its answers. Between two of them anything may change but the
cache entry of the file: no scan comes in between, and no deletion or renaming of it.
-/
inductive Handlings (env : Environment) (ctx : EngineContext) (ignore : IgnoreMatcher)
    (primary : SyncPair) (path : Path) (start : World)
    : List UploadLog → World → Prop
  | start : Handlings env ctx ignore primary path start [] start
  | next {logs : List UploadLog} {before during after : World} {result : Except Error Unit}
    {log : UploadLog} (earlier : Handlings env ctx ignore primary path start logs before)
    (kept
      : during.pathCache.lookup (keyOf primary path) = before.pathCache.lookup (keyOf primary path))
    (handled
      : Reaches (noted env.sem UploadLog.note) (handle ctx ignore (.syncFile path)) (during, [])
          (.done result) (after, log))
    : Handlings env ctx ignore primary path start (logs ++ [log]) after

/-- Whenever a handling stores something and an earlier one has too, an upload of an earlier one was
accepted.
-/
def AcceptedBetween (logs : List UploadLog) : Prop :=
  ∀ front log back,
    logs = front ++ log :: back → stores log = true → (∃ earlier ∈ front, stores earlier = true)
    → ∃ earlier ∈ front, accepts earlier = true

/-- The items that the handlings have created. -/
def created (logs : List UploadLog) : Nat := (logs.map creations).sum

section Runs

variable {env : Environment} {ctx : EngineContext} {ignore : IgnoreMatcher} {primary : SyncPair}
  {path : Path} {start last : World} {logs : List UploadLog}

theorem acceptedBetween_append {log : UploadLog}
    : AcceptedBetween (logs ++ [log])
      ↔ AcceptedBetween logs
        ∧ (stores log = true → (∃ earlier ∈ logs, stores earlier = true)
          → ∃ earlier ∈ logs, accepts earlier = true) := by
  constructor
  · intro between
    refine ⟨fun front log' back split => ?_, between logs log [] rfl⟩
    exact between front log' (back ++ [log]) (by simp [split])
  · rintro ⟨between, last⟩ front log' back split
    rcases List.eq_nil_or_concat back with rfl | ⟨rest, final, rfl⟩
    · obtain ⟨rfl, same⟩ := List.append_inj' split rfl
      obtain rfl := (List.cons.inj same).1
      exact last
    · rw [List.concat_eq_append, ← List.cons_append, ← List.append_assoc] at split
      exact between front log' rest (List.append_inj' split rfl).1

theorem created_append {log : UploadLog}
    : created (logs ++ [log]) = created logs + creations log := by
  simp [created]

/-- The cache knows an item once an upload was accepted, by induction on the run. -/
theorem Handlings.known (configured : ctx.cfg.getPrimaryPair = some primary)
    (run : Handlings env ctx ignore primary path start logs last)
    : (last.pathCache.lookup (keyOf primary path)).isSome
      = ((start.pathCache.lookup (keyOf primary path)).isSome || logs.any accepts) := by
  induction run with
  | start => simp
  | @next logs before during after result log earlier kept handled ih =>
      have once := ((handle_handledOnce configured during).reaches handled).2
      rw [once.cached, kept, ih, List.any_append, Bool.or_assoc]
      simp

/-- What one more handling creates. -/
theorem Handlings.creates (configured : ctx.cfg.getPrimaryPair = some primary)
    (run : Handlings env ctx ignore primary path start logs last) {during after : World}
    (kept
      : during.pathCache.lookup (keyOf primary path) = last.pathCache.lookup (keyOf primary path))
    {result : Except Error Unit} {log : UploadLog}
    (handled
      : Reaches (noted env.sem UploadLog.note) (handle ctx ignore (.syncFile path)) (during, [])
          (.done result) (after, log))
    : creations log
      = if start.pathCache.lookup (keyOf primary path) = none ∧ logs.any accepts = false
            ∧ stores log = true then 1 else 0 := by
  have once := ((handle_handledOnce configured during).reaches handled).2
  have known := run.known configured
  have uncached
      : last.pathCache.lookup (keyOf primary path) = none
        ↔ start.pathCache.lookup (keyOf primary path) = none ∧ logs.any accepts = false := by
    rw [← Option.isNone_iff_eq_none, ← Option.isNone_iff_eq_none, ← Option.not_isSome,
      ← Option.not_isSome, known]
    simp
  rw [once.created, kept]
  simp only [uncached, and_assoc]

/-- With a known item nothing is created, by induction on the run. -/
theorem Handlings.created_known (configured : ctx.cfg.getPrimaryPair = some primary)
    (run : Handlings env ctx ignore primary path start logs last)
    (cached : start.pathCache.lookup (keyOf primary path) ≠ none)
    : created logs = 0 := by
  induction run with
  | start => rfl
  | next earlier kept handled ih =>
      rw [created_append, ih, earlier.creates configured kept handled]
      simp [cached]

/-- While no upload was accepted, every handling that stored something created an item, by
induction on the run.
-/
theorem Handlings.created_unaccepted (configured : ctx.cfg.getPrimaryPair = some primary)
    (run : Handlings env ctx ignore primary path start logs last)
    (uncached : start.pathCache.lookup (keyOf primary path) = none)
    (unaccepted : logs.any accepts = false)
    : created logs = (logs.filter stores).length := by
  induction run with
  | start => rfl
  | @next logs before during after result log earlier kept handled ih =>
      rw [List.any_append, Bool.or_eq_false_iff] at unaccepted
      rw [created_append, ih unaccepted.1, earlier.creates configured kept handled,
        List.filter_append, List.length_append]
      by_cases stored : stores log = true <;> simp [uncached, unaccepted.1, stored]

/-- However many handlings fail, they create at most one item exactly where an item was known, or
whatever is stored again comes after an accepted upload.
-/
theorem handlings_create_once_iff (configured : ctx.cfg.getPrimaryPair = some primary)
    (run : Handlings env ctx ignore primary path start logs last)
    : created logs ≤ 1
      ↔ start.pathCache.lookup (keyOf primary path) ≠ none ∨ AcceptedBetween logs := by
  by_cases cached : start.pathCache.lookup (keyOf primary path) = none
  · simp only [cached, ne_eq, not_true_eq_false, false_or]
    induction run with
    | start =>
        refine iff_of_true (Nat.zero_le 1) ?_
        rintro front log back split
        simp at split
    | @next logs before during after result log earlier kept handled ih =>
        have creates := earlier.creates configured kept handled
        rw [acceptedBetween_append, ← ih, created_append, creates]
        cases accepted : logs.any accepts with
        | true =>
            obtain ⟨between, member, accepts⟩ := List.any_eq_true.mp accepted
            simp only [Bool.true_eq_false, false_and, and_false, if_false, Nat.add_zero]
            exact ⟨fun few => ⟨few, fun _ _ => ⟨between, member, accepts⟩⟩, And.left⟩
        | false =>
            have none_accepted : ¬ ∃ earlier ∈ logs, accepts earlier = true := by
              simpa using accepted
            rw [earlier.created_unaccepted configured cached accepted]
            by_cases stored : stores log = true
            · have empty
                  : (logs.filter stores).length = 0
                      ↔ ¬ ∃ earlier ∈ logs, stores earlier = true := by
                simp
              simp only [cached, stored, and_self, if_true, none_accepted, imp_false,
                true_implies, ← empty]
              omega
            · simp [stored]
  · exact iff_of_true (by rw [run.created_known configured cached]; exact Nat.zero_le 1)
      (.inl cached)

end Runs

-----------------------------------------------------------------------------------------
-- A provider that loses the bytes
-----------------------------------------------------------------------------------------

/-- Every upload stores an empty file, and answers with the digest of what it has stored. -/
def Environment.truncating : Environment where
  md5 content := if content = [] then "0" else "1"
  provider
    | .upload _ parent name existing, _, remote, answer, after =>
        ∃ fresh,
          remote.item? fresh = none
          ∧ answer = (remote.upload fresh parent name existing []).1.map (fun id => ⟨id, "0", 0⟩)
          ∧ after = (remote.upload fresh parent name existing []).2
    | _, _, remote, _, after => after = remote
  faults _ := False

/-- One attempt for each task. -/
def oneAttempt : AppConfig := { backupConfig with retry := { maxAttempts := 1 } }

def newFileDisk : Disk :=
  .backup (.single (.utf8 "a.txt") OsString.proper_text) (fun _ => .file ⟨[1], 0, true⟩)

/-- One file, known to nobody. -/
def newFileWorld (remote : Remote) (tracker : ProgressTracker) : World where
  disk := newFileDisk
  remote
  tracker

def newFile : Path := [.utf8 "backup", .utf8 "a.txt"]

/-- The answers of a handling whose only upload was not accepted. -/
def truncatedLog (fresh : DriveId) : UploadLog :=
  [.digested (.ok "1"), .uploaded none (.ok ⟨fresh, "0", 0⟩), .digested (.ok "1")]

theorem sem_digest {env : Environment} {w : World} (disk : w.disk = newFileDisk)
    : env.sem (.md5 newFile) w (.ok (env.md5 [1])) w := by
  refine ⟨rfl, ?_⟩
  rw [disk, show newFileDisk.read newFile = some [1] by decide +kernel]

/-- Where the row does not know the file, its handling comes to the upload. -/
theorem reaches_newUpload (env : Environment) {w : World} (disk : w.disk = newFileDisk)
    (unrecorded : w.db.get "a.txt" = none) (running : w.shutdown = false)
    : ∃ tracker,
        Reaches (noted env.sem UploadLog.note)
          (handle ⟨oneAttempt, false⟩ .nothing (.syncFile newFile)) (w, [])
          (uploading ⟨oneAttempt, false⟩ newFile "a.txt" (env.md5 [1]) 0 "root" "a.txt"
            ((w.pathCache.lookup "a.txt").map CacheEntry.driveId))
          ({ w with tracker }, [.digested (.ok (env.md5 [1]))]) := by
  have metadata : env.sem (.metadata newFile) w (.ok ⟨false, true, 1, 0⟩) w := by
    refine ⟨rfl, ?_⟩
    rw [disk, show newFileDisk.metadata newFile = some ⟨false, true, 1, 0⟩ by decide +kernel]
  have row : env.sem (.get "a.txt") w (.ok none) w := .inl ⟨by rw [unrecorded], rfl⟩
  have going : env.sem .isCancelled w false w := ⟨.inl rfl, running.symm⟩
  refine ⟨{ w.tracker with currentDir := "/backup", currentName := "a.txt", currentFileSize := 1 },
    ?_⟩
  refine reaches_noted_call _ _ metadata ?_
  refine reaches_noted_call _ _ metadata ?_
  refine reaches_noted_call _ _ metadata ?_
  refine reaches_noted_call _ _ row ?_
  refine reaches_noted_call false w going ?_
  refine reaches_noted_call _ _ (sem_digest disk) ?_
  refine reaches_noted_call _ _ row ?_
  refine reaches_noted_call _ w ⟨rfl, rfl⟩ ?_
  exact reaches_noted_call () _ rfl .refl


/-- One handling creates an item, and the cache does not learn of it. -/
theorem reaches_truncated (remote : Remote) (tracker : ProgressTracker) {fresh : DriveId}
    (unknown : remote.item? fresh = none)
    : ∃ tracker',
        Reaches (noted Environment.truncating.sem UploadLog.note)
          (handle ⟨oneAttempt, false⟩ .nothing (.syncFile newFile))
          (newFileWorld remote tracker, [])
          (.done (.error
            (.msg ("mismatch md5 détecté post-upload après " ++ toString 1 ++ " essais"))))
          (newFileWorld (remote.put fresh ⟨"a.txt", "root", .file [], false⟩) tracker',
            truncatedLog fresh) := by
  obtain ⟨tracker', comes⟩ :=
    @reaches_newUpload .truncating (newFileWorld remote tracker) rfl rfl rfl
  refine ⟨tracker', comes.trans ?_⟩
  refine reaches_noted_call false _ ⟨.inl rfl, rfl⟩ ?_
  refine reaches_noted_call (.ok ⟨fresh, "0", 0⟩) _ ⟨_, ⟨fresh, unknown, rfl, rfl⟩, rfl⟩ ?_
  exact reaches_noted_call _ _ (sem_digest rfl) .refl

/-- The first handling of the file. -/
theorem first_handling
    : ∃ tracker,
        Handlings .truncating ⟨oneAttempt, false⟩ .nothing backupPair newFile (newFileWorld {} {})
          [truncatedLog "1"]
          (newFileWorld (({} : Remote).put "1" ⟨"a.txt", "root", .file [], false⟩) tracker) := by
  obtain ⟨tracker, handled⟩ := @reaches_truncated {} {} "1" (by decide)
  exact ⟨tracker, .next .start rfl handled⟩

/-- Two handlings that fail create two items. -/
theorem failing_uploads_duplicate
    : ¬ ∀ (env : Environment) ctx (ignore : IgnoreMatcher) (primary : SyncPair) (path : Path)
          (start last : World) (logs : List UploadLog),
          ctx.cfg.getPrimaryPair = some primary
          → start.pathCache.lookup (keyOf primary path) = none
          → Handlings env ctx ignore primary path start logs last
          → created logs ≤ 1 := by
  intro claim
  obtain ⟨tracker, first⟩ := first_handling
  obtain ⟨tracker', handled⟩ :=
    @reaches_truncated (({} : Remote).put "1" ⟨"a.txt", "root", .file [], false⟩) tracker "2"
      (by decide)
  have few := claim _ _ _ _ _ _ _ _ rfl rfl (.next first rfl handled)
  exact absurd few (by decide)

-----------------------------------------------------------------------------------------
-- A provider that refuses uploads
-----------------------------------------------------------------------------------------

/-- Uploads are refused, or store the whole file. -/
def Environment.unsteady : Environment where
  md5 content := if content = [] then "0" else "1"
  provider
    | .upload _ parent name existing, _, remote, answer, after =>
        answer = .error (.msg "503") ∧ after = remote
        ∨ ∃ fresh,
            remote.item? fresh = none
            ∧ answer
              = (remote.upload fresh parent name existing [1]).1.map (fun id => ⟨id, "1", 1⟩)
            ∧ after = (remote.upload fresh parent name existing [1]).2
    | _, _, remote, _, after => after = remote
  faults _ := False

/-- The answers of a handling whose upload is refused, and of one whose upload is accepted. -/
def refusedLog : UploadLog := [.digested (.ok "1"), .uploaded none (.error (.msg "503"))]

def acceptedLog (existing : Option DriveId) : UploadLog :=
  [.digested (.ok "1"), .uploaded existing (.ok ⟨"1", "1", 1⟩), .digested (.ok "1")]

/-- An upload that is refused leaves everything as it was. -/
theorem reaches_refused (w : World) (log : UploadLog) (running : w.shutdown = false)
    : Reaches (noted Environment.unsteady.sem UploadLog.note)
        (uploading ⟨oneAttempt, false⟩ newFile "a.txt" "1" 0 "root" "a.txt" none) (w, log)
        (.done (.error (.msg ("upload a échoué: " ++ "503"))))
        (w, log ++ [.uploaded none (.error (.msg "503"))]) := by
  refine reaches_noted_call false w ⟨.inl rfl, running.symm⟩ ?_
  exact reaches_noted_call (.error (.msg "503")) w ⟨_, .inl ⟨rfl, rfl⟩, rfl⟩ .refl

/-- One that is accepted is remembered. -/
theorem reaches_accepted {w : World} {log : UploadLog} {existing : Option DriveId} {after : Remote}
    (disk : w.disk = newFileDisk) (running : w.shutdown = false) {fresh : DriveId}
    (unknown : w.remote.item? fresh = none)
    (stores : w.remote.upload fresh "root" "a.txt" existing [1] = (.ok "1", after))
    : Reaches (noted Environment.unsteady.sem UploadLog.note)
        (uploading ⟨oneAttempt, false⟩ newFile "a.txt" "1" 0 "root" "a.txt" existing) (w, log)
        (.done (.ok ()))
        ({ w with
            remote := after
            pathCache := w.pathCache.insert "a.txt" "1" "root"
            db := w.db.upsert ⟨"a.txt", "1", 0⟩ },
          log ++ [.uploaded existing (.ok ⟨"1", "1", 1⟩), .digested (.ok "1")]) := by
  refine reaches_noted_call false w ⟨.inl rfl, running.symm⟩ ?_
  refine reaches_noted_call (.ok ⟨"1", "1", 1⟩) { w with remote := after }
    ⟨after, .inr ⟨fresh, unknown, by rw [stores]; rfl, by rw [stores]⟩, rfl⟩ ?_
  refine reaches_noted_call (.ok "1") { w with remote := after } (sem_digest disk) ?_
  refine reaches_noted_call () _ rfl ?_
  have log' : ∀ more : UploadLog, (log ++ [.uploaded existing (.ok ⟨"1", "1", 1⟩)]) ++ more
      = log ++ (.uploaded existing (.ok ⟨"1", "1", 1⟩) :: more) := by simp
  exact log' [.digested (.ok "1")] ▸ reaches_noted_call (.ok ()) _ (.inl ⟨rfl, rfl⟩) .refl

/-- The file as it is stored. -/
def storedFile : Remote := ({} : Remote).put "1" ⟨"a.txt", "root", .file [1], false⟩

/-- Refused at first, the file is created by the second handling, and updated by a third one after
its row was lost.
-/
theorem retried_upload_creates_one
    : ∃ last,
        Handlings .unsteady ⟨oneAttempt, false⟩ .nothing backupPair newFile (newFileWorld {} {})
          [refusedLog, acceptedLog none, acceptedLog (some "1")] last
        ∧ created [refusedLog, acceptedLog none, acceptedLog (some "1")] ≤ 1 := by
  obtain ⟨tracker, comes⟩ := @reaches_newUpload .unsteady (newFileWorld {} {}) rfl rfl rfl
  have refused
      : Handlings .unsteady ⟨oneAttempt, false⟩ .nothing backupPair newFile (newFileWorld {} {})
          [refusedLog] _ :=
    .next .start rfl (comes.trans (reaches_refused _ _ rfl))
  have unknown : ({} : Remote).item? "1" = none ∧ storedFile.item? "2" = none := by decide
  obtain ⟨tracker, comes⟩ := @reaches_newUpload .unsteady (newFileWorld {} tracker) rfl rfl rfl
  have accepted :=
    Handlings.next refused rfl
      (comes.trans (@reaches_accepted _ _ none storedFile rfl rfl "1" unknown.1 rfl))
  let forgotten : World :=
    { newFileWorld storedFile tracker with
      pathCache := ({} : PathCache).insert "a.txt" "1" "root" }
  obtain ⟨tracker, comes⟩ := @reaches_newUpload .unsteady forgotten rfl rfl rfl
  have overwritten
      : storedFile.upload "2" "root" "a.txt" (some "1") [1] = (.ok "1", storedFile) :=
    rfl
  have updated :=
    @Handlings.next _ _ _ _ _ _ _ _ forgotten _ _ _ accepted rfl
      (comes.trans (@reaches_accepted _ _ (some "1") storedFile rfl rfl "2" unknown.2 overwritten))
  refine ⟨_, updated, (handlings_create_once_iff rfl updated).mpr (.inr ?_)⟩
  have refusedOnly : AcceptedBetween ([] ++ [refusedLog]) := by
    refine acceptedBetween_append.mpr ⟨fun front log back split => ?_, by rintro ⟨⟩⟩
    simp at split
  refine acceptedBetween_append.mpr ⟨acceptedBetween_append.mpr ⟨refusedOnly, ?_⟩, fun _ _ => ?_⟩
  · rintro - ⟨earlier, member, stored⟩
    obtain rfl := List.mem_singleton.mp member
    cases stored
  · exact ⟨acceptedLog none, List.mem_append_right _ (List.mem_singleton_self _), rfl⟩

end SyncGDrive
