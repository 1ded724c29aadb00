import SyncGDrive.Engine.Integrity
import SyncGDrive.Program.Notes

/-! How long the loops of attempts wait: a log of the calls and of the pauses between them, and when
the pauses that are made are those of an exponential backoff with a ceiling.
-/

namespace SyncGDrive

open Program

-----------------------------------------------------------------------------------------
-- Schedules
-----------------------------------------------------------------------------------------

/-- What a loop of attempts does for time to pass. -/
inductive AttemptEvent
  | call
  | pause (milliseconds : Nat)
  deriving DecidableEq

namespace AttemptEvent

/-- The calls that have been made. -/
def calls (log : List AttemptEvent) : Nat := log.count .call

/-- The log when a number of calls have failed and another is to begin: between call `k` and the
next one, a delay.
-/
def begun (delay : Nat → Nat) : Nat → List AttemptEvent
  | 0 => []
  | made + 1 => begun delay made ++ [.call, .pause (delay (made + 1))]

@[simp] theorem calls_append (log later : List AttemptEvent)
    : calls (log ++ later) = calls log + calls later := List.count_append

@[simp] theorem calls_begun (delay : Nat → Nat) (made : Nat)
    : calls (begun delay made) = made := by
  induction made with
  | zero => rfl
  | succ made ih =>
      rw [begun, calls_append, ih]
      rfl

/-- Two schedules agree when their delays do, by induction on the calls. -/
theorem begun_eq_iff {delay delay' : Nat → Nat} {made : Nat}
    : begun delay made = begun delay' made ↔ ∀ k, 1 ≤ k → k ≤ made → delay k = delay' k := by
  induction made with
  | zero =>
      constructor
      · intro _ k positive none_
        omega
      · intro _
        rfl
  | succ made ih =>
      have ends : begun delay (made + 1) = begun delay' (made + 1)
          ↔ begun delay made = begun delay' made ∧ delay (made + 1) = delay' (made + 1) := by
        simp only [begun]
        constructor
        · intro same
          obtain ⟨front, back⟩ := List.append_inj' same rfl
          refine ⟨front, ?_⟩
          simpa using back
        · intro same
          rw [same.1, same.2]
      rw [ends, ih]
      constructor
      · intro same k positive upTo
        rcases Nat.eq_or_lt_of_le upTo with rfl | earlier
        · exact same.2
        · exact same.1 k positive (by omega)
      · intro same
        exact ⟨fun k positive upTo => same k positive (by omega),
          same (made + 1) (by omega) (Nat.le_refl _)⟩

end AttemptEvent

open AttemptEvent

/-- Attempts have ended with the one of an index: all before it have failed, and it has not or is
the last one allowed.
-/
structure AttemptsEnd (delay : Nat → Nat) (maxAttempts : Nat) (failed : Nat → Prop) (last : Nat)
    (log : List AttemptEvent)
    : Prop where
  earlier : ∀ k < last, failed k
  within : last < max 1 maxAttempts
  ended : failed last → last + 1 = max 1 maxAttempts
  log_eq : log = begun delay last ++ [.call]

/-- The documented backoff after call `k`: it doubles from one call to the next, up to a ceiling.
-/
def RetryConfig.exponential (retry : RetryConfig) (k : Nat) : Nat :=
  min (retry.initialBackoffMs * 2 ^ (k - 1)) retry.maxBackoffMs

/-- A pause after a first failure stays under the ceiling, and a second one needs no doubling. -/
def RetryConfig.Unhurried (retry : RetryConfig) (failed : Nat → Prop) : Prop :=
  (2 ≤ retry.maxAttempts → failed 0 → retry.initialBackoffMs ≤ retry.maxBackoffMs)
  ∧ (3 ≤ retry.maxAttempts → failed 0 → failed 1
      → retry.initialBackoffMs = 0 ∨ retry.initialBackoffMs = retry.maxBackoffMs)

section Schedule

variable {retry : RetryConfig} {failed : Nat → Prop} {last : Nat} {log : List AttemptEvent}

/-- A fixed delay is the exponential one for so many calls. -/
theorem RetryConfig.fixed_eq_exponential
    : (∀ k, 1 ≤ k → k ≤ last → retry.initialBackoffMs = retry.exponential k)
      ↔ (1 ≤ last → retry.initialBackoffMs ≤ retry.maxBackoffMs)
        ∧ (2 ≤ last
            → retry.initialBackoffMs = 0 ∨ retry.initialBackoffMs = retry.maxBackoffMs) := by
  unfold RetryConfig.exponential
  constructor
  · intro same
    constructor
    · intro one
      have first := same 1 (Nat.le_refl _) one
      rw [Nat.sub_self, Nat.pow_zero, Nat.mul_one] at first
      omega
    · intro two
      have second := same 2 (by omega) two
      rw [show 2 - 1 = 1 from rfl, Nat.pow_one] at second
      omega
  · intro bounds k positive upTo
    have ceiling := bounds.1 (by omega)
    obtain rfl | later : k = 1 ∨ 2 ≤ k := by omega
    · rw [Nat.sub_self, Nat.pow_zero, Nat.mul_one]
      omega
    · have grown : retry.initialBackoffMs ≤ retry.initialBackoffMs * 2 ^ (k - 1) :=
        Nat.le_mul_of_pos_right _ (Nat.two_pow_pos _)
      rcases bounds.2 (by omega) with zero | top
      · rw [zero, Nat.zero_mul, Nat.zero_min]
      · omega

/-- How often attempts have failed is known from the first two. -/
theorem AttemptsEnd.unhurried_iff {delay : Nat → Nat}
    (attempted : AttemptsEnd delay retry.maxAttempts failed last log)
    : retry.Unhurried failed
      ↔ (1 ≤ last → retry.initialBackoffMs ≤ retry.maxBackoffMs)
        ∧ (2 ≤ last
            → retry.initialBackoffMs = 0 ∨ retry.initialBackoffMs = retry.maxBackoffMs) := by
  obtain ⟨earlier, within, ended, -⟩ := attempted
  have once : 1 ≤ last ↔ 2 ≤ retry.maxAttempts ∧ failed 0 := by
    constructor
    · intro one
      exact ⟨by omega, earlier 0 one⟩
    · intro fails
      obtain ⟨allowed, first⟩ := fails
      by_contra none_
      obtain rfl : last = 0 := by omega
      have := ended first
      omega
  have twice : 2 ≤ last ↔ 3 ≤ retry.maxAttempts ∧ failed 0 ∧ failed 1 := by
    constructor
    · intro two
      exact ⟨by omega, earlier 0 (by omega), earlier 1 two⟩
    · intro fails
      obtain ⟨allowed, first, second⟩ := fails
      by_contra few
      obtain rfl | rfl : last = 0 ∨ last = 1 := by omega
      · have := ended first
        omega
      · have := ended second
        omega
  rw [once, twice]
  simp only [RetryConfig.Unhurried, and_imp]

/-- Attempts with a fixed delay follow the exponential schedule exactly when they are unhurried.
-/
theorem AttemptsEnd.exponential_iff (made : Nat → Prop) (holds : made last)
    (attempted : AttemptsEnd (fun _ => retry.initialBackoffMs) retry.maxAttempts failed last log)
    : (∃ last', AttemptsEnd retry.exponential retry.maxAttempts failed last' log ∧ made last')
      ↔ retry.Unhurried failed := by
  rw [attempted.unhurried_iff, ← RetryConfig.fixed_eq_exponential, ← begun_eq_iff]
  constructor
  · intro paced
    obtain ⟨last', paced, -⟩ := paced
    have same : begun (fun _ => retry.initialBackoffMs) last ++ [.call]
        = begun retry.exponential last' ++ [.call] := attempted.log_eq.symm.trans paced.log_eq
    have front := List.append_cancel_right same
    have equal : last = last' := by
      have counts := congrArg calls front
      rwa [calls_begun, calls_begun] at counts
    rw [front, equal]
  · intro same
    refine ⟨last, ?_, holds⟩
    exact ⟨attempted.earlier, attempted.within, attempted.ended,
      attempted.log_eq.trans (congrArg (· ++ [.call]) same)⟩

end Schedule

-----------------------------------------------------------------------------------------
-- The loop of `retry`
-----------------------------------------------------------------------------------------

/-- The call of an index fails. -/
def Fails {α : Type} (outcomes : Nat → Except Error α) (k : Nat) : Prop :=
  ∃ error, outcomes k = .error error

/-- What `retry` owes: calls up to the first success or the last one allowed, with the documented
pauses, and the outcome of the last call.
-/
def RetryLaw {α : Type} (retry : RetryConfig) (outcomes : Nat → Except Error α)
    (result : Except Error α) (log : List AttemptEvent)
    : Prop :=
  ∃ last, AttemptsEnd retry.exponential retry.maxAttempts (Fails outcomes) last log
    ∧ result = outcomes last

/-- Nothing is stopped, and the pauses are written down. -/
structure Unstopped {State : Type} (sem : Semantics effects (State × List AttemptEvent))
    : Prop where
  running : ∀ here cancelled after, sem .isCancelled here cancelled after
    → cancelled = false ∧ after = here
  pauses : ∀ milliseconds here stopped after, sem (.sleep milliseconds) here stopped after
    → stopped = false ∧ after.2 = here.2 ++ [.pause milliseconds]

/-- The calls of an operation come out so one after the other, and are written down. -/
def ComesOut {State α : Type} (sem : Semantics effects (State × List AttemptEvent))
    (operation : Eff (Except Error α)) (outcomes : Nat → Except Error α)
    : Prop :=
  ∀ here, Always sem (fun _ => True) operation here (fun answer after =>
    answer = .ok (outcomes (calls here.2)) ∧ after.2 = here.2 ++ [.call])

/-- `retry` makes the calls it should, with a fixed delay between them. -/
theorem always_retry_fixed {State α : Type}
    {sem : Semantics effects (State × List AttemptEvent)} (unstopped : Unstopped sem)
    {operation : Eff (Except Error α)} {outcomes : Nat → Except Error α}
    (comesOut : ComesOut sem operation outcomes) (cfg : AppConfig) (state : State)
    : Always sem (fun _ => True) (SyncGDrive.retry cfg operation) (state, [])
        (fun result final =>
          ∃ last,
            AttemptsEnd (fun _ => cfg.retry.initialBackoffMs) cfg.retry.maxAttempts (Fails outcomes)
              last final.2
            ∧ result = outcomes last) := by
  let delay : Nat → Nat := fun _ => cfg.retry.initialBackoffMs
  let allowed := cfg.retry.maxAttempts - 1
  apply always_retry
    (fun left here =>
      left ≤ allowed ∧ (∀ k < allowed - left, Fails outcomes k)
      ∧ here.2 = begun delay (allowed - left))
    (fun left error here =>
      left ≤ allowed ∧ (∀ k < allowed - left, Fails outcomes k)
      ∧ outcomes (allowed - left) = .error error
      ∧ here.2 = begun delay (allowed - left) ++ [.call])
  · intro left here before
    obtain ⟨bound, earlier, log⟩ := before
    refine ⟨trivial, fun cancelled after served => ?_⟩
    obtain ⟨rfl, rfl⟩ := unstopped.running _ _ _ served
    rw [if_neg (by simp)]
    apply (comesOut after).mono
    intro answer done _ called
    obtain ⟨rfl, log'⟩ := called
    rw [log, calls_begun]
    rw [log] at log'
    cases outcome : outcomes (allowed - left) with
    | error error => exact ⟨bound, earlier, rfl, log'⟩
    | ok value =>
        refine ⟨allowed - left, ⟨earlier, by omega, ?_, log'⟩, outcome.symm⟩
        intro fails
        obtain ⟨error, failed⟩ := fails
        cases outcome.symm.trans failed
  · intro error final _ failing
    obtain ⟨-, earlier, failed, log⟩ := failing
    exact ⟨allowed, ⟨earlier, by omega, fun _ => by omega, log⟩, failed.symm⟩
  · intro left error here _ failing stopped after served
    obtain ⟨bound, earlier, failed, log⟩ := failing
    obtain ⟨rfl, paused⟩ := unstopped.pauses _ _ _ _ served
    rw [if_neg (by simp)]
    have next : allowed - left = allowed - (left + 1) + 1 := by omega
    refine ⟨by omega, ?_, ?_⟩
    · intro k earlierK
      rcases Nat.eq_or_lt_of_le (Nat.le_of_lt_succ (next ▸ earlierK)) with rfl | below
      · exact ⟨error, failed⟩
      · exact earlier k below
    · rw [paused, log, next, begun]
      simp [delay]
  · simp [allowed, begun]

-----------------------------------------------------------------------------------------
-- The upload loop
-----------------------------------------------------------------------------------------

/-- The calls and the pauses of the upload loop are written down. -/
def attemptNotes : Noting effects (List AttemptEvent)
  | .sleep milliseconds, _, log => log ++ [.pause milliseconds]
  | .provider (.upload ..), _, log => log ++ [.call]
  | _, _, log => log

/-- No upload of an index is verified. -/
def Attempts.Unverified (attempts : Attempts) (k : Nat) : Prop :=
  ∀ stored, ¬ attempts.Verified k stored

/-- What the upload loop owes: attempts up to the first that is verified or the last one allowed,
with the documented pauses.
-/
def UploadLaw (retry : RetryConfig) (attempts : Attempts) (result : Except Error UploadResult)
    (log : List AttemptEvent)
    : Prop :=
  ∃ last, AttemptsEnd retry.exponential retry.maxAttempts attempts.Unverified last log
    ∧ ∀ stored, result = .ok stored ↔ attempts.Verified last stored

section Uploads

variable {attempts : Attempts} {md5 : List UInt8 → String} {retry : RetryConfig} {path : Path}
  {parentId : DriveId} {fileName : String} {lastAttemptId : Option DriveId}
  {here : (World × List (Option DriveId)) × List AttemptEvent} {first left : Nat}

/-- So many attempts have been made, with a fixed delay behind each. -/
structure Paced (retry : RetryConfig) (attempts : Attempts) (first : Nat)
    (here : (World × List (Option DriveId)) × List AttemptEvent)
    : Prop where
  earlier : ∀ k < first, attempts.Unverified k
  sent : here.1.2.length = first
  log : here.2 = begun (fun _ => retry.initialBackoffMs) first

/-- How the loop ends that makes the attempts from an index on. -/
def PacedEnd (retry : RetryConfig) (attempts : Attempts) (first left : Nat)
    (result : Except Error UploadResult)
    (final : (World × List (Option DriveId)) × List AttemptEvent)
    : Prop :=
  ∃ last,
    (∀ k < last, attempts.Unverified k)
    ∧ last ≤ first + left
    ∧ (attempts.Unverified last → last = first + left)
    ∧ final.2 = begun (fun _ => retry.initialBackoffMs) last ++ [.call]
    ∧ ∀ stored, result = .ok stored ↔ attempts.Verified last stored

/-- What follows an attempt that is not verified: a pause, then the next attempt. -/
theorem always_unverified_paced {message : Error} (paced : Paced retry attempts first here)
    {sent : World × List (Option DriveId)} (longer : sent.2.length = first + 1)
    (unverified : attempts.Unverified first)
    {again : Option (Option DriveId → Eff UploadResult)} (exhausted : again = none → left = 0)
    (target : Option DriveId)
    (rest
      : ∀ next ∈ again, ∀ here,
          Paced retry attempts (first + 1) here
          → Always (noted (attempts.sem md5) attemptNotes) (fun _ => True) (next target) here
              (PacedEnd retry attempts first left))
    : Always (noted (attempts.sem md5) attemptNotes) (fun _ => True)
        (uploadAttempt.orNext retry again message target)
        (sent, here.2 ++ [.call]) (PacedEnd retry attempts first left) := by
  have upTo : ∀ k < first + 1, attempts.Unverified k := by
    intro k below
    rcases Nat.eq_or_lt_of_le (Nat.le_of_lt_succ below) with rfl | earlier
    · exact unverified
    · exact paced.earlier k earlier
  cases again with
  | none =>
      obtain rfl := exhausted rfl
      refine ⟨trivial, first, paced.earlier, Nat.le_refl _, fun _ => rfl, ?_, ?_⟩
      · rw [paced.log]
      · intro stored
        exact iff_of_false nofun (unverified stored)
  | some next =>
      apply always_noted.mpr
      refine ⟨trivial, fun stopped after served => ?_⟩
      obtain ⟨rfl, rfl⟩ := served
      apply rest next rfl
      exact ⟨upTo, longer, by simp [attemptNotes, paced.log, begun]⟩

/-- One attempt, given what the next one does. -/
theorem always_uploadAttempt_paced (paced : Paced retry attempts first here)
    {again : Option (Option DriveId → Eff UploadResult)} (exhausted : again = none → left = 0)
    (rest
      : ∀ next ∈ again, ∀ target here,
          Paced retry attempts (first + 1) here
          → Always (noted (attempts.sem md5) attemptNotes) (fun _ => True) (next target) here
              (PacedEnd retry attempts first left))
    : Always (noted (attempts.sem md5) attemptNotes) (fun _ => True)
        (uploadAttempt retry path parentId fileName lastAttemptId again) here
        (PacedEnd retry attempts first left) := by
  apply always_noted.mpr
  refine ⟨trivial, fun stopped after served => ?_⟩
  obtain ⟨rfl, rfl⟩ := served
  apply always_noted.mpr
  refine ⟨trivial, fun answer after served => ?_⟩
  obtain ⟨answered, remote, rfl⟩ := served
  have longer : (here.1.2 ++ [lastAttemptId]).length = first + 1 := by simp [paced.sent]
  rw [paced.sent] at answered
  cases answer with
  | error error =>
      have unverified : attempts.Unverified first := by
        intro stored verified
        cases answered.trans verified.1
      exact always_unverified_paced paced longer unverified exhausted _
        (fun next same here paced => rest next same _ here paced)
  | ok stored =>
      apply always_noted.mpr
      refine ⟨trivial, fun digest after served => ?_⟩
      obtain ⟨digested, rfl⟩ := served
      rw [longer, Nat.add_sub_cancel] at digested
      have refused (differs : digest ≠ .ok stored.md5Checksum) : attempts.Unverified first := by
        intro stored' verified
        obtain rfl := Except.ok.inj (answered.trans verified.1)
        exact differs (digested.trans verified.2)
      cases digest with
      | error error =>
          exact always_unverified_paced paced longer (refused nofun) exhausted _
            (fun next same here paced => rest next same _ here paced)
      | ok hash =>
          by_cases equal : hash = stored.md5Checksum
          · simp only [Prog.bind, equal, if_true]
            have verified : attempts.Verified first stored :=
              ⟨answered.symm, equal ▸ digested.symm⟩
            refine ⟨trivial, first, paced.earlier, Nat.le_add_right _ _, ?_, ?_, ?_⟩
            · exact fun unverified => absurd verified (unverified stored)
            · simp [attemptNotes, paced.log]
            · intro stored'
              constructor
              · intro same
                obtain rfl := Except.ok.inj same
                exact verified
              · intro verified'
                exact verified.1.symm.trans verified'.1
          · simp only [Prog.bind, equal, if_false]
            exact always_unverified_paced paced longer (refused (by simpa using equal)) exhausted _
              (fun next same here paced => rest next same _ here paced)

/-- The loop, by induction on the attempts left. -/
theorem always_uploadLoop_paced (paced : Paced retry attempts first here)
    : Always (noted (attempts.sem md5) attemptNotes) (fun _ => True)
        (uploadLoop retry path parentId fileName lastAttemptId left) here
        (PacedEnd retry attempts first left) := by
  induction left generalizing here first lastAttemptId with
  | zero => exact always_uploadAttempt_paced paced (fun _ => rfl) (fun _ => nofun)
  | succ left ih =>
      apply always_uploadAttempt_paced paced
      · exact nofun
      · intro next same target here paced
        cases same
        apply (ih paced).mono
        intro result final _ ends
        obtain ⟨last, earlier, within, ended, log, stored⟩ := ends
        refine ⟨last, earlier, by omega, ?_, log, stored⟩
        intro unverified
        rw [ended unverified]
        omega

end Uploads

-----------------------------------------------------------------------------------------
-- The law
-----------------------------------------------------------------------------------------

/-- Without a shutdown, `retry` and the upload loop keep to the documented backoff exactly when the
first pause stays under the ceiling and no second one has to grow.
-/
theorem retry_law_iff {State α : Type} {sem : Semantics effects (State × List AttemptEvent)}
    (unstopped : Unstopped sem) {operation : Eff (Except Error α)}
    {outcomes : Nat → Except Error α} (comesOut : ComesOut sem operation outcomes) (state : State)
    (attempts : Attempts) (md5 : List UInt8 → String) (cfg : AppConfig) (path : Path)
    (parentId : DriveId) (fileName : String) (existing : Option DriveId) (w : World)
    : Always sem (fun _ => True) (retry cfg operation) (state, [])
        (fun result final =>
          RetryLaw cfg.retry outcomes result final.2 ↔ cfg.retry.Unhurried (Fails outcomes))
      ∧ Always (noted (attempts.sem md5) attemptNotes) (fun _ => True)
          (uploadLoop cfg.retry path parentId fileName existing (cfg.retry.maxAttempts - 1))
          ((w, []), [])
          (fun result final =>
            UploadLaw cfg.retry attempts result final.2
            ↔ cfg.retry.Unhurried attempts.Unverified) := by
  constructor
  · apply (always_retry_fixed unstopped comesOut cfg state).mono
    intro result final _ ends
    obtain ⟨last, attempted, outcome⟩ := ends
    exact attempted.exponential_iff (fun last => result = outcomes last) outcome
  · have start : Paced cfg.retry attempts 0 ((w, []), []) := ⟨nofun, rfl, rfl⟩
    apply (always_uploadLoop_paced start).mono
    intro result final _ ends
    obtain ⟨last, earlier, within, ended, log, stored⟩ := ends
    have attempted
        : AttemptsEnd
            (fun _ => cfg.retry.initialBackoffMs) cfg.retry.maxAttempts attempts.Unverified
            last final.2 :=
      ⟨earlier, by omega, fun unverified => by have := ended unverified; omega, log⟩
    exact attempted.exponential_iff
      (fun last => ∀ stored, result = .ok stored ↔ attempts.Verified last stored) stored

/-- A world in which digests are made as scripted. -/
def scriptedSem (outcomes : Nat → Except Error String)
    : Semantics effects (Unit × List AttemptEvent)
  | .isCancelled, here, answer, after => answer = false ∧ after = here
  | .sleep milliseconds, here, answer, after =>
      answer = false ∧ after = (here.1, here.2 ++ [.pause milliseconds])
  | .md5 _, here, answer, after =>
      answer = outcomes (calls here.2) ∧ after = (here.1, here.2 ++ [.call])
  | _, here, _, after => after = here

theorem scriptedSem_unstopped (outcomes : Nat → Except Error String)
    : Unstopped (scriptedSem outcomes) := by
  constructor
  · intro here cancelled after served
    exact served
  · intro milliseconds here stopped after served
    exact ⟨served.1, congrArg Prod.snd served.2⟩

theorem scriptedSem_comesOut (outcomes : Nat → Except Error String) (path : Path)
    : ComesOut (scriptedSem outcomes) (ask (.md5 path)) outcomes := by
  intro here
  refine ⟨trivial, fun answer after served => ⟨trivial, ?_⟩⟩
  exact ⟨congrArg Except.ok served.1, congrArg Prod.snd served.2⟩

/-- The first call fails, and no other. -/
def oneTimeout (k : Nat) : Except Error String :=
  if k = 0 then .error (.msg "timeout") else .ok "digest"

/-- A single failure is followed by the documented pause. -/
theorem one_failure_paced
    : Always (scriptedSem oneTimeout) (fun _ => True) (retry {} (ask (.md5 []))) ((), [])
        (fun result final => RetryLaw {} oneTimeout result final.2) := by
  have law :=
    (retry_law_iff (scriptedSem_unstopped oneTimeout) (scriptedSem_comesOut oneTimeout []) ()
      ⟨fun _ => .error (.msg "timeout"), fun _ => .ok ""⟩ (fun _ => "") {} [] "" "" none
      { disk := .backup .empty (fun _ => .special) }).1
  apply law.mono
  intro result final _ iff
  apply iff.mpr
  constructor
  · intro _ _
    decide
  · intro _ _ fails
    obtain ⟨error, failed⟩ := fails
    cases failed

/-- After two failures the second pause is not twice the first. -/
theorem second_pause_not_doubled
    : ¬ Always (scriptedSem (fun _ => .error (.msg "timeout"))) (fun _ => True)
        (retry {} (ask (.md5 []))) ((), [])
        (fun result final =>
          RetryLaw {} (fun _ => .error (.msg "timeout")) result final.2) := by
  intro lawful
  have fixed := always_retry_fixed (scriptedSem_unstopped (fun _ => .error (.msg "timeout")))
    (scriptedSem_comesOut _ []) {} ()
  have served (op : Op) (here : Unit × List AttemptEvent)
      : ∃ answer after, scriptedSem (fun _ => .error (.msg "timeout")) op here answer after := by
    obtain ⟨answer, -⟩ :=
      Environment.steady_total (fun _ => "") op { disk := .backup .empty (fun _ => .special) }
    cases op with
    | isCancelled => exact ⟨false, here, rfl, rfl⟩
    | sleep milliseconds => exact ⟨false, _, rfl, rfl⟩
    | md5 path => exact ⟨_, _, rfl, rfl⟩
    | _ => exact ⟨answer, here, rfl⟩
  obtain ⟨result, final, -, lawful, last, attempted, outcome⟩ :=
    (lawful.and fixed).exists_run (fun op here _ => served op here)
  have unhurried := (attempted.exponential_iff (fun last => _ = _) outcome).mp lawful
  have second := unhurried.2 (by decide) ⟨_, rfl⟩ ⟨_, rfl⟩
  exact absurd second (by decide)

end SyncGDrive
