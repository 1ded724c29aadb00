import SyncGDrive.Config
import SyncGDrive.Engine.Effects
import SyncGDrive.Program.Requests

/-! The engine's context, and what scans and workers share: retries and small reads. -/

namespace SyncGDrive

open Program

/-- `EngineContext`; the handles it holds are the world the programs run in. -/
structure EngineContext where
  cfg : AppConfig
  dryRun : Bool := false

/-- One turn of the loop of `retry`; `again` is the next one, while attempts are left. -/
def retryAttempt {α : Type} (backoff : Nat) (operation : Eff (Except Error α))
    (again : Option (Eff α))
    : Eff α := do
  if ← ask .isCancelled then throw (.msg "Annulé")
  else
    match ← operation with
    | .ok value => return value
    | .error error =>
        match again with
        | none => throw error
        | some next =>
            if ← ask (.sleep backoff) then throw (.msg "Annulé proprement pendant le retry")
            else next

/-- The loop of `retry`, with `left` attempts after the first. -/
def retryLoop {α : Type} (backoff : Nat) (operation : Eff (Except Error α)) : Nat → Eff α
  | 0 => retryAttempt backoff operation none
  | left + 1 => retryAttempt backoff operation (some (retryLoop backoff operation left))

/-- `retry`: at most `max_attempts` attempts, and at least one, a fixed delay apart. -/
def retry {α : Type} (cfg : AppConfig) (operation : Eff (Except Error α)) : Eff α :=
  retryLoop cfg.retry.initialBackoffMs operation (cfg.retry.maxAttempts - 1)

section Attempts

variable {State α : Type} {sem : Semantics effects State} {permitted : Op → State → Prop}
  {inv : State → Prop} {operation : Eff (Except Error α)} {state : State}
  {post : Except Error α → State → Prop}

/-- What is the case after an attempt. -/
def AfterAttempt (post : Except Error α → State → Prop) (failed : Error → State → Prop)
    : Except Error (Except Error α) → State → Prop
  | .ok (.ok value), last => post (.ok value) last
  | .ok (.error error), last => failed error last
  | .error error, last => post (.error error) last

/-- The rule for `retry`: `before` holds before an attempt, and `failed` after one that failed, each
with the number of attempts left after it. By induction on that number.
-/
theorem guarded_retry {cfg : AppConfig} (before : Nat → State → Prop)
    (failed : Nat → Error → State → Prop)
    (attempt
      : ∀ left state,
          before left state
          → permitted .isCancelled state
            ∧ ∀ cancelled after,
                sem .isCancelled state cancelled after
                → if cancelled = true then post (.error (.msg "Annulé")) after
                  else Guarded sem permitted operation after (AfterAttempt post (failed left)))
    (exhausted : ∀ error last, failed 0 error last → post (.error error) last)
    (paused
      : ∀ left error state,
          failed (left + 1) error state
          → permitted (.sleep cfg.retry.initialBackoffMs) state
            ∧ ∀ stopped after,
                sem (.sleep cfg.retry.initialBackoffMs) state stopped after
                → if stopped = true then
                    post (.error (.msg "Annulé proprement pendant le retry")) after
                  else before left after)
    (start : before (cfg.retry.maxAttempts - 1) state)
    : Guarded sem permitted (retry cfg operation) state post := by
  have turn (left : Nat) (again : Option (Eff α)) (state : State) (here : before left state)
      (onward
        : ∀ error last,
            failed left error last
            → match again with
              | none => post (.error error) last
              | some next =>
                  permitted (.sleep cfg.retry.initialBackoffMs) last
                  ∧ ∀ stopped after,
                      sem (.sleep cfg.retry.initialBackoffMs) last stopped after
                      → if stopped = true then
                          post (.error (.msg "Annulé proprement pendant le retry")) after
                        else Guarded sem permitted next after post)
      : Guarded sem permitted (retryAttempt cfg.retry.initialBackoffMs operation again) state
          post := by
    obtain ⟨asked, checked⟩ := attempt left state here
    refine ⟨asked, fun cancelled after served => ?_⟩
    have checked := checked cancelled after served
    cases cancelled with
    | true => exact checked
    | false =>
        apply Guarded.bind checked
        · intro answer last tried
          cases answer with
          | ok value => exact tried
          | error error =>
              have onward := onward error last tried
              cases again with
              | none => exact onward
              | some next =>
                  refine ⟨onward.1, fun stopped after slept => ?_⟩
                  have resumed := onward.2 stopped after slept
                  cases stopped <;> exact resumed
        · exact fun _ _ tried => tried
  unfold retry
  generalize cfg.retry.maxAttempts - 1 = left at start
  induction left generalizing state with
  | zero => exact turn 0 none state start exhausted
  | succ left ih =>
      apply turn (left + 1) _ state start
      intro error last failing
      obtain ⟨asked, slept⟩ := paused left error last failing
      refine ⟨asked, fun stopped after served => ?_⟩
      have slept := slept stopped after served
      cases stopped with
      | true => exact slept
      | false => exact ih slept

/-- The same with an invariant. -/
theorem always_retry {cfg : AppConfig} (before : Nat → State → Prop)
    (failed : Nat → Error → State → Prop)
    (attempt
      : ∀ left state,
          before left state
          → inv state
            ∧ ∀ cancelled after,
                sem .isCancelled state cancelled after
                → if cancelled = true then inv after ∧ post (.error (.msg "Annulé")) after
                  else Always sem inv operation after (AfterAttempt post (failed left)))
    (exhausted : ∀ error last, inv last → failed 0 error last → post (.error error) last)
    (paused
      : ∀ left error state,
          inv state
          → failed (left + 1) error state
          → ∀ stopped after,
              sem (.sleep cfg.retry.initialBackoffMs) state stopped after
              → if stopped = true then
                  inv after ∧ post (.error (.msg "Annulé proprement pendant le retry")) after
                else before left after)
    (start : before (cfg.retry.maxAttempts - 1) state)
    : Always sem inv (retry cfg operation) state post := by
  apply always_iff_guarded.mpr
  apply guarded_retry before (fun left error last => inv last ∧ failed left error last) _ _ _ start
  · intro left state here
    obtain ⟨holds, checked⟩ := attempt left state here
    refine ⟨holds, fun cancelled after served => ?_⟩
    have checked := checked cancelled after served
    cases cancelled with
    | true => exact checked
    | false =>
        apply (always_iff_guarded.mp checked).mono
        rintro (error | error | value) last tried <;> exact tried
  · intro error last failing
    exact ⟨failing.1, exhausted error last failing.1 failing.2⟩
  · intro left error state failing
    exact ⟨failing.1, paused left error state failing.1 failing.2⟩

end Attempts

/-- `Path::is_dir`. -/
def isDir (path : Path) : Eff Bool := do
  match ← ask (.metadata path) with
  | .ok metadata => return metadata.isDir
  | .error _ => return false

/-- `Path::is_file`. -/
def isFile (path : Path) : Eff Bool := do
  match ← ask (.metadata path) with
  | .ok metadata => return metadata.isFile
  | .error _ => return false

/-- The patterns exclude the path, as a worker asks them. -/
def Excluded (disk : Disk) (ignore : IgnoreMatcher) (path : Path) : Prop :=
  ignore.isIgnored path (disk.isDir path) = true

def reportStatus (status : EngineStatus) : Eff Unit := ask (.report (.status status))

/-- A status that is only sent now and then. -/
def reportWhen (due : Prop) [Decidable due] (status : EngineStatus) : Eff Unit :=
  if due then reportStatus status else pure ()

/-- Whole seconds of a time after the epoch. -/
def Metadata.seconds (metadata : Metadata) : Int := metadata.modified / 1000000000

end SyncGDrive
