import SyncGDrive.Loop.Reload

/-! Where the programs in flight come from: an awaited scan and a busy worker are begun with the
context of the engine, and go on as their programs say.
-/

namespace SyncGDrive

open Program

namespace SyncEngine

variable {host : Host} {e e' : SyncEngine} {label : Label} {site : ScanSite} {rest : Eff Unit}
  {worker : Worker} {allowed : Op → Prop}

-----------------------------------------------------------------------------------------
-- One step
-----------------------------------------------------------------------------------------

/-- The context of the scans is built once. -/
theorem Step.ctx_eq (step : Step host e label e') : e'.ctx = e.ctx := by
  rcases step.others with main | ⟨same, -⟩
  · by_cases applies : ∃ new, label = .command (.applyConfig new)
    · obtain ⟨new, rfl⟩ := applies
      rcases main.applies with ⟨-, rfl⟩ | ⟨-, -, same⟩
      · rfl
      · exact same
    · exact (main.employs (fun new same => applies ⟨new, same⟩)).2.1
  · exact same

/-- A scan that was awaited goes on, or is over. -/
theorem MainStep.scan_goes_on (step : MainStep host e label e') (busy : e.mode.Scanning)
    (mode : e'.mode = .scanning site rest)
    : (∃ op next answer,
        e.mode = .scanning site (.call op next) ∧ label = .main op ∧ rest = next answer)
      ∨ e.mode = .scanning site rest := by
  obtain ⟨before, program, here⟩ := busy
  have rests {e' : SyncEngine} (resting : ¬ e'.mode.Scanning) (mode : e'.mode = .scanning site rest)
      : False := resting ⟨_, _, mode⟩
  cases step with
  | @scan site' op next answer after found served =>
      cases mode
      exact .inl ⟨op, next, answer, found, rfl, rfl⟩
  | @scanned site' result found =>
      cases result with
      | ok value =>
          simp only [SyncEngine.scanned] at mode
          split at mode
          · exact (rests (afterScan_rests _ _) mode).elim
          · exact (rests (afterScan_rests _ _) mode).elim
      | error error =>
          simp only [SyncEngine.scanned] at mode
          split at mode
          · split at mode
            · cases mode
            · exact (rests (afterScan_rests _ _) mode).elim
          · split at mode
            · exact (rests (leave_rests _ _) mode).elim
            · exact (rests (afterScan_rests _ _) mode).elim
  | @interrupted site' program' cmd found listens biased =>
      have interrupts (status : EngineStatus) : ¬ (e.interrupt site' status).mode.Scanning :=
        afterScan_rests _ _
      cases cmd with
      | pause | openSettings => exact (rests (interrupts _) mode).elim
      | openHelp =>
          simp only [commandScanning] at mode
          split at mode
          · exact (rests (interrupts _) mode).elim
          · exact .inr mode
      | shutdown => exact (rests (leave_rests _ _) mode).elim
      | forceScan | applyConfig _ | resume => exact .inr mode
  | left found requested => exact (rests (leave_rests _ _) mode).elim
  | stopped found => rcases found with found | ⟨task, found⟩ <;> simp [here] at found
  | watching found | flush found | flushed found | paused found | command found
  | healthTick found | health found | reconnected found | rescanTick found | received found
  | spawned found =>
      rw [here] at found
      cases found

/-- The scan that is awaited after a step: a new one, the next part of the one before, or that
one itself.
-/
theorem Step.scan_from (step : Step host e label e') (mode : e'.mode = .scanning site rest)
    : (∃ ignore, rest = scan e.ctx ignore)
      ∨ (∃ op next answer,
          e.mode = .scanning site (.call op next) ∧ label = .main op ∧ rest = next answer)
      ∨ e.mode = .scanning site rest := by
  by_cases busy : e.mode.Scanning
  · refine .inr ?_
    rcases step.control with step | same | ended
    · exact step.scan_goes_on busy mode
    · exact .inr (same.mode.symm.trans mode)
    · exact absurd (ended.symm.trans mode) (by rintro ⟨⟩)
  · obtain ⟨ignore, -, fresh⟩ := (step.starts busy mode).2
    exact .inl ⟨ignore, fresh⟩

/-- How a worker comes to be what it is. -/
inductive WorkerFrom (e : SyncEngine) (worker : Worker) : Prop
  | same (member : worker ∈ e.workers)
  | spawned (stage : worker.stage = .spawned) (ctx : worker.ctx = ⟨e.cfg, e.ctx.dryRun⟩)
  | begun {before : Worker} {ignore : IgnoreMatcher} (member : before ∈ e.workers)
    (spawned : before.stage = .spawned)
    (become : worker = { before with stage := .handling (handle before.ctx ignore before.task) })
  | worked {before : Worker} {op : Op} {next : op.Answer → Eff Unit} {answer : op.Answer}
    (member : before ∈ e.workers) (handling : before.stage = .handling (.call op next))
    (become : worker = { before with stage := .handling (next answer) })

theorem WorkerStep.worker_from (step : WorkerStep host e label e')
    (member : worker ∈ e'.workers)
    : WorkerFrom e worker := by
  have retires {e : SyncEngine} {index : Nat} (member : worker ∈ (e.retire index).workers)
      : worker ∈ e.workers := by
    simp only [retire] at member
    split at member <;> exact List.mem_of_mem_eraseIdx member
  cases step with
  | spared => exact .same (retires member)
  | panicked => exact .same member
  | begun found spawned running compiled =>
      rcases List.mem_or_eq_of_mem_set member with earlier | become
      · exact .same earlier
      · exact .begun (List.mem_of_getElem? found) spawned become
  | worked found handling served =>
      rcases List.mem_or_eq_of_mem_set member with earlier | become
      · exact .same earlier
      · exact .worked (List.mem_of_getElem? found) handling become
  | @handled index before result found handling =>
      cases result with
      | ok value => exact .same (retires member)
      | error error =>
          simp only [SyncEngine.handled] at member
          split at member
          · have earlier := retires member
            exact .same earlier
          · exact .same (retires member)

theorem MainStep.worker_from (step : MainStep host e label e') (member : worker ∈ e'.workers)
    : WorkerFrom e worker := by
  cases step.touches with
  | none same => exact .same (same.workers ▸ member)
  | worked awaits served =>
      rcases awaits with ⟨site, next, -, rfl⟩ | ⟨next, -, rfl⟩ <;> exact .same member
  | @reloaded _ cfg answers missing mode same possible =>
      have workers := (reload_keeps e answers missing cfg).2.2.1
      rw [same.workers, workers] at member
      exact .same member
  | watching | received | unconfigured => exact .same member
  | spawned mode configured =>
      rcases List.mem_append.mp member with earlier | last
      · exact .same earlier
      · rw [List.mem_singleton.mp last]
        exact .spawned rfl rfl

theorem Step.worker_from (step : Step host e label e') (member : worker ∈ e'.workers)
    : WorkerFrom e worker := by
  cases step with
  | main step => exact step.worker_from member
  | worker alive step => exact step.worker_from member
  | dispatcher alive step => exact .same (step.workers ▸ member)
  | outside step => exact .same (step.workers ▸ member)

-----------------------------------------------------------------------------------------
-- Confined programs
-----------------------------------------------------------------------------------------

/-- The awaited scan and the workers request allowed operations only. -/
structure Confined (allowed : Op → Prop) (e : SyncEngine) : Prop where
  scan : ∀ site rest, e.mode = .scanning site rest → Uses allowed rest
  worker : ∀ worker ∈ e.workers, ∀ rest, worker.stage = .handling rest → Uses allowed rest

/-- They remain confined where every scan and every handling is. -/
theorem Confined.step (confined : Confined allowed e) (step : Step host e label e')
    (scans : ∀ ignore, Uses allowed (SyncGDrive.scan e.ctx ignore))
    (handles : ∀ worker ∈ e.workers, ∀ ignore, Uses allowed (handle worker.ctx ignore worker.task))
    : Confined allowed e' := by
  constructor
  · intro site rest mode
    rcases step.scan_from mode with ⟨ignore, rfl⟩ | ⟨op, next, answer, before, -, rfl⟩ | before
    · exact scans ignore
    · exact (confined.scan _ _ before).2 answer
    · exact confined.scan _ _ before
  · intro worker member rest handling
    cases step.worker_from member with
    | same member => exact confined.worker worker member rest handling
    | spawned stage ctx =>
        rw [stage] at handling
        cases handling
    | begun earlier spawned become =>
        subst become
        cases handling
        exact handles _ earlier _
    | worked earlier before become =>
        subst become
        cases handling
        exact (confined.worker _ earlier _ before).2 _

/-- What a confined engine requests is allowed, flushes and dispatchers apart. -/
theorem Confined.requests (confined : Confined allowed e) (programs : Programs e)
    (step : Step host e label e')
    : (∀ op, label = .main op → allowed op ∨ op.OfFlush)
      ∧ (∀ index op, label = .worker index op → allowed op)
      ∧ ∀ index op, label = .dispatcher index op → op.OfDispatcher := by
  refine ⟨?_, ?_, ?_⟩
  · rintro op rfl
    cases step with
    | main step =>
        cases step with
        | scan mode served => exact .inl (confined.scan _ _ mode).1
        | flush mode served =>
            have sound := programs.mode
            rw [mode] at sound
            exact .inr sound.1
    | worker alive step => cases step
    | dispatcher alive step => cases step
    | outside step => cases step
  · rintro index op rfl
    cases step with
    | main step => cases step
    | worker alive step =>
        cases step with
        | worked found handling served =>
            exact (confined.worker _ (List.mem_of_getElem? found) _ handling).1
    | dispatcher alive step => cases step
    | outside step => cases step
  · rintro index op rfl
    cases step with
    | main step => cases step
    | worker alive step => cases step
    | dispatcher alive step =>
        cases step with
        | worked found busy served =>
            have uses := programs.dispatcher _ (List.mem_of_getElem? found)
            rw [busy] at uses
            exact uses.1
    | outside step => cases step

end SyncEngine

end SyncGDrive
