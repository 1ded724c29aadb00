import Mathlib.Data.List.Dedup
import SyncGDrive.Pacing.RateBound
import SyncGDrive.Remote.Answers

/-! The limiter behind its mutex, with the punishments that 429 answers ask for. An instant that
is not representable panics while the mutex is held, which poisons it for everyone.
-/

namespace SyncGDrive.ApiRateLimiter

open Timed

-----------------------------------------------------------------------------------------
-- The mutex
-----------------------------------------------------------------------------------------

inductive Panic
  | instantOverflow
  | poisonError
deriving DecidableEq

/-- The mutex of the limiter, poisoned once a thread has panicked while it held it. -/
structure Mutex where
  state : RateState
  poisoned : Bool := false
deriving DecidableEq

namespace Mutex

/-- A round of `acquire`. Without a limit it returns before the mutex. -/
def acquire (maxRps : ℕ) (now : ℚ) (mutex : Mutex) : Except Panic (Option ℚ) × Mutex :=
  if maxRps = 0 then
    (.ok none, mutex)
  else if mutex.poisoned then
    (.error .poisonError, mutex)
  else
    let (delay, state) := ApiRateLimiter.acquire maxRps now mutex.state
    (.ok delay, { mutex with state })

/-- `handle_rate_limit`, on a clock whose instants end with `latest`. -/
def handleRateLimit (latest now : ℚ) (retryAfterSecs : ℕ) (mutex : Mutex)
    : Except Panic Unit × Mutex :=
  if mutex.poisoned then
    (.error .poisonError, mutex)
  else if now + retryAfterSecs > latest then
    (.error .instantOverflow, { mutex with poisoned := true })
  else
    (.ok (), { mutex with state := ApiRateLimiter.handleRateLimit now retryAfterSecs mutex.state })

/-- `handle_429`: the time that the answer asks to wait. -/
def handle429 (latest now : ℚ) (retryAfter : Option (List UInt8)) (mutex : Mutex)
    : Except Panic (Option ℚ) × Mutex :=
  let wait := parseRetryAfter retryAfter
  let (result, mutex) := mutex.handleRateLimit latest now wait
  (result.map (fun _ => some (wait : ℚ)), mutex)

end Mutex

/-- What the tasks of the provider do with the limiter. -/
inductive Use
  | acquire (call : ℕ)
  | handle429 (retryAfter : Option (List UInt8))
deriving DecidableEq

/-- What a use answers, a time to wait if it asks for one, and leaves behind. -/
def serve (maxRps : ℕ) (latest : ℚ) : Machine ℚ Mutex Use (Except Panic (Option ℚ))
  | now, .acquire _, mutex => mutex.acquire maxRps now
  | now, .handle429 retryAfter, mutex => mutex.handle429 latest now retryAfter

/-- The uses of a new limiter. -/
def uses (maxRps : ℕ) (latest : ℚ) {start : ℚ} (schedule : Schedule Use start)
    : List (Visit ℚ Mutex Use) :=
  (serve maxRps latest).visits ⟨new maxRps start, false⟩ schedule.moments

variable {maxRps : ℕ} {latest now start wake : ℚ} {mutex : Mutex} {state : RateState} {call : ℕ}

/-- The use is a round of the call. -/
def ofCall (call : ℕ) (visit : Visit ℚ Mutex Use) : Bool :=
  visit.action = .acquire call

/-- The use is a round of `acquire` that lets its call go. -/
def passes (maxRps : ℕ) (latest : ℚ) (visit : Visit ℚ Mutex Use) : Bool :=
  match visit.action, (serve maxRps latest).answered visit with
  | .acquire _, .ok none => true
  | _, _ => false

/-- Calls come back only after the delay they were told to sleep, and not once they are granted. -/
def Looping (maxRps : ℕ) (latest : ℚ) (visits : List (Visit ℚ Mutex Use)) : Prop :=
  visits.Pairwise
    (fun earlier later : Visit ℚ Mutex Use =>
      ∀ call,
        earlier.action = .acquire call
        → later.action = .acquire call
        → ∃ delay,
            (serve maxRps latest).answered earlier = .ok (some delay)
            ∧ earlier.now + delay ≤ later.now)

-----------------------------------------------------------------------------------------
-- No round is refused after its delay
-----------------------------------------------------------------------------------------

/-- Without a lock, a round is granted if and only if there is a whole token. -/
theorem acquire_granted_iff (limited : 0 < maxRps) (free : state.lockedUntil = none)
    (past : state.lastRefill ≤ now)
    : (ApiRateLimiter.acquire maxRps now state).1 = none ↔ 1 ≤ level maxRps now state := by
  have round := acquire_round limited past
  generalize ApiRateLimiter.acquire maxRps now state = result at round ⊢
  cases round with
  | locked lock _ => simp [free] at lock
  | lifted lock _ => simp [free] at lock
  | taken _ enough => simp [enough]
  | refused _ short => simp [not_le.mpr short]

/-- A refill leaves the level of every later moment as it was. -/
theorem level_refilled {later : ℚ} (state : RateState) (passed : now ≤ later)
    : level maxRps later ⟨level maxRps now state, now, none⟩ = level maxRps later state :=
  Bucket.level_refill (maxRps : ℚ) state.bucket (Nat.cast_nonneg maxRps) passed

/-- From a moment on, the next round is granted. -/
def Pledged (maxRps : ℕ) (wake : ℚ) (state : RateState) : Prop :=
  ∀ later, wake ≤ later → (ApiRateLimiter.acquire maxRps later state).1 = none

/-- A refused round leaves a limiter that grants the next one after the delay. -/
theorem Round.pledged {delay : ℚ} {left : RateState} (limited : 0 < maxRps)
    (round : Round maxRps now state (some delay, left))
    : Pledged maxRps (now + delay) left := by
  intro later waited
  cases round with
  | locked lock early =>
      have due : ¬ later < _ := not_lt.mpr ((add_sub_cancel now _).symm.le.trans waited)
      rw [acquire_of_lock limited lock, if_neg due]
  | refused free short =>
      have rate : (0 : ℚ) < maxRps := Nat.cast_pos.mpr limited
      have delay : 0 ≤ (1 - level maxRps now state) / maxRps :=
        div_nonneg (sub_nonneg.mpr short.le) rate.le
      have passed : now ≤ later := (le_add_of_nonneg_right delay).trans waited
      have enough : 1 ≤ level maxRps later state :=
        Bucket.le_level_of_waited state.bucket rate (Nat.one_le_cast.mpr limited) waited
      apply (acquire_granted_iff limited rfl passed).mpr
      rw [level_refilled state passed]
      exact enough

/-- A refused round of another call breaks no pledge. -/
theorem Round.keeps_pledge {delay : ℚ} {left : RateState} (limited : 0 < maxRps)
    (sound : Sound maxRps now state) (round : Round maxRps now state (some delay, left))
    (early : now < wake) (pledged : Pledged maxRps wake state)
    : Pledged maxRps wake left := by
  intro later waited
  cases round with
  | locked lock before => exact pledged later waited
  | refused free short =>
      have passed : now ≤ later := (early.trans_le waited).le
      have enough := (acquire_granted_iff limited free (sound.past.trans passed)).mp
        (pledged later waited)
      apply (acquire_granted_iff limited rfl passed).mpr
      rw [level_refilled state passed]
      exact enough

-----------------------------------------------------------------------------------------
-- Counting refusals
-----------------------------------------------------------------------------------------

/-- The mutex is not poisoned and the tokens behind it are in order. -/
structure Healthy (maxRps : ℕ) (now : ℚ) (mutex : Mutex) : Prop where
  clean : mutex.poisoned = false
  sound : Sound maxRps now mutex.state

/-- What a round does behind a healthy mutex. -/
theorem Mutex.acquire_of_clean (maxRps : ℕ) (now : ℚ) (clean : mutex.poisoned = false)
    : mutex.acquire maxRps now
      = (.ok (ApiRateLimiter.acquire maxRps now mutex.state).1,
          ⟨(ApiRateLimiter.acquire maxRps now mutex.state).2, false⟩) := by
  obtain ⟨state, poisoned⟩ := mutex
  simp only at clean
  by_cases limited : maxRps = 0
  · simp [Mutex.acquire, ApiRateLimiter.acquire, limited, clean]
  · simp [Mutex.acquire, limited, clean]

theorem Healthy.acquire (healthy : Healthy maxRps now mutex) (limited : 0 < maxRps)
    : Healthy maxRps now (mutex.acquire maxRps now).2 := by
  rw [Mutex.acquire_of_clean maxRps now healthy.clean]
  exact ⟨rfl, (acquire_round limited healthy.sound.past).sound healthy.sound⟩

/-- The rounds of a call that are not granted. -/
def refusals (maxRps : ℕ) (latest : ℚ) (call : ℕ) (visits : List (Visit ℚ Mutex Use)) : ℕ :=
  visits.countP (fun visit => ofCall call visit && !passes maxRps latest visit)

@[simp]
theorem serve_acquire (maxRps : ℕ) (latest now : ℚ) (call : ℕ) (mutex : Mutex)
    : serve maxRps latest now (.acquire call) mutex = mutex.acquire maxRps now :=
  rfl

/-- A round behind a healthy mutex answers what the limiter answers. -/
theorem answered_acquire (maxRps : ℕ) (latest now : ℚ) (clean : mutex.poisoned = false)
    (other : ℕ)
    : (serve maxRps latest).answered ⟨now, .acquire other, mutex⟩
      = .ok (ApiRateLimiter.acquire maxRps now mutex.state).1 := by
  simp only [Machine.answered, serve, Mutex.acquire_of_clean maxRps now clean]

theorem passes_acquire (maxRps : ℕ) (latest now : ℚ) (clean : mutex.poisoned = false)
    (other : ℕ)
    : passes maxRps latest ⟨now, .acquire other, mutex⟩
      = (ApiRateLimiter.acquire maxRps now mutex.state).1.isNone := by
  unfold passes
  rw [answered_acquire maxRps latest now clean]
  cases (ApiRateLimiter.acquire maxRps now mutex.state).1 <;> rfl

/-- Rounds of one call that are refused come a delay apart. -/
theorem Looping.wakes {visit : Visit ℚ Mutex Use} {rest : List (Visit ℚ Mutex Use)} {delay : ℚ}
    (looping : Looping maxRps latest (visit :: rest)) (own : visit.action = .acquire call)
    (refused : (serve maxRps latest).answered visit = .ok (some delay))
    {later : Visit ℚ Mutex Use} (member : later ∈ rest) (again : later.action = .acquire call)
    : visit.now + delay ≤ later.now := by
  obtain ⟨told, answer, waited⟩ := (List.pairwise_cons.mp looping).1 later member call own again
  have same : told = delay := by
    rw [refused] at answer
    exact (Option.some.inj (Except.ok.inj answer)).symm
  exact same ▸ waited

theorem refusals_cons (maxRps : ℕ) (latest : ℚ) (call : ℕ) (visit : Visit ℚ Mutex Use)
    (rest : List (Visit ℚ Mutex Use))
    : refusals maxRps latest call (visit :: rest)
      = refusals maxRps latest call rest
        + if ofCall call visit && !passes maxRps latest visit then 1 else 0 :=
  List.countP_cons

/-- A call is refused at most once more than there are grants, and at most as often if it is
pledged the next round it will make.
-/
theorem refusals_le (call : ℕ) (limited : 0 < maxRps) {run : List (ℚ × Use)}
    (ordered : Ordered start run) (calls : ∀ moment ∈ run, ∃ call, moment.2 = .acquire call)
    (healthy : Healthy maxRps start mutex)
    (looping : Looping maxRps latest ((serve maxRps latest).visits mutex run))
    : refusals maxRps latest call ((serve maxRps latest).visits mutex run)
        ≤ ((serve maxRps latest).visits mutex run).countP (passes maxRps latest) + 1
      ∧ ∀ wake,
          Pledged maxRps wake mutex.state
          → (∀ visit ∈ (serve maxRps latest).visits mutex run,
              visit.action = .acquire call → wake ≤ visit.now)
          → refusals maxRps latest call ((serve maxRps latest).visits mutex run)
            ≤ ((serve maxRps latest).visits mutex run).countP (passes maxRps latest) := by
  induction run generalizing start mutex with
  | nil => simp [refusals]
  | cons moment rest ih =>
      obtain ⟨now, action⟩ := moment
      obtain ⟨other, acquiring⟩ := calls _ List.mem_cons_self
      obtain rfl : action = .acquire other := acquiring
      obtain ⟨begun, later⟩ := ordered
      have sound := healthy.sound.keep begun
      have here : Healthy maxRps now mutex := ⟨healthy.clean, sound⟩
      have after := ih later (fun moment member => calls moment (List.mem_cons_of_mem _ member))
        (here.acquire limited) (List.pairwise_cons.mp looping).2
      have round := acquire_round limited sound.past
      have told := answered_acquire maxRps latest now healthy.clean other
      have counted := passes_acquire maxRps latest now healthy.clean other
      rw [Mutex.acquire_of_clean maxRps now healthy.clean] at after
      rw [Machine.visits_cons, serve_acquire, Mutex.acquire_of_clean maxRps now healthy.clean]
        at looping ⊢
      rw [refusals_cons, List.countP_cons]
      generalize granted : ApiRateLimiter.acquire maxRps now mutex.state = result
        at round told counted after looping ⊢
      obtain ⟨delay, state⟩ := result
      cases delay with
      | none =>
          simp only [counted, Option.isNone_none, Bool.not_true, Bool.and_false, if_true,
            Bool.false_eq_true, if_false, add_zero]
          refine ⟨after.1.trans (Nat.le_succ _), fun _ _ _ => after.1⟩
      | some delay =>
          have waits (wake : ℚ) (pledged : Pledged maxRps wake mutex.state) : now < wake := by
            by_contra due
            have passed := pledged now (not_lt.mp due)
            rw [granted] at passed
            cases passed
          simp only [counted, Option.isNone_some, Bool.not_false, Bool.and_true,
            Bool.false_eq_true, if_false, add_zero]
          by_cases own : other = call
          · subst own
            -- its next round is pledged, so the later refusals are no more than the grants
            have few := after.2 (now + delay) (round.pledged limited)
              (fun later member again => looping.wakes rfl told member again)
            simp only [ofCall, decide_true, if_true]
            refine ⟨Nat.add_le_add_right few 1, ?_⟩
            intro wake pledged woken
            exact absurd (waits wake pledged) (not_lt.mpr (woken _ List.mem_cons_self rfl))
          · have foreign : ofCall call ⟨now, .acquire other, mutex⟩ = false := by
              simpa [ofCall] using own
            simp only [foreign, Bool.false_eq_true, if_false, add_zero]
            refine ⟨after.1, ?_⟩
            intro wake pledged woken
            apply after.2 wake (round.keeps_pledge limited sound (waits wake pledged) pledged)
            exact fun visit member => woken visit (List.mem_cons_of_mem _ member)

-----------------------------------------------------------------------------------------
-- What every run keeps
-----------------------------------------------------------------------------------------

/-- The call that a use is a round of. -/
def Use.call? : Use → Option ℕ
  | .acquire call => some call
  | .handle429 _ => none

/-- How many calls make rounds. -/
def callers (visits : List (Visit ℚ Mutex Use)) : ℕ :=
  (visits.filterMap (fun visit => visit.action.call?)).dedup.length

/-- No use panics, the mutex is never poisoned, and once the last punishment has been asked for
a call that keeps coming back is granted by its first round after as many as there are callers.
-/
structure Sturdy (maxRps : ℕ) (latest : ℚ) (schedule : Schedule Use start) : Prop where
  sane
    : ∀ visit ∈ uses maxRps latest schedule,
        ∃ wait, (serve maxRps latest).answered visit = .ok wait
  clean
    : ∀ visit ∈ uses maxRps latest schedule,
        visit.found.poisoned = false ∧ ((serve maxRps latest).left visit).poisoned = false
  granted
    : ∀ early late,
        schedule.moments = early ++ late
        → (∀ moment ∈ late, ∃ call, moment.2 = .acquire call)
        → ∀ visits,
            visits
              = (serve maxRps latest).visits
                  ((serve maxRps latest).final ⟨new maxRps start, false⟩ early) late
            → Looping maxRps latest visits
            → ∀ call,
                callers visits < visits.countP (ofCall call)
                → ∃ visit ∈ visits, ofCall call visit ∧ passes maxRps latest visit

/-- A punishment whose end is an instant of the clock locks the limiter behind a clean mutex. -/
theorem handle429_of_le {retryAfter : Option (List UInt8)} (clean : mutex.poisoned = false)
    (fits : now + parseRetryAfter retryAfter ≤ latest)
    : mutex.handle429 latest now retryAfter
      = (.ok (some (parseRetryAfter retryAfter : ℚ)),
          ⟨handleRateLimit now (parseRetryAfter retryAfter) mutex.state, false⟩) := by
  obtain ⟨state, poisoned⟩ := mutex
  simp only at clean
  simp [Mutex.handle429, Mutex.handleRateLimit, clean, not_lt.mpr fits, Except.map]

/-- A punishment whose end is none panics, whatever it finds. -/
theorem handle429_of_lt {retryAfter : Option (List UInt8)}
    (late : latest < now + parseRetryAfter retryAfter) (mutex : Mutex)
    : ∃ panic, (mutex.handle429 latest now retryAfter).1 = .error panic := by
  cases poisoned : mutex.poisoned with
  | true =>
      exact ⟨.poisonError,
        by simp [Mutex.handle429, Mutex.handleRateLimit, poisoned, Except.map]⟩
  | false =>
      exact ⟨.instantOverflow,
        by simp [Mutex.handle429, Mutex.handleRateLimit, poisoned, late, Except.map]⟩

/-- The mutex is not poisoned, at whatever moment. -/
def Clean (_ : ℚ) (mutex : Mutex) : Prop :=
  mutex.poisoned = false

theorem Clean.passing {now later : ℚ} {mutex : Mutex} (clean : Clean now mutex) (_ : now ≤ later)
    : Clean later mutex :=
  clean

theorem Healthy.passing {later : ℚ} (healthy : Healthy maxRps now mutex) (passed : now ≤ later)
    : Healthy maxRps later mutex :=
  ⟨healthy.clean, healthy.sound.keep passed⟩

/-- The punishments asked for at the moments of a run all end at an instant of the clock. -/
def Representable (latest : ℚ) (run : List (ℚ × Use)) : Prop :=
  ∀ now retryAfter, (now, .handle429 retryAfter) ∈ run → now + parseRetryAfter retryAfter ≤ latest

/-- A use that asks for no punishment beyond the clock keeps the mutex clean. -/
theorem serve_clean (maxRps : ℕ) {run : List (ℚ × Use)} (representable : Representable latest run)
    (action : Use) (member : (now, action) ∈ run) (clean : mutex.poisoned = false)
    : (serve maxRps latest now action mutex).2.poisoned = false
      ∧ ∃ wait, (serve maxRps latest now action mutex).1 = .ok wait := by
  cases action with
  | acquire call =>
      rw [serve_acquire, Mutex.acquire_of_clean maxRps now clean]
      exact ⟨rfl, _, rfl⟩
  | handle429 retryAfter =>
      rw [serve, handle429_of_le clean (representable now retryAfter member)]
      exact ⟨rfl, _, rfl⟩

/-- Such a use keeps the tokens in order too. -/
theorem serve_healthy (limited : 0 < maxRps) {run : List (ℚ × Use)}
    (representable : Representable latest run) (action : Use) (member : (now, action) ∈ run)
    (healthy : Healthy maxRps now mutex)
    : Healthy maxRps now (serve maxRps latest now action mutex).2 := by
  cases action with
  | acquire call => exact healthy.acquire limited
  | handle429 retryAfter =>
      rw [serve, handle429_of_le healthy.clean (representable now retryAfter member)]
      exact ⟨rfl, enter_sound limited (.handleRateLimit _) healthy.sound⟩

/-- A granted use is a round of a call, and the answer is no delay. -/
theorem exists_call_of_passes {visit : Visit ℚ Mutex Use} (passed : passes maxRps latest visit)
    : ∃ call,
        visit.action = .acquire call ∧ (serve maxRps latest).answered visit = .ok none := by
  unfold passes at passed
  cases action : visit.action with
  | handle429 retryAfter => simp [action] at passed
  | acquire call =>
      refine ⟨call, rfl, ?_⟩
      generalize (serve maxRps latest).answered visit = answer at passed ⊢
      rw [action] at passed
      split at passed
      · rfl
      · cases passed

/-- Calls are granted once at most, so while one of the callers is not there are fewer grants
than callers.
-/
theorem passes_lt_callers {visits : List (Visit ℚ Mutex Use)}
    (looping : Looping maxRps latest visits) {own : Visit ℚ Mutex Use} (member : own ∈ visits)
    (round : own.action = .acquire call)
    (never : ∀ visit ∈ visits, ofCall call visit → ¬ passes maxRps latest visit)
    : visits.countP (passes maxRps latest) < callers visits := by
  let granted := (visits.filter (passes maxRps latest)).map (fun visit => visit.action.call?)
  have distinct : granted.Nodup := by
    apply List.pairwise_map.mpr
    apply (List.Pairwise.and_mem.mp (looping.filter _)).imp
    intro earlier later related same
    obtain ⟨first, second, apart⟩ := related
    obtain ⟨one, acquiring, answer⟩ := exists_call_of_passes (List.mem_filter.mp first).2
    obtain ⟨two, again, _⟩ := exists_call_of_passes (List.mem_filter.mp second).2
    rw [acquiring, again] at same
    obtain rfl : one = two := Option.some.inj same
    obtain ⟨delay, refused, _⟩ := apart one acquiring again
    rw [answer] at refused
    cases Except.ok.inj refused
  have fresh : some call ∉ granted := by
    intro among
    obtain ⟨visit, passed, same⟩ := List.mem_map.mp among
    obtain ⟨visited, pass⟩ := List.mem_filter.mp passed
    obtain ⟨other, acquiring, _⟩ := exists_call_of_passes pass
    rw [acquiring] at same
    obtain rfl : other = call := Option.some.inj same
    exact never visit visited (by simp [ofCall, acquiring]) pass
  have included : some call :: granted
      ⊆ ((visits.filterMap (fun visit => visit.action.call?)).dedup.map some) := by
    intro caller among
    have acting : ∃ visit ∈ visits, visit.action.call? = caller ∧ caller.isSome := by
      rcases List.mem_cons.mp among with rfl | passed
      · exact ⟨own, member, by rw [round]; rfl, rfl⟩
      · obtain ⟨visit, kept, rfl⟩ := List.mem_map.mp passed
        obtain ⟨visited, pass⟩ := List.mem_filter.mp kept
        obtain ⟨other, acquiring, _⟩ := exists_call_of_passes pass
        exact ⟨visit, visited, rfl, by rw [acquiring]; rfl⟩
    obtain ⟨visit, visited, same, some_call⟩ := acting
    obtain ⟨number, rfl⟩ := Option.isSome_iff_exists.mp some_call
    apply List.mem_map_of_mem
    exact List.mem_dedup.mpr (List.mem_filterMap.mpr ⟨visit, visited, same⟩)
  have few := (List.nodup_cons.mpr ⟨fresh, distinct⟩).length_le_of_subset included
  simp only [List.length_cons, List.length_map, granted] at few
  rw [List.countP_eq_length_filter]
  exact few

/-- The rounds of a call are its grants and its refusals. -/
theorem countP_ofCall_le {visits : List (Visit ℚ Mutex Use)}
    (never : ∀ visit ∈ visits, ofCall call visit → ¬ passes maxRps latest visit)
    : visits.countP (ofCall call) ≤ refusals maxRps latest call visits := by
  apply List.countP_mono_left
  intro visit member own
  have refused := never visit member own
  simp [own, refused]

/-- A call that makes more rounds than there are callers is granted, by counting: its refusals are
at most one more than the grants, which are fewer than the callers.
-/
theorem exists_passes_of_callers_lt {run : List (ℚ × Use)} (ordered : Ordered start run)
    (calls : ∀ moment ∈ run, ∃ call, moment.2 = .acquire call)
    (healthy : 0 < maxRps → Healthy maxRps start mutex)
    (looping : Looping maxRps latest ((serve maxRps latest).visits mutex run))
    (many
      : callers ((serve maxRps latest).visits mutex run)
        < ((serve maxRps latest).visits mutex run).countP (ofCall call))
    : ∃ visit ∈ (serve maxRps latest).visits mutex run,
        ofCall call visit ∧ passes maxRps latest visit := by
  by_contra none_granted
  push Not at none_granted
  obtain ⟨own, member, round⟩ := List.countP_pos_iff.mp (Nat.zero_lt_of_lt many)
  have acquiring : own.action = .acquire call := by simpa [ofCall] using round
  rcases Nat.eq_zero_or_pos maxRps with unlimited | limited
  · -- without a limit every round is granted
    apply none_granted own member round
    simp [passes, acquiring, Machine.answered, Mutex.acquire, unlimited]
  · have fewer := passes_lt_callers looping member acquiring none_granted
    have refused := (refusals_le call limited ordered calls (healthy limited) looping).1
    have counted := countP_ofCall_le none_granted
    omega

/-- The mutex survives a run exactly when every punishment that is asked for ends at an instant
that the clock can represent.
-/
theorem sturdy_iff (maxRps : ℕ) (latest : ℚ) (schedule : Schedule Use start)
    : Sturdy maxRps latest schedule
      ↔ ∀ now retryAfter,
          (now, .handle429 retryAfter) ∈ schedule.moments
          → now + parseRetryAfter retryAfter ≤ latest := by
  constructor
  · intro sturdy now retryAfter member
    obtain ⟨visit, visited, same, action⟩ := (serve maxRps latest).exists_visit member
      ⟨new maxRps start, false⟩
    by_contra late
    obtain ⟨wait, answer⟩ := sturdy.sane visit visited
    obtain ⟨panic, panicked⟩ := handle429_of_lt (not_le.mp late) visit.found
    rw [Machine.answered, action, same, serve, panicked] at answer
    cases answer
  · intro representable
    have fresh : Clean start ⟨new maxRps start, false⟩ := rfl
    have kept {visit} (member : visit ∈ uses maxRps latest schedule) :=
      visits_invariant Clean Clean.passing
        (fun action among clean => (serve_clean maxRps representable action among clean).1)
        schedule.ordered fresh member
    refine ⟨?_, fun visit member => kept member, ?_⟩
    · intro visit member
      have among := (serve maxRps latest).mem_of_mem_visits member
      exact (serve_clean maxRps representable visit.action among (kept member).1).2
    · intro early late parts calls visits same looping call many
      subst same
      have whole := schedule.ordered
      rw [parts] at whole
      obtain ⟨before, middle, begun, past, after⟩ := whole.split
      have sooner : Representable latest early := by
        intro now retryAfter member
        apply representable now retryAfter
        rw [parts]
        exact List.mem_append_left _ member
      apply exists_passes_of_callers_lt after calls _ looping many
      intro limited
      exact final_invariant (Healthy maxRps) Healthy.passing
        (fun action among healthy => serve_healthy limited sooner action among healthy)
        before ⟨rfl, new_sound maxRps start⟩ begun past

/-- An answer that asks for a wait of `u64::MAX` seconds, and a call after it. -/
def endless : Schedule Use (0 : ℚ) where
  moments :=
    [(0, .handle429 (some [49, 56, 52, 52, 54, 55, 52, 52, 48, 55, 51, 55, 48, 57, 53, 53, 49, 54,
        49, 53])),
      (1, .acquire 0)]
  ordered := by norm_num [Ordered]

/-- On a clock of 63 bits of seconds the answer panics, and every call after it. -/
theorem endless_panics
    : (uses 10 9223372036854775807 endless).map (serve 10 9223372036854775807).answered
        = [.error .instantOverflow, .error .poisonError]
      ∧ ¬ Sturdy 10 9223372036854775807 endless := by
  have panics : (uses 10 9223372036854775807 endless).map (serve 10 9223372036854775807).answered
      = [.error .instantOverflow, .error .poisonError] := by
    decide +kernel
  refine ⟨panics, fun sturdy => ?_⟩
  obtain ⟨visit, visited, answer⟩ : ∃ visit ∈ uses 10 9223372036854775807 endless,
      (serve 10 9223372036854775807).answered visit = .error .instantOverflow := by
    apply List.mem_map.mp
    rw [panics]
    exact List.mem_cons_self
  obtain ⟨wait, fine⟩ := sturdy.sane visit visited
  rw [answer] at fine
  cases fine

end SyncGDrive.ApiRateLimiter
