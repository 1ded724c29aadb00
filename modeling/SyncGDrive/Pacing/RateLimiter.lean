import SyncGDrive.Timed.Bucket

/-! The limiter of API calls: one locked section of `acquire`, the punishment of a 429, and what
any interleaving of these keeps. Moments are rational seconds.
-/

namespace SyncGDrive

open Timed

/-- `Instant::duration_since`, which is zero when the other instant is the later one. -/
def durationSince (instant earlier : ℚ) : ℚ :=
  max 0 (instant - earlier)

theorem durationSince_of_le {instant earlier : ℚ} (past : earlier ≤ instant)
    : durationSince instant earlier = instant - earlier :=
  max_eq_right (sub_nonneg.mpr past)

-----------------------------------------------------------------------------------------
-- The limiter
-----------------------------------------------------------------------------------------

structure RateState where
  tokens : ℚ
  lastRefill : ℚ
  lockedUntil : Option ℚ
deriving DecidableEq

namespace ApiRateLimiter

def new (maxRps : ℕ) (now : ℚ) : RateState where
  tokens := maxRps
  lastRefill := now
  lockedUntil := none

/-- One round of the loop of `acquire`, up to the release of the mutex: the delay to sleep before
the next round, or none when the call is granted.
-/
def acquire (maxRps : ℕ) (now : ℚ) (state : RateState) : Option ℚ × RateState :=
  if maxRps = 0 then
    (none, state)
  else
    match state.lockedUntil with
    | some lockEnd =>
        if now < lockEnd then
          (some (durationSince lockEnd now), state)
        else
          (none, { state with lockedUntil := none })
    | none =>
        let elapsed := durationSince now state.lastRefill
        let tokens := state.tokens + elapsed * maxRps
        let tokens := if tokens > maxRps then (maxRps : ℚ) else tokens
        if tokens ≥ 1 then
          (none, { state with tokens := tokens - 1, lastRefill := now })
        else
          (some ((1 - tokens) / maxRps), { state with tokens, lastRefill := now })

def handleRateLimit (now : ℚ) (retryAfterSecs : ℕ) (state : RateState) : RateState :=
  let lockEnd := now + retryAfterSecs
  match state.lockedUntil with
  | some currentLock =>
      if lockEnd > currentLock then { state with lockedUntil := some lockEnd } else state
  | none => { state with lockedUntil := some lockEnd }

/-- A locked section of the limiter: a round of some call of `acquire`, or a punishment. -/
inductive Section
  | acquire (call : ℕ)
  | handleRateLimit (retryAfterSecs : ℕ)
deriving DecidableEq

/-- What a section answers, a delay if it is a round that has to wait, and leaves behind. -/
def enter (maxRps : ℕ) : Machine ℚ RateState Section (Option ℚ)
  | now, .acquire _, state => acquire maxRps now state
  | now, .handleRateLimit retryAfterSecs, state => (none, handleRateLimit now retryAfterSecs state)

/-- The sections that any number of callers run on a new limiter. -/
def sections (maxRps : ℕ) {start : ℚ} (schedule : Schedule Section start)
    : List (Visit ℚ RateState Section) :=
  (enter maxRps).visits (new maxRps start) schedule.moments

/-- The section is a round of `acquire` that lets its call go. -/
def grants (maxRps : ℕ) (visit : Visit ℚ RateState Section) : Bool :=
  match visit.action with
  | .acquire _ => ((enter maxRps).answered visit).isNone
  | .handleRateLimit _ => false

/-- The section is a round of `acquire` that finds a lock whose end has come. -/
def lifts (visit : Visit ℚ RateState Section) : Bool :=
  match visit.action, visit.found.lockedUntil with
  | .acquire _, some lockEnd => lockEnd ≤ visit.now
  | _, _ => false

@[simp]
theorem grants_acquire (maxRps : ℕ) (now : ℚ) (call : ℕ) (state : RateState)
    : grants maxRps ⟨now, .acquire call, state⟩ = (acquire maxRps now state).1.isNone :=
  rfl

@[simp]
theorem grants_handleRateLimit (maxRps : ℕ) (now : ℚ) (retryAfterSecs : ℕ) (state : RateState)
    : grants maxRps ⟨now, .handleRateLimit retryAfterSecs, state⟩ = false :=
  rfl

@[simp]
theorem lifts_of_lock {state : RateState} {lockEnd : ℚ} (lock : state.lockedUntil = some lockEnd)
    (now : ℚ) (call : ℕ)
    : lifts ⟨now, .acquire call, state⟩ = decide (lockEnd ≤ now) := by
  simp [lifts, lock]

@[simp]
theorem lifts_of_free {state : RateState} (free : state.lockedUntil = none) (now : ℚ) (call : ℕ)
    : lifts ⟨now, .acquire call, state⟩ = false := by
  simp [lifts, free]

end ApiRateLimiter

-----------------------------------------------------------------------------------------
-- What a round can do
-----------------------------------------------------------------------------------------

/-- The tokens of the limiter, as a bucket. -/
def RateState.bucket (state : RateState) : Bucket ℚ :=
  ⟨state.tokens, state.lastRefill⟩

namespace ApiRateLimiter

/-- The tokens of the limiter at a moment. -/
def level (maxRps : ℕ) (now : ℚ) (state : RateState) : ℚ :=
  state.bucket.level maxRps maxRps now

/-- The tokens are within the limit and were not refilled in the future. -/
def Sound (maxRps : ℕ) (now : ℚ) (state : RateState) : Prop :=
  state.bucket.Sound (maxRps : ℚ) now

/-- The four ways a round of `acquire` can go. -/
inductive Round (maxRps : ℕ) (now : ℚ) (state : RateState) : Option ℚ × RateState → Prop
  | locked {lockEnd} (lock : state.lockedUntil = some lockEnd) (early : now < lockEnd)
    : Round maxRps now state (some (lockEnd - now), state)
  | lifted {lockEnd} (lock : state.lockedUntil = some lockEnd) (due : lockEnd ≤ now)
    : Round maxRps now state (none, { state with lockedUntil := none })
  | taken (free : state.lockedUntil = none) (enough : 1 ≤ level maxRps now state)
    : Round maxRps now state (none, ⟨level maxRps now state - 1, now, none⟩)
  | refused (free : state.lockedUntil = none) (short : level maxRps now state < 1)
    : Round maxRps now state
        (some ((1 - level maxRps now state) / maxRps), ⟨level maxRps now state, now, none⟩)

variable {maxRps : ℕ} {now start : ℚ} {state : RateState}

/-- The cap that the code applies after a refill is the one of the bucket. -/
theorem refilled_eq_level (past : state.lastRefill ≤ now)
    : (if state.tokens + durationSince now state.lastRefill * maxRps > maxRps then (maxRps : ℚ)
        else state.tokens + durationSince now state.lastRefill * maxRps)
      = level maxRps now state := by
  rw [durationSince_of_le past, mul_comm]
  exact (Bucket.level_eq_ite (maxRps : ℚ) maxRps now state.bucket).symm

theorem acquire_round (limited : 0 < maxRps) (past : state.lastRefill ≤ now)
    : Round maxRps now state (acquire maxRps now state) := by
  unfold acquire
  rw [if_neg limited.ne']
  cases lock : state.lockedUntil with
  | some lockEnd =>
      by_cases early : now < lockEnd
      · simp only [if_pos early, durationSince_of_le early.le]
        exact .locked lock early
      · simp only [if_neg early]
        exact .lifted lock (not_lt.mp early)
  | none =>
      simp only [refilled_eq_level past]
      by_cases enough : 1 ≤ level maxRps now state
      · rw [if_pos enough]
        exact .taken lock enough
      · rw [if_neg enough]
        exact .refused lock (not_le.mp enough)

-----------------------------------------------------------------------------------------
-- Punishments are respected
-----------------------------------------------------------------------------------------

/-- Until a moment that has come, or beyond it, the limiter is locked. -/
def Held (until' now : ℚ) (state : RateState) : Prop :=
  until' ≤ now ∨ ∃ lockEnd, state.lockedUntil = some lockEnd ∧ until' ≤ lockEnd

theorem Held.passing {until' now later : ℚ} {state : RateState} (held : Held until' now state)
    (passed : now ≤ later)
    : Held until' later state :=
  held.imp_left (fun past => past.trans passed)

/-- A punishment locks the limiter for at least as long as it lasts. -/
theorem handleRateLimit_held (now : ℚ) (retryAfterSecs : ℕ) (state : RateState)
    : Held (now + retryAfterSecs) now (handleRateLimit now retryAfterSecs state) := by
  unfold handleRateLimit
  cases lock : state.lockedUntil with
  | none => exact Or.inr ⟨_, rfl, le_refl _⟩
  | some currentLock =>
      by_cases longer : now + retryAfterSecs > currentLock
      · simp only [if_pos longer]
        exact Or.inr ⟨_, rfl, le_refl _⟩
      · simp only [if_neg longer]
        exact Or.inr ⟨currentLock, lock, not_lt.mp longer⟩

/-- A punishment never shortens another one. -/
theorem Held.handleRateLimit {until' now : ℚ} {state : RateState} (held : Held until' now state)
    (retryAfterSecs : ℕ)
    : Held until' now (handleRateLimit now retryAfterSecs state) := by
  rcases held with past | ⟨lockEnd, lock, short⟩
  · exact Or.inl past
  · right
    unfold ApiRateLimiter.handleRateLimit
    simp only [lock]
    by_cases longer : now + retryAfterSecs > lockEnd
    · rw [if_pos longer]
      exact ⟨_, rfl, short.trans longer.le⟩
    · rw [if_neg longer]
      exact ⟨lockEnd, lock, short⟩

/-- A round that finds the lock on waits for its end, and lifts it only once it has come. -/
theorem acquire_of_lock (limited : 0 < maxRps) {lockEnd : ℚ}
    (lock : state.lockedUntil = some lockEnd)
    : acquire maxRps now state
      = if now < lockEnd then (some (durationSince lockEnd now), state)
        else (none, { state with lockedUntil := none }) := by
  unfold acquire
  rw [if_neg limited.ne']
  simp only [lock]

/-- A lock that is lifted was over. -/
theorem Held.acquire {until' : ℚ} (held : Held until' now state) (limited : 0 < maxRps)
    : Held until' now (acquire maxRps now state).2 := by
  rcases held with past | ⟨lockEnd, lock, short⟩
  · exact Or.inl past
  · rw [acquire_of_lock limited lock]
    by_cases early : now < lockEnd
    · rw [if_pos early]
      exact Or.inr ⟨lockEnd, lock, short⟩
    · exact Or.inl (short.trans (not_lt.mp early))

/-- No round is granted before the end of what holds the limiter. -/
theorem Held.not_granted {until' : ℚ} (held : Held until' now state) (limited : 0 < maxRps)
    (lasting : now < until')
    : (∃ lockEnd, state.lockedUntil = some lockEnd ∧ until' ≤ lockEnd)
      ∧ (ApiRateLimiter.acquire maxRps now state).1.isNone = false := by
  obtain ⟨lockEnd, lock, short⟩ := held.resolve_left (not_le.mpr lasting)
  refine ⟨⟨lockEnd, lock, short⟩, ?_⟩
  rw [acquire_of_lock limited lock, if_pos (lasting.trans_le short)]
  rfl

/-- What holds the limiter at some moment holds it at every later section. -/
theorem Held.visits {until' : ℚ} {run : List (ℚ × Section)} (limited : 0 < maxRps)
    (ordered : Ordered start run) (held : Held until' start state)
    {visit : Visit ℚ RateState Section} (member : visit ∈ (enter maxRps).visits state run)
    : Held until' visit.now visit.found := by
  suffices kept : ∀ {now : ℚ} {found : RateState} (action : Section),
      Held until' now found → Held until' now (enter maxRps now action found).2 from
    (visits_invariant (Held until') Held.passing (fun action _ => kept action) ordered held
      member).1
  intro now found action here
  cases action with
  | acquire call => exact here.acquire limited
  | handleRateLimit retryAfterSecs => exact here.handleRateLimit retryAfterSecs

/-- A section that comes before the end of an earlier punishment finds the limiter locked until
that end or beyond, and grants nothing.
-/
theorem grants_respect_punishments (limited : 0 < maxRps) (schedule : Schedule Section start)
    : (sections maxRps schedule).Pairwise
        (fun earlier later : Visit ℚ RateState Section =>
          ∀ retryAfterSecs : ℕ,
            earlier.action = .handleRateLimit retryAfterSecs
            → later.now < earlier.now + retryAfterSecs
            → (∃ lockEnd,
                later.found.lockedUntil = some lockEnd ∧ earlier.now + retryAfterSecs ≤ lockEnd)
              ∧ grants maxRps later = false) := by
  refine pairwise_visits ?_ schedule.ordered
  intro earlier rest ordered later member retryAfterSecs punished lasting
  have held : Held (earlier.now + retryAfterSecs) earlier.now
      ((enter maxRps).left earlier) := by
    simpa only [Machine.left, punished, enter]
      using handleRateLimit_held earlier.now retryAfterSecs earlier.found
  obtain ⟨locked, refused⟩ := (held.visits limited ordered member).not_granted limited lasting
  refine ⟨locked, ?_⟩
  cases action : later.action with
  | handleRateLimit other => simp [grants, action]
  | acquire call => simpa [grants, Machine.answered, enter, action] using refused

/-- A punishment of five seconds, and a call that tries three seconds after it. -/
def punished : Schedule Section (0 : ℚ) where
  moments := [(0, .handleRateLimit 5), (3, .acquire 0)]
  ordered := by norm_num [Ordered]

theorem punished_refused
    : grants 1 ⟨3, .acquire 0, handleRateLimit 0 5 (new 1 0)⟩ = false := by
  have related := grants_respect_punishments one_pos punished
  have both := (List.pairwise_cons.mp related).1 _ List.mem_cons_self 5 rfl
  exact (both (by norm_num)).2

end ApiRateLimiter

end SyncGDrive
