import SyncGDrive.Pacing.RateLimiter

/-! How many calls the limiter grants in a window of time. Every grant takes a token, but the one
of a round that lifts an expired lock.
-/

namespace SyncGDrive.ApiRateLimiter

open Timed

variable {maxRps : ℕ} {now start since till : ℚ} {state : RateState}

/-- The tokens that a section takes out of the bucket. -/
def taken (maxRps : ℕ) (visit : Visit ℚ RateState Section) : ℚ :=
  if grants maxRps visit && !lifts visit then 1 else 0

/-- The calls granted from `since` to `till`. -/
def granted (maxRps : ℕ) (since till : ℚ) (visits : List (Visit ℚ RateState Section)) : ℕ :=
  (within since till visits).countP (grants maxRps)

/-- The expired locks lifted from `since` to `till`. -/
def lifted (since till : ℚ) (visits : List (Visit ℚ RateState Section)) : ℕ :=
  (within since till visits).countP lifts

-----------------------------------------------------------------------------------------
-- Sound states
-----------------------------------------------------------------------------------------

theorem new_sound (maxRps : ℕ) (now : ℚ) : Sound maxRps now (new maxRps now) where
  positive := Nat.cast_nonneg maxRps
  full := le_refl _
  past := le_refl _

theorem Sound.keep {later : ℚ} (sound : Sound maxRps now state) (passed : now ≤ later)
    : Sound maxRps later state :=
  Bucket.Sound.keep sound passed

/-- A punishment leaves the tokens alone. -/
@[simp]
theorem handleRateLimit_bucket (now : ℚ) (retryAfterSecs : ℕ) (state : RateState)
    : (handleRateLimit now retryAfterSecs state).bucket = state.bucket := by
  unfold handleRateLimit
  cases state.lockedUntil with
  | none => rfl
  | some currentLock =>
      simp only
      split <;> rfl

/-- The four rounds of `acquire` keep the tokens within the limit. -/
theorem Round.sound {result : Option ℚ × RateState} (round : Round maxRps now state result)
    (sound : Sound maxRps now state)
    : Sound maxRps now result.2 := by
  have accrues : (0 : ℚ) ≤ maxRps := Nat.cast_nonneg maxRps
  have refilled := Bucket.Sound.refill sound accrues
  cases round with
  | locked lock early => exact sound
  | lifted lock due => exact sound
  | taken free enough => exact refilled.draw zero_le_one enough
  | refused free short => exact refilled

theorem enter_sound (limited : 0 < maxRps) (action : Section) (sound : Sound maxRps now state)
    : Sound maxRps now (enter maxRps now action state).2 := by
  cases action with
  | acquire call => exact (acquire_round limited sound.past).sound sound
  | handleRateLimit retryAfterSecs =>
      unfold Sound at sound ⊢
      rw [enter, handleRateLimit_bucket]
      exact sound

-----------------------------------------------------------------------------------------
-- The bucket pays for every token taken
-----------------------------------------------------------------------------------------

/-- The token of a round of `acquire` comes out of the level. -/
theorem taken_add_level_le (limited : 0 < maxRps) (visit : Visit ℚ RateState Section)
    (sound : Sound maxRps visit.now visit.found)
    : taken maxRps visit + level maxRps visit.now ((enter maxRps).left visit)
      ≤ level maxRps visit.now visit.found := by
  obtain ⟨now, action, state⟩ := visit
  have accrues : (0 : ℚ) ≤ maxRps := Nat.cast_nonneg maxRps
  cases action with
  | handleRateLimit retryAfterSecs =>
      simp [taken, grants, Machine.left, enter, level]
  | acquire call =>
      have round : Round maxRps now state (acquire maxRps now state) :=
        acquire_round limited sound.past
      rw [taken, grants_acquire, Machine.left, enter]
      generalize acquire maxRps now state = result at round ⊢
      cases round with
      | locked lock early => simp
      | lifted lock due => simp [lifts_of_lock lock, due, level, RateState.bucket]
      | taken free enough =>
          have paid := Bucket.add_level_draw_le (maxRps : ℚ) maxRps now state.bucket 1
          simp only [lifts_of_free free, Option.isNone_none, Bool.not_false, Bool.and_self,
            if_true]
          exact paid
      | refused free short =>
          have same := Bucket.level_refill (maxRps : ℚ) state.bucket accrues (le_refl now)
          simp only [Option.isNone_some, Bool.false_and, Bool.false_eq_true, if_false, zero_add]
          exact same.le

theorem metered (limited : 0 < maxRps)
    : Metered (enter maxRps) (taken maxRps) (level maxRps) (Sound maxRps) maxRps maxRps where
  passing sound passed := sound.keep passed
  acting action sound := enter_sound limited action sound
  spends visit := by
    unfold taken
    split <;> norm_num
  pays visit sound := taken_add_level_le limited visit sound
  grows sound passed := Bucket.level_le_add _ _ (Nat.cast_nonneg maxRps) passed
  positive sound := sound.level_nonneg (Nat.cast_nonneg maxRps)
  full now state := Bucket.level_le_capacity _ _ _ _

/-- Every grant takes a token or lifts a lock. -/
theorem granted_le_spending_add (maxRps : ℕ) (since till : ℚ)
    (visits : List (Visit ℚ RateState Section))
    : (granted maxRps since till visits : ℚ)
      ≤ spending (taken maxRps) since till visits + lifted since till visits := by
  unfold granted lifted spending
  induction within since till visits with
  | nil => simp
  | cons visit rest ih =>
      simp only [List.countP_cons, List.map_cons, List.sum_cons, Nat.cast_add, taken]
      cases grants maxRps visit <;> cases lifts visit <;> simp <;> linarith

/-- The calls granted in a window are bounded by the rate, but for one call for each lock lifted
in the window.
-/
theorem granted_le (limited : 0 < maxRps) (schedule : Schedule Section start) (wide : since ≤ till)
    : (granted maxRps since till (sections maxRps schedule) : ℚ)
      ≤ maxRps * (1 + (till - since)) + lifted since till (sections maxRps schedule) := by
  have counted := granted_le_spending_add maxRps since till (sections maxRps schedule)
  have spent := (metered limited).spending_le (Nat.cast_nonneg maxRps) schedule.ordered
    (new_sound maxRps start) wide
  have rate : (maxRps : ℚ) * (1 + (till - since)) = maxRps + maxRps * (till - since) := by ring
  unfold sections at counted ⊢
  linarith

/-- Tokens stay within the limit, and in a window in which no round lifts an expired lock the
calls granted are bounded by the rate.
-/
theorem rate_bounded_without_lifts (limited : 0 < maxRps) (schedule : Schedule Section start)
    : (∀ visit ∈ sections maxRps schedule,
        (0 ≤ visit.found.tokens ∧ visit.found.tokens ≤ maxRps)
        ∧ 0 ≤ ((enter maxRps).left visit).tokens
        ∧ ((enter maxRps).left visit).tokens ≤ maxRps)
      ∧ ∀ since till,
          since ≤ till
          → (∀ visit ∈ within since till (sections maxRps schedule), lifts visit = false)
          → (granted maxRps since till (sections maxRps schedule) : ℚ)
            ≤ maxRps * (1 + (till - since)) := by
  constructor
  · intro visit member
    obtain ⟨found, left⟩ := visits_invariant (Sound maxRps) Sound.keep
      (fun action _ => enter_sound limited action) schedule.ordered (new_sound maxRps start) member
    exact ⟨⟨found.positive, found.full⟩, left.positive, left.full⟩
  · intro since till wide none_lifted
    have bounded := granted_le limited schedule wide
    have no_lift : lifted since till (sections maxRps schedule) = 0 := by
      apply List.countP_eq_zero.mpr
      intro visit member
      simp [none_lifted visit member]
    simpa only [no_lift, Nat.cast_zero, add_zero] using bounded

/-- A granted call is answered with a punishment of a second, and two calls try when it is over. -/
def burst : Schedule Section (0 : ℚ) where
  moments := [(0, .acquire 0), (1, .handleRateLimit 1), (2, .acquire 1), (2, .acquire 2)]
  ordered := by norm_num [Ordered]

/-- One call is let go by lifting the lock and the other by the token that accrued meanwhile. -/
theorem burst_exceeds_rate
    : ¬ (granted 1 2 2 (sections 1 burst) : ℚ) ≤ (1 : ℕ) * (1 + (2 - 2)) := by
  have both : granted 1 2 2 (sections 1 burst) = 2 := by decide +kernel
  rw [both]
  norm_num

/-- Three calls ask again until they are let go, and an answer punishes the second one. -/
def turnedAway : Schedule Section (0 : ℚ) where
  moments :=
    [(0, .acquire 0), (0, .acquire 1), (1 / 2, .acquire 2), (1, .acquire 1), (1, .acquire 2),
      (1, .handleRateLimit 4), (2, .acquire 2)]
  ordered := by norm_num [Ordered]

/-- In two seconds two of them are let go, at one call a second. -/
theorem turnedAway_within_rate
    : granted 1 0 2 (sections 1 turnedAway) = 2
      ∧ (granted 1 0 2 (sections 1 turnedAway) : ℚ) ≤ (1 : ℕ) * (1 + (2 - 0)) := by
  refine ⟨by decide +kernel, ?_⟩
  have bounded := (rate_bounded_without_lifts one_pos turnedAway).2 0 2 (by norm_num)
  apply bounded
  decide +kernel

end SyncGDrive.ApiRateLimiter
