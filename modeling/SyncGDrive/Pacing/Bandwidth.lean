import SyncGDrive.Timed.Bucket
import SyncGDrive.Pacing.RateLimiter

/-! The limiter of upload bandwidth: how many bytes it grants in a window of time, and when a
call that waits for its bytes is ever granted them.
-/

namespace SyncGDrive

open Timed

-----------------------------------------------------------------------------------------
-- The limiter
-----------------------------------------------------------------------------------------

structure BucketState where
  tokens : ℚ
  lastRefill : ℚ
deriving DecidableEq

namespace BandwidthLimiter

/-- The limit in bytes per second. The product wraps, as in a release build. -/
def limitBps (limitKbps : UInt64) : UInt64 :=
  limitKbps * 1024

def new (limitKbps : UInt64) (now : ℚ) : BucketState where
  tokens := (limitBps limitKbps).toNat
  lastRefill := now

/-- One round of the loop of `acquire`, up to the release of the mutex: the delay to sleep before
the next round, or none when the bytes are granted.
-/
def acquire (limit : UInt64) (now : ℚ) (n : UInt64) (state : BucketState)
    : Option ℚ × BucketState :=
  if limit = 0 then
    (none, state)
  else
    let elapsed := durationSince now state.lastRefill
    let tokens := state.tokens + elapsed * limit.toNat
    let tokens := if tokens > limit.toNat then (limit.toNat : ℚ) else tokens
    if tokens ≥ n.toNat then
      (none, { tokens := tokens - n.toNat, lastRefill := now })
    else
      let needed := n.toNat - tokens
      (some (needed / limit.toNat), { tokens, lastRefill := now })

/-- The rounds that any number of callers run on a new limiter, each for the bytes it asks for. -/
def rounds (limitKbps : UInt64) {start : ℚ} (schedule : Schedule UInt64 start)
    : List (Visit ℚ BucketState UInt64) :=
  Machine.visits (acquire (limitBps limitKbps)) (new limitKbps start) schedule.moments

/-- The bytes that a round grants. -/
def bytes (limit : UInt64) (visit : Visit ℚ BucketState UInt64) : ℚ :=
  if (Machine.answered (acquire limit) visit).isNone then visit.action.toNat else 0

/-- The loop of `acquire` with no other caller, for at most `fuel` rounds: the rounds it took.
The sleep after round `k` takes `late k` longer than the delay.
-/
def acquireAlone (limit n : UInt64) (late : ℕ → ℚ) : ℕ → ℕ → ℚ → BucketState → Option ℕ
  | 0, _, _, _ => none
  | fuel + 1, round, now, state =>
      match acquire limit now n state with
      | (none, _) => some (round + 1)
      | (some delay, waiting) =>
          acquireAlone limit n late fuel (round + 1) (now + (delay + late round)) waiting

end BandwidthLimiter

-----------------------------------------------------------------------------------------
-- What a round can do
-----------------------------------------------------------------------------------------

/-- The tokens of the limiter, as a bucket. -/
def BucketState.bucket (state : BucketState) : Bucket ℚ :=
  ⟨state.tokens, state.lastRefill⟩

namespace BandwidthLimiter

variable {limit n : UInt64} {now later start since till : ℚ} {state : BucketState}

/-- The tokens of the limiter at a moment. -/
def level (limit : UInt64) (now : ℚ) (state : BucketState) : ℚ :=
  state.bucket.level limit.toNat limit.toNat now

/-- The tokens are within the limit and were not refilled in the future. -/
def Sound (limit : UInt64) (now : ℚ) (state : BucketState) : Prop :=
  state.bucket.Sound (limit.toNat : ℚ) now

/-- The two ways a round of `acquire` can go. -/
inductive Round (limit : UInt64) (now : ℚ) (n : UInt64) (state : BucketState)
    : Option ℚ × BucketState → Prop
  | taken (enough : (n.toNat : ℚ) ≤ level limit now state)
    : Round limit now n state (none, ⟨level limit now state - n.toNat, now⟩)
  | refused (short : level limit now state < n.toNat)
    : Round limit now n state
        (some ((n.toNat - level limit now state) / limit.toNat), ⟨level limit now state, now⟩)

theorem acquire_round (limited : limit ≠ 0) (n : UInt64) (past : state.lastRefill ≤ now)
    : Round limit now n state (acquire limit now n state) := by
  have capped
      : (if state.tokens + durationSince now state.lastRefill * limit.toNat > limit.toNat
          then (limit.toNat : ℚ)
          else state.tokens + durationSince now state.lastRefill * limit.toNat)
        = level limit now state := by
    rw [durationSince_of_le past, mul_comm]
    exact (Bucket.level_eq_ite (limit.toNat : ℚ) limit.toNat now state.bucket).symm
  unfold acquire
  simp only [if_neg limited, capped]
  by_cases enough : level limit now state ≥ n.toNat
  · rw [if_pos enough]
    exact .taken enough
  · rw [if_neg enough]
    exact .refused (not_le.mp enough)

theorem new_sound (limitKbps : UInt64) (now : ℚ)
    : Sound (limitBps limitKbps) now (new limitKbps now) where
  positive := Nat.cast_nonneg _
  full := le_refl _
  past := le_refl _

theorem Sound.keep (sound : Sound limit now state) (passed : now ≤ later)
    : Sound limit later state :=
  Bucket.Sound.keep sound passed

/-- Granted or not, a round keeps the tokens within the limit. -/
theorem acquire_sound (limit n : UInt64) (sound : Sound limit now state)
    : Sound limit now (acquire limit now n state).2 := by
  by_cases limited : limit = 0
  · simpa only [acquire, if_pos limited] using sound
  · have accrues : (0 : ℚ) ≤ limit.toNat := Nat.cast_nonneg _
    have refilled := Bucket.Sound.refill sound accrues
    have round := acquire_round limited n sound.past
    generalize acquire limit now n state = result at round ⊢
    cases round with
    | taken enough => exact refilled.draw (Nat.cast_nonneg _) enough
    | refused short => exact refilled

-----------------------------------------------------------------------------------------
-- The bytes granted in a window
-----------------------------------------------------------------------------------------

/-- The bytes that a round grants come out of the level. -/
theorem bytes_add_level_le (limited : limit ≠ 0) (visit : Visit ℚ BucketState UInt64)
    (sound : Sound limit visit.now visit.found)
    : bytes limit visit + level limit visit.now (Machine.left (acquire limit) visit)
      ≤ level limit visit.now visit.found := by
  obtain ⟨now, n, state⟩ := visit
  have accrues : (0 : ℚ) ≤ limit.toNat := Nat.cast_nonneg _
  have round : Round limit now n state (acquire limit now n state) :=
    acquire_round limited n sound.past
  rw [bytes, Machine.answered, Machine.left]
  generalize acquire limit now n state = result at round ⊢
  cases round with
  | taken enough =>
      have paid := Bucket.add_level_draw_le (limit.toNat : ℚ) limit.toNat now state.bucket n.toNat
      simp only [Option.isNone_none, if_true]
      exact paid
  | refused short =>
      have same := Bucket.level_refill (limit.toNat : ℚ) state.bucket accrues (le_refl now)
      simp only [Option.isNone_some, Bool.false_eq_true, if_false, zero_add]
      exact same.le

theorem metered (limited : limit ≠ 0)
    : Metered (acquire limit) (bytes limit) (level limit) (Sound limit)
        limit.toNat limit.toNat where
  passing sound passed := sound.keep passed
  acting n sound := acquire_sound limit n sound
  spends visit := by
    unfold bytes
    split <;> simp
  pays visit sound := bytes_add_level_le limited visit sound
  grows sound passed := Bucket.level_le_add _ _ (Nat.cast_nonneg _) passed
  positive sound := sound.level_nonneg (Nat.cast_nonneg _)
  full now state := Bucket.level_le_capacity _ _ _ _

/-- The tokens stay within the limit, and the bytes granted in any window are bounded by it. -/
structure Bounded (limitKbps : UInt64) (schedule : Schedule UInt64 start) : Prop where
  found
    : ∀ visit ∈ rounds limitKbps schedule,
        0 ≤ visit.found.tokens ∧ visit.found.tokens ≤ (limitBps limitKbps).toNat
  left
    : ∀ visit ∈ rounds limitKbps schedule,
        0 ≤ (Machine.left (acquire (limitBps limitKbps)) visit).tokens
        ∧ (Machine.left (acquire (limitBps limitKbps)) visit).tokens ≤ (limitBps limitKbps).toNat
  granted
    : ∀ since till,
        since ≤ till
        → spending (bytes (limitBps limitKbps)) since till (rounds limitKbps schedule)
          ≤ (limitBps limitKbps).toNat * (1 + (till - since))

theorem rounds_sound (limitKbps : UInt64) (schedule : Schedule UInt64 start)
    {visit : Visit ℚ BucketState UInt64} (member : visit ∈ rounds limitKbps schedule)
    : Sound (limitBps limitKbps) visit.now visit.found
      ∧ Sound (limitBps limitKbps) visit.now (Machine.left (acquire (limitBps limitKbps)) visit) :=
  visits_invariant (Sound (limitBps limitKbps)) Sound.keep (fun n _ => acquire_sound _ n)
    schedule.ordered (new_sound limitKbps start) member

/-- The product wraps to zero, no limit at all, at the multiples of `2 ^ 54`. -/
theorem limitBps_eq_zero_iff (limitKbps : UInt64)
    : limitBps limitKbps = 0 ↔ 2 ^ 54 ∣ limitKbps.toNat := by
  rw [← UInt64.toNat_inj, limitBps, UInt64.toNat_mul]
  simp only [UInt64.reduceToNat]
  omega

/-- A limiter whose limit has wrapped to zero grants whatever is asked for. -/
theorem bytes_of_zero (visit : Visit ℚ BucketState UInt64)
    : bytes 0 visit = visit.action.toNat := by
  simp [bytes, Machine.answered, acquire]

theorem bytes_nonneg (limit : UInt64) (visit : Visit ℚ BucketState UInt64)
    : 0 ≤ bytes limit visit := by
  unfold bytes
  split <;> simp

/-- The bound holds unless the limit wraps to zero and some bytes are asked for. -/
theorem bounded_iff (limitKbps : UInt64) (schedule : Schedule UInt64 start)
    : Bounded limitKbps schedule
      ↔ ¬ 2 ^ 54 ∣ limitKbps.toNat ∨ ∀ moment ∈ schedule.moments, moment.2 = 0 := by
  rw [← limitBps_eq_zero_iff]
  constructor
  · intro bounded
    by_contra neither
    obtain ⟨wrapped, asked⟩ := not_or.mp neither
    apply asked
    intro moment member
    obtain ⟨visit, visited, same⟩ := Machine.exists_visit
      (acquire (limitBps limitKbps)) member (new limitKbps start)
    have few := bounded.granted visit.now visit.now (le_refl _)
    have spent := le_spending_of_mem (bytes_nonneg (limitBps limitKbps)) visited
      (le_refl visit.now) (le_refl visit.now)
    have none_allowed : ((limitBps limitKbps).toNat : ℚ) = 0 := by simp [not_not.mp wrapped]
    have granted : bytes (limitBps limitKbps) visit = visit.action.toNat := by
      rw [not_not.mp wrapped, bytes_of_zero]
    rw [none_allowed, zero_mul] at few
    have at_most : (visit.action.toNat : ℚ) ≤ 0 := granted ▸ spent.trans few
    rw [← same.2, ← UInt64.toNat_inj]
    exact Nat.le_zero.mp (Nat.cast_le.mp (at_most.trans_eq Nat.cast_zero.symm))
  · intro condition
    refine ⟨fun visit member => ?_, fun visit member => ?_, ?_⟩
    · have sound := (rounds_sound limitKbps schedule member).1
      exact ⟨sound.positive, sound.full⟩
    · have sound := (rounds_sound limitKbps schedule member).2
      exact ⟨sound.positive, sound.full⟩
    · intro since till wide
      by_cases wrapped : limitBps limitKbps = 0
      · have nothing := condition.resolve_left (not_not.mpr wrapped)
        have none_spent : spending (bytes (limitBps limitKbps)) since till
            (rounds limitKbps schedule) = 0 := by
          apply spending_eq_zero
          intro visit member
          have none_asked : visit.action = 0 := nothing _ (Machine.mem_of_mem_visits _ member)
          rw [wrapped, bytes_of_zero, none_asked]
          rfl
        rw [none_spent, wrapped]
        simp
      · have bounded := (metered wrapped).spending_le (Nat.cast_nonneg _) schedule.ordered
          (new_sound limitKbps start) wide
        have rate : ((limitBps limitKbps).toNat : ℚ) * (1 + (till - since))
            = (limitBps limitKbps).toNat + (limitBps limitKbps).toNat * (till - since) := by
          ring
        exact bounded.trans_eq rate.symm

/-- A single byte asked for. -/
def lone : Schedule UInt64 (0 : ℚ) where
  moments := [(0, 1)]
  ordered := by norm_num [Ordered]

/-- A limit of `2 ^ 54` kbps is no limit. -/
theorem lone_unbounded : (0 : UInt64) < 18014398509481984 ∧ ¬ Bounded 18014398509481984 lone := by
  refine ⟨by decide, fun bounded => ?_⟩
  have few := bounded.granted 0 0 (le_refl 0)
  have granted : spending (bytes (limitBps 18014398509481984)) 0 0
      (rounds 18014398509481984 lone) = 1 := by
    decide +kernel
  have unlimited : (limitBps 18014398509481984).toNat = 0 := by decide
  rw [granted, unlimited] at few
  norm_num at few

-----------------------------------------------------------------------------------------
-- A call alone
-----------------------------------------------------------------------------------------

theorem toNat_pos (limited : limit ≠ 0) : (0 : ℚ) < limit.toNat := by
  have positive : 0 < limit.toNat := UInt64.pos_iff_ne_zero.mpr limited
  exact Nat.cast_pos.mpr positive

/-- A round at least a delay after a refused one, with no other in between, grants any request
within the limit.
-/
theorem acquire_after_delay (limited : limit ≠ 0) (small : n ≤ limit)
    (short : level limit now state < n.toNat)
    (waited : now + (n.toNat - level limit now state) / limit.toNat ≤ later)
    : (acquire limit later n ⟨level limit now state, now⟩).1 = none := by
  have fits : (n.toNat : ℚ) ≤ limit.toNat := Nat.cast_le.mpr (UInt64.le_iff_toNat_le.mp small)
  have delay : 0 ≤ (n.toNat - level limit now state) / limit.toNat :=
    div_nonneg (sub_nonneg.mpr short.le) (Nat.cast_nonneg _)
  have passed : now ≤ later := (le_add_of_nonneg_right delay).trans waited
  have refilled : level limit later ⟨level limit now state, now⟩ = level limit later state :=
    Bucket.level_refill (limit.toNat : ℚ) state.bucket (Nat.cast_nonneg _) passed
  have enough : (n.toNat : ℚ) ≤ level limit later state :=
    Bucket.le_level_of_waited state.bucket (toNat_pos limited) fits waited
  have round : Round limit later n ⟨level limit now state, now⟩ _ :=
    acquire_round limited n passed
  generalize acquire limit later n ⟨level limit now state, now⟩ = result at round ⊢
  cases round with
  | taken _ => rfl
  | refused still => exact absurd (refilled ▸ still) (not_lt.mpr enough)

theorem acquireAlone_of_granted (granted : (acquire limit now n state).1 = none)
    (late : ℕ → ℚ) (fuel round : ℕ)
    : acquireAlone limit n late (fuel + 1) round now state = some (round + 1) := by
  unfold acquireAlone
  generalize acquire limit now n state = result at granted ⊢
  obtain ⟨delay, left⟩ := result
  simp only at granted
  simp only [granted]

theorem acquireAlone_of_refused {delay : ℚ} {waiting : BucketState}
    (refused : acquire limit now n state = (some delay, waiting)) (late : ℕ → ℚ) (fuel round : ℕ)
    : acquireAlone limit n late (fuel + 1) round now state
      = acquireAlone limit n late fuel (round + 1) (now + (delay + late round)) waiting := by
  simp only [acquireAlone, refused]

/-- A request within the limit is granted by the second round at the latest. -/
theorem acquireAlone_of_le (limited : limit ≠ 0) (sound : Sound limit now state)
    (small : n ≤ limit) {late : ℕ → ℚ} (patient : ∀ round, 0 ≤ late round) (round : ℕ)
    : (acquireAlone limit n late 2 round now state).isSome := by
  have first := acquire_round limited n sound.past
  generalize same : acquire limit now n state = result at first
  cases first with
  | taken enough =>
      have granted : (acquire limit now n state).1 = none := by rw [same]
      rw [acquireAlone_of_granted granted]
      rfl
  | refused short =>
      have extra : (n.toNat - level limit now state) / limit.toNat
          ≤ (n.toNat - level limit now state) / limit.toNat + late round :=
        le_add_of_nonneg_right (patient round)
      have granted := acquire_after_delay limited small short (add_le_add_right extra now)
      rw [acquireAlone_of_refused same, acquireAlone_of_granted granted]
      rfl

/-- A request beyond the limit is refused in every round. -/
theorem acquireAlone_of_lt (limited : limit ≠ 0) (large : limit < n) {late : ℕ → ℚ}
    (patient : ∀ round, 0 ≤ late round) (fuel round : ℕ) (sound : Sound limit now state)
    : acquireAlone limit n late fuel round now state = none := by
  have beyond : (limit.toNat : ℚ) < n.toNat := Nat.cast_lt.mpr (UInt64.lt_iff_toNat_lt.mp large)
  induction fuel generalizing round now state with
  | zero => rfl
  | succ fuel ih =>
      have step := acquire_round limited n sound.past
      have kept := acquire_sound limit n sound
      unfold acquireAlone
      generalize acquire limit now n state = result at step kept ⊢
      cases step with
      | taken enough =>
          have highest := Bucket.level_le_capacity (limit.toNat : ℚ) limit.toNat now state.bucket
          exact absurd (enough.trans highest) (not_le.mpr beyond)
      | refused short =>
          apply ih
          have delay : 0 ≤ (n.toNat - level limit now state) / limit.toNat :=
            div_nonneg (sub_nonneg.mpr short.le) (Nat.cast_nonneg _)
          exact kept.keep (le_add_of_nonneg_right (add_nonneg delay (patient round)))

/-- Behind any earlier rounds, a call with no other caller is granted its bytes if and only if it
asks for no more than the limit, and then by the second round.
-/
theorem acquireAlone_returns_iff {limitKbps : UInt64} (positive : 0 < limitKbps)
    (fits : limitKbps.toNat * 1024 < 2 ^ 64) (earlier : Schedule UInt64 start)
    (begun : start ≤ now) (past : ∀ moment ∈ earlier.moments, moment.1 ≤ now) (n : UInt64)
    {late : ℕ → ℚ} (patient : ∀ round, 0 ≤ late round)
    : ((∃ fuel,
          (acquireAlone (limitBps limitKbps) n late fuel 0 now
              (Machine.final (acquire (limitBps limitKbps)) (new limitKbps start)
                earlier.moments)).isSome)
        ↔ n.toNat ≤ limitKbps.toNat * 1024)
      ∧ (n.toNat ≤ limitKbps.toNat * 1024
        → (acquireAlone (limitBps limitKbps) n late 2 0 now
            (Machine.final (acquire (limitBps limitKbps)) (new limitKbps start)
              earlier.moments)).isSome) := by
  have limit_toNat : (limitBps limitKbps).toNat = limitKbps.toNat * 1024 := by
    rw [limitBps, UInt64.toNat_mul]
    exact Nat.mod_eq_of_lt fits
  have limited : limitBps limitKbps ≠ 0 := by
    intro zero
    have some_kbps : 0 < limitKbps.toNat := UInt64.lt_iff_toNat_lt.mp positive
    rw [zero] at limit_toNat
    simp only [UInt64.toNat_zero] at limit_toNat
    omega
  have sound := final_invariant (Sound (limitBps limitKbps)) Sound.keep
    (fun n _ => acquire_sound _ n) earlier.ordered (new_sound limitKbps start) begun past
  rw [← limit_toNat]
  have returns (small : n.toNat ≤ (limitBps limitKbps).toNat) :=
    acquireAlone_of_le limited sound (UInt64.le_iff_toNat_le.mpr small) patient 0
  refine ⟨⟨?_, fun small => ⟨2, returns small⟩⟩, returns⟩
  intro granted
  obtain ⟨fuel, done⟩ := granted
  by_contra large
  have never := acquireAlone_of_lt limited (UInt64.lt_iff_toNat_lt.mpr (not_le.mp large)) patient
    fuel 0 sound
  simp [never] at done

/-- A block of 64 KiB under a limit of 1 kbps. -/
theorem block_never_granted
    : ¬ ∃ fuel, (acquireAlone (limitBps 1) 65536 (fun _ => 0) fuel 0 0 (new 1 0)).isSome := by
  intro granted
  obtain ⟨fuel, done⟩ := granted
  have never : acquireAlone (limitBps 1) 65536 (fun _ => 0) fuel 0 0 (new 1 0) = none :=
    acquireAlone_of_lt (by decide) (by decide) (fun _ => le_refl 0) fuel 0 (new_sound 1 0)
  simp [never] at done

/-- A kilobyte is taken from a full bucket, and half a second later a second one is refused. -/
def drained : Schedule UInt64 (0 : ℚ) where
  moments := [(0, 1024), (1 / 2, 1024)]
  ordered := by norm_num [Ordered]

/-- A third call for a kilobyte is refused once more, and granted in its second round. -/
theorem kilobyte_granted_later
    : let state := Machine.final (acquire (limitBps 1)) (new 1 0) drained.moments
      acquireAlone (limitBps 1) 1024 (fun _ => 1 / 4) 1 0 (3 / 4) state = none
      ∧ (acquireAlone (limitBps 1) 1024 (fun _ => 1 / 4) 2 0 (3 / 4) state).isSome := by
  refine ⟨by decide +kernel, ?_⟩
  exact (acquireAlone_returns_iff (by decide) (by decide) drained (by norm_num)
    (by norm_num [drained]) 1024 (fun _ => by norm_num)).2 (by decide)

end BandwidthLimiter

end SyncGDrive
