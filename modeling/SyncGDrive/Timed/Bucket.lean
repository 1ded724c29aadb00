import SyncGDrive.Timed.Timeline

/-! Token buckets: a level that rises at a rate up to a capacity, and draws that lower it. -/

namespace Timed

variable {K : Type*} [Field K] [LinearOrder K]

/-- The tokens a bucket held when it was last refilled. -/
structure Bucket (K : Type*) where
  tokens : K
  refilled : K

namespace Bucket

/-- The tokens at a moment: those at the last refill and what accrued, up to the capacity. -/
def level (capacity rate now : K) (bucket : Bucket K) : K :=
  min capacity (bucket.tokens + rate * (now - bucket.refilled))

/-- The bucket refilled at a moment. -/
def refill (capacity rate now : K) (bucket : Bucket K) : Bucket K :=
  ⟨bucket.level capacity rate now, now⟩

/-- The bucket with some tokens taken out. -/
def draw (amount : K) (bucket : Bucket K) : Bucket K :=
  { bucket with tokens := bucket.tokens - amount }

/-- The tokens lie between none and the capacity, and the last refill is not in the future. -/
structure Sound (capacity now : K) (bucket : Bucket K) : Prop where
  positive : 0 ≤ bucket.tokens
  full : bucket.tokens ≤ capacity
  past : bucket.refilled ≤ now

variable {capacity rate now later amount : K} {bucket : Bucket K}

/-- No level is above the capacity. -/
theorem level_le_capacity (capacity rate now : K) (bucket : Bucket K)
    : bucket.level capacity rate now ≤ capacity :=
  min_le_left _ _

/-- A level is the accrued tokens, cut to the capacity where they exceed it. -/
theorem level_eq_ite (capacity rate now : K) (bucket : Bucket K)
    : bucket.level capacity rate now
      = if bucket.tokens + rate * (now - bucket.refilled) > capacity then capacity
        else bucket.tokens + rate * (now - bucket.refilled) := by
  by_cases above : bucket.tokens + rate * (now - bucket.refilled) > capacity
  · rw [if_pos above]
    exact min_eq_left above.le
  · rw [if_neg above]
    exact min_eq_right (not_lt.mp above)

/-- A bucket is no less sound at a later moment. -/
theorem Sound.keep (sound : bucket.Sound capacity now) (passed : now ≤ later)
    : bucket.Sound capacity later :=
  { sound with past := sound.past.trans passed }

variable [IsStrictOrderedRing K]

/-- A level is never below the tokens of the last refill. -/
theorem Sound.tokens_le_level (sound : bucket.Sound capacity now) (accrues : 0 ≤ rate)
    : bucket.tokens ≤ bucket.level capacity rate now := by
  have accrued : 0 ≤ rate * (now - bucket.refilled) :=
    mul_nonneg accrues (sub_nonneg.mpr sound.past)
  exact le_min sound.full (le_add_of_nonneg_right accrued)

theorem Sound.level_nonneg (sound : bucket.Sound capacity now) (accrues : 0 ≤ rate)
    : 0 ≤ bucket.level capacity rate now :=
  sound.positive.trans (sound.tokens_le_level accrues)

/-- A level grows by at most what accrues. -/
theorem level_le_add (capacity : K) (bucket : Bucket K) (accrues : 0 ≤ rate)
    (passed : now ≤ later)
    : bucket.level capacity rate later
      ≤ bucket.level capacity rate now + rate * (later - now) := by
  have accrued : 0 ≤ rate * (later - now) := mul_nonneg accrues (sub_nonneg.mpr passed)
  rcases min_choice capacity (bucket.tokens + rate * (now - bucket.refilled)) with top | risen
  · have highest := level_le_capacity capacity rate later bucket
    simp only [level, top] at highest ⊢
    linarith
  · have highest : bucket.level capacity rate later
        ≤ bucket.tokens + rate * (later - bucket.refilled) :=
      min_le_right _ _
    simp only [level, risen] at highest ⊢
    linarith

/-- Waiting long enough for what is missing brings the level up to any amount within the
capacity.
-/
theorem le_level_of_waited (bucket : Bucket K) (accrues : 0 < rate) (small : amount ≤ capacity)
    (waited : now + (amount - bucket.level capacity rate now) / rate ≤ later)
    : amount ≤ bucket.level capacity rate later := by
  apply le_min small
  have missing : amount - bucket.level capacity rate now ≤ rate * (later - now) := by
    have enough : (amount - bucket.level capacity rate now) / rate ≤ later - now := by linarith
    rwa [div_le_iff₀ accrues, mul_comm] at enough
  have low : bucket.level capacity rate now ≤ bucket.tokens + rate * (now - bucket.refilled) :=
    min_le_right _ _
  linarith

/-- A refill leaves the level of every later moment as it was. -/
theorem level_refill (capacity : K) (bucket : Bucket K) (accrues : 0 ≤ rate)
    (passed : now ≤ later)
    : (bucket.refill capacity rate now).level capacity rate later
      = bucket.level capacity rate later := by
  have accrued : 0 ≤ rate * (later - now) := mul_nonneg accrues (sub_nonneg.mpr passed)
  have sum : bucket.tokens + rate * (now - bucket.refilled) + rate * (later - now)
      = bucket.tokens + rate * (later - bucket.refilled) := by
    ring
  simp only [refill, level]
  rw [← sum, ← min_add_add_right, ← min_assoc, min_eq_left (le_add_of_nonneg_right accrued)]

/-- A refill at a moment leaves a sound bucket. -/
theorem Sound.refill (sound : bucket.Sound capacity now) (accrues : 0 ≤ rate)
    : (bucket.refill capacity rate now).Sound capacity now where
  positive := sound.level_nonneg accrues
  full := level_le_capacity capacity rate now bucket
  past := le_refl now

/-- Drawing no more than there is leaves a sound bucket. -/
theorem Sound.draw (sound : bucket.Sound capacity now) (some' : 0 ≤ amount)
    (enough : amount ≤ bucket.tokens)
    : (bucket.draw amount).Sound capacity now where
  positive := sub_nonneg.mpr enough
  full := (sub_le_self _ some').trans sound.full
  past := sound.past

/-- A draw just after a refill pays for itself out of the level. -/
theorem add_level_draw_le (capacity rate now : K) (bucket : Bucket K) (amount : K)
    : amount + ((bucket.refill capacity rate now).draw amount).level capacity rate now
      ≤ bucket.level capacity rate now := by
  have drawn : ((bucket.refill capacity rate now).draw amount).level capacity rate now
      ≤ bucket.level capacity rate now - amount := by
    apply (min_le_right _ _).trans
    simp [Bucket.refill, Bucket.draw]
  linarith

end Bucket

end Timed
