import SyncGDrive.Pacing.Bandwidth
import SyncGDrive.Pacing.RateBound
import SyncGDrive.Program.Pools
import SyncGDrive.Provider.Permits

/-! The calls of the provider side by side, on the limiters that they share: how many requests they
send in a window of time, and while a pause lasts that the service has asked for.
-/

namespace SyncGDrive

open Program GDriveProvider Timed

-----------------------------------------------------------------------------------------
-- The limiters
-----------------------------------------------------------------------------------------

/-- The moment, and the limiters of the provider. -/
structure Pacer where
  now : ℚ
  api : RateState
  uplink : BucketState

/-- The limit of the uplink, as the provider hands it to its limiter. -/
def AdvancedSettings.uplinkLimit (cfg : AdvancedSettings) : UInt64 :=
  BandwidthLimiter.limitBps (UInt64.ofNat cfg.uploadLimitKbps)

namespace GDriveProvider

/-- The limiters that `new` makes. -/
def newPacer (cfg : AdvancedSettings) (now : ℚ) : Pacer where
  now
  api := ApiRateLimiter.new cfg.apiRateLimitRps now
  uplink := BandwidthLimiter.new (UInt64.ofNat cfg.uploadLimitKbps) now

/-- An operation that is served. Whatever is not about the limiters may be answered anyhow. -/
def pacedServe (cfg : AdvancedSettings) : Semantics drives Pacer
  | .client (.http .acquire), here, _, after =>
      ∃ api,
        ApiRateLimiter.acquire cfg.apiRateLimitRps here.now here.api = (none, api)
        ∧ after = { here with api }
  | .client (.http (.handleRateLimit secs)), here, _, after =>
      after = { here with api := ApiRateLimiter.handleRateLimit here.now secs here.api }
  | .transfer (.grant bytes), here, granted, after =>
      granted = false ∧ after = here
      ∨ granted = true ∧ bytes < 2 ^ 64
        ∧ ∃ uplink,
            BandwidthLimiter.acquire cfg.uplinkLimit here.now (UInt64.ofNat bytes) here.uplink
              = (none, uplink)
            ∧ after = { here with uplink }
  | _, here, _, after => after = here

/-- A round of a limiter that tells its call to wait. -/
def pacedHold (cfg : AdvancedSettings) : DriveOp → Pacer → Pacer → Prop
  | .client (.http .acquire), here, after =>
      ∃ delay api,
        ApiRateLimiter.acquire cfg.apiRateLimitRps here.now here.api = (some delay, api)
        ∧ after = { here with api }
  | .transfer (.grant bytes), here, after =>
      ∃ delay uplink,
        BandwidthLimiter.acquire cfg.uplinkLimit here.now (UInt64.ofNat bytes) here.uplink
          = (some delay, uplink)
        ∧ after = { here with uplink }
  | _, _, _ => False

/-- Calls of the methods of the trait, at moments that never go back. -/
def traffic (cfg : AdvancedSettings) (timestamp : String → Option Int)
    : Surroundings drives Error Pacer where
  begins program :=
    ∃ (α : Type) (method : Drive α),
      OfTrait cfg timestamp method ∧ program = method >>= fun _ => pure ()
  passes here after := here.now ≤ after.now ∧ after = { here with now := after.now }
  serves := pacedServe cfg
  holdsUp := pacedHold cfg

end GDriveProvider

-----------------------------------------------------------------------------------------
-- Requests and refusals
-----------------------------------------------------------------------------------------

def DriveOp.requests : (op : DriveOp) → op.Answer → Nat
  | .client (.http (.send _)), _ | .transfer (.send _), _ | .transfer (.race _), _ => 1
  | _, _ => 0

def refusal (answer : Except Error Response) : Nat := (pauseAsked answer).isSome.toNat

/-- The answers with a 429. -/
def DriveOp.refusals : (op : DriveOp) → op.Answer → Nat
  | .client (.http (.send _)), answer => refusal answer
  | .transfer (.send _), answer => refusal (answer.map Reply.toResponse)
  | .transfer (.race _), some answer => refusal (answer.map Reply.toResponse)
  | _, _ => 0

/-- The permits of the limiter. -/
def DriveOp.permitted : (op : DriveOp) → op.Answer → Nat
  | .client (.http .acquire), _ => 1
  | _, _ => 0

def DriveOp.punished : (op : DriveOp) → op.Answer → Nat
  | .client (.http (.handleRateLimit _)), _ => 1
  | _, _ => 0

/-- The requests and the refusals of a window. -/
structure Tally where
  requests : Nat := 0
  refusals : Nat := 0

def tally : Watch (Pool drives Error Pacer) (PoolEvent drives) Tally :=
  fun note _ event _ =>
    { requests := note.requests + event.count DriveOp.requests
      refusals := note.refusals + event.count DriveOp.refusals }

def Allowance.held (here : Allowance) : Nat := here.permit.toNat

def Allowance.owing (here : Allowance) : Nat := here.owed.isSome.toNat

/-- Nobody has a permit who still owes the pause. -/
def Allowance.Fair (here : Allowance) : Prop := here.permit = true → here.owed = none

theorem Allowance.Fair.light {here : Allowance} (fair : here.Fair)
    : here.held + here.owing ≤ 1 := by
  unfold Allowance.held Allowance.owing
  cases permitted : here.permit with
  | false => cases here.owed <;> simp
  | true => simp [fair permitted]

/-- What an operation spends and leaves is covered by what it brings and what there was. -/
structure Allowance.Covers (op : DriveOp) (answer : op.Answer) (here after : Allowance) : Prop where
  requests : op.requests answer + after.held ≤ op.permitted answer + here.held
  punished : op.punished answer + after.owing ≤ op.refusals answer + here.owing
  fair : here.Fair → after.Fair

theorem Allowance.covers_same {op : DriveOp} {answer : op.Answer} {here after : Allowance}
    (requests : op.requests answer = 0) (punished : op.punished answer = 0)
    (permit : after.permit = here.permit) (owed : after.owed = here.owed)
    : Covers op answer here after := by
  refine ⟨?_, ?_, ?_⟩
  · rw [requests, Allowance.held, permit, Allowance.held]
    omega
  · rw [punished, Allowance.owing, owed, Allowance.owing]
    omega
  · intro fair
    unfold Allowance.Fair
    rw [permit, owed]
    exact fair

/-- A request uses up its permit, and owes the pause that it is refused with. -/
theorem Allowance.covers_sent {op : DriveOp} {answer : op.Answer} {here : Allowance}
    {brought : Except Error Response} (permit : here.permit = true)
    (requests : op.requests answer = 1) (punished : op.punished answer = 0)
    (refusals : op.refusals answer = refusal brought)
    : Covers op answer here (here.sent brought) := by
  refine ⟨?_, ?_, ?_⟩
  · rw [requests, Allowance.held, Allowance.held, permit]
    exact Nat.le_add_left _ _
  · rw [punished, refusals, Nat.zero_add]
    exact Nat.le_add_right _ _
  · intro _ permitted
    cases permitted

/-- The monitor of the provider keeps to it. -/
theorem permits_covers (op : DriveOp) (answer : op.Answer) (here : Allowance)
    (permitted : permits.permits op here)
    : Allowance.Covers op answer here (permits.next op answer here) := by
  cases op with
  | client op =>
      cases op with
      | engine op => exact Allowance.covers_same rfl rfl rfl rfl
      | http op =>
          cases op with
          | acquire =>
              refine ⟨?_, ?_, fun _ _ => permitted⟩
              · exact Nat.le_add_right 1 _
              · exact Nat.le_refl _
          | handleRateLimit secs =>
              have owed : here.owed = some secs := permitted
              refine ⟨Nat.le_refl _, ?_, fun _ _ => rfl⟩
              rw [Allowance.owing, Allowance.owing, owed]
              exact Nat.le_refl _
          | getToken => exact Allowance.covers_same rfl rfl rfl rfl
          | send request => exact Allowance.covers_sent permitted.permit rfl rfl rfl
          | sleep secs => exact Allowance.covers_same rfl rfl rfl rfl
  | transfer op =>
      cases op with
      | send request => exact Allowance.covers_sent permitted.1.permit rfl rfl rfl
      | race request =>
          cases answer with
          | none =>
              have held : here.held = 1 := by
                rw [Allowance.held, permitted.1.permit]
                rfl
              refine ⟨?_, Nat.le_refl _, fun _ permit => by cases permit⟩
              rw [held]
              exact Nat.le_refl 1
          | some answer => exact Allowance.covers_sent permitted.1.permit rfl rfl rfl
      | readFile | openFile | readBlock | pull | isCancelled | grant | recordBytes =>
          exact Allowance.covers_same rfl rfl rfl rfl

-----------------------------------------------------------------------------------------
-- The limiter of requests
-----------------------------------------------------------------------------------------

namespace ApiRateLimiter

/-- What the limiter may still let go at once: its tokens, and a call for the lock it has. -/
def budget (maxRps : ℕ) (now : ℚ) (state : RateState) : ℚ :=
  level maxRps now state + state.lockedUntil.isSome.toNat

variable {maxRps : ℕ} {now later : ℚ} {state : RateState}

/-- A round pays for the call that it lets go, with a token or with the lock that it lifts. -/
theorem Round.budget {result : Option ℚ × RateState} (round : Round maxRps now state result)
    : (result.1.isNone.toNat : ℚ) + budget maxRps now result.2 ≤ budget maxRps now state := by
  have accrues : (0 : ℚ) ≤ maxRps := Nat.cast_nonneg maxRps
  unfold ApiRateLimiter.budget
  cases round with
  | locked lock early => simp
  | lifted lock due =>
      rw [lock]
      simp [level, RateState.bucket, add_comm]
  | taken free enough =>
      have paid := Bucket.add_level_draw_le (maxRps : ℚ) maxRps now state.bucket 1
      rw [free]
      simp only [Option.isNone_none, Option.isSome_none, Bool.toNat_true, Bool.toNat_false,
        Nat.cast_one, Nat.cast_zero, add_zero]
      exact paid
  | refused free short =>
      have same := Bucket.level_refill (maxRps : ℚ) state.bucket accrues (le_refl now)
      rw [free]
      simp only [Option.isNone_some, Option.isSome_none, Bool.toNat_false, Nat.cast_zero, add_zero,
        zero_add]
      exact same.le

/-- A punishment locks the limiter once. -/
theorem handleRateLimit_budget (maxRps : ℕ) (now : ℚ) (retryAfterSecs : ℕ) (state : RateState)
    : budget maxRps now (handleRateLimit now retryAfterSecs state)
      ≤ 1 + budget maxRps now state := by
  have locked (state : RateState) : (state.lockedUntil.isSome.toNat : ℚ) ≤ 1 :=
    Nat.cast_le_one.mpr (Bool.toNat_le _)
  have once := locked (handleRateLimit now retryAfterSecs state)
  have before : (0 : ℚ) ≤ state.lockedUntil.isSome.toNat := Nat.cast_nonneg _
  unfold budget level
  rw [handleRateLimit_bucket]
  linarith

theorem budget_passing (maxRps : ℕ) (state : RateState) (passed : now ≤ later)
    : budget maxRps later state ≤ budget maxRps now state + maxRps * (later - now) := by
  have grown := Bucket.level_le_add (maxRps : ℚ) state.bucket (Nat.cast_nonneg maxRps) passed
  unfold budget level
  linarith

theorem budget_le (maxRps : ℕ) (now : ℚ) (state : RateState)
    : budget maxRps now state ≤ maxRps + state.lockedUntil.isSome.toNat := by
  have full := Bucket.level_le_capacity (maxRps : ℚ) maxRps now state.bucket
  unfold budget level
  linarith

theorem budget_nonneg (sound : Sound maxRps now state) : 0 ≤ budget maxRps now state := by
  have positive := sound.level_nonneg (Nat.cast_nonneg maxRps)
  exact add_nonneg positive (Nat.cast_nonneg _)

end ApiRateLimiter

/-- What a step does to the limiter of requests. -/
inductive PacerTurn (maxRps : ℕ) (event : PoolEvent drives) (here after : Pacer) : Prop
  | round {delay : Option ℚ} (now : after.now = here.now)
    (api : ApiRateLimiter.acquire maxRps here.now here.api = (delay, after.api))
    (permitted : event.count DriveOp.permitted = delay.isNone.toNat)
    (punished : event.count DriveOp.punished = 0)
  | punished {secs : Nat} (now : after.now = here.now)
    (api : after.api = ApiRateLimiter.handleRateLimit here.now secs here.api)
    (permitted : event.count DriveOp.permitted = 0) (punished : event.count DriveOp.punished = 1)
  | passed (now : here.now ≤ after.now) (api : after.api = here.api)
    (permitted : event.count DriveOp.permitted = 0) (punished : event.count DriveOp.punished = 0)

section Turns

variable {cfg : AdvancedSettings} {timestamp : String → Option Int}
  {pool pool' : Pool drives Error Pacer} {event : PoolEvent drives} {here after : Pacer}

theorem pacerTurn_served (op : DriveOp) (answer : op.Answer)
    (served : pacedServe cfg op here answer after)
    : PacerTurn cfg.apiRateLimitRps (.served op answer) here after := by
  cases op with
  | client op =>
      cases op with
      | engine op =>
          obtain rfl : after = here := served
          exact .passed (le_refl _) rfl rfl rfl
      | http op =>
          cases op with
          | acquire =>
              obtain ⟨api, granted, rfl⟩ := served
              exact .round rfl granted rfl rfl
          | handleRateLimit secs =>
              obtain rfl : after = _ := served
              exact .punished rfl rfl rfl rfl
          | getToken | send | sleep =>
              obtain rfl : after = here := served
              exact .passed (le_refl _) rfl rfl rfl
  | transfer op =>
      cases op with
      | grant bytes =>
          rcases served with ⟨-, rfl⟩ | ⟨-, -, uplink, -, rfl⟩
          · exact .passed (le_refl _) rfl rfl rfl
          · exact .passed (le_refl _) rfl rfl rfl
      | readFile | openFile | readBlock | pull | isCancelled | recordBytes | send | race =>
          obtain rfl : after = here := served
          exact .passed (le_refl _) rfl rfl rfl

theorem pacerTurn_heldUp (op : DriveOp) (held : pacedHold cfg op here after)
    : PacerTurn cfg.apiRateLimitRps (.heldUp op) here after := by
  cases op with
  | client op =>
      cases op with
      | engine op => cases held
      | http op =>
          cases op with
          | acquire =>
              obtain ⟨delay, api, refused, rfl⟩ := held
              exact .round rfl refused rfl rfl
          | handleRateLimit | getToken | send | sleep => cases held
  | transfer op =>
      cases op with
      | grant bytes =>
          obtain ⟨delay, uplink, -, rfl⟩ := held
          exact .passed (le_refl _) rfl rfl rfl
      | readFile | openFile | readBlock | pull | isCancelled | recordBytes | send | race =>
          cases held

/-- Every step of the traffic is one of the three. -/
theorem step_pacerTurn (step : Pool.Step (traffic cfg timestamp) pool event pool')
    : PacerTurn cfg.apiRateLimitRps event pool.shared pool'.shared := by
  cases step with
  | @passed _ shared passes =>
      obtain ⟨passed, same⟩ := passes
      have api : shared.api = pool.shared.api := by rw [same]
      exact .passed passed api rfl rfl
  | begun begins => exact .passed (le_refl _) rfl rfl rfl
  | served running serves => exact pacerTurn_served _ _ serves
  | heldUp running holdsUp => exact pacerTurn_heldUp _ holdsUp
  | dropped running => exact .passed (le_refl _) rfl rfl rfl

end Turns

/-- The limiter of requests has been refilled in the past only. -/
abbrev Pacer.Sound (maxRps : ℕ) (here : Pacer) : Prop :=
  ApiRateLimiter.Sound maxRps here.now here.api

abbrev Pacer.budget (maxRps : ℕ) (here : Pacer) : ℚ :=
  ApiRateLimiter.budget maxRps here.now here.api

/-- In every step the limiter pays for the permits that it gives, out of the time that passes and of
the punishments.
-/
theorem PacerTurn.budget {maxRps : ℕ} {event : PoolEvent drives} {here after : Pacer}
    (turn : PacerTurn maxRps event here after) (limited : 0 < maxRps) (sound : here.Sound maxRps)
    : (event.count DriveOp.permitted : ℚ) + after.budget maxRps
        ≤ event.count DriveOp.punished + here.budget maxRps
          + maxRps * (after.now - here.now)
      ∧ after.Sound maxRps := by
  unfold Pacer.Sound Pacer.budget at *
  cases turn with
  | round now api permitted punished =>
      have round := ApiRateLimiter.acquire_round limited sound.past
      rw [api] at round
      rw [permitted, punished, now]
      exact ⟨by simpa using round.budget, round.sound sound⟩
  | @punished secs now api permitted punished =>
      rw [permitted, punished, now, api]
      constructor
      · simpa using ApiRateLimiter.handleRateLimit_budget maxRps here.now secs here.api
      · exact ApiRateLimiter.enter_sound limited (.handleRateLimit secs) sound
  | passed now api permitted punished =>
      rw [permitted, punished, api]
      constructor
      · simpa using ApiRateLimiter.budget_passing maxRps here.api now
      · exact sound.keep now

-----------------------------------------------------------------------------------------
-- The rate
-----------------------------------------------------------------------------------------

/-- The limiter is sound, and beside every call stands its monitor. -/
structure Supervised (maxRps : ℕ) (pool : Pool drives Error Pacer) (allowances : List Allowance)
    : Prop where
  sound : pool.shared.Sound maxRps
  attended : Attended permits pool.programs allowances
  fair : ∀ allowance ∈ allowances, allowance.Fair

/-- All that is left to be spent on requests: permits, pauses that are still owed, and what the
limiter may let go.
-/
def reserve (maxRps : ℕ) (pool : Pool drives Error Pacer) (allowances : List Allowance) : ℚ :=
  weight Allowance.held allowances + weight Allowance.owing allowances
  + pool.shared.budget maxRps

section Rate

variable {cfg : AdvancedSettings} {timestamp : String → Option Int}
  {pool pool' : Pool drives Error Pacer} {event : PoolEvent drives} {allowances : List Allowance}

/-- A method may begin at any time, and its result is dropped. -/
theorem accepts_begins {program : Prog drives Error Unit}
    (begins : (traffic cfg timestamp).begins program)
    : Accepts permits program {} (fun _ _ => True) := by
  obtain ⟨α, method, ofTrait, rfl⟩ := begins
  apply (accepts_method ofTrait).bind
  · intro _ _ _
    trivial
  · intro _ _ _
    trivial

/-- In every step the monitors go along: what is sent has been permitted, and what the limiter is
told has been asked for.
-/
theorem Supervised.moves (supervised : Supervised cfg.apiRateLimitRps pool allowances)
    (limited : 0 < cfg.apiRateLimitRps) (step : Pool.Step (traffic cfg timestamp) pool event pool')
    : ∃ allowances',
        Supervised cfg.apiRateLimitRps pool' allowances'
        ∧ event.count DriveOp.requests + weight Allowance.held allowances'
          ≤ event.count DriveOp.permitted + weight Allowance.held allowances
        ∧ event.count DriveOp.punished + weight Allowance.owing allowances'
          ≤ event.count DriveOp.refusals + weight Allowance.owing allowances := by
  obtain ⟨-, sound⟩ := (step_pacerTurn step).budget limited supervised.sound
  obtain ⟨allowances', attended, shift⟩ :=
    step.attended (fun _ => accepts_begins) supervised.attended
  have fair :=
    shift.each (by intro permit; cases permit)
      (fun op answer here permitted => (permits_covers op answer here permitted).fair)
      supervised.fair
  have requests :=
    shift.balance Allowance.held rfl
      (fun op answer here permitted => (permits_covers op answer here permitted).requests)
  have pauses :=
    shift.balance Allowance.owing rfl
      (fun op answer here permitted => (permits_covers op answer here permitted).punished)
  exact ⟨allowances', ⟨sound, attended, fair⟩, requests, pauses⟩

/-- In every step requests and what is left are covered by what there was, the refusals and the time
that passes.
-/
theorem Supervised.step (supervised : Supervised cfg.apiRateLimitRps pool allowances)
    (limited : 0 < cfg.apiRateLimitRps) (step : Pool.Step (traffic cfg timestamp) pool event pool')
    : ∃ allowances',
        Supervised cfg.apiRateLimitRps pool' allowances'
        ∧ (event.count DriveOp.requests : ℚ) + reserve cfg.apiRateLimitRps pool' allowances'
          ≤ event.count DriveOp.refusals + reserve cfg.apiRateLimitRps pool allowances
            + cfg.apiRateLimitRps * (pool'.shared.now - pool.shared.now) := by
  obtain ⟨paid, -⟩ := (step_pacerTurn step).budget limited supervised.sound
  obtain ⟨allowances', supervised', requests, pauses⟩ := supervised.moves limited step
  have requests' : (_ : ℚ) ≤ _ := Nat.cast_le.mpr requests
  have pauses' : (_ : ℚ) ≤ _ := Nat.cast_le.mpr pauses
  push_cast at requests' pauses'
  refine ⟨allowances', supervised', ?_⟩
  unfold reserve
  linarith

theorem supervised_launch (cfg : AdvancedSettings) (now : ℚ)
    : Supervised cfg.apiRateLimitRps ⟨newPacer cfg now, []⟩ [] where
  sound := ApiRateLimiter.new_sound cfg.apiRateLimitRps now
  attended := .nil
  fair := by simp

/-- In every run from the launch on, the limiter is sound and the monitors stand beside the calls.
-/
theorem supervised_runs {Note : Type}
    {watch : Watch (Pool drives Error Pacer) (PoolEvent drives) Note} {first note : Note} {now : ℚ}
    (limited : 0 < cfg.apiRateLimitRps)
    (run : Pool.Runs (traffic cfg timestamp) watch first ⟨newPacer cfg now, []⟩ note pool)
    : ∃ allowances, Supervised cfg.apiRateLimitRps pool allowances := by
  apply run.invariant (fun _ pool => ∃ allowances, Supervised cfg.apiRateLimitRps pool allowances)
  · exact ⟨[], supervised_launch cfg now⟩
  · intro _ pool event pool' supervised step _
    obtain ⟨allowances, supervised⟩ := supervised
    obtain ⟨allowances', supervised', -⟩ := supervised.step limited step
    exact ⟨allowances', supervised'⟩

/-- What is left is at most what the limiter holds, and one for every call that is running. -/
theorem Supervised.reserve_le (supervised : Supervised cfg.apiRateLimitRps pool allowances)
    : reserve cfg.apiRateLimitRps pool allowances
      ≤ pool.programs.length + cfg.apiRateLimitRps
        + pool.shared.api.lockedUntil.isSome.toNat := by
  have light :=
    weight_add_le_length (fun allowance member => (supervised.fair allowance member).light)
  rw [← supervised.attended.length_eq] at light
  have light' : (_ : ℚ) ≤ _ := Nat.cast_le.mpr light
  push_cast at light'
  have full :=
    ApiRateLimiter.budget_le cfg.apiRateLimitRps pool.shared.now pool.shared.api
  unfold reserve Pacer.budget
  linarith

theorem Supervised.reserve_nonneg (supervised : Supervised cfg.apiRateLimitRps pool allowances)
    : 0 ≤ reserve cfg.apiRateLimitRps pool allowances :=
  add_nonneg (add_nonneg (Nat.cast_nonneg _) (Nat.cast_nonneg _))
    (ApiRateLimiter.budget_nonneg supervised.sound)

/-- However many calls of the provider run side by side, and however they are answered, held up or
dropped: what they send in a window of time is bounded by the rate, but for one request for each
that was refused in the window, each call that was running when it began, and a lock that the
limiter had then.
-/
theorem requests_keep_rate {here there : Pool drives Error Pacer} {note : Tally} {launched : ℚ}
    (limited : 0 < cfg.apiRateLimitRps)
    (before : Pool.Runs (traffic cfg timestamp) unwatched () ⟨newPacer cfg launched, []⟩ () here)
    (window : Pool.Runs (traffic cfg timestamp) tally {} here note there)
    : (note.requests : ℚ)
      ≤ cfg.apiRateLimitRps * (1 + (there.shared.now - here.shared.now)) + note.refusals
        + here.programs.length + here.shared.api.lockedUntil.isSome.toNat := by
  obtain ⟨allowances, supervised⟩ := supervised_runs limited before
  have spent
      : ∃ allowances',
          Supervised cfg.apiRateLimitRps there allowances'
          ∧ (note.requests : ℚ) + reserve cfg.apiRateLimitRps there allowances'
            ≤ note.refusals + reserve cfg.apiRateLimitRps here allowances
              + cfg.apiRateLimitRps * (there.shared.now - here.shared.now) := by
    apply window.invariant
      (fun (note : Tally) there =>
        ∃ allowances',
          Supervised cfg.apiRateLimitRps there allowances'
          ∧ (note.requests : ℚ) + reserve cfg.apiRateLimitRps there allowances'
            ≤ note.refusals + reserve cfg.apiRateLimitRps here allowances
              + cfg.apiRateLimitRps * (there.shared.now - here.shared.now))
    · exact ⟨allowances, supervised, by simp⟩
    · intro note pool event pool' counted step _
      obtain ⟨states, supervised, counted⟩ := counted
      obtain ⟨states', supervised', covered⟩ := supervised.step limited step
      refine ⟨states', supervised', ?_⟩
      simp only [tally]
      push_cast
      linarith
  obtain ⟨allowances', supervised', counted⟩ := spent
  have left := supervised'.reserve_nonneg
  have first := supervised.reserve_le
  linarith

end Rate

-----------------------------------------------------------------------------------------
-- Pauses
-----------------------------------------------------------------------------------------

section Pauses

variable {cfg : AdvancedSettings} {timestamp : String → Option Int} {until' : ℚ}
  {pool pool' : Pool drives Error Pacer}

/-- The limiter lets nobody go before a moment. -/
abbrev Pacer.Held (until' : ℚ) (here : Pacer) : Prop :=
  ApiRateLimiter.Held until' here.now here.api

/-- No turn before that moment gives a permit. -/
theorem PacerTurn.held {maxRps : ℕ} {event : PoolEvent drives} {here after : Pacer}
    (turn : PacerTurn maxRps event here after) (limited : 0 < maxRps) (held : here.Held until')
    : after.Held until' ∧ here.now ≤ after.now
      ∧ (after.now < until' → event.count DriveOp.permitted = 0) := by
  unfold Pacer.Held at *
  cases turn with
  | round now api permitted punished =>
      have kept := ApiRateLimiter.Held.acquire held limited
      rw [api] at kept
      rw [now, permitted]
      refine ⟨kept, le_refl _, fun lasting => ?_⟩
      have refused := (ApiRateLimiter.Held.not_granted held limited lasting).2
      rw [api] at refused
      rw [refused]
      rfl
  | @punished secs now api permitted punished =>
      rw [now, api]
      exact ⟨ApiRateLimiter.Held.handleRateLimit held secs, le_refl _, fun _ => permitted⟩
  | passed now api permitted punished =>
      rw [api]
      exact ⟨ApiRateLimiter.Held.passing held now, now, fun _ => permitted⟩

/-- A call that passes a pause on holds the limiter for as long. -/
theorem punished_held {secs : Nat} {answer : Unit}
    (step
      : Pool.Step (traffic cfg timestamp) pool
          (.served (.client (.http (.handleRateLimit secs))) answer) pool')
    : pool'.shared.Held (pool.shared.now + secs) := by
  cases step with
  | served running serves =>
      obtain rfl : _ = _ := serves
      exact ApiRateLimiter.handleRateLimit_held pool.shared.now secs pool.shared.api

/-- Once a pause is passed on that the service has asked for, no more requests are sent until it is
over than calls are running at that moment, whatever begins later.
-/
theorem pauses_are_kept {here middle there : Pool drives Error Pacer} {note : Tally}
    {launched : ℚ} {secs : Nat} {answer : Unit} (limited : 0 < cfg.apiRateLimitRps)
    (before : Pool.Runs (traffic cfg timestamp) unwatched () ⟨newPacer cfg launched, []⟩ () here)
    (punished
      : Pool.Step (traffic cfg timestamp) here
          (.served (.client (.http (.handleRateLimit secs))) answer) middle)
    (window : Pool.Runs (traffic cfg timestamp) tally {} middle note there)
    (lasting : there.shared.now < here.shared.now + secs)
    : note.requests ≤ middle.programs.length := by
  obtain ⟨allowances, supervised⟩ := supervised_runs limited (before.step punished trivial)
  have counted
      : ∃ allowances',
          Supervised cfg.apiRateLimitRps there allowances'
          ∧ there.shared.Held (here.shared.now + secs)
          ∧ (there.shared.now < here.shared.now + secs
            → note.requests + weight Allowance.held allowances'
              ≤ weight Allowance.held allowances) := by
    apply window.invariant
      (fun (note : Tally) there =>
        ∃ allowances',
          Supervised cfg.apiRateLimitRps there allowances'
          ∧ there.shared.Held (here.shared.now + secs)
          ∧ (there.shared.now < here.shared.now + secs
            → note.requests + weight Allowance.held allowances'
              ≤ weight Allowance.held allowances))
    · exact ⟨allowances, supervised, punished_held punished, fun _ => by simp⟩
    · intro note pool event pool' counted step _
      obtain ⟨states, supervised, held, counted⟩ := counted
      obtain ⟨kept, passed, refused⟩ := (step_pacerTurn step).held limited held
      obtain ⟨states', supervised', requests, -⟩ := supervised.moves limited step
      refine ⟨states', supervised', kept, fun lasting => ?_⟩
      have earlier := counted (passed.trans_lt lasting)
      have none_permitted := refused lasting
      simp only [tally]
      omega
  obtain ⟨allowances', -, -, counted⟩ := counted
  have sent := counted lasting
  have light :=
    weight_add_le_length (fun allowance member => (supervised.fair allowance member).light)
  rw [← supervised.attended.length_eq] at light
  omega

end Pauses

-----------------------------------------------------------------------------------------
-- Two deletions
-----------------------------------------------------------------------------------------

/-- Traffic under the default settings, ten requests a second. -/
abbrev usualTraffic : Surroundings drives Error Pacer := traffic {} (fun _ => none)

def idlePool : Pool drives Error Pacer := ⟨newPacer {} 0, []⟩

/-- An answer that asks for five seconds. -/
def refusedReply : Reply := { status := 429, retryAfter := some [53] }

theorem first_permit
    : ApiRateLimiter.acquire 10 0 (ApiRateLimiter.new 10 0) = (none, ⟨9, 0, none⟩) := by
  decide +kernel

theorem second_permit : ApiRateLimiter.acquire 10 0 ⟨9, 0, none⟩ = (none, ⟨8, 0, none⟩) := by
  decide +kernel

/-- The service has asked for five seconds. -/
def punishedApi : RateState := ApiRateLimiter.handleRateLimit 0 5 ⟨9, 0, none⟩

theorem punished_waits : ApiRateLimiter.acquire 10 0 punishedApi = (some 5, punishedApi) := by
  decide +kernel

theorem punished_lifted : ApiRateLimiter.acquire 10 5 punishedApi = (none, ⟨9, 0, none⟩) := by
  decide +kernel

/-- Of two deletions the first is refused, and the second one waits out the pause. -/
theorem deletions_keep_rate
    : ∃ note there,
        Pool.Runs usualTraffic tally {} idlePool note there
        ∧ note = ⟨2, 1⟩ ∧ there.shared.now = 5
        ∧ (note.requests : ℚ)
          ≤ (10 : ℕ) * (1 + (there.shared.now - idlePool.shared.now)) + note.refusals
            + idlePool.programs.length + idlePool.shared.api.lockedUntil.isSome.toNat := by
  have launched : Pool.Runs usualTraffic tally {} idlePool {} idlePool := .start
  have first := launched.step (.begun ⟨Unit, _, .delete "1", rfl⟩) trivial
  have second := first.step (.begun ⟨Unit, _, .delete "2", rfl⟩) trivial
  have permitted :=
    second.step
      (@Pool.Step.served _ _ _ usualTraffic _ [] [_] (.client (.http .acquire)) _ () _ rfl
        ⟨_, first_permit, rfl⟩)
      trivial
  have token :=
    permitted.step
      (@Pool.Step.served _ _ _ usualTraffic _ [] [_] (.client (.http .getToken)) _ (.ok "ya29") _
        rfl rfl)
      trivial
  have refused :=
    token.step
      (@Pool.Step.served _ _ _ usualTraffic _ [] [_]
        (.transfer (.send (deleteRequest {} "ya29" "1"))) _ (.ok refusedReply) _ rfl rfl)
      trivial
  have punished :=
    refused.step
      (@Pool.Step.served _ _ _ usualTraffic _ [] [_] (.client (.http (.handleRateLimit 5))) _ () _
        rfl rfl)
      trivial
  have waiting :=
    punished.step
      (@Pool.Step.heldUp _ _ _ usualTraffic _ [_] [] (.client (.http .acquire)) _ _ rfl
        ⟨_, _, punished_waits, rfl⟩)
      trivial
  have later :=
    waiting.step
      (@Pool.Step.passed _ _ _ usualTraffic _ ⟨5, punishedApi, (newPacer {} 0).uplink⟩
        ⟨show (0 : ℚ) ≤ 5 by norm_num, rfl⟩)
      trivial
  have lifted :=
    later.step
      (@Pool.Step.served _ _ _ usualTraffic _ [_] [] (.client (.http .acquire)) _ () _ rfl
        ⟨_, punished_lifted, rfl⟩)
      trivial
  have token :=
    lifted.step
      (@Pool.Step.served _ _ _ usualTraffic _ [_] [] (.client (.http .getToken)) _ (.ok "ya29") _
        rfl rfl)
      trivial
  have sent :=
    token.step
      (@Pool.Step.served _ _ _ usualTraffic _ [_] []
        (.transfer (.send (deleteRequest {} "ya29" "2"))) _ (.ok { status := 204 }) _ rfl rfl)
      trivial
  have kept := @requests_keep_rate {} (fun _ => none) idlePool _ _ 0 (by decide) .start sent
  exact ⟨_, _, sent, rfl, rfl, kept⟩

/-- What is left of a deletion that has its permit. -/
def permittedDeletion (fileId : DriveId) : Prog drives Error Unit :=
  (do
    let token ← propagate (← Client.lift (http .getToken))
    let res ← propagate (← transfer (.send (deleteRequest {} token fileId)))
    accept res "delete" "suppression") >>= fun _ => pure ()

/-- It is sent, whatever else is running. -/
theorem permittedDeletion_sent {pool : Pool drives Error Pacer} {other : Prog drives Error Unit}
    {fileId : DriveId} (running : pool.programs = [other, permittedDeletion fileId])
    : ∃ there, Pool.Runs usualTraffic tally {} pool ⟨1, 0⟩ there ∧ there.shared = pool.shared := by
  have launched : Pool.Runs usualTraffic tally {} pool {} pool := .start
  have token :=
    launched.step
      (@Pool.Step.served _ _ _ usualTraffic _ [other] [] (.client (.http .getToken)) _ (.ok "ya29")
        _ running rfl)
      trivial
  have sent :=
    token.step
      (@Pool.Step.served _ _ _ usualTraffic _ [other] []
        (.transfer (.send (deleteRequest {} "ya29" fileId))) _ (.ok { status := 204 }) _ rfl rfl)
      trivial
  exact ⟨_, sent, rfl⟩

/-- Of two deletions that are permitted one is refused, and the other is still sent. -/
theorem deletion_keeps_pause
    : ∃ middle there,
        Pool.Runs usualTraffic tally {} middle ⟨1, 0⟩ there ∧ 1 ≤ middle.programs.length := by
  have launched : Pool.Runs usualTraffic unwatched () idlePool () idlePool := .start
  have first := launched.step (.begun ⟨Unit, _, .delete "1", rfl⟩) trivial
  have second := first.step (.begun ⟨Unit, _, .delete "2", rfl⟩) trivial
  have permitted :=
    second.step
      (@Pool.Step.served _ _ _ usualTraffic _ [] [_] (.client (.http .acquire)) _ () _ rfl
        ⟨_, first_permit, rfl⟩)
      trivial
  have both :=
    permitted.step
      (@Pool.Step.served _ _ _ usualTraffic _ [_] [] (.client (.http .acquire)) _ () _ rfl
        ⟨_, second_permit, rfl⟩)
      trivial
  have token :=
    both.step
      (@Pool.Step.served _ _ _ usualTraffic _ [] [_] (.client (.http .getToken)) _ (.ok "ya29") _
        rfl rfl)
      trivial
  have refused :=
    token.step
      (@Pool.Step.served _ _ _ usualTraffic _ [] [_]
        (.transfer (.send (deleteRequest {} "ya29" "1"))) _ (.ok refusedReply) _ rfl rfl)
      trivial
  have kept
      : ∃ middle,
          (∀ there,
            Pool.Runs usualTraffic tally {} middle ⟨1, 0⟩ there
            → there.shared.now < 0 + (5 : ℕ)
            → 1 ≤ middle.programs.length)
          ∧ (∃ other, middle.programs = [other, permittedDeletion "2"])
          ∧ middle.shared.now = 0 :=
    ⟨_, fun there sent lasting =>
      @pauses_are_kept {} (fun _ => none) _ _ there ⟨1, 0⟩ 0 5 () (by decide) refused
        (@Pool.Step.served _ _ _ usualTraffic _ [] [permittedDeletion "2"]
          (.client (.http (.handleRateLimit 5))) _ () _ rfl rfl)
        sent lasting,
      ⟨_, rfl⟩, rfl⟩
  obtain ⟨middle, kept, running, now⟩ := kept
  obtain ⟨other, running⟩ := running
  obtain ⟨there, sent, same⟩ := permittedDeletion_sent running
  exact ⟨middle, there, sent, kept there sent (by rw [same, now]; norm_num)⟩

end SyncGDrive
