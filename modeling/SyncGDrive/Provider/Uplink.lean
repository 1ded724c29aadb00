import SyncGDrive.Provider.Traffic

/-! The content of files on the uplink. However many uploads run side by side, every byte of it has
been let through by the limiter before it is sent, and before it is recorded.
-/

namespace SyncGDrive

open Program GDriveProvider Timed

-----------------------------------------------------------------------------------------
-- Content
-----------------------------------------------------------------------------------------

/-- The bytes of a file in a body. -/
def Body.payload : Body → Nat
  | .form _ _ content => content.length
  | .stream _ blocks => (blocks.map List.length).sum
  | .empty | .json _ => 0

def DriveOp.payload : (op : DriveOp) → op.Answer → Nat
  | .transfer (.send request), _ | .transfer (.race request), _ => request.body.payload
  | _, _ => 0

def DriveOp.recorded : (op : DriveOp) → op.Answer → Nat
  | .transfer (.recordBytes bytes), _ => bytes
  | _, _ => 0

/-- The bytes that the limiter lets through. -/
def DriveOp.letThrough : (op : DriveOp) → op.Answer → Nat
  | .transfer (.grant bytes), true => bytes
  | _, _ => 0

/-- What a call has been let through with, and has not sent or not recorded yet. -/
structure Credit where
  unsent : Nat := 0
  unrecorded : Nat := 0

def uplinked : Monitor drives Credit where
  permits
    | .transfer (.send request), here | .transfer (.race request), here =>
        request.body.payload ≤ here.unsent
    | .transfer (.recordBytes bytes), here => bytes ≤ here.unrecorded
    | _, _ => True
  next
    | .transfer (.grant bytes), true, here => ⟨here.unsent + bytes, here.unrecorded + bytes⟩
    | .transfer (.send request), _, here | .transfer (.race request), _, here =>
        { here with unsent := here.unsent - request.body.payload }
    | .transfer (.recordBytes bytes), _, here =>
        { here with unrecorded := here.unrecorded - bytes }
    | _, _, here => here

/-- What an operation uses it has been let through with. -/
structure Credit.Covers (op : DriveOp) (answer : op.Answer) (here after : Credit) : Prop where
  sent : op.payload answer + after.unsent ≤ op.letThrough answer + here.unsent
  recorded : op.recorded answer + after.unrecorded ≤ op.letThrough answer + here.unrecorded

theorem Credit.covers_same {op : DriveOp} {answer : op.Answer} {here : Credit}
    (payload : op.payload answer = 0) (recorded : op.recorded answer = 0)
    : Covers op answer here here :=
  ⟨by rw [payload]; omega, by rw [recorded]; omega⟩

theorem uplinked_covers (op : DriveOp) (answer : op.Answer) (here : Credit)
    (permitted : uplinked.permits op here)
    : Credit.Covers op answer here (uplinked.next op answer here) := by
  cases op with
  | client op => exact Credit.covers_same rfl rfl
  | transfer op =>
      cases op with
      | grant bytes =>
          cases answer with
          | false => exact Credit.covers_same rfl rfl
          | true =>
              have sum : here.unsent + bytes = bytes + here.unsent := Nat.add_comm _ _
              have sum' : here.unrecorded + bytes = bytes + here.unrecorded := Nat.add_comm _ _
              exact ⟨(Nat.zero_add _).trans sum |>.le, (Nat.zero_add _).trans sum' |>.le⟩
      | recordBytes bytes =>
          have paid : bytes + (here.unrecorded - bytes) = here.unrecorded :=
            Nat.add_sub_cancel' permitted
          exact ⟨Nat.le_refl _, paid.trans (Nat.zero_add _).symm |>.le⟩
      | send request | race request =>
          have paid
              : request.body.payload + (here.unsent - request.body.payload) = here.unsent :=
            Nat.add_sub_cancel' permitted
          exact ⟨paid.trans (Nat.zero_add _).symm |>.le, Nat.le_refl _⟩
      | readFile | openFile | readBlock | pull | isCancelled => exact Credit.covers_same rfl rfl

-----------------------------------------------------------------------------------------
-- Uploads
-----------------------------------------------------------------------------------------

section Uploads

variable {α β : Type} {here : Credit} {cfg : AdvancedSettings} {timestamp : String → Option Int}
  {localPath : Path} {parentId fileName : String} {existingId : Option DriveId}
  {post : Except Error β → Credit → Prop}

/-- A program without transfers has no part in it. -/
theorem uplinked_lift (program : Client α)
    : Accepts uplinked (Client.lift program) here (fun _ last => last = here) := by
  induction program with
  | done result => exact rfl
  | call op next ih => exact ⟨trivial, fun answer => ih answer⟩

/-- The rule for what comes after such a program, where a call may fail anywhere. -/
theorem uplinked_lift_then {program : Client α} {f : α → Drive β}
    (fails : ∀ error last, post (.error error) last)
    (goes : ∀ value, Accepts uplinked (f value) here post)
    : Accepts uplinked (Client.lift program >>= f) here post := by
  apply (uplinked_lift program).bind
  · rintro value _ rfl
    exact goes value
  · intro error _ _
    exact fails error _

theorem uplinked_propagate_then {result : Except Error α} {f : α → Drive β}
    (fails : ∀ error last, post (.error error) last)
    (goes : ∀ value, Accepts uplinked (f value) here post)
    : Accepts uplinked (propagate result >>= f) here post := by
  cases result with
  | ok value => exact goes value
  | error error => exact fails error _

theorem uplinked_transfer_then {op : TransferOp} {f : op.Answer → Drive β}
    (permitted : uplinked.permits (.transfer op) here)
    (goes : ∀ answer, Accepts uplinked (f answer) (uplinked.next (.transfer op) answer here) post)
    : Accepts uplinked (transfer op >>= f) here post :=
  ⟨permitted, goes⟩

/-- What a call may come to. -/
def Anyhow {α : Type} (_ : Except Error α) (_ : Credit) : Prop := True

theorem uplinked_accept {res : Reply} {context failure : String}
    : Accepts uplinked (accept res context failure) here (fun _ last => last = here) := by
  unfold accept
  apply (uplinked_lift _).bind
  · rintro _ _ rfl
    exact .ite (fun _ => rfl) (fun _ => rfl)
  · intro _ _ same
    exact same

/-- The uplink is waited for with the size of what is sent. -/
theorem uplinked_awaitUplink {size : Nat} (limited : 0 < cfg.uploadLimitKbps)
    : Accepts uplinked (awaitUplink cfg.uploadLimitKbps size) here
        (fun result last =>
          result = .ok () → last = ⟨here.unsent + size, here.unrecorded + size⟩) := by
  unfold awaitUplink
  rw [if_pos limited]
  refine ⟨trivial, ?_⟩
  intro granted
  cases granted with
  | true => exact fun _ => rfl
  | false =>
      intro failed
      cases failed

theorem fails_anyhow {α : Type} (error : Error) (last : Credit)
    : @Anyhow α (.error error) last := trivial

/-- What is raced beside a shutdown brings an answer or ends the call. -/
theorem uplinked_raced_then {answer : Option (Except Error Reply)} {context cancelled : String}
    {f : Reply → Drive β} (fails : ∀ error last, post (.error error) last)
    (goes : ∀ res, Accepts uplinked (f res) here post)
    : Accepts uplinked (raced answer context cancelled >>= f) here post := by
  cases answer with
  | none => exact fails _ _
  | some answer => exact uplinked_propagate_then fails goes

theorem uplinked_accept_then {res : Reply} {context failure : String} {f : Unit → Drive β}
    (fails : ∀ error last, post (.error error) last) (goes : Accepts uplinked (f ()) here post)
    : Accepts uplinked (accept res context failure >>= f) here post := by
  apply uplinked_accept.bind
  · rintro _ _ rfl
    exact goes
  · intro error _ _
    exact fails error _

theorem uplinked_uploadSimple (limited : 0 < cfg.uploadLimitKbps)
    : Accepts uplinked (uploadSimple cfg localPath parentId fileName existingId) here Anyhow := by
  unfold uploadSimple
  apply uplinked_lift_then fails_anyhow
  intro _
  apply uplinked_lift_then fails_anyhow
  intro token
  apply uplinked_propagate_then fails_anyhow
  intro token
  refine uplinked_transfer_then trivial ?_
  intro read
  apply uplinked_propagate_then fails_anyhow
  intro fileBytes
  apply (uplinked_awaitUplink limited).bind
  · intro _ middle granted
    obtain rfl := granted rfl
    refine uplinked_transfer_then (Nat.le_add_left _ _) ?_
    intro answer
    apply uplinked_raced_then fails_anyhow
    intro res
    apply uplinked_accept_then fails_anyhow
    refine uplinked_transfer_then (Nat.le_add_left _ _) ?_
    intro _
    apply uplinked_lift_then fails_anyhow
    intro _
    trivial
  · intro error _ _
    trivial

/-- One block is let through and recorded before it is handed out. -/
theorem uplinked_nextBlock (limited : 0 < cfg.uploadLimitKbps)
    : Accepts uplinked (nextBlock cfg.uploadLimitKbps) here
        (fun result last =>
          ∀ block, result = .ok block → last.unsent = here.unsent + (block.getD []).length) := by
  have fails (error : Error) (last : Credit) (block : Option (List UInt8))
      (failed : Except.error error = .ok block)
      : last.unsent = here.unsent + (block.getD []).length := by
    cases failed
  unfold nextBlock
  refine uplinked_transfer_then trivial ?_
  intro read
  apply uplinked_propagate_then fails
  intro block
  apply Accepts.ite
  · rintro - _ ⟨⟩
    rfl
  · intro _
    rw [if_pos limited]
    refine uplinked_transfer_then trivial ?_
    intro granted
    cases granted with
    | false => exact fails _ _
    | true =>
        refine uplinked_transfer_then (Nat.le_add_left _ _) ?_
        rintro _ _ ⟨⟩
        rfl

/-- The blocks that are pulled have been let through, by induction on those that may be pulled. -/
theorem uplinked_pullBlocks (limited : 0 < cfg.uploadLimitKbps) {left : Nat}
    {blocks : List (List UInt8)} (covered : (blocks.map List.length).sum ≤ here.unsent)
    : Accepts uplinked (pullBlocks cfg.uploadLimitKbps left blocks) here
        (fun result last =>
          ∀ pulled, result = .ok pulled → (pulled.map List.length).sum ≤ last.unsent) := by
  have stops
      : Accepts uplinked (pure blocks : Drive (List (List UInt8))) here
          (fun result last =>
            ∀ pulled, result = .ok pulled → (pulled.map List.length).sum ≤ last.unsent) := by
    rintro _ ⟨⟩
    exact covered
  induction left generalizing here blocks with
  | zero => exact stops
  | succ left ih =>
      refine uplinked_transfer_then trivial ?_
      intro pulled
      apply Accepts.ite
      · intro _
        apply (uplinked_nextBlock limited).bind
        · intro block middle more
          have unsent := more block rfl
          cases block with
          | none =>
              rintro _ ⟨⟩
              rw [unsent]
              exact covered.trans (Nat.le_add_right _ _)
          | some block =>
              have covered' : ((blocks ++ [block]).map List.length).sum ≤ middle.unsent := by
                rw [unsent, List.map_append, List.sum_append]
                exact Nat.add_le_add covered (by simp)
              exact ih covered' (by rintro _ ⟨⟩; exact covered')
        · rintro _ _ _ _ ⟨⟩
      · intro _
        exact stops

theorem uplinked_openSession
    : Accepts uplinked (openSession cfg parentId fileName existingId) here Anyhow := by
  unfold openSession
  apply uplinked_lift_then fails_anyhow
  intro _
  apply uplinked_lift_then fails_anyhow
  intro token
  apply uplinked_propagate_then fails_anyhow
  intro token
  refine uplinked_transfer_then (Nat.zero_le _) ?_
  intro answer
  apply uplinked_propagate_then fails_anyhow
  intro initRes
  apply uplinked_accept_then fails_anyhow
  unfold sessionUri
  apply uplinked_propagate_then fails_anyhow
  intro value
  apply uplinked_propagate_then fails_anyhow
  intro text
  trivial

theorem uplinked_uploadResumable {fileSize : Nat} (limited : 0 < cfg.uploadLimitKbps)
    : Accepts uplinked (uploadResumable cfg localPath parentId fileName existingId fileSize) here
        Anyhow := by
  unfold uploadResumable
  apply uplinked_openSession.bind
  · intro uri middle _
    refine uplinked_transfer_then trivial ?_
    intro opened
    apply uplinked_propagate_then fails_anyhow
    intro _
    apply uplinked_lift_then fails_anyhow
    intro _
    apply (uplinked_pullBlocks limited (Nat.zero_le _)).bind
    · intro blocks last covered
      refine uplinked_transfer_then (covered blocks rfl) ?_
      intro answer
      apply uplinked_raced_then fails_anyhow
      intro res
      apply uplinked_accept_then fails_anyhow
      apply uplinked_lift_then fails_anyhow
      intro _
      trivial
    · intro error _ _
      trivial
  · intro error _ _
    trivial

/-- Every method of the provider keeps to it. -/
theorem uplinked_method {program : Drive α} (limited : 0 < cfg.uploadLimitKbps)
    (method : OfTrait cfg timestamp program)
    : Accepts uplinked program here Anyhow := by
  cases method with
  | listRemote | mkdir | rename | getChanges | checkHealth | refreshAuth =>
      exact (uplinked_lift _).mono (fun _ _ _ => trivial)
  | upload localPath parentId fileName existingId =>
      unfold GDriveProvider.upload
      apply uplinked_lift_then fails_anyhow
      intro found
      apply uplinked_propagate_then fails_anyhow
      intro metadata
      exact .ite (fun _ => uplinked_uploadSimple limited)
        (fun _ => uplinked_uploadResumable limited)
  | delete fileId =>
      have bare : ∀ token, (deleteRequest cfg token fileId).body.payload = 0 := by
        intro token
        unfold deleteRequest
        split <;> rfl
      unfold GDriveProvider.delete
      apply uplinked_lift_then fails_anyhow
      intro _
      apply uplinked_lift_then fails_anyhow
      intro token
      apply uplinked_propagate_then fails_anyhow
      intro token
      refine uplinked_transfer_then ((bare token).le.trans (Nat.zero_le _)) ?_
      intro answer
      apply uplinked_propagate_then fails_anyhow
      intro res
      exact uplinked_accept.mono (fun _ _ _ => trivial)

end Uploads

-----------------------------------------------------------------------------------------
-- The limiter
-----------------------------------------------------------------------------------------

namespace BandwidthLimiter

variable {limit : UInt64} {now later : ℚ} {state after : BucketState}

/-- A round pays for the bytes that it lets through. -/
theorem acquire_level (limited : limit ≠ 0) (sound : Sound limit now state) (n : UInt64)
    {delay : Option ℚ} (round : acquire limit now n state = (delay, after))
    : (if delay.isNone then (n.toNat : ℚ) else 0) + level limit now after ≤ level limit now state
      ∧ Sound limit now after := by
  have paid := bytes_add_level_le limited ⟨now, n, state⟩ sound
  have kept := acquire_sound limit n sound
  simp only [bytes, Machine.answered, Machine.left, round] at paid kept
  exact ⟨paid, kept⟩

end BandwidthLimiter

abbrev Pacer.UplinkSound (limit : UInt64) (here : Pacer) : Prop :=
  BandwidthLimiter.Sound limit here.now here.uplink

abbrev Pacer.uplinkLevel (limit : UInt64) (here : Pacer) : ℚ :=
  BandwidthLimiter.level limit here.now here.uplink

section Limit

variable {cfg : AdvancedSettings} {timestamp : String → Option Int} {here after : Pacer}
  {pool pool' : Pool drives Error Pacer} {event : PoolEvent drives}

/-- What an event does to the limiter of the uplink. -/
inductive UplinkTurn (limit : UInt64) (event : PoolEvent drives) (here after : Pacer) : Prop
  | round {bytes : UInt64} {delay : Option ℚ} (now : after.now = here.now)
    (uplink : BandwidthLimiter.acquire limit here.now bytes here.uplink = (delay, after.uplink))
    (through : event.count DriveOp.letThrough = if delay.isNone then bytes.toNat else 0)
  | passed (now : here.now ≤ after.now) (uplink : after.uplink = here.uplink)
    (through : event.count DriveOp.letThrough = 0)

theorem uplinkTurn_served (op : DriveOp) (answer : op.Answer)
    (served : pacedServe cfg op here answer after)
    : UplinkTurn cfg.uplinkLimit (.served op answer) here after := by
  cases op with
  | client op =>
      cases op with
      | engine op =>
          obtain rfl : after = here := served
          exact .passed (le_refl _) rfl rfl
      | http op =>
          cases op with
          | acquire =>
              obtain ⟨api, -, rfl⟩ := served
              exact .passed (le_refl _) rfl rfl
          | handleRateLimit secs =>
              obtain rfl : after = _ := served
              exact .passed (le_refl _) rfl rfl
          | getToken | send | sleep =>
              obtain rfl : after = here := served
              exact .passed (le_refl _) rfl rfl
  | transfer op =>
      cases op with
      | grant bytes =>
          rcases served with ⟨rfl, rfl⟩ | ⟨rfl, small, uplink, granted, rfl⟩
          · exact .passed (le_refl _) rfl rfl
          · have same : (UInt64.ofNat bytes).toNat = bytes := UInt64.toNat_ofNat_of_lt' small
            exact .round rfl granted same.symm
      | readFile | openFile | readBlock | pull | isCancelled | recordBytes | send | race =>
          obtain rfl : after = here := served
          exact .passed (le_refl _) rfl rfl

theorem uplinkTurn_heldUp (op : DriveOp) (held : pacedHold cfg op here after)
    : UplinkTurn cfg.uplinkLimit (.heldUp op) here after := by
  cases op with
  | client op =>
      cases op with
      | engine op => cases held
      | http op =>
          cases op with
          | acquire =>
              obtain ⟨delay, api, -, rfl⟩ := held
              exact .passed (le_refl _) rfl rfl
          | handleRateLimit | getToken | send | sleep => cases held
  | transfer op =>
      cases op with
      | grant bytes =>
          obtain ⟨delay, uplink, refused, rfl⟩ := held
          exact .round rfl refused rfl
      | readFile | openFile | readBlock | pull | isCancelled | recordBytes | send | race =>
          cases held

theorem step_uplinkTurn (step : Pool.Step (traffic cfg timestamp) pool event pool')
    : UplinkTurn cfg.uplinkLimit event pool.shared pool'.shared := by
  cases step with
  | @passed _ shared passes =>
      obtain ⟨passed, same⟩ := passes
      have uplink : shared.uplink = pool.shared.uplink := by rw [same]
      exact .passed passed uplink rfl
  | begun begins => exact .passed (le_refl _) rfl rfl
  | served running serves => exact uplinkTurn_served _ _ serves
  | heldUp running holdsUp => exact uplinkTurn_heldUp _ holdsUp
  | dropped running => exact .passed (le_refl _) rfl rfl

/-- In every step the limiter pays for the bytes that it lets through, out of the time that passes.
-/
theorem UplinkTurn.level {limit : UInt64} (turn : UplinkTurn limit event here after)
    (limited : limit ≠ 0) (sound : here.UplinkSound limit)
    : (event.count DriveOp.letThrough : ℚ) + after.uplinkLevel limit
        ≤ here.uplinkLevel limit + limit.toNat * (after.now - here.now)
      ∧ after.UplinkSound limit := by
  unfold Pacer.UplinkSound Pacer.uplinkLevel at *
  cases turn with
  | @round bytes delay now uplink through =>
      obtain ⟨paid, kept⟩ := BandwidthLimiter.acquire_level limited sound bytes uplink
      rw [through, now]
      refine ⟨?_, kept⟩
      push_cast
      linarith
  | passed now uplink through =>
      have grown :=
        Bucket.level_le_add (limit.toNat : ℚ) here.uplink.bucket (Nat.cast_nonneg limit.toNat) now
      rw [through, uplink]
      refine ⟨?_, sound.keep now⟩
      push_cast
      unfold BandwidthLimiter.level
      linarith

/-- The bytes of a run: those of files in the bodies of its requests, and those recorded. -/
structure Carried where
  sent : Nat := 0
  recorded : Nat := 0

def carried : Watch (Pool drives Error Pacer) (PoolEvent drives) Carried :=
  fun note _ event _ =>
    { sent := note.sent + event.count DriveOp.payload
      recorded := note.recorded + event.count DriveOp.recorded }

/-- What has been sent and recorded, with what the running calls may still send and record and what
the limiter holds, has been let through since the launch.
-/
structure Carried.Paid (cfg : AdvancedSettings) (launched : ℚ) (note : Carried)
    (pool : Pool drives Error Pacer) (credits : List Credit)
    : Prop where
  sound : pool.shared.UplinkSound cfg.uplinkLimit
  attended : Attended uplinked pool.programs credits
  sent
    : (note.sent : ℚ) + weight Credit.unsent credits + pool.shared.uplinkLevel cfg.uplinkLimit
      ≤ cfg.uplinkLimit.toNat * (1 + (pool.shared.now - launched))
  recorded
    : (note.recorded : ℚ) + weight Credit.unrecorded credits
        + pool.shared.uplinkLevel cfg.uplinkLimit
      ≤ cfg.uplinkLimit.toNat * (1 + (pool.shared.now - launched))

theorem paid_launch (cfg : AdvancedSettings) (launched : ℚ)
    : Carried.Paid cfg launched {} ⟨newPacer cfg launched, []⟩ [] := by
  have full
      : Pacer.uplinkLevel cfg.uplinkLimit (newPacer cfg launched) ≤ cfg.uplinkLimit.toNat :=
    Bucket.level_le_capacity _ _ _ _
  have begun : (newPacer cfg launched).now - launched = 0 := sub_self launched
  have covered
      : ((0 : ℕ) : ℚ) + (0 : ℕ) + Pacer.uplinkLevel cfg.uplinkLimit (newPacer cfg launched)
        ≤ cfg.uplinkLimit.toNat * (1 + ((newPacer cfg launched).now - launched)) := by
    rw [begun, Nat.cast_zero]
    linarith
  exact ⟨BandwidthLimiter.new_sound _ launched, .nil, covered, covered⟩

theorem uplinked_begins (limited : 0 < cfg.uploadLimitKbps) {program : Prog drives Error Unit}
    (begins : (traffic cfg timestamp).begins program)
    : Accepts uplinked program {} (fun _ _ => True) := by
  obtain ⟨α, method, ofTrait, rfl⟩ := begins
  apply (uplinked_method limited ofTrait).bind
  · intro _ _ _
    trivial
  · intro _ _ _
    trivial

theorem Carried.Paid.step {launched : ℚ} {note : Carried} {credits : List Credit}
    (paid : note.Paid cfg launched pool credits) (kbps : 0 < cfg.uploadLimitKbps)
    (limited : cfg.uplinkLimit ≠ 0) (step : Pool.Step (traffic cfg timestamp) pool event pool')
    : ∃ credits', Carried.Paid cfg launched (carried note pool event pool') pool' credits' := by
  obtain ⟨through, sound⟩ := (step_uplinkTurn step).level limited paid.sound
  obtain ⟨credits', attended, shift⟩ :=
    step.attended (fun _ => uplinked_begins kbps) paid.attended
  have sent :=
    shift.balance Credit.unsent rfl
      (fun op answer here permitted => (uplinked_covers op answer here permitted).sent)
  have recorded :=
    shift.balance Credit.unrecorded rfl
      (fun op answer here permitted => (uplinked_covers op answer here permitted).recorded)
  have sent' : (_ : ℚ) ≤ _ := Nat.cast_le.mpr sent
  have recorded' : (_ : ℚ) ≤ _ := Nat.cast_le.mpr recorded
  push_cast at sent' recorded'
  have before := paid.sent
  have before' := paid.recorded
  refine ⟨credits', sound, attended, ?_, ?_⟩
  · simp only [carried]
    push_cast
    linarith
  · simp only [carried]
    push_cast
    linarith

/-- Below a product that does not wrap the limit is the configured one. -/
theorem uplinkLimit_toNat (fits : cfg.uploadLimitKbps * 1024 < 2 ^ 64)
    : cfg.uplinkLimit.toNat = cfg.uploadLimitKbps * 1024 := by
  have small : cfg.uploadLimitKbps < 2 ^ 64 :=
    (Nat.le_mul_of_pos_right _ (by decide)).trans_lt fits
  have same : (UInt64.ofNat cfg.uploadLimitKbps).toNat = cfg.uploadLimitKbps :=
    UInt64.toNat_ofNat_of_lt' small
  unfold AdvancedSettings.uplinkLimit BandwidthLimiter.limitBps
  rw [UInt64.toNat_mul, same]
  exact Nat.mod_eq_of_lt fits

/-- However many calls of the provider run side by side, under a limit of the uplink: the bytes of
files in the bodies that are sent since the launch, and those that are recorded, are bounded by the
limit.
-/
theorem uploads_keep_uplink {there : Pool drives Error Pacer} {note : Carried} {launched : ℚ}
    (limited : 0 < cfg.uploadLimitKbps) (fits : cfg.uploadLimitKbps * 1024 < 2 ^ 64)
    (run : Pool.Runs (traffic cfg timestamp) carried {} ⟨newPacer cfg launched, []⟩ note there)
    : (note.sent : ℚ)
        ≤ (cfg.uploadLimitKbps * 1024 : ℕ) * (1 + (there.shared.now - launched))
      ∧ (note.recorded : ℚ)
        ≤ (cfg.uploadLimitKbps * 1024 : ℕ) * (1 + (there.shared.now - launched)) := by
  have same := uplinkLimit_toNat fits
  have nonzero : cfg.uplinkLimit ≠ 0 := by
    intro zero
    rw [zero] at same
    simp only [UInt64.toNat_zero] at same
    omega
  obtain ⟨credits, paid⟩ : ∃ credits, Carried.Paid cfg launched note there credits := by
    apply run.invariant (fun note pool => ∃ credits, Carried.Paid cfg launched note pool credits)
    · exact ⟨[], paid_launch cfg launched⟩
    · intro note pool event pool' paid step _
      obtain ⟨credits, paid⟩ := paid
      exact paid.step limited nonzero step
  have level : 0 ≤ there.shared.uplinkLevel cfg.uplinkLimit :=
    paid.sound.level_nonneg (Nat.cast_nonneg cfg.uplinkLimit.toNat)
  have unsent : (0 : ℚ) ≤ weight Credit.unsent credits := Nat.cast_nonneg _
  have unrecorded : (0 : ℚ) ≤ weight Credit.unrecorded credits := Nat.cast_nonneg _
  have sent := paid.sent
  have recorded := paid.recorded
  rw [same] at sent recorded
  exact ⟨by linarith, by linarith⟩

end Limit

-----------------------------------------------------------------------------------------
-- Two uploads
-----------------------------------------------------------------------------------------

/-- One kilobyte a second. -/
def narrowSettings : AdvancedSettings := { uploadLimitKbps := 1 }

abbrev narrowTraffic : Surroundings drives Error Pacer := traffic narrowSettings (fun _ => none)

def narrowPool : Pool drives Error Pacer := ⟨newPacer narrowSettings 0, []⟩

/-- A file that nearly empties the bucket, and one that has to wait then. -/
def longNote : List UInt8 := List.replicate 1000 97

def shortNote : List UInt8 := List.replicate 100 98

theorem longNote_length : longNote.length = 1000 := List.length_replicate

theorem shortNote_length : shortNote.length = 100 := List.length_replicate

theorem longNote_granted
    : BandwidthLimiter.acquire narrowSettings.uplinkLimit 0 (UInt64.ofNat longNote.length)
        (newPacer narrowSettings 0).uplink
      = (none, ⟨24, 0⟩) := by
  rw [longNote_length]
  decide +kernel

theorem shortNote_waits
    : BandwidthLimiter.acquire narrowSettings.uplinkLimit 0 (UInt64.ofNat shortNote.length) ⟨24, 0⟩
      = (some (76 / 1024), ⟨24, 0⟩) := by
  rw [shortNote_length]
  decide +kernel

theorem shortNote_granted
    : BandwidthLimiter.acquire narrowSettings.uplinkLimit (1 / 8) (UInt64.ofNat shortNote.length)
        ⟨24, 0⟩
      = (none, ⟨52, 1 / 8⟩) := by
  rw [shortNote_length]
  decide +kernel

/-- Two uploads: the bytes of the second one have to accrue first. -/
theorem uploads_keep_to_uplink
    : ∃ note there,
        Pool.Runs narrowTraffic carried {} narrowPool note there
        ∧ note.sent = 1100 ∧ note.recorded = 1100 ∧ there.shared.now = 1 / 8
        ∧ (note.sent : ℚ) ≤ (1 * 1024 : ℕ) * (1 + (there.shared.now - 0))
        ∧ (note.recorded : ℚ) ≤ (1 * 1024 : ℕ) * (1 + (there.shared.now - 0)) := by
  have launched : Pool.Runs narrowTraffic carried {} narrowPool {} narrowPool := .start
  have first := launched.step (.begun ⟨UploadResult, _, .upload [] "root" "long" none, rfl⟩) trivial
  have second := first.step (.begun ⟨UploadResult, _, .upload [] "root" "short" none, rfl⟩) trivial
  have found :=
    second.step
      (@Pool.Step.served _ _ _ narrowTraffic _ [] [_] (.client (.engine (.metadata []))) _
        (.ok ⟨false, true, 1000, 0⟩) _ rfl rfl)
      trivial
  have permitted :=
    found.step
      (@Pool.Step.served _ _ _ narrowTraffic _ [] [_] (.client (.http .acquire)) _ () _ rfl
        ⟨_, first_permit, rfl⟩)
      trivial
  have token :=
    permitted.step
      (@Pool.Step.served _ _ _ narrowTraffic _ [] [_] (.client (.http .getToken)) _ (.ok "ya29") _
        rfl rfl)
      trivial
  have read :=
    token.step
      (@Pool.Step.served _ _ _ narrowTraffic _ [] [_] (.transfer (.readFile [])) _ (.ok longNote) _
        rfl rfl)
      trivial
  have granted :=
    read.step
      (@Pool.Step.served _ _ _ narrowTraffic _ [] [_] (.transfer (.grant longNote.length)) _ true _
        rfl (.inr ⟨rfl, by rw [longNote_length]; decide, _, longNote_granted, rfl⟩))
      trivial
  have found :=
    granted.step
      (@Pool.Step.served _ _ _ narrowTraffic _ [_] [] (.client (.engine (.metadata []))) _
        (.ok ⟨false, true, 100, 0⟩) _ rfl rfl)
      trivial
  have permitted :=
    found.step
      (@Pool.Step.served _ _ _ narrowTraffic _ [_] [] (.client (.http .acquire)) _ () _ rfl
        ⟨_, second_permit, rfl⟩)
      trivial
  have token :=
    permitted.step
      (@Pool.Step.served _ _ _ narrowTraffic _ [_] [] (.client (.http .getToken)) _ (.ok "ya29") _
        rfl rfl)
      trivial
  have read :=
    token.step
      (@Pool.Step.served _ _ _ narrowTraffic _ [_] [] (.transfer (.readFile [])) _ (.ok shortNote) _
        rfl rfl)
      trivial
  have waiting :=
    read.step
      (@Pool.Step.heldUp _ _ _ narrowTraffic _ [_] [] (.transfer (.grant shortNote.length)) _ _ rfl
        ⟨_, _, shortNote_waits, rfl⟩)
      trivial
  have sent :=
    waiting.step
      (@Pool.Step.served _ _ _ narrowTraffic _ [] [_]
        (.transfer (.race
          (formRequest narrowSettings.uploadBase "ya29" "root" "long" none longNote)))
        _ (some (.ok { status := 200 })) _ rfl rfl)
      trivial
  have recorded :=
    sent.step
      (@Pool.Step.served _ _ _ narrowTraffic _ [] [_] (.transfer (.recordBytes longNote.length)) _
        ()
        _ rfl rfl)
      trivial
  have later :=
    recorded.step
      (@Pool.Step.passed _ _ _ narrowTraffic _ ⟨1 / 8, ⟨8, 0, none⟩, ⟨24, 0⟩⟩
        ⟨show (0 : ℚ) ≤ 1 / 8 by norm_num, rfl⟩)
      trivial
  have granted :=
    later.step
      (@Pool.Step.served _ _ _ narrowTraffic _ [_] [] (.transfer (.grant shortNote.length)) _ true _
        rfl (.inr ⟨rfl, by rw [shortNote_length]; decide, _, shortNote_granted, rfl⟩))
      trivial
  have sent :=
    granted.step
      (@Pool.Step.served _ _ _ narrowTraffic _ [_] []
        (.transfer (.race
          (formRequest narrowSettings.uploadBase "ya29" "root" "short" none shortNote)))
        _ (some (.ok { status := 200 })) _ rfl rfl)
      trivial
  have all :=
    sent.step
      (@Pool.Step.served _ _ _ narrowTraffic _ [_] [] (.transfer (.recordBytes shortNote.length)) _
        () _ rfl rfl)
      trivial
  have kept :=
    @uploads_keep_uplink narrowSettings (fun _ => none) _ _ 0 (by decide) (by decide) all
  exact ⟨_, _, all, by decide +kernel, by decide +kernel, rfl, kept⟩

end SyncGDrive
