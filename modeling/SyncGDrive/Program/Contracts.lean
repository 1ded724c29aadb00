import SyncGDrive.Program.Inlining
import SyncGDrive.Program.Requests

/-! Programs under a contract: a program keeps to the requests it may make as long as the answers
are as it may rely on. Where the environment answers so, its requests are guarded, and they may be
replaced by programs that carry them out.
-/

namespace Program

variable {sig low : Signature} {State : Type} {ε α β γ : Type}

/-- What may be relied on of an answer. -/
abbrev Rely (sig : Signature) : Type := (op : sig.Op) → sig.Answer op → Prop

/-- Every request is allowed, and every value good, as long as the answers keep the contract. -/
def Relies (rely : Rely sig) (allowed : sig.Op → Prop) (good : α → Prop) : Prog sig ε α → Prop
  | .done (.ok value) => good value
  | .done (.error _) => True
  | .call op next => allowed op ∧ ∀ answer, rely op answer → Relies rely allowed good (next answer)

section Rules

variable {rely : Rely sig} {allowed : sig.Op → Prop} {good good' : α → Prop}
  {program : Prog sig ε α}

theorem relies_pure {value : α} (fine : good value)
    : Relies rely allowed good (pure value : Prog sig ε α) := fine

theorem relies_throw {error : ε} : Relies rely allowed good (throw error : Prog sig ε α) := trivial

theorem relies_propagate {result : Except ε α} (fine : ∀ value, result = .ok value → good value)
    : Relies rely allowed good (propagate result : Prog sig ε α) := by
  cases result with
  | ok value => exact fine value rfl
  | error error => trivial

theorem relies_perform {op : sig.Op} (fine : allowed op)
    : Relies rely allowed (rely op) (perform op : Prog sig ε (sig.Answer op)) :=
  ⟨fine, fun _ kept => kept⟩

theorem Relies.mono (relies : Relies rely allowed good program)
    (weaker : ∀ value, good value → good' value)
    : Relies rely allowed good' program := by
  induction program with
  | done result =>
      cases result with
      | ok value => exact weaker value relies
      | error error => trivial
  | call op next ih => exact ⟨relies.1, fun answer kept => ih answer (relies.2 answer kept)⟩

/-- The rule for sequencing. -/
theorem Relies.bind {f : α → Prog sig ε β} {last : β → Prop}
    (first : Relies rely allowed good program)
    (second : ∀ value, good value → Relies rely allowed last (f value))
    : Relies rely allowed last (program >>= f) := by
  induction program with
  | done result =>
      cases result with
      | ok value => exact second value first
      | error error => trivial
  | call op next ih => exact ⟨first.1, fun answer kept => ih answer (first.2 answer kept)⟩

theorem Relies.ite {condition : Prop} [Decidable condition] {first second : Prog sig ε α}
    (left : condition → Relies rely allowed good first)
    (right : ¬ condition → Relies rely allowed good second)
    : Relies rely allowed good (if condition then first else second) := by
  split
  · exact left ‹_›
  · exact right ‹_›

/-- What a program requests whatever it is answered. -/
theorem Uses.relies (uses : Uses allowed program)
    : Relies rely allowed (fun _ => True) program := by
  induction program with
  | done result => cases result <;> trivial
  | call op next ih => exact ⟨uses.1, fun answer _ => ih answer (uses.2 answer)⟩

/-- The rule for a loop: `acc` is good before every item and after it. -/
theorem relies_foldlM {body : β → γ → Prog sig ε β} {good : β → Prop} (items : List γ) (acc : β)
    (step : ∀ acc, good acc → ∀ item ∈ items, Relies rely allowed good (body acc item))
    (start : good acc)
    : Relies rely allowed good (items.foldlM body acc) := by
  induction items generalizing acc with
  | nil => exact start
  | cons item rest ih =>
      rw [List.foldlM_cons]
      apply (step acc start item (by simp)).bind
      intro acc here
      exact ih acc (fun acc here item member => step acc here item (by simp [member])) here

theorem relies_forM {body : γ → Prog sig ε PUnit} (items : List γ)
    (step : ∀ item ∈ items, Relies rely allowed (fun _ => True) (body item))
    : Relies rely allowed (fun _ => True) (items.forM body) := by
  induction items with
  | nil => trivial
  | cons item rest ih =>
      apply (step item (by simp)).bind
      intro _ _
      exact ih (fun item member => step item (by simp [member]))

/-- Running a program for its result makes the same requests. -/
theorem relies_outcome (relies : Relies rely allowed good program)
    : Relies rely allowed (fun result : Except ε α => ∀ value, result = .ok value → good value)
        (outcome program : Prog sig ε (Except ε α)) := by
  induction program with
  | done result =>
      intro value same
      subst same
      exact relies
  | call op next ih => exact ⟨relies.1, fun answer kept => ih answer (relies.2 answer kept)⟩

end Rules

-----------------------------------------------------------------------------------------
-- Environments that keep the contract
-----------------------------------------------------------------------------------------

/-- Under the invariant the environment answers as may be relied on, and keeps the invariant. -/
def Honours (sem : Semantics sig State) (inv : State → Prop) (rely : Rely sig)
    (allowed : sig.Op → Prop)
    : Prop :=
  ∀ (op : sig.Op) state answer after,
    allowed op → inv state → sem op state answer after → rely op answer ∧ inv after

/-- What a contract allows is all that is requested of an environment that honours it. -/
theorem Relies.guarded {sem : Semantics sig State} {inv : State → Prop} {rely : Rely sig}
    {allowed : sig.Op → Prop} {good : α → Prop} {program : Prog sig ε α} {state : State}
    (relies : Relies rely allowed good program) (honours : Honours sem inv rely allowed)
    (here : inv state)
    : Guarded sem (fun op _ => allowed op) program state (fun _ last => inv last) := by
  induction program generalizing state with
  | done result => exact here
  | call op next ih =>
      refine ⟨relies.1, ?_⟩
      intro answer after served
      obtain ⟨kept, later⟩ := honours op state answer after relies.1 here served
      exact ih answer (relies.2 answer kept) later

/-- As far as an execution has come, what is left of the program keeps the contract. -/
theorem Relies.follows {sem : Semantics sig State} {inv : State → Prop} {rely : Rely sig}
    {allowed : sig.Op → Prop} {good : α → Prop} {program rest : Prog sig ε α}
    {state last : State} (relies : Relies rely allowed good program)
    (honours : Honours sem inv rely allowed) (here : inv state)
    (reached : Reaches sem program state rest last)
    : Relies rely allowed good rest ∧ inv last := by
  induction reached with
  | refl => exact ⟨relies, here⟩
  | step served tail ih =>
      obtain ⟨kept, later⟩ := honours _ _ _ _ relies.1 here served
      exact ih (relies.2 _ kept) later

/-- What every step keeps backwards holds at the start of an execution if it does at its end. -/
theorem Reaches.backwards {sem : Semantics sig State} {within : State → Prop}
    {program rest : Prog sig ε α} {state last : State}
    (step : ∀ op state answer after, sem op state answer after → within after → within state)
    (reached : Reaches sem program state rest last) (bounded : within last)
    : within state := by
  induction reached with
  | refl => exact bounded
  | step served _ ih => exact step _ _ _ _ served (ih bounded)

/-- An invariant that is kept between states within bounds is kept by an execution whose last state
is: those before it are within the bounds then.
-/
theorem Relies.reaches {sem : Semantics sig State} {rely : Rely sig} {allowed : sig.Op → Prop}
    {good : α → Prop} {inv within : State → Prop} {program rest : Prog sig ε α}
    {state last : State}
    (step : ∀ op state answer after, sem op state answer after → within after → within state)
    (honours
      : ∀ op state answer after,
          allowed op → inv state → within after → sem op state answer after
          → rely op answer ∧ inv after)
    (relies : Relies rely allowed good program) (here : inv state)
    (reached : Reaches sem program state rest last) (bounded : within last)
    : inv last := by
  induction reached with
  | refl => exact here
  | step served tail ih =>
      obtain ⟨kept, later⟩ :=
        honours _ _ _ _ relies.1 here (tail.backwards step bounded) served
      exact ih (relies.2 _ kept) later bounded

/-- What holds wherever an execution comes to is an invariant. -/
theorem always_of_reaches {sem : Semantics sig State} {inv : State → Prop}
    {program : Prog sig ε α} {state : State}
    (reached : ∀ rest last, Reaches sem program state rest last → inv last)
    : Always sem inv program state (fun _ _ => True) := by
  induction program generalizing state with
  | done result => exact ⟨reached _ _ .refl, trivial⟩
  | call op next ih =>
      refine ⟨reached _ _ .refl, ?_⟩
      intro answer after served
      exact ih answer (fun rest last tail => reached rest last (.step served tail))

-----------------------------------------------------------------------------------------
-- Inlining under a contract
-----------------------------------------------------------------------------------------

/-- Where every operation may be answered without an effect that is seen, what is seen at every end
of a program is seen all the way: from each point on the answers may be such.
-/
theorem Always.throughout {sem : Semantics sig State} {inv seen : State → Prop}
    {allowed : sig.Op → Prop} {program : Prog sig ε α} {state : State}
    {post : Except ε α → State → Prop} (always : Always sem inv program state post)
    (uses : Uses allowed program)
    (mute
      : ∀ op state,
          allowed op → ∃ answer after, sem op state answer after ∧ (seen after → seen state))
    (kept : ∀ result last, post result last → seen last)
    : Always sem (fun here => inv here ∧ seen here) program state post := by
  induction program generalizing state with
  | done result => exact ⟨⟨always.1, kept _ _ always.2⟩, always.2⟩
  | call op next ih =>
      have later (answer : sig.Answer op) (after : State) (served : sem op state answer after) :=
        ih answer (always.2 answer after served) (uses.2 answer)
      obtain ⟨answer, after, served, back⟩ := mute op state uses.1
      exact ⟨⟨always.1, back (later answer after served).here.2⟩, later⟩

/-- The bodies implement the semantics, and what is seen before and after an operation is seen all
the way through its body.
-/
def ImplementsThroughout (lowSem : Semantics low State) (inv seen : State → Prop)
    (allowed : sig.Op → Prop) (body : (op : sig.Op) → Prog low ε (sig.Answer op))
    (sem : Semantics sig State)
    : Prop :=
  ∀ op state,
    allowed op
    → inv state
    → seen state
    → (∀ answer after, sem op state answer after → seen after)
    → Always lowSem (fun here => inv here ∧ seen here) (body op) state
        (fun result after => ∃ answer, result = .ok answer ∧ sem op state answer after)

/-- A program under a contract keeps, with its operations inlined, the contract of the bodies. -/
theorem Relies.inline {rely : Rely sig} {allowed : sig.Op → Prop} {lowRely : Rely low}
    {lowAllowed : low.Op → Prop} {good : α → Prop}
    {body : (op : sig.Op) → Prog low ε (sig.Answer op)} {program : Prog sig ε α}
    (relies : Relies rely allowed good program)
    (bodies : ∀ op, allowed op → Relies lowRely lowAllowed (rely op) (body op))
    : Relies lowRely lowAllowed good (program.inline body) := by
  induction program with
  | done result => cases result <;> exact relies
  | call op next ih =>
      apply (bodies op relies.1).bind
      intro answer kept
      exact ih answer (relies.2 answer kept)

/-- A program whose requests are guarded keeps, with its operations inlined, what it keeps under the
semantics that the bodies implement.
-/
theorem Always.inline_guarded {lowSem : Semantics low State} {sem : Semantics sig State}
    {inv seen : State → Prop} {allowed : sig.Op → Prop}
    {body : (op : sig.Op) → Prog low ε (sig.Answer op)} {program : Prog sig ε α} {state : State}
    {post ended : Except ε α → State → Prop}
    (implements : ImplementsThroughout lowSem inv seen allowed body sem)
    (guarded : Guarded sem (fun op _ => allowed op) program state ended)
    (always : Always sem (fun here => inv here ∧ seen here) program state post)
    : Always lowSem (fun here => inv here ∧ seen here) (program.inline body) state post := by
  induction program generalizing state with
  | done result => exact always
  | call op next ih =>
      obtain ⟨⟨here, seen⟩, later⟩ := always
      have carried := implements op state guarded.1 here seen
        (fun answer after served => (later answer after served).here.2)
      apply carried.bind
      · intro value middle _ served
        obtain ⟨answer, same, step⟩ := served
        obtain rfl : value = answer := Except.ok.inj same
        exact ih value (guarded.2 value middle step) (later value middle step)
      · intro error middle _ failed
        obtain ⟨answer, same, _⟩ := failed
        cases same

end Program
