import Mathlib.Logic.Relation

/-! Programs as trees of atomic operations, with an invariant logic for their executions.
One tree has several readings: a complete run, every cut point of a run, and one strand of
an interleaving. The rules below serve all three.
-/

namespace Program

-----------------------------------------------------------------------------------------
-- Programs and their monad
-----------------------------------------------------------------------------------------

/-- The atomic operations a program may request, each with the type of its answer. -/
structure Signature where
  Op : Type
  Answer : Op → Type

/-- A finite program that may fail: a result, or one operation and a continuation. -/
inductive Prog (sig : Signature) (ε α : Type) : Type
  | done (result : Except ε α)
  | call (op : sig.Op) (next : sig.Answer op → Prog sig ε α)

variable {sig : Signature} {State : Type} {ε α β : Type}

/-- Sequencing continues from every value and passes every error on. -/
def Prog.bind : Prog sig ε α → (α → Prog sig ε β) → Prog sig ε β
  | .done (.ok value), f => f value
  | .done (.error error), _ => .done (.error error)
  | .call op next, f => .call op (fun answer => (next answer).bind f)

instance : Monad (Prog sig ε) where
  pure value := .done (.ok value)
  bind := Prog.bind

instance : MonadExceptOf ε (Prog sig ε) where
  throw error := .done (.error error)
  tryCatch program handle :=
    let rec go : Prog sig ε _ → Prog sig ε _
      | .done (.ok value) => .done (.ok value)
      | .done (.error error) => handle error
      | .call op next => .call op (fun answer => go (next answer))
    go program

@[simp] theorem Prog.pure_eq (value : α) : (pure value : Prog sig ε α) = .done (.ok value) := rfl

@[simp] theorem Prog.throw_eq (error : ε)
    : (throw error : Prog sig ε α) = .done (.error error) := rfl

@[simp] theorem Prog.ok_bind (value : α) (f : α → Prog sig ε β)
    : (Prog.done (.ok value) >>= f) = f value := rfl

@[simp] theorem Prog.error_bind (error : ε) (f : α → Prog sig ε β)
    : (Prog.done (.error error) >>= f) = .done (.error error) := rfl

@[simp] theorem Prog.call_bind (op : sig.Op) (next : sig.Answer op → Prog sig ε α)
    (f : α → Prog sig ε β)
    : (Prog.call op next >>= f) = .call op (fun answer => next answer >>= f) := rfl

instance : LawfulMonad (Prog sig ε) :=
  LawfulMonad.mk' _
    (by
      intro α program
      induction program with
      | done result => cases result <;> rfl
      | call op next ih => exact congrArg (Prog.call op) (funext ih))
    (by intros; rfl)
    (by
      intro α β γ program f g
      induction program with
      | done result => cases result <;> rfl
      | call op next ih => exact congrArg (Prog.call op) (funext ih))

/-- The program that requests one operation and returns its answer. -/
def perform (op : sig.Op) : Prog sig ε (sig.Answer op) :=
  .call op (fun answer => .done (.ok answer))

/-- Fail with the error of a result, or go on with its value. -/
def propagate (result : Except ε α) : Prog sig ε α := .done result

/-- Run a program for its result, be it a value or an error. -/
def outcome : Prog sig ε α → Prog sig ε (Except ε α)
  | .done result => .done (.ok result)
  | .call op next => .call op (fun answer => outcome (next answer))

-----------------------------------------------------------------------------------------
-- Executions
-----------------------------------------------------------------------------------------

/-- Which answers and successor states an environment allows for an operation. -/
abbrev Semantics (sig : Signature) (State : Type) :=
  (op : sig.Op) → State → sig.Answer op → State → Prop

/-- A deterministic environment: every operation has one answer and one effect. -/
abbrev Handler (sig : Signature) (State : Type) :=
  (op : sig.Op) → State → sig.Answer op × State

/-- The graph of a handler. -/
def Handler.sem (handler : Handler sig State) : Semantics sig State :=
  fun op state answer next => handler op state = (answer, next)

/-- A partial execution: the program still to be run and the state it has reached. -/
inductive Reaches (sem : Semantics sig State)
    : Prog sig ε α → State → Prog sig ε α → State → Prop
  | refl {program : Prog sig ε α} {state : State} : Reaches sem program state program state
  | step {op : sig.Op} {next : sig.Answer op → Prog sig ε α} {state middle last : State}
    {answer : sig.Answer op} {rest : Prog sig ε α}
    (served : sem op state answer middle) (tail : Reaches sem (next answer) middle rest last)
    : Reaches sem (.call op next) state rest last

/-- The complete run under a handler. -/
def run (handler : Handler sig State) : Prog sig ε α → State → Except ε α × State
  | .done result, state => (result, state)
  | .call op next, state =>
      let served := handler op state
      run handler (next served.1) served.2

@[simp] theorem run_done (handler : Handler sig State) (result : Except ε α) (state : State)
    : run handler (.done result) state = (result, state) := rfl

@[simp] theorem run_call (handler : Handler sig State) (op : sig.Op)
    (next : sig.Answer op → Prog sig ε α) (state : State)
    : run handler (.call op next) state
      = run handler (next (handler op state).1) (handler op state).2 := rfl

/-- A sequence is run from where its first program succeeds, by induction on it. -/
theorem run_bind {handler : Handler sig State} {program : Prog sig ε α} {f : α → Prog sig ε β}
    {state middle : State} {value : α} (ran : run handler program state = (.ok value, middle))
    : run handler (program >>= f) state = run handler (f value) middle := by
  induction program generalizing state with
  | done result =>
      obtain ⟨rfl, rfl⟩ := Prod.mk.inj ran
      rfl
  | call op next ih => exact ih _ ran

@[simp] theorem run_outcome (handler : Handler sig State) (program : Prog sig ε α) (state : State)
    : run handler (outcome program : Prog sig ε (Except ε α)) state
      = (.ok (run handler program state).1, (run handler program state).2) := by
  induction program generalizing state with
  | done result => rfl
  | call op next ih => exact ih _ _

/-- A run is itself an execution, by induction on the program. -/
theorem reaches_run (handler : Handler sig State) (program : Prog sig ε α) (state : State)
    : Reaches handler.sem program state (.done (run handler program state).1)
        (run handler program state).2 := by
  induction program generalizing state with
  | done result => exact .refl
  | call op next ih =>
      have served : handler.sem op state (handler op state).1 (handler op state).2 := rfl
      exact .step served (ih _ _)

/-- Executions compose, by induction on the first. -/
theorem Reaches.trans {sem : Semantics sig State} {first second third : Prog sig ε α}
    {start middle last : State} (head : Reaches sem first start second middle)
    (tail : Reaches sem second middle third last)
    : Reaches sem first start third last := by
  induction head with
  | refl => exact tail
  | step served _ ih => exact .step served (ih tail)

/-- A sequence goes on where its first part ends, by induction on the execution of that. -/
theorem Reaches.bind {sem : Semantics sig State} {program : Prog sig ε α} {f : α → Prog sig ε β}
    {value : α} {rest : Prog sig ε β} {start middle last : State}
    (head : Reaches sem program start (.done (.ok value)) middle)
    (tail : Reaches sem (f value) middle rest last)
    : Reaches sem (program >>= f) start rest last := by
  generalize target : Prog.done (.ok value) = ended at head
  induction head with
  | refl => subst target; exact tail
  | step served _ ih => exact .step served (ih tail target)

/-- Running for a result takes the same steps, by induction on the execution. -/
theorem Reaches.outcome {sem : Semantics sig State} {program : Prog sig ε α}
    {result : Except ε α} {start last : State}
    (path : Reaches sem program start (.done result) last)
    : Reaches sem (Program.outcome program) start (.done (.ok result)) last := by
  generalize target : Prog.done result = ended at path
  induction path with
  | refl => subst target; exact .refl
  | step served _ ih => exact .step served (ih target)

/-- An environment that allows more has more executions. -/
theorem Reaches.mono {sem sem' : Semantics sig State} {program rest : Prog sig ε α}
    {start last : State} (path : Reaches sem program start rest last)
    (allows
      : ∀ (op : sig.Op) state answer next, sem op state answer next → sem' op state answer next)
    : Reaches sem' program start rest last := by
  induction path with
  | refl => exact .refl
  | step served _ ih => exact .step (allows _ _ _ _ served) ih

/-- An environment that serves every operation lets every program end, by induction on the
program.
-/
theorem exists_run {sem : Semantics sig State}
    (served : ∀ (op : sig.Op) state, ∃ answer next, sem op state answer next)
    (program : Prog sig ε α) (state : State)
    : ∃ result last, Reaches sem program state (.done result) last := by
  induction program generalizing state with
  | done result => exact ⟨result, state, .refl⟩
  | call op next ih =>
      obtain ⟨answer, middle, step⟩ := served op state
      obtain ⟨result, last, tail⟩ := ih answer middle
      exact ⟨result, last, .step step tail⟩

-----------------------------------------------------------------------------------------
-- Invariants along executions
-----------------------------------------------------------------------------------------

/-- `inv` holds at every point of every execution, and `post` of its result where it ends.
-/
def Always (sem : Semantics sig State) (inv : State → Prop)
    : Prog sig ε α → State → (Except ε α → State → Prop) → Prop
  | .done result, state, post => inv state ∧ post result state
  | .call op next, state, post =>
      inv state
      ∧ ∀ answer after, sem op state answer after → Always sem inv (next answer) after post

/-- What a sequence owes after its first part: the second part, or the error passed on. -/
def Onward (sem : Semantics sig State) (inv : State → Prop) (f : α → Prog sig ε β)
    (post : Except ε β → State → Prop)
    : Except ε α → State → Prop
  | .ok value, state => Always sem inv (f value) state post
  | .error error, state => post (.error error) state

section Rules

variable {sem : Semantics sig State} {inv : State → Prop} {program : Prog sig ε α}
  {state : State} {post post' : Except ε α → State → Prop}

@[simp] theorem always_done {result : Except ε α}
    : Always sem inv (.done result) state post ↔ inv state ∧ post result state := Iff.rfl

theorem always_call {op : sig.Op} {next : sig.Answer op → Prog sig ε α}
    : Always sem inv (.call op next) state post
      ↔ inv state
        ∧ ∀ answer after,
            sem op state answer after → Always sem inv (next answer) after post := Iff.rfl

@[simp] theorem onward_ok {f : α → Prog sig ε β} {post : Except ε β → State → Prop} {value : α}
    : Onward sem inv f post (.ok value) state = Always sem inv (f value) state post := rfl

@[simp] theorem onward_error {f : α → Prog sig ε β} {post : Except ε β → State → Prop} {error : ε}
    : Onward sem inv f post (.error error) state = post (.error error) state := rfl

/-- The invariant holds where the execution starts. -/
theorem Always.here (always : Always sem inv program state post) : inv state := by
  cases program with
  | done result => exact always.1
  | call op next => exact always.1

/-- The postcondition may be weakened, and the invariant used for it. -/
theorem Always.mono (always : Always sem inv program state post)
    (weaker : ∀ result last, inv last → post result last → post' result last)
    : Always sem inv program state post' := by
  induction program generalizing state with
  | done result => exact ⟨always.1, weaker _ _ always.1 always.2⟩
  | call op next ih =>
      exact ⟨always.1, fun answer after served => ih answer (always.2 answer after served)⟩

/-- The invariant may be weakened, and is remembered where the execution ends. -/
theorem Always.weaken {inv' : State → Prop} (always : Always sem inv program state post)
    (weaker : ∀ state, inv state → inv' state)
    : Always sem inv' program state (fun result last => inv last ∧ post result last) := by
  induction program generalizing state with
  | done result => exact ⟨weaker _ always.1, always.1, always.2⟩
  | call op next ih =>
      exact ⟨weaker _ always.1, fun answer after served => ih answer (always.2 answer after served)⟩

/-- What is established separately holds together. -/
theorem Always.and {inv' : State → Prop} (left : Always sem inv program state post)
    (right : Always sem inv' program state post')
    : Always sem (fun state => inv state ∧ inv' state) program state
        (fun result last => post result last ∧ post' result last) := by
  induction program generalizing state with
  | done result => exact ⟨⟨left.1, right.1⟩, left.2, right.2⟩
  | call op next ih =>
      exact ⟨⟨left.1, right.1⟩, fun answer after served =>
        ih answer (left.2 answer after served) (right.2 answer after served)⟩

/-- A whole family of postconditions. -/
theorem always_forall {ι : Type} {post : ι → Except ε α → State → Prop}
    (each : ∀ i, Always sem (fun _ => True) program state (post i))
    : Always sem (fun _ => True) program state (fun result last => ∀ i, post i result last) := by
  induction program generalizing state with
  | done result => exact ⟨trivial, fun i => (each i).2⟩
  | call op next ih =>
      exact ⟨trivial, fun answer after served => ih answer
        (fun i => (each i).2 answer after served)⟩

/-- The rule for sequencing: the second program takes over where the first succeeds. -/
theorem always_bind {f : α → Prog sig ε β} {post : Except ε β → State → Prop}
    : Always sem inv (program >>= f) state post
      ↔ Always sem inv program state (Onward sem inv f post) := by
  induction program generalizing state with
  | done result =>
      cases result with
      | ok value =>
          simp only [Prog.ok_bind, always_done, onward_ok]
          exact ⟨fun always => ⟨always.here, always⟩, And.right⟩
      | error error => simp only [Prog.error_bind, always_done, onward_error]
  | call op next ih =>
      simp only [Prog.call_bind, always_call, ih]

/-- The rule for sequencing with a postcondition chosen for the middle. -/
theorem Always.bind {f : α → Prog sig ε β} {last : Except ε β → State → Prop}
    (first : Always sem inv program state post)
    (second
      : ∀ value middle,
          inv middle → post (.ok value) middle → Always sem inv (f value) middle last)
    (failed
      : ∀ error middle, inv middle → post (.error error) middle → last (.error error) middle)
    : Always sem inv (program >>= f) state last := by
  refine always_bind.mpr (first.mono ?_)
  intro result middle here holds
  cases result with
  | ok value => exact second value middle here holds
  | error error => exact failed error middle here holds

/-- The rule for sequencing where the first part keeps a stronger invariant. -/
theorem Always.seq {inv' : State → Prop} {f : α → Prog sig ε β}
    {last : Except ε β → State → Prop} (first : Always sem inv' program state post)
    (stronger : ∀ state, inv' state → inv state)
    (second
      : ∀ value middle,
          inv' middle → post (.ok value) middle → Always sem inv (f value) middle last)
    (failed
      : ∀ error middle, inv' middle → post (.error error) middle → last (.error error) middle)
    : Always sem inv (program >>= f) state last :=
  (first.weaken stronger).bind (fun value middle _ holds => second value middle holds.1 holds.2)
    (fun error middle _ holds => failed error middle holds.1 holds.2)

/-- The rule for a program run for its result. -/
theorem always_outcome {post : Except ε (Except ε α) → State → Prop}
    : Always sem inv (outcome program) state post
      ↔ Always sem inv program state (fun result => post (.ok result)) := by
  induction program generalizing state with
  | done result => rfl
  | call op next ih => simp only [outcome, always_call, ih]

/-- The rule for a loop whose body gives nothing back. -/
theorem always_forM {γ : Type} {body : γ → Prog sig ε PUnit}
    {post : Except ε PUnit → State → Prop}
    (loop : List γ → State → Prop)
    (kept : ∀ last, loop [] last → inv last ∧ post (.ok ⟨⟩) last)
    (step
      : ∀ item rest middle,
          loop (item :: rest) middle
          → Always sem inv (body item) middle
              (fun result after =>
                match result with
                | .ok _ => loop rest after
                | .error error => post (.error error) after))
    (items : List γ) (start : loop items state)
    : Always sem inv (items.forM body) state post := by
  induction items generalizing state with
  | nil => exact kept state start
  | cons item rest ih =>
      change Always sem inv (body item >>= fun _ => rest.forM body) state post
      refine (step item rest state start).bind ?_ ?_
      · intro _ middle _ holds
        exact ih holds
      · intro error middle _ holds
        exact holds

/-- A loop keeps what every turn keeps, by induction on the items. -/
theorem always_each {γ : Type} {body : γ → Prog sig ε PUnit} (items : List γ)
    (step
      : ∀ item ∈ items, ∀ middle,
          inv middle → Always sem inv (body item) middle (fun _ _ => True))
    (here : inv state)
    : Always sem inv (items.forM body) state (fun _ _ => True) := by
  induction items generalizing state with
  | nil => exact ⟨here, trivial⟩
  | cons item rest ih =>
      refine (step item (by simp) state here).bind ?_ (fun _ _ _ _ => trivial)
      intro _ middle here _
      exact ih (fun item member => step item (by simp [member])) here

/-- Every point of an execution satisfies the invariant and what remains to be shown. -/
theorem Always.reaches {rest : Prog sig ε α} {last : State}
    (always : Always sem inv program state post)
    (path : Reaches sem program state rest last)
    : Always sem inv rest last post := by
  induction path with
  | refl => exact always
  | step served _ ih => exact ih (always.2 _ _ served)

/-- Where every operation is served in the states of the invariant, some execution ends, and
in the postcondition. By induction on the program.
-/
theorem Always.exists_run (always : Always sem inv program state post)
    (served : ∀ (op : sig.Op) state, inv state → ∃ answer next, sem op state answer next)
    : ∃ result last, Reaches sem program state (.done result) last ∧ post result last := by
  induction program generalizing state with
  | done result => exact ⟨result, state, .refl, always.2⟩
  | call op next ih =>
      obtain ⟨answer, middle, step⟩ := served op state always.1
      obtain ⟨result, last, tail, holds⟩ := ih answer (always.2 answer middle step)
      exact ⟨result, last, .step step tail, holds⟩

/-- The run under a handler ends in the postcondition. -/
theorem Always.run {handler : Handler sig State}
    (always : Always handler.sem inv program state post)
    : post (Program.run handler program state).1 (Program.run handler program state).2 :=
  (always.reaches (reaches_run handler program state)).2

/-- The loop rule: `loop` relates the items still to come, the accumulator and the state;
an error ends the loop. Witness: induction on the items.
-/
theorem always_foldlM {γ : Type} {body : β → γ → Prog sig ε β} {post : Except ε β → State → Prop}
    (loop : List γ → β → State → Prop)
    (kept : ∀ acc last, loop [] acc last → inv last ∧ post (.ok acc) last)
    (step
      : ∀ item rest acc middle,
          loop (item :: rest) acc middle
          → Always sem inv (body acc item) middle
              (fun result after =>
                match result with
                | .ok acc => loop rest acc after
                | .error error => post (.error error) after))
    (items : List γ) (acc : β) (start : loop items acc state)
    : Always sem inv (items.foldlM body acc) state post := by
  induction items generalizing acc state with
  | nil => exact kept acc state start
  | cons item rest ih =>
      rw [List.foldlM_cons]
      refine (step item rest acc state start).bind ?_ ?_
      · intro acc middle _ holds
        exact ih acc holds
      · intro error middle _ holds
        exact holds

end Rules

end Program
