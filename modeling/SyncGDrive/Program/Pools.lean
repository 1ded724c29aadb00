import Mathlib.Algebra.BigOperators.Group.List.Basic
import Mathlib.Algebra.GroupWithZero.Nat
import Mathlib.Data.List.Forall2
import SyncGDrive.Program.Monitors
import SyncGDrive.Program.Runs

/-! Programs side by side over a state that they share. They are served one operation at a time, in
any order among them; a program may be held up at an operation, and dropped anywhere.
-/

namespace Program

variable {sig : Signature} {ε Shared State : Type}

-----------------------------------------------------------------------------------------
-- Steps
-----------------------------------------------------------------------------------------

structure Pool (sig : Signature) (ε Shared : Type) where
  shared : Shared
  programs : List (Prog sig ε Unit) := []

/-- What may happen around the programs, and to their operations. -/
structure Surroundings (sig : Signature) (ε Shared : Type) where
  begins : Prog sig ε Unit → Prop
  passes : Shared → Shared → Prop
  serves : Semantics sig Shared
  /-- The operation has to wait, and is tried again later. -/
  holdsUp : sig.Op → Shared → Shared → Prop

inductive PoolEvent (sig : Signature) : Type
  | passed
  | begun
  | served (op : sig.Op) (answer : sig.Answer op)
  | heldUp (op : sig.Op)
  | dropped

/-- What an event counts, if its operation does. -/
def PoolEvent.count (amount : (op : sig.Op) → sig.Answer op → Nat) : PoolEvent sig → Nat
  | .served op answer => amount op answer
  | .passed | .begun | .heldUp _ | .dropped => 0

inductive Pool.Step (around : Surroundings sig ε Shared)
    : Moves (Pool sig ε Shared) (PoolEvent sig)
  | passed {pool : Pool sig ε Shared} {shared : Shared} (passes : around.passes pool.shared shared)
    : Step around pool .passed { pool with shared }
  | begun {pool : Pool sig ε Shared} {program : Prog sig ε Unit} (begins : around.begins program)
    : Step around pool .begun { pool with programs := pool.programs ++ [program] }
  | served {pool : Pool sig ε Shared} {before after : List (Prog sig ε Unit)} {op : sig.Op}
    {next : sig.Answer op → Prog sig ε Unit} {answer : sig.Answer op} {shared : Shared}
    (running : pool.programs = before ++ .call op next :: after)
    (serves : around.serves op pool.shared answer shared)
    : Step around pool (.served op answer) ⟨shared, before ++ next answer :: after⟩
  | heldUp {pool : Pool sig ε Shared} {before after : List (Prog sig ε Unit)} {op : sig.Op}
    {next : sig.Answer op → Prog sig ε Unit} {shared : Shared}
    (running : pool.programs = before ++ .call op next :: after)
    (holdsUp : around.holdsUp op pool.shared shared)
    : Step around pool (.heldUp op) { pool with shared }
  | dropped {pool : Pool sig ε Shared} {before after : List (Prog sig ε Unit)}
    {program : Prog sig ε Unit} (running : pool.programs = before ++ program :: after)
    : Step around pool .dropped { pool with programs := before ++ after }

/-- The runs of a pool, as an observer sees them. -/
abbrev Pool.Runs {Note : Type} (around : Surroundings sig ε Shared)
    (watch : Watch (Pool sig ε Shared) (PoolEvent sig) Note) (first : Note)
    (start : Pool sig ε Shared)
    : Note → Pool sig ε Shared → Prop :=
  Observed (Pool.Step around) watch anyStep first start

-----------------------------------------------------------------------------------------
-- Monitors beside the programs
-----------------------------------------------------------------------------------------

/-- What an event makes of the states of the monitors. -/
inductive Shift (monitor : Monitor sig State) (first : State)
    : PoolEvent sig → List State → List State → Prop
  | passed {states : List State} : Shift monitor first .passed states states
  | begun {states : List State} : Shift monitor first .begun states (states ++ [first])
  | served {before after : List State} {state : State} {op : sig.Op} {answer : sig.Answer op}
    (permitted : monitor.permits op state)
    : Shift monitor first (.served op answer) (before ++ state :: after)
        (before ++ monitor.next op answer state :: after)
  | heldUp {states : List State} {op : sig.Op} : Shift monitor first (.heldUp op) states states
  | dropped {before after : List State} {state : State}
    : Shift monitor first .dropped (before ++ state :: after) (before ++ after)

/-- A monitor stands beside each program, and accepts what that is still to do. -/
abbrev Attended (monitor : Monitor sig State) (programs : List (Prog sig ε Unit))
    (states : List State)
    : Prop :=
  List.Forall₂ (fun program state => Accepts monitor program state (fun _ _ => True)) programs
    states

section Attended

variable {monitor : Monitor sig State} {around : Surroundings sig ε Shared}
  {pool pool' : Pool sig ε Shared} {event : PoolEvent sig} {states : List State} {first : State}

/-- The monitor that stands beside a program. -/
theorem Attended.beside {before after : List (Prog sig ε Unit)} {program : Prog sig ε Unit}
    (attended : Attended monitor (before ++ program :: after) states)
    : ∃ earlier state later,
        states = earlier ++ state :: later ∧ Attended monitor before earlier
        ∧ Accepts monitor program state (fun _ _ => True) ∧ Attended monitor after later := by
  induction before generalizing states with
  | nil =>
      cases attended with
      | @cons _ state _ later here rest => exact ⟨[], state, later, rfl, .nil, here, rest⟩
  | cons other before ih =>
      cases attended with
      | @cons _ beside _ others here rest =>
          obtain ⟨earlier, state, later, rfl, first, program, last⟩ := ih rest
          exact ⟨beside :: earlier, state, later, rfl, .cons here first, program, last⟩

/-- Monitors may stand in any place. -/
theorem Attended.append {before after : List (Prog sig ε Unit)} {earlier later : List State}
    (first : Attended monitor before earlier) (last : Attended monitor after later)
    : Attended monitor (before ++ after) (earlier ++ later) := by
  induction first with
  | nil => exact last
  | cons here _ ih => exact .cons here ih

/-- Every step of the pool moves the monitors along. -/
theorem Pool.Step.attended (step : Pool.Step around pool event pool')
    (accepted
      : ∀ program, around.begins program → Accepts monitor program first (fun _ _ => True))
    (attended : Attended monitor pool.programs states)
    : ∃ states',
        Attended monitor pool'.programs states' ∧ Shift monitor first event states states' := by
  cases step with
  | passed passes => exact ⟨states, attended, .passed⟩
  | begun begins => exact ⟨_, attended.append (.cons (accepted _ begins) .nil), .begun⟩
  | served running serves =>
      rw [running] at attended
      obtain ⟨earlier, state, later, rfl, before, here, after⟩ := attended.beside
      exact ⟨_, before.append (.cons (here.2 _) after), .served here.1⟩
  | heldUp running holdsUp => exact ⟨states, attended, .heldUp⟩
  | dropped running =>
      rw [running] at attended
      obtain ⟨earlier, state, later, rfl, before, here, after⟩ := attended.beside
      exact ⟨_, before.append after, .dropped⟩

end Attended

-----------------------------------------------------------------------------------------
-- Weights
-----------------------------------------------------------------------------------------

/-- What the monitors weigh together. -/
def weight (weigh : State → Nat) (states : List State) : Nat := (states.map weigh).sum

section Weights

variable {monitor : Monitor sig State} {weigh : State → Nat} {event : PoolEvent sig}
  {states states' : List State} {first : State}

/-- Two weights of which each monitor has one at most. -/
theorem weight_add_le_length {weigh' : State → Nat}
    (light : ∀ state ∈ states, weigh state + weigh' state ≤ 1)
    : weight weigh states + weight weigh' states ≤ states.length := by
  induction states with
  | nil => exact Nat.le_refl _
  | cons state rest ih =>
      have here := light state List.mem_cons_self
      have others := ih (fun other member => light other (List.mem_cons_of_mem state member))
      simp only [weight, List.map_cons, List.sum_cons, List.length_cons] at others ⊢
      omega

@[simp] theorem weight_append (before after : List State)
    : weight weigh (before ++ after) = weight weigh before + weight weigh after := by
  rw [weight, List.map_append, List.sum_append, weight, weight]

@[simp] theorem weight_cons (state : State) (rest : List State)
    : weight weigh (state :: rest) = weigh state + weight weigh rest := by
  rw [weight, List.map_cons, List.sum_cons, weight]

/-- If every operation pays for what it spends and for what its monitor weighs afterwards, so does
every event of the pool: programs begin with nothing, and take along what they have.
-/
theorem Shift.balance (shift : Shift monitor first event states states') (weigh : State → Nat)
    {spent earned : (op : sig.Op) → sig.Answer op → Nat} (fresh : weigh first = 0)
    (pays
      : ∀ op answer state,
          monitor.permits op state
          → spent op answer + weigh (monitor.next op answer state)
            ≤ earned op answer + weigh state)
    : event.count spent + weight weigh states' ≤ event.count earned + weight weigh states := by
  cases shift with
  | passed | heldUp => simp [PoolEvent.count]
  | begun => simp [PoolEvent.count, weight, fresh]
  | @served before after state op answer permitted =>
      have paid := pays op answer state permitted
      simp only [PoolEvent.count, weight_append, weight_cons]
      omega
  | dropped =>
      simp only [PoolEvent.count, weight_append, weight_cons]
      omega

/-- What every permitted operation keeps holds of all the monitors. -/
theorem Shift.each (shift : Shift monitor first event states states') {good : State → Prop}
    (fresh : good first)
    (kept
      : ∀ op answer state,
          monitor.permits op state → good state → good (monitor.next op answer state))
    (here : ∀ state ∈ states, good state)
    : ∀ state ∈ states', good state := by
  cases shift with
  | passed | heldUp => exact here
  | begun =>
      intro state member
      rcases List.mem_append.mp member with before | new
      · exact here state before
      · exact List.mem_singleton.mp new ▸ fresh
  | @served before after state op answer permitted =>
      have served := kept op answer state permitted (here state (by simp))
      intro other member
      rcases List.mem_append.mp member with earlier | later
      · exact here other (List.mem_append_left _ earlier)
      · rcases List.mem_cons.mp later with rfl | last
        · exact served
        · exact here other (List.mem_append_right _ (List.mem_cons_of_mem _ last))
  | dropped =>
      intro other member
      rcases List.mem_append.mp member with earlier | later
      · exact here other (List.mem_append_left _ earlier)
      · exact here other (List.mem_append_right _ (List.mem_cons_of_mem _ later))

end Weights

end Program
