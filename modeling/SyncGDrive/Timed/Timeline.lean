import Mathlib.Algebra.BigOperators.Group.List.Basic
import Mathlib.Algebra.Order.BigOperators.Group.List
import Mathlib.Algebra.Order.Field.Basic
import Mathlib.Tactic.Linarith
import Mathlib.Tactic.Ring

/-! Runs of a machine whose actions come at moments that never go back, and what such a run
may spend in a window of time when every state has a level that pays for it.
-/

namespace Timed

variable {Time State Action Answer : Type*}

-----------------------------------------------------------------------------------------
-- Runs
-----------------------------------------------------------------------------------------

/-- What an action taken at a moment answers and leaves behind. -/
abbrev Machine (Time State Action Answer : Type*) : Type _ :=
  Time → Action → State → Answer × State

/-- One action of a run, with the state it found. -/
structure Visit (Time State Action : Type*) where
  now : Time
  action : Action
  found : State

/-- The moments never go back, and none is before `start`. -/
def Ordered [LE Time] : Time → List (Time × Action) → Prop
  | _, [] => True
  | start, (now, _) :: rest => start ≤ now ∧ Ordered now rest

/-- Actions at moments that never go back, none before `start`. -/
structure Schedule [LE Time] (Action : Type*) (start : Time) where
  moments : List (Time × Action)
  ordered : Ordered start moments

namespace Machine

variable (machine : Machine Time State Action Answer)

/-- What the action was answered. -/
def answered (visit : Visit Time State Action) : Answer :=
  (machine visit.now visit.action visit.found).1

/-- The state the action left behind. -/
def left (visit : Visit Time State Action) : State :=
  (machine visit.now visit.action visit.found).2

/-- The actions of a run, each with the state it found. -/
def visits : State → List (Time × Action) → List (Visit Time State Action)
  | _, [] => []
  | found, (now, action) :: rest =>
      ⟨now, action, found⟩ :: visits (machine now action found).2 rest

/-- The state a run ends in. -/
def final : State → List (Time × Action) → State
  | found, [] => found
  | found, (now, action) :: rest => final (machine now action found).2 rest

@[simp]
theorem visits_nil (found : State) : machine.visits found [] = [] := rfl

@[simp]
theorem visits_cons (found : State) (now : Time) (action : Action)
    (rest : List (Time × Action))
    : machine.visits found ((now, action) :: rest)
      = ⟨now, action, found⟩ :: machine.visits (machine now action found).2 rest :=
  rfl

/-- Every visit is an action of the run at its moment. -/
theorem mem_of_mem_visits {found : State} {run : List (Time × Action)}
    {visit : Visit Time State Action} (member : visit ∈ machine.visits found run)
    : (visit.now, visit.action) ∈ run := by
  induction run generalizing found with
  | nil => simp at member
  | cons moment rest ih =>
      obtain ⟨now, action⟩ := moment
      rcases List.mem_cons.mp member with rfl | later
      · exact List.mem_cons_self
      · exact List.mem_cons_of_mem _ (ih later)

/-- Every action of the run is visited. -/
theorem exists_visit {run : List (Time × Action)} {now : Time} {action : Action}
    (member : (now, action) ∈ run) (found : State)
    : ∃ visit ∈ machine.visits found run, visit.now = now ∧ visit.action = action := by
  induction run generalizing found with
  | nil => simp at member
  | cons moment rest ih =>
      rcases List.mem_cons.mp member with rfl | later
      · exact ⟨_, List.mem_cons_self, rfl, rfl⟩
      · obtain ⟨visit, visited, same⟩ := ih later (machine moment.1 moment.2 found).2
        exact ⟨visit, List.mem_cons_of_mem _ visited, same⟩

end Machine

-----------------------------------------------------------------------------------------
-- Order and invariants
-----------------------------------------------------------------------------------------

section Order

variable [Preorder Time] {machine : Machine Time State Action Answer}
  {start : Time} {run : List (Time × Action)} {found : State}

/-- No action of the run is before its start. -/
theorem Ordered.start_le (ordered : Ordered start run) {moment : Time × Action}
    (member : moment ∈ run)
    : start ≤ moment.1 := by
  induction run generalizing start with
  | nil => simp at member
  | cons first rest ih =>
      obtain ⟨begun, later⟩ := ordered
      rcases List.mem_cons.mp member with rfl | deeper
      · exact begun
      · exact begun.trans (ih later deeper)

/-- No visit of the run is before its start. -/
theorem Ordered.start_le_visit (ordered : Ordered start run) {visit : Visit Time State Action}
    (member : visit ∈ machine.visits found run)
    : start ≤ visit.now :=
  ordered.start_le (machine.mem_of_mem_visits member)

/-- A run in two parts has a moment between them. -/
theorem Ordered.split {early late : List (Time × Action)} (ordered : Ordered start (early ++ late))
    : Ordered start early
      ∧ ∃ middle,
          start ≤ middle ∧ (∀ moment ∈ early, moment.1 ≤ middle) ∧ Ordered middle late := by
  induction early generalizing start with
  | nil => exact ⟨trivial, start, le_refl start, by simp, ordered⟩
  | cons first rest ih =>
      obtain ⟨before, later⟩ := ordered
      obtain ⟨begun, middle, reached, past, after⟩ := ih later
      refine ⟨⟨before, begun⟩, middle, before.trans reached, ?_, after⟩
      intro moment member
      rcases List.mem_cons.mp member with rfl | deeper
      · exact reached
      · exact past moment deeper

/-- A property that the passing of time keeps and that every action of a run keeps holds in every
state that the run finds or leaves.
-/
theorem visits_invariant (holds : Time → State → Prop)
    (passing : ∀ {now later state}, holds now state → now ≤ later → holds later state)
    (acting
      : ∀ {now state} action,
          (now, action) ∈ run → holds now state → holds now (machine now action state).2)
    (ordered : Ordered start run) (first : holds start found)
    {visit : Visit Time State Action} (member : visit ∈ machine.visits found run)
    : holds visit.now visit.found ∧ holds visit.now (machine.left visit) := by
  induction run generalizing start found with
  | nil => simp at member
  | cons moment rest ih =>
      obtain ⟨now, action⟩ := moment
      obtain ⟨begun, later⟩ := ordered
      have here := passing first begun
      have left := acting action List.mem_cons_self here
      rcases List.mem_cons.mp member with rfl | deeper
      · exact ⟨here, left⟩
      · apply ih _ later left deeper
        exact fun other among => acting other (List.mem_cons_of_mem _ among)

/-- Such a property holds of the state a run ends in, at any moment that no action is after. -/
theorem final_invariant (holds : Time → State → Prop)
    (passing : ∀ {now later state}, holds now state → now ≤ later → holds later state)
    (acting
      : ∀ {now state} action,
          (now, action) ∈ run → holds now state → holds now (machine now action state).2)
    (ordered : Ordered start run) (first : holds start found) {now : Time} (begun : start ≤ now)
    (past : ∀ moment ∈ run, moment.1 ≤ now)
    : holds now (machine.final found run) := by
  induction run generalizing start found with
  | nil => exact passing first begun
  | cons moment rest ih =>
      obtain ⟨before, later⟩ := ordered
      have left := acting moment.2 List.mem_cons_self (passing first before)
      apply ih _ later left (past moment List.mem_cons_self)
      · exact fun other member => past other (List.mem_cons_of_mem _ member)
      · exact fun other among => acting other (List.mem_cons_of_mem _ among)

/-- Visits are related pairwise if each is related to those of any run after it. -/
theorem pairwise_visits {related : Visit Time State Action → Visit Time State Action → Prop}
    (each
      : ∀ (visit : Visit Time State Action) (rest : List (Time × Action)),
          Ordered visit.now rest
          → ∀ later ∈ machine.visits (machine.left visit) rest, related visit later)
    (ordered : Ordered start run)
    : (machine.visits found run).Pairwise related := by
  induction run generalizing start found with
  | nil => exact List.Pairwise.nil
  | cons moment rest ih =>
      obtain ⟨now, action⟩ := moment
      exact List.Pairwise.cons (each ⟨now, action, found⟩ rest ordered.2) (ih ordered.2)

end Order

-----------------------------------------------------------------------------------------
-- Spending
-----------------------------------------------------------------------------------------

section Spending

variable {K : Type*} [LinearOrder K]

/-- The visits of the window from `since` to `till`. -/
def within (since till : K) (visits : List (Visit K State Action)) : List (Visit K State Action) :=
  visits.filter (fun visit => since ≤ visit.now ∧ visit.now ≤ till)

variable [Field K]

/-- What the visits of the window from `since` to `till` spend together. -/
def spending (spent : Visit K State Action → K) (since till : K)
    (visits : List (Visit K State Action))
    : K :=
  ((within since till visits).map spent).sum

/-- Every state has a level, at most the capacity, that pays for what its actions spend and that
grows with time no faster than the rate.
-/
structure Metered (machine : Machine K State Action Answer) (spent : Visit K State Action → K)
    (level : K → State → K) (sound : K → State → Prop) (capacity rate : K)
    : Prop where
  passing : ∀ {now later state}, sound now state → now ≤ later → sound later state
  acting : ∀ {now state} action, sound now state → sound now (machine now action state).2
  spends : ∀ visit, 0 ≤ spent visit
  pays
    : ∀ visit : Visit K State Action,
        sound visit.now visit.found
        → spent visit + level visit.now (machine.left visit) ≤ level visit.now visit.found
  grows
    : ∀ {now later state},
        sound now state → now ≤ later → level later state ≤ level now state + rate * (later - now)
  positive : ∀ {now state}, sound now state → 0 ≤ level now state
  full : ∀ now state, level now state ≤ capacity

variable {machine : Machine K State Action Answer} {spent : Visit K State Action → K}
  {level : K → State → K} {sound : K → State → Prop} {capacity rate since till start : K}
  {run : List (K × Action)} {found : State}

@[simp]
theorem spending_nil : spending spent since till [] = 0 := rfl

/-- Visits that spend nothing spend nothing together. -/
theorem spending_eq_zero {visits : List (Visit K State Action)}
    (free : ∀ visit ∈ visits, spent visit = 0)
    : spending spent since till visits = 0 := by
  apply List.sum_eq_zero
  intro amount counted
  obtain ⟨visit, member, rfl⟩ := List.mem_map.mp counted
  exact free visit (List.mem_filter.mp member).1

/-- A visit in the window counts with what it spends. -/
theorem spending_cons_of_mem {visit : Visit K State Action} (opened : since ≤ visit.now)
    (open' : visit.now ≤ till) (rest : List (Visit K State Action))
    : spending spent since till (visit :: rest) = spent visit + spending spent since till rest := by
  simp [spending, within, opened, open']

/-- A visit outside of the window does not count. -/
theorem spending_cons_of_not_mem {visit : Visit K State Action}
    (outside : ¬ (since ≤ visit.now ∧ visit.now ≤ till)) (rest : List (Visit K State Action))
    : spending spent since till (visit :: rest) = spending spent since till rest := by
  simp [spending, within, outside]

/-- A window is spent in at least what one of its visits spends. -/
theorem le_spending_of_mem [IsStrictOrderedRing K] (spends : ∀ visit, 0 ≤ spent visit)
    {visits : List (Visit K State Action)} {visit : Visit K State Action}
    (member : visit ∈ visits) (opened : since ≤ visit.now) (open' : visit.now ≤ till)
    : spent visit ≤ spending spent since till visits := by
  apply List.single_le_sum
  · intro amount counted
    obtain ⟨other, _, rfl⟩ := List.mem_map.mp counted
    exact spends other
  · apply List.mem_map_of_mem
    exact List.mem_filter.mpr ⟨member, by simp [opened, open']⟩

/-- Nothing is spent in a window that is over when the run begins. -/
theorem spending_of_closed (machine : Machine K State Action Answer) (found : State)
    (ordered : Ordered start run) (closed : till < start)
    : spending spent since till (machine.visits found run) = 0 := by
  have none_within : within since till (machine.visits found run) = [] := by
    apply List.filter_eq_nil_iff.mpr
    intro visit member
    have later := ordered.start_le_visit member
    simp only [decide_eq_true_eq, not_and, not_le]
    intro _
    exact closed.trans_le later
  simp [spending, none_within]

variable [IsStrictOrderedRing K]

/-- A run that begins in an open window spends at most the level it finds and what accrues. -/
theorem Metered.spending_le_level (metered : Metered machine spent level sound capacity rate)
    (accrues : 0 ≤ rate) (ordered : Ordered start run) (first : sound start found)
    (opened : since ≤ start) (open' : start ≤ till)
    : spending spent since till (machine.visits found run)
      ≤ level start found + rate * (till - start) := by
  induction run generalizing start found with
  | nil =>
      have accrued : 0 ≤ rate * (till - start) := mul_nonneg accrues (sub_nonneg.mpr open')
      simpa using add_nonneg (metered.positive first) accrued
  | cons moment rest ih =>
      obtain ⟨now, action⟩ := moment
      obtain ⟨begun, later⟩ := ordered
      have here := metered.passing first begun
      have risen := metered.grows first begun
      rw [Machine.visits_cons]
      by_cases late : now ≤ till
      · rw [spending_cons_of_mem (opened.trans begun) late]
        have paid := metered.pays ⟨now, action, found⟩ here
        have after := ih later (metered.acting action here) (opened.trans begun) late
        have split : rate * (till - start) = rate * (now - start) + rate * (till - now) := by ring
        simp only [Machine.left] at paid
        linarith
      · have gone : till < now := not_le.mp late
        have outside : ¬ (since ≤ now ∧ now ≤ till) := fun inside => late inside.2
        rw [spending_cons_of_not_mem outside, spending_of_closed machine _ later gone]
        exact add_nonneg (metered.positive first) (mul_nonneg accrues (sub_nonneg.mpr open'))

/-- A run spends, in any window, at most the capacity and what accrues. -/
theorem Metered.spending_le (metered : Metered machine spent level sound capacity rate)
    (accrues : 0 ≤ rate) (ordered : Ordered start run) (first : sound start found)
    (wide : since ≤ till)
    : spending spent since till (machine.visits found run) ≤ capacity + rate * (till - since) := by
  have accrued : 0 ≤ rate * (till - since) := mul_nonneg accrues (sub_nonneg.mpr wide)
  induction run generalizing start found with
  | nil =>
      have room := (metered.positive first).trans (metered.full start found)
      simpa using add_nonneg room accrued
  | cons moment rest ih =>
      obtain ⟨now, action⟩ := moment
      obtain ⟨begun, later⟩ := ordered
      have here := metered.passing first begun
      by_cases opened : since ≤ now
      · by_cases late : now ≤ till
        · have starting : Ordered now ((now, action) :: rest) := ⟨le_refl now, later⟩
          have bounded := metered.spending_le_level accrues starting here opened late
          have room := metered.full now found
          have shorter : rate * (till - now) ≤ rate * (till - since) :=
            mul_le_mul_of_nonneg_left (sub_le_sub_left opened till) accrues
          linarith
        · have starting : Ordered now ((now, action) :: rest) := ⟨le_refl now, later⟩
          rw [spending_of_closed machine found starting (not_le.mp late)]
          exact add_nonneg ((metered.positive first).trans (metered.full start found)) accrued
      · rw [Machine.visits_cons, spending_cons_of_not_mem (fun inside => opened inside.1)]
        exact ih later (metered.acting action here)

end Spending

end Timed
