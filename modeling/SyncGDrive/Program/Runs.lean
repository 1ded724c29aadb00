import SyncGDrive.Program.Basic

/-! Runs of a labelled transition system as an observer sees them. The observer keeps a note
and may veto steps, so that one relation serves for what all runs do, for what the runs of a
discipline do, and for what has happened so far.
-/

namespace Program

/-- How a system moves: from a state, under a label, to the next. -/
abbrev Moves (State Label : Type) : Type := State → Label → State → Prop

/-- What an observer makes of a step, given what it has noted so far. -/
abbrev Watch (State Label Note : Type) : Type := Note → State → Label → State → Note

/-- Which steps a discipline allows, given what has been noted so far. -/
abbrev Discipline (State Label Note : Type) : Type := Note → State → Label → State → Prop

section Runs

variable {State Label Note : Type}

/-- Nothing is noted. -/
def unwatched : Watch State Label Unit := fun _ _ _ _ => ()

/-- Every step is allowed. -/
def anyStep : Discipline State Label Note := fun _ _ _ _ => True

/-- The notes and states that runs of the discipline reach. -/
inductive Observed (moves : Moves State Label) (watch : Watch State Label Note)
    (allowed : Discipline State Label Note) (first : Note) (start : State)
    : Note → State → Prop
  | start : Observed moves watch allowed first start first start
  | step {note : Note} {state next : State} {label : Label}
    (run : Observed moves watch allowed first start note state)
    (moved : moves state label next) (fine : allowed note state label next)
    : Observed moves watch allowed first start (watch note state label next) next

variable {moves : Moves State Label} {watch : Watch State Label Note}
  {allowed allowed' : Discipline State Label Note} {first note : Note} {start state : State}

/-- What holds at first and is kept by every allowed step holds throughout. -/
theorem Observed.invariant (inv : Note → State → Prop)
    (run : Observed moves watch allowed first start note state) (here : inv first start)
    (kept
      : ∀ note state label next,
          inv note state → moves state label next → allowed note state label next
          → inv (watch note state label next) next)
    : inv note state := by
  induction run with
  | start => exact here
  | step _ moved fine ih => exact kept _ _ _ _ ih moved fine

/-- A laxer discipline has more runs. -/
theorem Observed.mono (run : Observed moves watch allowed first start note state)
    (laxer
      : ∀ note state label next, allowed note state label next → allowed' note state label next)
    : Observed moves watch allowed' first start note state := by
  induction run with
  | start => exact .start
  | step _ moved fine ih => exact .step ih moved (laxer _ _ _ _ fine)

/-- A run goes on where another has come to. -/
theorem Observed.trans {note' : Note} {last : State}
    (run : Observed moves watch allowed first start note state)
    (rest : Observed moves watch allowed note state note' last)
    : Observed moves watch allowed first start note' last := by
  induction rest with
  | start => exact run
  | step _ moved fine ih => exact .step ih moved fine

/-- Any other observer sees the run as well. -/
theorem Observed.rewatch {Note' : Type} (run : Observed moves watch allowed first start note state)
    (watch' : Watch State Label Note') (first' : Note')
    : ∃ note', Observed moves watch' anyStep first' start note' state := by
  induction run with
  | start => exact ⟨first', .start⟩
  | step _ moved _ ih =>
      obtain ⟨note', run'⟩ := ih
      exact ⟨_, run'.step moved trivial⟩

end Runs

end Program
