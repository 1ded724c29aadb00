import SyncGDrive.Program.Requests

/-! A semantics with a note beside the state: what an observer writes down of every answer.
Observing changes nothing, so rules for the bare semantics carry over.
-/

namespace Program

variable {sig : Signature} {ε α β State Note : Type}

/-- What an observer makes of an answer. -/
abbrev Noting (sig : Signature) (Note : Type) : Type :=
  (op : sig.Op) → sig.Answer op → Note → Note

/-- The semantics, with the note kept up. -/
def noted (sem : Semantics sig State) (noting : Noting sig Note) : Semantics sig (State × Note) :=
  fun op here answer after => sem op here.1 answer after.1 ∧ after.2 = noting op answer here.2

/-- The observer learns nothing from the operation. -/
def Silent (noting : Noting sig Note) (op : sig.Op) : Prop :=
  ∀ answer note, noting op answer note = note

section Rules

variable {sem : Semantics sig State} {noting : Noting sig Note}
  {permitted : sig.Op → State × Note → Prop} {program rest : Prog sig ε α}
  {state last : State} {note : Note} {post : Except ε α → State × Note → Prop}

theorem guarded_noted {op : sig.Op} {next : sig.Answer op → Prog sig ε α}
    : Guarded (noted sem noting) permitted (.call op next) (state, note) post
      ↔ permitted op (state, note)
        ∧ ∀ answer after,
            sem op state answer after
            → Guarded (noted sem noting) permitted (next answer) (after, noting op answer note)
                post := by
  constructor
  · rintro ⟨here, later⟩
    exact ⟨here, fun answer after served => later answer (after, _) ⟨served, rfl⟩⟩
  · rintro ⟨here, later⟩
    refine ⟨here, ?_⟩
    rintro answer ⟨after, _⟩ ⟨served, rfl⟩
    exact later answer after served

theorem always_noted {inv : State × Note → Prop} {op : sig.Op} {next : sig.Answer op → Prog sig ε α}
    : Always (noted sem noting) inv (.call op next) (state, note) post
      ↔ inv (state, note)
        ∧ ∀ answer after,
            sem op state answer after
            → Always (noted sem noting) inv (next answer) (after, noting op answer note) post := by
  constructor
  · rintro ⟨here, later⟩
    exact ⟨here, fun answer after served => later answer (after, _) ⟨served, rfl⟩⟩
  · rintro ⟨here, later⟩
    refine ⟨here, ?_⟩
    rintro answer ⟨after, _⟩ ⟨served, rfl⟩
    exact later answer after served

/-- Observing changes nothing. -/
theorem Always.observed {inv : State → Prop} {post : Except ε α → State → Prop}
    (always : Always sem inv program state post) (note : Note)
    : Always (noted sem noting) (fun here => inv here.1) program (state, note)
        (fun result last => post result last.1) := by
  induction program generalizing state note with
  | done result => exact always
  | call op next ih =>
      refine always_noted.mpr ⟨always.1, fun answer after served => ?_⟩
      exact ih answer (always.2 answer after served) _

/-- What holds of every observed execution holds without its notes. -/
theorem Always.bare (always : Always (noted sem noting) (fun _ => True) program (state, note) post)
    : Always sem (fun _ => True) program state
        (fun result last => ∃ note', post result (last, note')) := by
  induction program generalizing state note with
  | done result => exact ⟨trivial, note, always.2⟩
  | call op next ih =>
      exact ⟨trivial, fun answer after served => ih answer
        ((always_noted.mp always).2 answer after served)⟩

/-- Every execution is observed. -/
theorem Reaches.noted (reached : Reaches sem program state rest last) (note : Note)
    : ∃ note', Reaches (noted sem noting) program (state, note) rest (last, note') := by
  induction reached generalizing note with
  | refl => exact ⟨note, .refl⟩
  | @step op next state middle last answer rest served tail ih =>
      obtain ⟨note', tail⟩ := ih (noting op answer note)
      exact ⟨note', .step ⟨served, rfl⟩ tail⟩

/-- And an observed execution is one without its notes. -/
theorem Reaches.bare {here there : State × Note}
    (reached : Reaches (Program.noted sem noting) program here rest there)
    : Reaches sem program here.1 rest there.1 := by
  induction reached with
  | refl => exact .refl
  | step served _ ih => exact .step served.1 ih

/-- One operation of an observed execution. -/
theorem reaches_noted_call {op : sig.Op} {next : sig.Answer op → Prog sig ε α}
    {last : State × Note} (answer : sig.Answer op) (middle : State)
    (served : sem op state answer middle)
    (tail : Reaches (noted sem noting) (next answer) (middle, noting op answer note) rest last)
    : Reaches (noted sem noting) (.call op next) (state, note) rest last :=
  .step (show noted sem noting op (state, note) answer (middle, noting op answer note) from
    ⟨served, rfl⟩) tail

/-- What an observed execution may request after one operation. -/
theorem mayRequest_noted_call {target : sig.Op → State × Note → Prop} {op : sig.Op}
    {next : sig.Answer op → Prog sig ε α} (answer : sig.Answer op) (middle : State)
    (served : sem op state answer middle)
    (later : MayRequest (noted sem noting) target (next answer) (middle, noting op answer note))
    : MayRequest (noted sem noting) target (.call op next) (state, note) :=
  .inr ⟨answer, (middle, noting op answer note), ⟨served, rfl⟩, later⟩

/-- Where the observer learns nothing, the note stays as it is. -/
theorem Guarded.noted {silently : sig.Op → State → Prop} {post : Except ε α → State → Prop}
    (guarded : Guarded sem silently program state post) (silent : Uses (Silent noting) program)
    (permits : ∀ op state, silently op state → permitted op (state, note))
    : Guarded (noted sem noting) permitted program (state, note)
        (fun result last => post result last.1 ∧ last.2 = note) := by
  induction program generalizing state with
  | done result => exact ⟨guarded, rfl⟩
  | call op next ih =>
      refine guarded_noted.mpr ⟨permits _ _ guarded.1, fun answer after served => ?_⟩
      rw [silent.1 answer note]
      exact ih answer (guarded.2 answer after served) (silent.2 answer)

/-- What passes unobserved leads to leaves under the same note. -/
theorem ComesTo.guarded_noted {passed : sig.Op → Prop} {leaf : Prog sig ε α → State → Prop}
    (comes : ComesTo sem passed leaf program state)
    (silent : ∀ op, passed op → Silent noting op)
    (permits : ∀ op state, passed op → permitted op (state, note))
    (leaves
      : ∀ program state,
          leaf program state
          → Guarded (noted sem noting) permitted program (state, note) post)
    : Guarded (noted sem noting) permitted program (state, note) post := by
  induction comes with
  | here arrived => exact leaves _ _ arrived
  | step kind _ _ ih =>
      refine Program.guarded_noted.mpr ⟨permits _ _ kind, fun answer after served => ?_⟩
      rw [silent _ kind answer note]
      exact ih answer after served

end Rules

end Program
