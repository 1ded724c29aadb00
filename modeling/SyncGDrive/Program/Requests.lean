import SyncGDrive.Program.Uses

/-! The operations that a program may come to and those that it must, each at the state where
it is requested, and how far a program's first operations decide this.
-/

namespace Program

variable {sig : Signature} {State : Type} {ε α β : Type}

-----------------------------------------------------------------------------------------
-- Requests
-----------------------------------------------------------------------------------------

/-- Some execution requests a target operation. -/
def MayRequest (sem : Semantics sig State) (target : sig.Op → State → Prop)
    : Prog sig ε α → State → Prop
  | .done _, _ => False
  | .call op next, state =>
      target op state
      ∨ ∃ answer after, sem op state answer after ∧ MayRequest sem target (next answer) after

/-- Every execution requests a target operation before it ends. -/
def MustRequest (sem : Semantics sig State) (target : sig.Op → State → Prop)
    : Prog sig ε α → State → Prop
  | .done _, _ => False
  | .call op next, state =>
      target op state
      ∨ ∀ answer after, sem op state answer after → MustRequest sem target (next answer) after

/-- Every execution comes to a leaf, through operations of the kind passed only. -/
inductive ComesTo (sem : Semantics sig State) (passed : sig.Op → Prop)
    (leaf : Prog sig ε α → State → Prop)
    : Prog sig ε α → State → Prop
  | here {program : Prog sig ε α} {state : State} (arrived : leaf program state)
    : ComesTo sem passed leaf program state
  | step {op : sig.Op} {next : sig.Answer op → Prog sig ε α} {state : State} (kind : passed op)
    (served : ∃ answer after, sem op state answer after)
    (tail
      : ∀ answer after, sem op state answer after → ComesTo sem passed leaf (next answer) after)
    : ComesTo sem passed leaf (.call op next) state

section Rules

variable {sem : Semantics sig State} {target : sig.Op → State → Prop}
  {allowed passed : sig.Op → Prop} {program : Prog sig ε α} {state : State}

@[simp] theorem mayRequest_done {result : Except ε α}
    : ¬ MayRequest sem target (.done result) state := id

@[simp] theorem mustRequest_done {result : Except ε α}
    : ¬ MustRequest sem target (.done result) state := id

/-- A request is a point that an execution reaches. -/
theorem mayRequest_iff_reaches
    : MayRequest sem target program state
      ↔ ∃ (op : sig.Op) (next : sig.Answer op → Prog sig ε α) (last : State),
          Reaches sem program state (.call op next) last ∧ target op last := by
  constructor
  · intro requests
    induction program generalizing state with
    | done result => exact requests.elim
    | call op next ih =>
        rcases requests with here | ⟨answer, after, served, later⟩
        · exact ⟨op, next, state, .refl, here⟩
        · obtain ⟨op', next', last, reached, there⟩ := ih answer later
          exact ⟨op', next', last, .step served reached, there⟩
  · rintro ⟨op, next, last, reached, there⟩
    generalize rest : Prog.call op next = target' at reached
    induction reached with
    | refl => exact rest ▸ .inl there
    | step served tail ih => exact .inr ⟨_, _, served, ih there rest⟩

/-- An execution that ends has requested what it must. -/
theorem MustRequest.reaches {result : Except ε α} {last : State}
    (must : MustRequest sem target program state)
    (reached : Reaches sem program state (.done result) last)
    : ∃ (op : sig.Op) (next : sig.Answer op → Prog sig ε α) (middle : State),
        Reaches sem program state (.call op next) middle ∧ target op middle
        ∧ Reaches sem (.call op next) middle (.done result) last := by
  generalize rest : Prog.done result = ended at reached ⊢
  induction reached with
  | refl => exact (rest ▸ must).elim
  | step served tail ih =>
      rcases must with here | later
      · exact ⟨_, _, _, .refl, here, .step served tail⟩
      · obtain ⟨op, next, middle, first, there, second⟩ := ih (later _ _ served) rest
        exact ⟨op, next, middle, .step served first, there, second⟩

/-- A program requests nothing but what it uses. -/
theorem Uses.not_mayRequest (uses : Uses allowed program)
    (apart : ∀ op state, allowed op → ¬ target op state)
    : ¬ MayRequest sem target program state := by
  induction program generalizing state with
  | done result => exact id
  | call op next ih =>
      rintro (here | ⟨answer, after, -, later⟩)
      · exact apart op state uses.1 here
      · exact ih answer (uses.2 answer) later

/-- What no execution requests is not requested by all, where every operation is served. -/
theorem Uses.not_mustRequest (uses : Uses allowed program)
    (apart : ∀ op state, allowed op → ¬ target op state)
    (total : ∀ (op : sig.Op) state, ∃ answer after, sem op state answer after)
    : ¬ MustRequest sem target program state := by
  induction program generalizing state with
  | done result => exact id
  | call op next ih =>
      rintro (here | later)
      · exact apart op state uses.1 here
      · obtain ⟨answer, after, served⟩ := total op state
        exact ih answer (uses.2 answer) (later answer after served)

end Rules

-----------------------------------------------------------------------------------------
-- Coming to a leaf
-----------------------------------------------------------------------------------------

namespace ComesTo

variable {sem : Semantics sig State} {target : sig.Op → State → Prop} {passed : sig.Op → Prop}
  {leaf : Prog sig ε α → State → Prop} {program : Prog sig ε α} {state : State}

theorem mono {leaf' : Prog sig ε α → State → Prop} (comes : ComesTo sem passed leaf program state)
    (weaker : ∀ program state, leaf program state → leaf' program state)
    : ComesTo sem passed leaf' program state := by
  induction comes with
  | here arrived => exact .here (weaker _ _ arrived)
  | step kind served _ ih => exact .step kind served ih

/-- The rule for sequencing: the second part starts where the first has come to. -/
theorem bind {f : α → Prog sig ε β} {leaf' : Prog sig ε β → State → Prop}
    (comes : ComesTo sem passed leaf program state)
    (onward
      : ∀ program state, leaf program state → ComesTo sem passed leaf' (program >>= f) state)
    : ComesTo sem passed leaf' (program >>= f) state := by
  induction comes with
  | here arrived => exact onward _ _ arrived
  | step kind served _ ih => exact .step kind served ih

/-- What is passed is no target, so the leaves decide what may be requested. -/
theorem mayRequest_iff {may : Prop} (comes : ComesTo sem passed leaf program state)
    (apart : ∀ op state, passed op → ¬ target op state)
    (decided : ∀ program state, leaf program state → (MayRequest sem target program state ↔ may))
    : MayRequest sem target program state ↔ may := by
  induction comes with
  | here arrived => exact decided _ _ arrived
  | step kind served _ ih =>
      constructor
      · rintro (here | ⟨answer, after, served, later⟩)
        · exact absurd here (apart _ _ kind)
        · exact (ih answer after served).mp later
      · intro holds
        obtain ⟨answer, after, served⟩ := served
        exact .inr ⟨answer, after, served, (ih answer after served).mpr holds⟩

/-- And what must be. -/
theorem mustRequest_iff {must : Prop} (comes : ComesTo sem passed leaf program state)
    (apart : ∀ op state, passed op → ¬ target op state)
    (decided
      : ∀ program state, leaf program state → (MustRequest sem target program state ↔ must))
    : MustRequest sem target program state ↔ must := by
  induction comes with
  | here arrived => exact decided _ _ arrived
  | step kind served _ ih =>
      constructor
      · rintro (here | later)
        · exact absurd here (apart _ _ kind)
        · obtain ⟨answer, after, served⟩ := served
          exact (ih answer after served).mp (later answer after served)
      · intro holds
        exact .inr (fun answer after served => (ih answer after served).mpr holds)

/-- What the operations passed keep holds at the leaf too. -/
theorem keeps {inv : State → Prop} (comes : ComesTo sem passed leaf program state)
    (kept
      : ∀ (op : sig.Op) state answer after,
          passed op → sem op state answer after → inv state → inv after)
    (here : inv state)
    : ComesTo sem passed (fun program state => leaf program state ∧ inv state) program state := by
  induction comes with
  | here arrived => exact .here ⟨arrived, here⟩
  | step kind served _ ih =>
      exact .step kind served
        (fun answer after served => ih answer after served (kept _ _ _ _ kind served here))

/-- Some execution gets to a leaf. -/
theorem reaches (comes : ComesTo sem passed leaf program state)
    : ∃ rest last, Reaches sem program state rest last ∧ leaf rest last := by
  induction comes with
  | here arrived => exact ⟨_, _, .refl, arrived⟩
  | step _ served _ ih =>
      obtain ⟨answer, after, served⟩ := served
      obtain ⟨rest, last, path, arrived⟩ := ih answer after served
      exact ⟨rest, last, .step served path, arrived⟩

/-- More may be passed. -/
theorem widen {passed' : sig.Op → Prop} (comes : ComesTo sem passed leaf program state)
    (wider : ∀ op, passed op → passed' op)
    : ComesTo sem passed' leaf program state := by
  induction comes with
  | here arrived => exact .here arrived
  | step kind served _ ih => exact .step (wider _ kind) served ih

/-- The rule for an operation with one answer. -/
theorem known {op : sig.Op} {next : sig.Answer op → Prog sig ε α} {answer : sig.Answer op}
    {after : State} (kind : passed op)
    (served : ∀ got reached, sem op state got reached ↔ got = answer ∧ reached = after)
    (rest : ComesTo sem passed leaf (next answer) after)
    : ComesTo sem passed leaf (.call op next) state := by
  refine .step kind ⟨answer, after, (served _ _).mpr ⟨rfl, rfl⟩⟩ ?_
  intro got reached asked
  obtain ⟨rfl, rfl⟩ := (served got reached).mp asked
  exact rest

/-- Where the leaves agree on what every execution brings about, so does the start. -/
theorem always_iff {post : Except ε α → State → Prop} {holds : Prop}
    (comes : ComesTo sem passed leaf program state)
    (decided
      : ∀ program state,
          leaf program state → (Always sem (fun _ => True) program state post ↔ holds))
    : Always sem (fun _ => True) program state post ↔ holds := by
  induction comes with
  | here arrived => exact decided _ _ arrived
  | step kind served _ ih =>
      constructor
      · rintro ⟨-, always⟩
        obtain ⟨answer, after, served⟩ := served
        exact (ih answer after served).mp (always answer after served)
      · intro brought
        exact ⟨trivial, fun answer after served => (ih answer after served).mpr brought⟩

/-- What every leaf owes is owed from the start, where nothing is asked on the way. -/
theorem always {post : Except ε α → State → Prop} (comes : ComesTo sem passed leaf program state)
    (owed
      : ∀ program state,
          leaf program state → Always sem (fun _ => True) program state post)
    : Always sem (fun _ => True) program state post := by
  induction comes with
  | here arrived => exact owed _ _ arrived
  | step _ _ _ ih => exact ⟨trivial, ih⟩

end ComesTo

-----------------------------------------------------------------------------------------
-- Nothing but permitted requests
-----------------------------------------------------------------------------------------

/-- Every request of every execution is permitted where it is made, and `post` holds of the result
where an execution ends.
-/
def Guarded (sem : Semantics sig State) (permitted : sig.Op → State → Prop)
    : Prog sig ε α → State → (Except ε α → State → Prop) → Prop
  | .done result, state, post => post result state
  | .call op next, state, post =>
      permitted op state
      ∧ ∀ answer after,
          sem op state answer after → Guarded sem permitted (next answer) after post

section Guards

variable {sem : Semantics sig State} {permitted : sig.Op → State → Prop}
  {allowed : sig.Op → Prop} {inv : State → Prop} {program : Prog sig ε α} {state : State}
  {post post' : Except ε α → State → Prop}

@[simp] theorem guarded_done {result : Except ε α}
    : Guarded sem permitted (.done result) state post ↔ post result state := Iff.rfl

theorem Guarded.mono (guarded : Guarded sem permitted program state post)
    (weaker : ∀ result last, post result last → post' result last)
    : Guarded sem permitted program state post' := by
  induction program generalizing state with
  | done result => exact weaker _ _ guarded
  | call op next ih =>
      exact ⟨guarded.1, fun answer after served => ih answer (guarded.2 answer after served)⟩

/-- The rule for sequencing. -/
theorem Guarded.bind {f : α → Prog sig ε β} {last : Except ε β → State → Prop}
    (first : Guarded sem permitted program state post)
    (second
      : ∀ value middle,
          post (.ok value) middle → Guarded sem permitted (f value) middle last)
    (failed : ∀ error middle, post (.error error) middle → last (.error error) middle)
    : Guarded sem permitted (program >>= f) state last := by
  induction program generalizing state with
  | done result =>
      cases result with
      | ok value => exact second value state first
      | error error => exact failed error state first
  | call op next ih =>
      exact ⟨first.1, fun answer after served => ih answer (first.2 answer after served)⟩

/-- What an invariant permits of the operations that a program uses. -/
theorem Always.guarded (always : Always sem inv program state post) (uses : Uses allowed program)
    (permits : ∀ op state, inv state → allowed op → permitted op state)
    : Guarded sem permitted program state post := by
  induction program generalizing state with
  | done result => exact always.2
  | call op next ih =>
      exact ⟨permits op state always.1 uses.1, fun answer after served =>
        ih answer (always.2 answer after served) (uses.2 answer)⟩

/-- An invariant guards every request, and holds at the end. -/
theorem always_iff_guarded
    : Always sem inv program state post
      ↔ Guarded sem (fun _ => inv) program state
          (fun result last => inv last ∧ post result last) := by
  induction program generalizing state with
  | done result => exact Iff.rfl
  | call op next ih => simp only [always_call, Guarded, ih]

/-- The rule for a loop whose body gives nothing back. -/
theorem guarded_forM {γ : Type} {body : γ → Prog sig ε PUnit} (items : List γ)
    (step
      : ∀ item ∈ items, ∀ middle,
          inv middle → Guarded sem permitted (body item) middle (fun _ last => inv last))
    (here : inv state)
    : Guarded sem permitted (items.forM body) state (fun _ last => inv last) := by
  induction items generalizing state with
  | nil => exact here
  | cons item rest ih =>
      refine (step item (by simp) state here).bind (fun _ middle here => ?_) (fun _ _ here => here)
      exact ih (fun item member => step item (by simp [member])) here

/-- The loop rule: `loop` relates the items still to come, the accumulator and the state. -/
theorem guarded_foldlM {γ : Type} {body : β → γ → Prog sig ε β}
    {post : Except ε β → State → Prop} (loop : List γ → β → State → Prop)
    (kept : ∀ acc last, loop [] acc last → post (.ok acc) last)
    (step
      : ∀ item rest acc middle,
          loop (item :: rest) acc middle
          → Guarded sem permitted (body acc item) middle
              (fun result after =>
                match result with
                | .ok acc => loop rest acc after
                | .error error => post (.error error) after))
    (items : List γ) (acc : β) (start : loop items acc state)
    : Guarded sem permitted (items.foldlM body acc) state post := by
  induction items generalizing acc state with
  | nil => exact kept acc state start
  | cons item rest ih =>
      rw [List.foldlM_cons]
      refine (step item rest acc state start).bind ?_ ?_
      · intro acc middle holds
        exact ih acc holds
      · intro error middle holds
        exact holds

/-- A request that is not permitted is not made. -/
theorem Guarded.reaches {op : sig.Op} {next : sig.Answer op → Prog sig ε α} {last : State}
    (guarded : Guarded sem permitted program state post)
    (reached : Reaches sem program state (.call op next) last)
    : permitted op last := by
  generalize rest : Prog.call op next = target at reached
  induction reached with
  | refl => exact (rest ▸ guarded).1
  | step served _ ih => exact ih (guarded.2 _ _ served) rest

/-- What holds where an execution ends. -/
theorem Guarded.ends {result : Except ε α} {last : State}
    (guarded : Guarded sem permitted program state post)
    (reached : Reaches sem program state (.done result) last)
    : post result last := by
  generalize rest : Prog.done result = target at reached
  induction reached with
  | refl => exact (rest ▸ guarded :)
  | step served _ ih => exact ih (guarded.2 _ _ served) rest

end Guards

end Program
