import SyncGDrive.Program.Uses

/-! Programs under a monitor: it goes along with every answer, and permits an operation or not. What
it accepts it accepts whatever the program is answered.
-/

namespace Program

variable {sig : Signature} {State : Type} {ε α β : Type}

/-- What is permitted in a state, and the state after an answer. -/
structure Monitor (sig : Signature) (State : Type) where
  permits : sig.Op → State → Prop
  next : (op : sig.Op) → sig.Answer op → State → State

/-- Whatever the program is answered, its operations are permitted, and its end is as it should be.
-/
def Accepts (monitor : Monitor sig State)
    : Prog sig ε α → State → (Except ε α → State → Prop) → Prop
  | .done result, state, post => post result state
  | .call op next, state, post =>
      monitor.permits op state
      ∧ ∀ answer, Accepts monitor (next answer) (monitor.next op answer state) post

section Rules

variable {monitor : Monitor sig State} {program : Prog sig ε α} {state : State}
  {post post' : Except ε α → State → Prop}

theorem Accepts.mono (accepts : Accepts monitor program state post)
    (weaker : ∀ result last, post result last → post' result last)
    : Accepts monitor program state post' := by
  induction program generalizing state with
  | done result => exact weaker _ _ accepts
  | call op next ih => exact ⟨accepts.1, fun answer => ih answer (accepts.2 answer)⟩

/-- The rule for sequencing. -/
theorem Accepts.bind {f : α → Prog sig ε β} {last : Except ε β → State → Prop}
    (first : Accepts monitor program state post)
    (second : ∀ value middle, post (.ok value) middle → Accepts monitor (f value) middle last)
    (failed : ∀ error middle, post (.error error) middle → last (.error error) middle)
    : Accepts monitor (program >>= f) state last := by
  induction program generalizing state with
  | done result =>
      cases result with
      | ok value => exact second value state first
      | error error => exact failed error state first
  | call op next ih => exact ⟨first.1, fun answer => ih answer (first.2 answer)⟩

theorem Accepts.ite {condition : Prop} [Decidable condition] {first second : Prog sig ε α}
    (left : condition → Accepts monitor first state post)
    (right : ¬ condition → Accepts monitor second state post)
    : Accepts monitor (if condition then first else second) state post := by
  split
  · exact left ‹_›
  · exact right ‹_›

/-- Running a program for its result is accepted as the program is. -/
theorem accepts_outcome {post : Except ε (Except ε α) → State → Prop}
    : Accepts monitor (outcome program : Prog sig ε (Except ε α)) state post
      ↔ Accepts monitor program state (fun result last => post (.ok result) last) := by
  induction program generalizing state with
  | done result => exact Iff.rfl
  | call op next ih => exact and_congr_right (fun _ => forall_congr' (fun answer => ih answer))

/-- An accepted program requests what is permitted in some state. -/
theorem Accepts.uses (accepts : Accepts monitor program state post)
    : Uses (fun op => ∃ state, monitor.permits op state) program := by
  induction program generalizing state with
  | done result => trivial
  | call op next ih => exact ⟨⟨state, accepts.1⟩, fun answer => ih answer (accepts.2 answer)⟩

end Rules

-----------------------------------------------------------------------------------------
-- Programs that may break off
-----------------------------------------------------------------------------------------

/-- What is asked of a program that returns a value; one that fails may do so anywhere. -/
def OnSuccess (post : α → State → Prop) : Except ε α → State → Prop
  | .ok value, last => post value last
  | .error _, _ => True

section Loops

variable {monitor : Monitor sig State} {state : State} {γ : Type}

theorem Accepts.then {program : Prog sig ε α} {f : α → Prog sig ε β} {post : α → State → Prop}
    {last : β → State → Prop} (first : Accepts monitor program state (OnSuccess post))
    (second
      : ∀ value middle, post value middle → Accepts monitor (f value) middle (OnSuccess last))
    : Accepts monitor (program >>= f) state (OnSuccess last) :=
  first.bind second (fun _ _ _ => trivial)

/-- The rule for a loop, by induction on what is left of it. -/
theorem accepts_forM {body : γ → Prog sig ε PUnit} (inv : State → Prop) (items : List γ)
    (step
      : ∀ item ∈ items, ∀ state,
          inv state → Accepts monitor (body item) state (OnSuccess (fun _ => inv)))
    (start : inv state)
    : Accepts monitor (items.forM body) state (OnSuccess (fun _ => inv)) := by
  induction items generalizing state with
  | nil => exact start
  | cons item rest ih =>
      change Accepts monitor (body item >>= fun _ => rest.forM body) state _
      apply (step item (.head _) state start).then
      intro _ middle here
      exact ih (fun item member => step item (.tail _ member)) here

theorem accepts_foldlM {body : β → γ → Prog sig ε β} (inv : β → State → Prop) (items : List γ)
    {acc : β}
    (step
      : ∀ acc, ∀ item ∈ items, ∀ state,
          inv acc state → Accepts monitor (body acc item) state (OnSuccess inv))
    (start : inv acc state)
    : Accepts monitor (items.foldlM body acc) state (OnSuccess inv) := by
  induction items generalizing acc state with
  | nil => exact start
  | cons item rest ih =>
      rw [List.foldlM_cons]
      apply (step acc item (.head _) state start).then
      intro acc middle here
      exact ih (fun acc item member => step acc item (.tail _ member)) here

/-- The same for loops that count their turns. -/
theorem accepts_forM_zipIdx {body : γ × Nat → Prog sig ε PUnit} (inv : Nat → State → Prop)
    (items : List γ) {first : Nat}
    (step
      : ∀ item index state, index < first + items.length → inv index state
          → Accepts monitor (body (item, index)) state (OnSuccess (fun _ => inv (index + 1))))
    (start : inv first state)
    : Accepts monitor ((items.zipIdx first).forM body) state
        (OnSuccess (fun _ => inv (first + items.length))) := by
  induction items generalizing first state with
  | nil => exact start
  | cons item rest ih =>
      have length : first + (item :: rest).length = first + 1 + rest.length := by
        rw [List.length_cons]
        omega
      change Accepts monitor (body (item, first) >>= fun _ => (rest.zipIdx (first + 1)).forM body)
        state _
      apply (step item first state (by omega) start).then
      intro _ middle here
      rw [length] at step ⊢
      exact ih step here

theorem accepts_foldlM_zipIdx {body : β → γ × Nat → Prog sig ε β} (inv : Nat → State → Prop)
    (items : List γ) {first : Nat} {acc : β}
    (step
      : ∀ acc item index state, index < first + items.length → inv index state
          → Accepts monitor (body acc (item, index)) state (OnSuccess (fun _ => inv (index + 1))))
    (start : inv first state)
    : Accepts monitor ((items.zipIdx first).foldlM body acc) state
        (OnSuccess (fun _ => inv (first + items.length))) := by
  induction items generalizing first acc state with
  | nil => exact start
  | cons item rest ih =>
      have length : first + (item :: rest).length = first + 1 + rest.length := by
        rw [List.length_cons]
        omega
      rw [List.zipIdx_cons, List.foldlM_cons]
      apply (step acc item first state (by omega) start).then
      intro acc middle here
      rw [length] at step ⊢
      exact ih step here

end Loops

end Program
