import SyncGDrive.Program.Basic

/-! The operations a program may request, whatever it is answered. A program that keeps to
operations which preserve a property preserves it too.
-/

namespace Program

variable {sig : Signature} {State : Type} {ε α β γ : Type} {allowed allowed' : sig.Op → Prop}

/-- Every operation that the program may request is allowed. -/
def Uses (allowed : sig.Op → Prop) : Prog sig ε α → Prop
  | .done _ => True
  | .call op next => allowed op ∧ ∀ answer, Uses allowed (next answer)

-----------------------------------------------------------------------------------------
-- Rules
-----------------------------------------------------------------------------------------

@[simp] theorem uses_done {result : Except ε α}
    : Uses allowed (.done result : Prog sig ε α) := trivial

@[simp] theorem uses_pure {value : α} : Uses allowed (pure value : Prog sig ε α) := trivial

@[simp] theorem uses_throw {error : ε} : Uses allowed (throw error : Prog sig ε α) := trivial

@[simp] theorem uses_propagate {result : Except ε α}
    : Uses allowed (propagate result : Prog sig ε α) := trivial

@[simp] theorem uses_perform {op : sig.Op}
    : Uses allowed (perform op : Prog sig ε (sig.Answer op)) ↔ allowed op := by
  simp [perform, Uses]

theorem Uses.mono {program : Prog sig ε α} (uses : Uses allowed program)
    (more : ∀ op, allowed op → allowed' op)
    : Uses allowed' program := by
  induction program with
  | done result => trivial
  | call op next ih => exact ⟨more op uses.1, fun answer => ih answer (uses.2 answer)⟩

theorem Uses.bind {program : Prog sig ε α} {f : α → Prog sig ε β}
    (first : Uses allowed program) (second : ∀ value, Uses allowed (f value))
    : Uses allowed (program >>= f) := by
  induction program with
  | done result =>
      cases result with
      | ok value => exact second value
      | error error => trivial
  | call op next ih => exact ⟨first.1, fun answer => ih answer (first.2 answer)⟩

theorem Uses.map {program : Prog sig ε α} {f : α → β} (uses : Uses allowed program)
    : Uses allowed (f <$> program) := by
  rw [map_eq_pure_bind]
  exact uses.bind (fun _ => uses_pure)

theorem Uses.ite {condition : Prop} [Decidable condition] {first second : Prog sig ε α}
    (left : condition → Uses allowed first) (right : ¬ condition → Uses allowed second)
    : Uses allowed (if condition then first else second) := by
  split
  · exact left ‹_›
  · exact right ‹_›

theorem uses_foldlM {body : β → γ → Prog sig ε β} (items : List γ) (acc : β)
    (step : ∀ acc, ∀ item ∈ items, Uses allowed (body acc item))
    : Uses allowed (items.foldlM body acc) := by
  induction items generalizing acc with
  | nil => trivial
  | cons item rest ih =>
      rw [List.foldlM_cons]
      refine (step acc item (by simp)).bind ?_
      intro acc
      exact ih acc (fun acc item member => step acc item (by simp [member]))

theorem uses_forM {body : γ → Prog sig ε PUnit} (items : List γ)
    (step : ∀ item ∈ items, Uses allowed (body item))
    : Uses allowed (items.forM body) := by
  induction items with
  | nil => trivial
  | cons item rest ih =>
      refine (step item (by simp)).bind ?_
      intro _
      exact ih (fun item member => step item (by simp [member]))

-----------------------------------------------------------------------------------------
-- Preservation
-----------------------------------------------------------------------------------------

/-- What every allowed operation preserves holds throughout, by induction on the program. -/
theorem Uses.always {sem : Semantics sig State} {inv : State → Prop}
    {program : Prog sig ε α} {state : State} (uses : Uses allowed program)
    (preserved
      : ∀ (op : sig.Op) state answer next,
          allowed op → inv state → sem op state answer next → inv next)
    (here : inv state)
    : Always sem inv program state (fun _ _ => True) := by
  induction program generalizing state with
  | done result => exact ⟨here, trivial⟩
  | call op next ih =>
      exact ⟨here, fun answer after served =>
        ih answer (uses.2 answer) (preserved op state answer after uses.1 here served)⟩

end Program
