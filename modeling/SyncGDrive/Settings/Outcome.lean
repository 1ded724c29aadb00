import SyncGDrive.Config

/-! Computations that may panic. An arithmetic overflow is told apart from a panic: what it
does depends on how the program is built.
-/

namespace SyncGDrive

inductive Outcome (α : Type)
  | done (value : α)
  | failed (error : Error)
  | overflowed
  | panicked

namespace Outcome

variable {α β : Type}

def bind : Outcome α → (α → Outcome β) → Outcome β
  | .done value, f => f value
  | .failed error, _ => .failed error
  | .overflowed, _ => .overflowed
  | .panicked, _ => .panicked

instance : Monad Outcome where
  pure := .done
  bind := Outcome.bind

instance : LawfulMonad Outcome :=
  LawfulMonad.mk' Outcome
    (by rintro _ (_ | _ | _ | _) <;> rfl)
    (by intros; rfl)
    (by rintro _ _ _ (_ | _ | _ | _) f g <;> rfl)

/-- A question mark. -/
def ofExcept : Except Error α → Outcome α
  | .ok value => .done value
  | .error error => .failed error

/-- Neither a panic nor an overflow: a value or an error. -/
def Safe : Outcome α → Prop
  | .done _ | .failed _ => True
  | _ => False

/-- Panic unless a condition holds. -/
def expect (condition : Prop) [Decidable condition] : Outcome Unit :=
  if condition then .done () else .panicked

/-- A product of 64 bits. -/
def mul (left right : Nat) : Outcome Nat :=
  if left * right < 2 ^ 64 then .done (left * right) else .overflowed

@[simp] theorem pure_eq (value : α) : (pure value : Outcome α) = .done value := rfl

@[simp] theorem done_bind (value : α) (f : α → Outcome β) : (done value >>= f) = f value := rfl

@[simp] theorem failed_bind (error : Error) (f : α → Outcome β)
    : ((failed error : Outcome α) >>= f) = failed error := rfl

@[simp] theorem overflowed_bind (f : α → Outcome β)
    : ((overflowed : Outcome α) >>= f) = overflowed := rfl

@[simp] theorem panicked_bind (f : α → Outcome β) : ((panicked : Outcome α) >>= f) = panicked := rfl

/-- A sequence ends well when both parts do. -/
theorem bind_eq_done {program : Outcome α} {f : α → Outcome β} {value : β}
    : (program >>= f) = .done value
        ↔ ∃ middle, program = .done middle ∧ f middle = .done value := by
  cases program with
  | done middle => simp
  | _ => simp

theorem expect_eq_done {condition : Prop} [Decidable condition]
    : expect condition = .done () ↔ condition := by
  unfold expect
  split <;> simp_all

theorem mul_eq_done {left right product : Nat}
    : mul left right = .done product ↔ left * right < 2 ^ 64 ∧ product = left * right := by
  unfold mul
  split
  · rename_i fits
    simp only [done.injEq, fits, true_and, eq_comm]
  · rename_i overflows
    simp only [overflows, false_and, reduceCtorEq]

theorem ofExcept_eq_done {result : Except Error α} {value : α}
    : ofExcept result = .done value ↔ result = .ok value := by
  cases result <;> simp [ofExcept]

/-- Only an error breaks off a sequence safely. -/
theorem mapM_safe {f : α → Outcome β} {items : List α}
    (never : ∀ item ∈ items, ∀ error, f item ≠ .failed error)
    : (items.mapM f).Safe ↔ ∀ item ∈ items, (f item).Safe := by
  induction items with
  | nil => simp [Safe]
  | cons item items ih =>
      have ih := ih (fun item member => never item (.tail _ member))
      rw [List.mapM_cons, List.forall_mem_cons, ← ih]
      cases first : f item with
      | done value =>
          rw [done_bind]
          cases items.mapM f <;> simp [Safe]
      | failed error => exact absurd first (never item (.head _) error)
      | overflowed => simp [Safe]
      | panicked => simp [Safe]

end Outcome

end SyncGDrive
