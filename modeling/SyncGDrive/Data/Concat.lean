import Mathlib.Data.List.Basic

/-! A list with one more element at its end. -/

namespace List

variable {α : Type*} {l : List α} {a : α}

theorem forall_mem_concat {p : α → Prop} : (∀ x ∈ l ++ [a], p x) ↔ (∀ x ∈ l, p x) ∧ p a := by
  rw [forall_mem_append, forall_mem_singleton]

theorem pairwise_concat {r : α → α → Prop}
    : (l ++ [a]).Pairwise r ↔ l.Pairwise r ∧ ∀ x ∈ l, r x a := by
  simp [pairwise_append]

end List
