import Mathlib.Data.List.AList

/-! Keeping the entries of a finite map whose key passes a test, as hash maps' `retain`. -/

namespace AList

variable {α : Type*} {β : α → Type*} [DecidableEq α]

/-- The map restricted to the keys that `keep` accepts. -/
def retain (keep : α → Bool) (map : AList β) : AList β where
  entries := map.entries.filter (fun entry => keep entry.1)
  nodupKeys := map.nodupKeys.sublist List.filter_sublist

/-- A kept key has its old value and any other key has none. -/
theorem lookup_retain (keep : α → Bool) (map : AList β) (key : α)
    : (map.retain keep).lookup key = if keep key then map.lookup key else none := by
  apply Option.ext
  intro value
  have kept : value ∈ (map.retain keep).lookup key
      ↔ ⟨key, value⟩ ∈ map.entries ∧ keep key = true :=
    (List.mem_dlookup_iff (map.retain keep).nodupKeys).trans (by simp [retain])
  have stored : value ∈ map.lookup key ↔ ⟨key, value⟩ ∈ map.entries :=
    List.mem_dlookup_iff map.nodupKeys
  by_cases accepted : keep key
  · simpa [accepted, Option.mem_def, stored] using kept.trans (by simp [accepted, ← stored])
  · simpa [accepted, Option.mem_def] using kept

end AList
