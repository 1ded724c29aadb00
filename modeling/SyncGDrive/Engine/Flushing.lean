import SyncGDrive.Engine.Offline

/-! The points that a flush of the offline queue passes through. -/

namespace SyncGDrive

open Program

/-- What a flush does once a row has been accepted: it removes the row and goes on. -/
def flushRemoving (root : Path) (row : OfflineTask) (rows : List OfflineTask) : Eff Unit :=
  .call (Op.removeOfflineTask row.id)
    (fun answer => propagate answer >>= fun _ => flushRows root rows)

/-- A flush is over, or it sends the task of a row; the rows before that one stand for none.
By induction on the rows.
-/
theorem flushRows_cases (root : Path) (rows : List OfflineTask)
    : flushRows root rows = pure ()
      ∨ ∃ skipped row rest task,
          rows = skipped ++ row :: rest ∧ (∀ other ∈ skipped, other.task? root = none)
          ∧ row.task? root = some task
          ∧ flushRows root rows
            = .call (Op.send task)
                (fun accepted => if accepted then flushRemoving root row rest else pure ()) := by
  induction rows with
  | nil => exact .inl rfl
  | cons row rows ih =>
      simp only [flushRows]
      split
      · rename_i none
        rcases ih with finished | ⟨skipped, sent, rest, task, split, idle, stands, same⟩
        · exact .inl finished
        · refine .inr ⟨row :: skipped, sent, rest, task, by rw [split]; rfl, ?_, stands, same⟩
          intro other member
          rcases List.mem_cons.mp member with rfl | later
          · exact none
          · exact idle other later
      · rename_i task stands
        refine .inr ⟨[], row, rows, task, rfl, by simp, stands, ?_⟩
        refine congrArg _ (funext fun accepted => ?_)
        cases accepted <;> rfl

/-- A row stands for a task by its action, below every root. -/
theorem OfflineTask.task?_isSome (row : OfflineTask) (root root' : Path)
    : (row.task? root).isSome = (row.task? root').isSome := by
  unfold OfflineTask.task?
  split
  · rfl
  · split
    · rfl
    · split <;> rfl

/-- The points of a flush: `pending` holds of the root and the rows it has still to send, and
`removing` of the row that it removes.
-/
inductive Flushing (pending : Path → List OfflineTask → Prop) (removing : OfflineTask → Prop)
    : Eff Unit → Prop
  | reads (root : Path) : Flushing pending removing (flushQueue root)
  | sends (root : Path) (rows : List OfflineTask) (fine : pending root rows)
    : Flushing pending removing (flushRows root rows)
  | removes (root : Path) (row : OfflineTask) (rows : List OfflineTask) (fine : pending root rows)
    (sent : removing row)
    : Flushing pending removing (flushRemoving root row rows)
  | finished (result : Except Error Unit) : Flushing pending removing (.done result)

theorem Flushing.mono {pending pending' : Path → List OfflineTask → Prop}
    {removing removing' : OfflineTask → Prop} {rest : Eff Unit}
    (flushing : Flushing pending removing rest)
    (sends : ∀ root rows, pending root rows → pending' root rows)
    (removes : ∀ row, removing row → removing' row)
    : Flushing pending' removing' rest := by
  cases flushing with
  | reads root => exact .reads root
  | sends root rows fine => exact .sends root rows (sends root rows fine)
  | removes root row rows fine sent =>
      exact .removes root row rows (sends root rows fine) (removes row sent)
  | finished result => exact .finished result

end SyncGDrive
