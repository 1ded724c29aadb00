import SyncGDrive.Reconciliation.Scan

/-! Carrying a plan out, task by task, when everything works: each task brings its slot where
the pass ends, and after the last one every slot is there.
-/

namespace SyncGDrive

open Program

namespace Setting

variable {s : Setting} {w state last : World} {goal : Path → View} {rel : Path} {task : Task}
  {rest : List Task}

-----------------------------------------------------------------------------------------
-- One task
-----------------------------------------------------------------------------------------

/-- Once the slot of a task's path is where its pass ends, the rest of the plan remains. -/
theorem Pending.next (pending : s.Pending goal (task :: rest) state)
    (moves : s.Moves state rel (goal rel) last) (consistent : s.Consistent goal last)
    (cached : s.Cached last)
    (names : task = .syncFile (s.base ++ rel) ∨ task = .delete (s.base ++ rel))
    : s.Pending goal rest last where
  consistent := consistent
  cached := cached
  running := moves.running.trans pending.running
  expected := by
    intro other member
    have before := pending.expected other (List.mem_cons_of_mem _ member)
    cases other with
    | syncFile path =>
        obtain ⟨rel', content, time, rfl, plain, shown, full, due, id, folder⟩ := before
        refine ⟨rel', content, time, rfl, plain, moves.disk ▸ shown, full, ?_, id,
          (moves.folders _ _).mpr folder⟩
        by_cases same : rel' = rel
        · exact .inr (same ▸ moves.here)
        · rw [moves.others rel' plain same]
          exact due
    | delete path =>
        obtain ⟨rel', rfl, plain, leaf, kept, absent⟩ := before
        exact ⟨rel', rfl, plain, leaf, kept, moves.disk ▸ absent⟩
    | rename source target => exact before
  every := by
    intro rel' plain
    by_cases same : rel' = rel
    · exact .inl (same ▸ moves.here)
    · rw [moves.others rel' plain same]
      have others : s.base ++ rel' ≠ s.base ++ rel := fun equal =>
        same (List.append_cancel_left equal)
      refine (pending.every rel' plain).imp_right (Or.imp ?_ ?_) <;>
      · intro member
        refine (List.mem_cons.mp member).resolve_left ?_
        rcases names with rfl | rfl <;> simp [others]

/-- Handling the first task of a plan succeeds and leaves the rest of the plan. -/
theorem always_handle (pending : s.Pending goal (task :: rest) state)
    : Always (Environment.calm s.md5 s.folder).sem (s.Consistent goal)
        (handle ⟨s.cfg, false⟩ s.ignore task) state
        (fun result last => result = .ok () ∧ s.Pending goal rest last) := by
  have consistent := pending.consistent
  have stored := consistent.stored
  cases task with
  | syncFile path =>
      obtain ⟨rel, content, time, rfl, plain, shown, full, due, folder⟩ :=
        pending.expected _ List.mem_cons_self
      obtain ⟨modified, seen⟩ := consistent.fits.seen plain shown
      have file : (s.slot state rel).file = some (content, time) := shown
      have coherent := consistent.coherent rel plain
      have headed := consistent.headed rel plain
      -- Sending ends where the pass ends, also for what is there already.
      have again
          : ((s.slot state rel).pass s.md5 vacant).sync s.md5 vacant
            = (s.slot state rel).pass s.md5 vacant :=
        coherent.sync_pass file full
      have ends : (s.slot state rel).sync s.md5 vacant = goal rel := by
        rcases due with sent | settled
        · exact (Mirror.Slot.sync_eq_pass file full sent).trans headed
        · rw [headed, ← settled] at again
          exact again.trans settled
      have halfway
          : ((s.slot state rel).halfway s.md5 vacant).pass s.md5 vacant = goal rel := by
        rcases due with sent | settled
        · exact (coherent.pass_halfway sent).trans headed
        · rw [Mirror.Slot.halfway_eq (ends.trans settled.symm), headed]
      have final : (goal rel).pass s.md5 vacant = goal rel := by
        rw [← headed, coherent.pass_pass]
      have handles
          : Always (Environment.calm s.md5 s.folder).sem (s.Consistent goal)
              (syncFile ⟨s.cfg, false⟩ s.ignore (s.base ++ rel)) state _ :=
        always_syncFile consistent.fits stored pending.cached plain pending.running shown
          (fun _ => folder)
          (fun _ moves => moves.consistent consistent plain seen.leaf seen.kept coherent headed)
          (fun _ moves => moves.consistent consistent plain seen.leaf seen.kept coherent.halfway
            halfway)
          (fun _ moves => by
            rw [ends] at moves
            exact moves.consistent consistent plain seen.leaf seen.kept (headed ▸ coherent.pass)
              final)
      refine handles.mono ?_
      rintro result last here ⟨rfl, cached, moves⟩
      rw [ends] at moves
      exact ⟨rfl, pending.next moves here cached (.inl rfl)⟩
  | delete path =>
      obtain ⟨rel, rfl, plain, leaf, kept, absent⟩ := pending.expected _ List.mem_cons_self
      have gone : (s.slot state rel).file = none := absent
      have headed := consistent.headed rel plain
      have ends : (s.slot state rel).remove = goal rel := by
        rw [← headed, Mirror.Slot.pass_of_none gone]
      have handles
          : Always (Environment.calm s.md5 s.folder).sem (s.Consistent goal)
              (delete ⟨s.cfg, false⟩ s.ignore (s.base ++ rel)) state _ :=
        always_delete consistent.fits stored pending.cached plain leaf kept pending.running rfl
          (fun _ moves => moves.consistent consistent plain leaf kept
            (consistent.coherent rel plain) headed)
          (fun _ moves => moves.consistent consistent plain leaf kept
            (Mirror.Slot.coherent_of_none gone) (Eq.trans (Mirror.Slot.pass_of_none gone) ends))
          (fun _ moves => moves.consistent consistent plain leaf kept
            (Mirror.Slot.coherent_of_none gone) (Eq.trans (Mirror.Slot.pass_of_none gone) ends))
      refine handles.mono ?_
      rintro result last here ⟨rfl, cached, moves⟩
      rw [ends] at moves
      exact ⟨rfl, pending.next moves here cached (.inr rfl)⟩
  | rename source target => exact (pending.expected _ List.mem_cons_self).elim

-----------------------------------------------------------------------------------------
-- All tasks
-----------------------------------------------------------------------------------------

/-- Handling the tasks of a plan in order succeeds for each of them and ends with every slot
where its pass ends, by induction on the tasks.
-/
theorem always_handleInOrder {tasks : List Task} (pending : s.Pending goal tasks state)
    : Always (Environment.calm s.md5 s.folder).sem (s.Consistent goal)
        (handleInOrder ⟨s.cfg, false⟩ s.ignore tasks) state
        (fun result last =>
          (∃ results, result = .ok results ∧ ∀ entry ∈ results, entry = .ok ())
          ∧ s.Pending goal [] last) := by
  induction tasks generalizing state with
  | nil => exact ⟨pending.consistent, ⟨[], rfl, by simp⟩, pending⟩
  | cons task rest ih =>
      have first
          : Always (Environment.calm s.md5 s.folder).sem (s.Consistent goal)
              (outcome (handle ⟨s.cfg, false⟩ s.ignore task)) state
              (fun result last => result = .ok (.ok ()) ∧ s.Pending goal rest last) := by
        refine always_outcome.mpr ((always_handle pending).mono ?_)
        rintro result last - ⟨rfl, pending⟩
        exact ⟨rfl, pending⟩
      refine first.bind ?_ ?_
      · rintro value middle - ⟨same, pending⟩
        obtain rfl := Except.ok.inj same
        refine (ih pending).bind ?_ ?_
        · rintro results last here ⟨⟨_, same, fine⟩, pending⟩
          obtain rfl := Except.ok.inj same
          exact ⟨here, ⟨_, rfl, by simpa using fine⟩, pending⟩
        · rintro error last - ⟨⟨_, same, -⟩, -⟩
          cases same
      · rintro error middle - ⟨same, -⟩
        cases same

/-- When no task is left every slot is where its pass ends. -/
theorem Pending.done (pending : s.Pending goal [] state) (plain : Plain rel)
    : s.slot state rel = goal rel :=
  (pending.every rel plain).resolve_right (by simp)

end Setting

end SyncGDrive
