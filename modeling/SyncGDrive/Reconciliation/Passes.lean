import SyncGDrive.Reconciliation.Resync

/-! Whole passes, a scan and the handling of its tasks one by one: they can be run, they all
end where the passes over the slots end, and a kill leaves a state that a scan can start from.
-/

namespace SyncGDrive

open Program

-----------------------------------------------------------------------------------------
-- Whole passes, and passes that are killed
-----------------------------------------------------------------------------------------

section Passes

variable (env : Environment) (ctx : EngineContext) (ignore : IgnoreMatcher) (w : World)

/-- A scan that ends well, and the handling of its tasks one by one in their order. -/
def WholePass (results : List (Except Error Unit)) (last : World) : Prop :=
  ∃ planned,
    Reaches env.sem (scan ctx ignore) w (.done (.ok ())) planned
    ∧ Reaches env.sem (handleInOrder ctx ignore planned.tasks) { planned with tasks := [] }
        (.done (.ok results)) last

/-- A whole pass can be run, and no execution ends otherwise than `post` says. -/
structure PassEnds (post : List (Except Error Unit) → World → Prop) : Prop where
  runs : ∃ results last, WholePass env ctx ignore w results last
  scanned
    : ∀ scanned planned,
        Reaches env.sem (scan ctx ignore) w (.done scanned) planned → scanned = .ok ()
  handled
    : ∀ planned handled last,
        Reaches env.sem (scan ctx ignore) w (.done (.ok ())) planned
        → Reaches env.sem (handleInOrder ctx ignore planned.tasks) { planned with tasks := [] }
            (.done handled) last
        → ∃ results, handled = .ok results ∧ post results last

/-- The states in which a whole pass may be killed: between any two operations of the scan,
or of the handling of its tasks.
-/
inductive KilledAt : World → Prop
  | scanning {rest : Eff Unit} {killed : World}
    (path : Reaches env.sem (scan ctx ignore) w rest killed)
    : KilledAt killed
  | handling {planned killed : World} {rest : Eff (List (Except Error Unit))}
    (scans : Reaches env.sem (scan ctx ignore) w (.done (.ok ())) planned)
    (path
      : Reaches env.sem (handleInOrder ctx ignore planned.tasks) { planned with tasks := [] }
          rest killed)
    : KilledAt killed

end Passes

/-- What a restart finds: the disk, the database and the remote. -/
def World.restarted (w : World) : World := { disk := w.disk, db := w.db, remote := w.remote }

-----------------------------------------------------------------------------------------
-- Where whole passes end
-----------------------------------------------------------------------------------------

section Ends

variable {s : Setting} {goal : Path → Setting.View} {w : World}

/-- From a consistent state every pass ends where the passes over the slots end. -/
theorem Setting.Consistent.passEnds (consistent : s.Consistent goal w) (knows : s.Knows w)
    (running : w.shutdown = false) (idle : w.tasks = [])
    : PassEnds (Environment.calm s.md5 s.folder) ⟨s.cfg, false⟩ s.ignore w
        (fun results last =>
          (∀ result ∈ results, result = .ok ()) ∧ s.Pending goal [] last) where
  runs := by
    obtain ⟨planned, results, last, scans, handles⟩ :=
      Setting.resync_runs consistent knows running idle
    exact ⟨results, last, planned, scans, handles⟩
  scanned _ _ scans := (Setting.resync_pending consistent knows running idle scans).1
  handled planned handled last scans handles := by
    obtain ⟨-, ends⟩ := Setting.resync_pending consistent knows running idle scans
    obtain ⟨⟨results, same, fine⟩, pending⟩ := ends handled last handles
    exact ⟨results, same, fine, pending⟩

/-- The ends of whole passes may be described more weakly. -/
theorem PassEnds.mono {env : Environment} {ctx : EngineContext} {ignore : IgnoreMatcher}
    {post post' : List (Except Error Unit) → World → Prop} (ends : PassEnds env ctx ignore w post)
    (weaker : ∀ results last, post results last → post' results last)
    : PassEnds env ctx ignore w post' where
  runs := ends.runs
  scanned := ends.scanned
  handled planned handled last scans handles := by
    obtain ⟨results, same, holds⟩ := ends.handled planned handled last scans handles
    exact ⟨results, same, weaker results last holds⟩

/-- Wherever a pass is killed, a scan can start over. -/
theorem Setting.Consistent.killed {killed : World} (consistent : s.Consistent goal w)
    (knows : s.Knows w) (running : w.shutdown = false) (idle : w.tasks = [])
    (killedAt
      : KilledAt (Environment.calm s.md5 s.folder) ⟨s.cfg, false⟩ s.ignore w killed)
    : s.Consistent goal killed.restarted := by
  have reached : s.Consistent goal killed := by
    cases killedAt with
    | scanning path =>
        exact ((Setting.always_scan consistent knows running idle).reaches path).here
    | @handling planned _ _ scans path =>
        obtain ⟨-, -, pending⟩ :=
          (Setting.always_scan consistent knows running idle).reaches scans
        exact ((Setting.always_handleInOrder pending.taken).reaches path).here
  exact reached.same rfl rfl rfl

end Ends

end SyncGDrive
