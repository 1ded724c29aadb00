import SyncGDrive.Loop.Debts

/-! Events that are dropped because the channel of the watcher is full. No step of the engine
takes the flag that records it, so that only a scan with another reason can help.
-/

namespace SyncGDrive

open Program

-----------------------------------------------------------------------------------------
-- What makes up for a dropped event
-----------------------------------------------------------------------------------------

/-- A full scan runs, or is pending until the engine resumes. -/
def Control.Pends (c : Control) : Prop :=
  (∃ site, c.phase = .scanning site) ∨ c.paused = true ∧ c.rescanOnResume = true

/-- Has an event been dropped after a step, and no scan completed since? -/
def lostAfter (lost drops : Bool) : Label → Bool
  | .observed .. => lost || drops
  | .scanned (.ok ()) => false
  | _ => lost

/-- An event is dropped only while a scan is pending, and that scan is not lost by failing or
by a resume offline.
-/
def Control.KeepsPending (c : Control) (lost drops : Bool) : Label → Prop
  | .observed .. => drops = true → c.Pends
  | .scanned (.error _) => lost = false
  | .command .resume => lost = true → c.phase = .selecting → c.paused = true → c.offline = false
  | _ => True

/-- A running engine makes up for what has been lost. -/
def Control.Recovers (c : Control) (lost : Bool) : Prop :=
  c.phase ≠ .ended → lost = true → c.Pends

/-- Every step of the discipline keeps a scan pending for what has been lost: one case for
each step.
-/
theorem Control.Recovers.step {c c' : Control} {label : Label} {lost drops : Bool}
    (recovers : c.Recovers lost) (step : c.Step label c')
    (fine : c.KeepsPending lost drops label)
    : c'.Recovers (lostAfter lost drops label) := by
  cases step with
  | ends ended => exact fun running => absurd ended running
  | stays other =>
      intro running lostNow
      cases label with
      | observed index event =>
          rcases (Bool.or_eq_true _ _).mp lostNow with before | now
          · exact recovers running before
          · exact fine now
      | scanned result => exact absurd rfl (other.2.1 result)
      | _ => exact recovers running lostNow
  | @scanned site result phase initial =>
      intro running lostNow
      cases result with
      | ok value => cases lostNow
      | error error => exact absurd (lostNow.symm.trans fine) (by simp)
  | failed phase => exact fun running lostNow => absurd (lostNow.symm.trans fine) (by simp)
  | interrupted phase interrupts => exact fun _ _ => .inr ⟨rfl, rfl⟩
  | resumes phase paused not =>
      intro running lostNow
      have online := fine lostNow phase paused
      rcases recovers (by simp [phase]) lostNow with ⟨site, scanning⟩ | ⟨-, owed⟩
      · rw [phase] at scanning
        cases scanning
      · simp [owed, online] at not
  | rescans phase paused owed online | forced phase resumed online
  | reloaded phase resumed online | periodic phase resumed online =>
      exact fun _ _ => .inl ⟨_, rfl⟩
  | reconfigured phase paused => exact fun _ _ => .inr ⟨paused, rfl⟩
  | discarded phase discards => exact recovers
  | ignored phase harmless => exact recovers
  | watching phase | pauses phase asked | healthTick phase resumed | healthy phase online reconnects
  | back phase offline reconnects | lost phase | reconnected phase | flushed phase
  | received phase resumed | spawned phase =>
      intro running lostNow
      rcases recovers (by simp [phase]) lostNow with ⟨site, scanning⟩ | ⟨paused, owed⟩
      · rw [phase] at scanning
        cases scanning
      · exact .inr ⟨by simp [paused], owed⟩

namespace SyncEngine

-----------------------------------------------------------------------------------------
-- The flag
-----------------------------------------------------------------------------------------

variable {host : Host} {e e' : SyncEngine} {label : Label}

/-- Some step takes the flag of a watcher, which `take_overflow` resets. -/
def TakesOverflow (host : Host) (e : SyncEngine) : Prop :=
  ∃ label e', ∃ index : Nat, ∃ dispatcher dispatcher' : Dispatcher,
    Step host e label e'
    ∧ e.dispatchers[index]? = some dispatcher ∧ dispatcher.overflow = true
    ∧ e'.dispatchers[index]? = some dispatcher'
    ∧ dispatcher'.overflow = dispatcher.takeOverflow.2.overflow

/-- Flags that are set stay set. -/
def KeepsFlags (e e' : SyncEngine) : Prop :=
  ∀ (index : Nat) (dispatcher dispatcher' : Dispatcher),
    e.dispatchers[index]? = some dispatcher → e'.dispatchers[index]? = some dispatcher'
    → dispatcher.overflow = true → dispatcher'.overflow = true

theorem keepsFlags_of_same (same : e'.dispatchers = e.dispatchers) : e.KeepsFlags e' := by
  intro index dispatcher dispatcher' before after flagged
  rw [same, before] at after
  cases after
  exact flagged

/-- A step of one dispatcher does not lower its flag. -/
theorem keepsFlags_of_set {index : Nat} {dispatcher dispatcher' : Dispatcher}
    (found : e.dispatchers[index]? = some dispatcher)
    (changed : e'.dispatchers = e.dispatchers.set index dispatcher')
    (kept : dispatcher.overflow = true → dispatcher'.overflow = true)
    : e.KeepsFlags e' := by
  intro other before after foundBefore foundAfter flagged
  rw [changed, List.getElem?_set] at foundAfter
  split at foundAfter
  · rename_i same
    subst same
    rw [found] at foundBefore
    split at foundAfter
    · cases foundBefore
      cases foundAfter
      exact kept flagged
    · cases foundAfter
  · rw [foundBefore] at foundAfter
    cases foundAfter
    exact flagged

theorem MainStep.keepsFlags (step : MainStep host e label e') : e.KeepsFlags e' := by
  obtain ⟨stopped, added, respawns⟩ := step.respawns
  intro index dispatcher dispatcher' before after flagged
  obtain ⟨bound, -⟩ := List.getElem?_eq_some_iff.mp before
  rw [respawns.dispatchers] at after
  cases stopped with
  | false =>
      simp only [Bool.false_eq_true, if_false] at after
      rw [List.getElem?_append_left bound, before] at after
      cases after
      exact flagged
  | true =>
      simp only [if_true, stopWatcher] at after
      rw [List.getElem?_append_left (by simpa using bound), List.getElem?_map, before] at after
      cases after
      exact flagged

theorem Step.keepsFlags (step : Step host e label e') : e.KeepsFlags e' := by
  cases step with
  | main step => exact step.keepsFlags
  | worker alive step => exact keepsFlags_of_same step.dispatchers
  | dispatcher alive step =>
      cases step with
      | taken found idle running waiting => exact keepsFlags_of_set found rfl id
      | ticked found idle running order => exact keepsFlags_of_set found rfl id
      | worked found busy served => exact keepsFlags_of_set found rfl id
      | left found idle finished => exact keepsFlags_of_set found rfl id
  | outside step =>
      cases step with
      | observed found watched =>
          refine keepsFlags_of_set found rfl ?_
          intro flagged
          unfold Dispatcher.observe
          split
          · rfl
          · exact flagged
      | published running watching =>
          refine keepsFlags_of_same ?_
          simp only [publish]
          split <;> rfl
      | _ => exact keepsFlags_of_same rfl

/-- No step takes the flag. -/
theorem not_takesOverflow (host : Host) (e : SyncEngine) : ¬ e.TakesOverflow host := by
  rintro ⟨label, e', index, dispatcher, dispatcher', step, before, flagged, after, reset⟩
  have kept := step.keepsFlags index dispatcher dispatcher' before after flagged
  rw [reset] at kept
  cases kept

-----------------------------------------------------------------------------------------
-- Runs of the engine
-----------------------------------------------------------------------------------------

/-- The event observed by this dispatcher is dropped. -/
def drops (e : SyncEngine) : Label → Bool
  | .observed index _ => e.dispatchers[index]?.any Dispatcher.full
  | _ => false

/-- The events lost along a run. -/
def losing : Watch SyncEngine Label Bool := fun lost e label _ =>
  lostAfter lost (e.drops label) label

/-- The discipline along a run. -/
def KeepsPending : Discipline SyncEngine Label Bool := fun lost e label _ =>
  e.control.KeepsPending lost (e.drops label) label

/-- A running engine makes up for what has been lost: a scan runs or is pending, or a step
takes the flag.
-/
def RecoversDrops (host : Host) (lost : Bool) (e : SyncEngine) : Prop :=
  e.control.phase ≠ .ended → lost = true → e.control.Pends ∨ e.TakesOverflow host

/-- In every run in which events are dropped only while a scan is pending, and that scan is
not lost by failing or by a resume offline, the engine makes up for what has been dropped.
-/
theorem recovers_drops {host : Host} {w : World} {cfg : AppConfig} {dryRun lost : Bool}
    {e : SyncEngine}
    (run : Runs host losing KeepsPending false (launch host w cfg dryRun) lost e)
    : e.RecoversDrops host lost := by
  have recovers : e.control.Recovers lost := by
    refine run.invariant (fun lost e => e.control.Recovers lost) ?_ ?_
    · rintro - ⟨⟩
    · intro lost e label e' recovers step fine
      exact recovers.step step.control_step fine
  exact fun running lostNow => .inl (recovers running lostNow)

-----------------------------------------------------------------------------------------
-- A burst of events
-----------------------------------------------------------------------------------------

/-- As many events as its channel holds reach a dispatcher that does not move. -/
theorem runs_burst {Note : Type} {watch : Watch SyncEngine Label Note}
    {allowed : Discipline SyncEngine Label Note} {first note : Note} {start : SyncEngine}
    {dispatcher : Dispatcher} (event : WatchEvent)
    (run : Runs host watch allowed first start note e) (one : e.dispatchers = [dispatcher])
    (watched : dispatcher.watched = true) (alive : dispatcher.gone = false)
    (empty : dispatcher.inbox = [])
    (unseen
      : ∀ note e index e',
          e.drops (.observed index event) = false
          → watch note e (.observed index event) e' = note)
    (fine
      : ∀ note e index e',
          e.drops (.observed index event) = false → allowed note e (.observed index event) e')
    (count : Nat) (room : count ≤ watchCapacity)
    : Runs host watch allowed first start note
        { e with dispatchers := [{ dispatcher with inbox := List.replicate count event }] } := by
  induction count with
  | zero =>
      rw [List.replicate_zero, ← empty, ← one]
      exact run
  | succ count ih =>
      have open' : ¬ watchCapacity ≤ count := by omega
      have before := ih (by omega)
      have kept
          : ∀ filled : Dispatcher,
              filled = { dispatcher with inbox := List.replicate count event }
              → filled.full = false := by
        rintro filled rfl
        have still : Dispatcher.gone { dispatcher with inbox := List.replicate count event }
            = false := alive
        simp [Dispatcher.full, still, open']
      have spares
          : ({ e with dispatchers := [{ dispatcher with inbox := List.replicate count event }] }
              : SyncEngine).drops (.observed 0 event) = false := by
        simpa [drops] using kept _ rfl
      have moved :=
        before.step (.outside (@OutsideStep.observed _ 0 _ event rfl watched)) (fine _ _ _ _ spares)
      rw [unseen _ _ _ _ spares] at moved
      have next
          : Dispatcher.observe { dispatcher with inbox := List.replicate count event } event
            = { dispatcher with inbox := List.replicate (count + 1) event } := by
        rw [Dispatcher.observe, kept _ rfl]
        simp [List.replicate_succ']
      rw [next] at moved
      exact moved

/-- One event more than the channel holds is lost. -/
theorem losing_burst {lost : Bool} {dispatcher : Dispatcher} {event : WatchEvent}
    (one
      : e.dispatchers
        = [{ dispatcher with inbox := List.replicate watchCapacity event }])
    : losing lost e (.observed 0 event) e' = true := by
  simp [losing, lostAfter, drops, one, Dispatcher.full]

/-- While the engine is paused and owes a scan, a burst is made up for by the next resume. -/
theorem paused_recovers
    : ∃ e : SyncEngine, e.mode = .selecting ∧ e.RecoversDrops (.plain (fun _ => False)) true := by
  let host : Host := .plain (fun _ => False)
  let start := launch host { disk := emptyDisk } backupConfig false
  have begun : Runs host losing KeepsPending false start false start := .start
  have paused :=
    begun.step (.main (@MainStep.interrupted _ _ _ _ .pause rfl (by simp) (fun _ => rfl))) trivial
  have watching :=
    paused.step (.main (@MainStep.watching _ _ (.ok ()) rfl (fun _ _ => rfl))) trivial
  have burst :=
    runs_burst (.modified [.utf8 "backup", .utf8 "notes.txt"]) watching rfl rfl rfl rfl
      (fun lost e index e' spares => by simp [losing, lostAfter, spares])
      (fun lost e index e' spares drops => absurd (spares.symm.trans drops) (by simp))
      watchCapacity le_rfl
  have dropped :=
    burst.step
      (.outside (@OutsideStep.observed _ 0 _
        (.modified [.utf8 "backup", .utf8 "notes.txt"]) rfl rfl))
      (fun _ => .inr ⟨rfl, rfl⟩)
  rw [losing_burst rfl] at dropped
  exact ⟨_, rfl, recovers_drops dropped⟩

/-- A burst during the normal run of the engine is never made up for. -/
theorem burst_lost
    : ¬ ∀ host w cfg dryRun lost e,
        Runs host losing anyStep false (launch host w cfg dryRun) lost e
        → e.RecoversDrops host lost := by
  intro recovers
  have watching :=
    @runs_started _ (fun _ => False) losing anyStep false { disk := emptyDisk } rfl rfl id
      (fun _ _ _ _ _ => rfl) (by rintro e label e' (rfl | rfl) <;> rfl)
      (fun _ _ _ _ _ => trivial) (fun _ _ _ _ => trivial)
  have burst :=
    runs_burst (.modified [.utf8 "backup", .utf8 "notes.txt"]) watching rfl rfl rfl rfl
      (fun lost e index e' spares => by simp [losing, lostAfter, spares])
      (fun _ _ _ _ _ => trivial) watchCapacity le_rfl
  have dropped :=
    burst.step
      (.outside (@OutsideStep.observed _ 0 _
        (.modified [.utf8 "backup", .utf8 "notes.txt"]) rfl rfl))
      trivial
  rw [losing_burst rfl] at dropped
  rcases recovers _ _ _ _ _ _ dropped (by rintro ⟨⟩) rfl with
    (⟨site, scanning⟩ | ⟨paused, -⟩) | takes
  · cases scanning
  · cases paused
  · exact not_takesOverflow _ _ takes

end SyncEngine

end SyncGDrive
