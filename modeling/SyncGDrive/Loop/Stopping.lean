import SyncGDrive.Loop.Display

/-! How the engine stops. A requested shutdown stays requested; from then on nothing begins, but for
the first watcher behind an interrupted initial scan. The main task winds down phase by phase, and
says once that it has stopped.
-/

namespace SyncGDrive

open Program

-----------------------------------------------------------------------------------------
-- Winding down
-----------------------------------------------------------------------------------------

/-- The steps that begin something: a task, an event, a tick. -/
def Label.begins : Label → Bool
  | .received _ | .begun _ | .panicked _ | .taken .. | .ticked _ | .healthTick | .rescanTick
  | .published => true
  | _ => false

/-- How many phases are left at most before the engine has ended, once nothing begins. -/
def Phase.distance : Phase → Nat
  | .ended => 0
  | .selecting => 1
  | .starting | .flushing | .acquiring => 2
  | .scanning _ | .reconnecting => 3
  | .checking => 4

theorem Phase.distance_le (phase : Phase) : phase.distance ≤ 4 := by
  cases phase <;> simp [distance]

theorem ScanSite.next_distance (site : ScanSite) : site.next.distance < 3 := by
  cases site <;> simp [next, Phase.distance]

/-- A control that begins nothing and takes commands only during a scan comes closer to the
end with each of its phases.
-/
theorem Control.Step.nears {c c' : Control} {label : Label} (step : c.Step label c')
    (late : label.begins = false) (deaf : ∀ cmd, label = .command cmd → c.phase ≠ .selecting)
    : c'.phase = c.phase ∨ c'.phase.distance < c.phase.distance := by
  cases step with
  | ends ended =>
      rw [ended]
      by_cases already : c.phase = .ended
      · exact .inl already.symm
      · refine .inr ?_
        cases phase : c.phase <;> first | exact absurd phase already | simp [Phase.distance]
  | stays | discarded => exact .inl rfl
  | @scanned site result phase fine =>
      refine .inr ?_
      rw [phase]
      exact site.next_distance
  | failed phase =>
      rw [phase]
      exact .inr (by simp [Phase.distance])
  | @interrupted site cmd phase interrupts =>
      refine .inr ?_
      rw [phase]
      exact site.next_distance
  | watching phase | healthy phase | back phase | lost phase | reconnected phase | flushed phase
  | spawned phase =>
      rw [phase]
      exact .inr (by simp [Phase.distance])
  | rescans phase | resumes phase | reconfigured phase | pauses phase | forced phase
  | reloaded phase | ignored phase => exact absurd phase (deaf _ rfl)
  | healthTick | periodic | received => cases late

def Phase.isScan : Phase → Bool
  | .scanning _ => true
  | _ => false

/-- The watchers that are started on the way to the loop. -/
def Phase.toStart : Phase → Nat
  | .scanning .initial | .starting => 1
  | _ => 0

/-- Such a control enters no scan, and comes no further from its loop. -/
theorem Control.Step.settles {c c' : Control} {label : Label} (step : c.Step label c')
    (late : label.begins = false) (deaf : ∀ cmd, label = .command cmd → c.phase ≠ .selecting)
    : (c'.phase.isScan = true → c.phase.isScan = true) ∧ c'.phase.toStart ≤ c.phase.toStart := by
  cases step with
  | ends ended =>
      rw [ended]
      exact ⟨by simp [Phase.isScan], Nat.zero_le _⟩
  | stays | discarded => exact ⟨id, le_rfl⟩
  | @scanned site result phase fine =>
      rw [phase]
      cases site <;> simp [ScanSite.next, Phase.isScan, Phase.toStart]
  | failed phase =>
      rw [phase]
      simp [Phase.isScan, Phase.toStart]
  | @interrupted site cmd phase interrupts =>
      rw [phase]
      cases site <;> simp [ScanSite.next, Phase.isScan, Phase.toStart]
  | watching phase | healthy phase | back phase | lost phase | reconnected phase | flushed phase
  | spawned phase => exact ⟨by simp [Phase.isScan], Nat.zero_le _⟩
  | rescans phase | resumes phase | reconfigured phase | pauses phase | forced phase
  | reloaded phase | ignored phase => exact absurd phase (deaf _ rfl)
  | healthTick | periodic | received => cases late

namespace SyncEngine

variable {host : Host} {e e' : SyncEngine} {label : Label}

/-- A watcher is started before the loop only, which is then entered, or the engine ends. -/
theorem Step.watching {answer : Except Error Unit} (step : Step host e (.watching answer) e')
    : e.control.phase = .starting ∧ e'.control.phase.toStart = 0 := by
  cases step with
  | main step =>
      cases step with
      | watching mode started =>
          refine ⟨phase_of_mode mode, ?_⟩
          unfold startWatching
          split
          · rfl
          · split <;> rfl
  | worker alive step => cases step
  | dispatcher alive step => cases step
  | outside step => cases step

-----------------------------------------------------------------------------------------
-- The request
-----------------------------------------------------------------------------------------

/-- No operation takes the request back. -/
theorem sem_shutdown {env : Environment} {op : Op} {w after : World} {answer : op.Answer}
    (served : env.sem op w answer after) (requested : w.shutdown = true)
    : after.shutdown = true := by
  cases op with
  | isCancelled | sleep milliseconds =>
      obtain ⟨rfl | ⟨-, rfl⟩, -⟩ := served
      · exact requested
      · rfl
  | report report =>
      have stepped : after = w.report report := served
      subst stepped
      cases report <;> exact requested
  | provider call =>
      obtain ⟨remote, -, rfl⟩ := served
      exact requested
  | renameRow source target =>
      simp only [Environment.sem] at served
      split at served <;> rcases served with ⟨-, rfl⟩ | ⟨-, -, rfl⟩ <;> exact requested
  | allPaths =>
      obtain ⟨paths, -, ⟨-, rfl⟩ | ⟨-, -, rfl⟩⟩ := served <;> exact requested
  | get _ | upsert _ | deleteRow _ | getOfflineTasks | removeOfflineTask _
  | pushOfflineTask _ _ _ | send _ =>
      rcases served with ⟨-, rfl⟩ | ⟨-, -, rfl⟩ <;> exact requested
  | walkDir _ _ | lookup _ | isOffline =>
      obtain ⟨-, rfl⟩ := served
      exact requested
  | metadata _ | md5 _ =>
      obtain ⟨rfl, -⟩ := served
      exact requested
  | insert _ _ _ | removeCascades _ =>
      have stepped : after = _ := served
      subst stepped
      exact requested

theorem shutdown_afterScan (e : SyncEngine) (site : ScanSite)
    : (e.afterScan site).world.shutdown = e.world.shutdown := by
  cases site with
  | initial =>
      simp only [afterScan]
      split <;> rfl
  | _ => rfl

theorem shutdown_leave (e : SyncEngine) (site : ScanSite)
    : (e.leave site).world.shutdown = e.world.shutdown := by
  cases site <;> rfl

theorem shutdown_retire (e : SyncEngine) (index : Nat)
    : (e.retire index).world.shutdown = e.world.shutdown := by
  simp only [retire]
  split <;> rfl

/-- What the main task still does once a shutdown is requested. -/
inductive Late (host : Host) : SyncEngine → Label → SyncEngine → Prop
  | worked {e : SyncEngine} {op : Op} {answer : op.Answer} {after : World} {mode : Mode}
    (served : e.Serves host op answer after)
    : Late host e (.main op) { e with world := after, mode }
  | turned {e e' : SyncEngine} {label : Label} (quiet : label.quiet = true)
    (still : e'.world.shutdown = true) (begins : label.begins = false)
    (deaf : ∀ cmd, label = .command cmd → e.control.phase ≠ .selecting)
    : Late host e label e'
  | spawned {e : SyncEngine} {task : Task} : Late host e (.spawned task) (e.spawn task)

/-- Of the arms of the loop only the one that stops is left. -/
theorem MainStep.late (requested : e.world.shutdown = true) (step : MainStep host e label e')
    : Late host e label e' := by
  cases step with
  | scan mode served => exact .worked served
  | flush mode served => exact .worked served
  | spawned mode permit => exact .spawned
  | @scanned site result mode =>
      refine .turned rfl ?_ rfl (by simp)
      cases result with
      | ok value =>
          simp only [SyncEngine.scanned]
          split <;> exact (shutdown_afterScan _ _).trans requested
      | error error =>
          simp only [SyncEngine.scanned]
          split
          · split
            · exact requested
            · exact (shutdown_afterScan _ _).trans requested
          · split
            · exact (shutdown_leave _ _).trans rfl
            · exact (shutdown_afterScan _ _).trans requested
  | @interrupted site rest cmd mode listens biased =>
      refine .turned rfl ?_ rfl (fun _ _ => by simp [phase_of_mode mode, Mode.phase])
      cases cmd with
      | pause | openSettings => exact (shutdown_afterScan _ _).trans requested
      | openHelp =>
          simp only [commandScanning]
          split
          · exact (shutdown_afterScan _ _).trans requested
          · exact requested
      | shutdown => exact (shutdown_leave _ _).trans rfl
      | forceScan | applyConfig _ | resume => exact requested
  | left mode => exact .turned rfl ((shutdown_leave _ _).trans requested) rfl (by simp)
  | stopped mode => exact .turned rfl requested rfl (by simp)
  | watching mode started =>
      refine .turned rfl ?_ rfl (by simp)
      unfold startWatching
      split
      · exact requested
      · split <;> exact requested
  | health mode =>
      refine .turned rfl ?_ rfl (by simp)
      unfold checked
      split <;> split <;> exact requested
  | flushed mode | reconnected mode => exact .turned rfl requested rfl (by simp)
  | paused mode paused running | command mode resumed running | healthTick mode resumed running
  | rescanTick mode resumed running | received mode resumed running =>
      exact absurd (requested.symm.trans running) (by simp)

/-- Once a shutdown is requested it stays requested, nothing begins, commands are taken only during
a scan, and the main task comes closer to its end with each of its phases.
-/
theorem Step.late (requested : e.world.shutdown = true) (step : Step host e label e')
    : e'.world.shutdown = true ∧ label.begins = false
      ∧ (∀ cmd, label = .command cmd → e.control.phase ≠ .selecting)
      ∧ (e'.control.phase = e.control.phase
        ∨ e'.control.phase.distance < e.control.phase.distance) := by
  have stays (still : e'.world.shutdown = true) (late : label.begins = false)
      (deaf : ∀ cmd, label = .command cmd → e.control.phase ≠ .selecting) :=
    And.intro still (And.intro late (And.intro deaf (step.control_step.nears late deaf)))
  cases step with
  | main step =>
      cases step.late requested with
      | worked served => exact stays (sem_shutdown served.1 requested) rfl (by simp)
      | turned quiet still begins deaf => exact stays still begins deaf
      | spawned =>
          refine stays ?_ rfl (by simp)
          unfold spawn
          split <;> exact requested
  | worker alive step =>
      cases step with
      | spared => exact stays ((shutdown_retire _ _).trans requested) rfl (by simp)
      | worked found handling served =>
          exact stays (sem_shutdown served.1 requested) rfl (by simp)
      | @handled index worker result found handling =>
          refine stays ?_ rfl (by simp)
          cases result with
          | ok value => exact (shutdown_retire _ _).trans requested
          | error error =>
              simp only [handled]
              split <;> exact (shutdown_retire _ _).trans requested
      | begun found spawned running | panicked found spawned running =>
          exact absurd (requested.symm.trans running) (by simp)
  | dispatcher alive step =>
      cases step with
      | worked found busy served =>
          exact stays (sem_shutdown served.1 requested) rfl (by simp)
      | left => exact stays requested rfl (by simp)
      | taken found idle running | ticked found idle running =>
          exact absurd (requested.symm.trans running) (by simp)
  | outside step =>
      cases step with
      | edited | later | observed => exact stays requested rfl (by simp)
      | cancelled => exact stays rfl rfl (by simp)
      | published running => exact absurd (requested.symm.trans running) (by simp)

-----------------------------------------------------------------------------------------
-- The end
-----------------------------------------------------------------------------------------

/-- How often the engine has said that it has stopped. -/
def stops (e : SyncEngine) : Nat := e.world.statuses.count .stopped

/-- The engine returns in order and says once that it has stopped, or it does neither. -/
def Closes (e e' : SyncEngine) : Prop :=
  e'.stops = e.stops + 1 ∧ e'.mode = .ended (.returned (.ok ()))
  ∨ e'.stops = e.stops ∧ e'.mode ≠ .ended (.returned (.ok ()))

theorem stops_of_statuses (same : e'.world.statuses = e.world.statuses) : e'.stops = e.stops := by
  rw [stops, same, stops]

theorem stops_tell {status : EngineStatus} (other : status ≠ .stopped)
    : (e.tell status).stops = e.stops := by
  simp [stops, tell, World.report, other]

theorem closes_finish (same : e'.stops = e.stops) : Closes e e'.finish := by
  refine .inl ⟨?_, rfl⟩
  rw [← same]
  simp [stops, finish, tell, World.report]

theorem closes_fail (error : Error) (same : e'.stops = e.stops) : Closes e (e'.fail error) :=
  .inr ⟨same, by simp [fail]⟩

/-- A step that sends no status and does not return. -/
theorem closes_silent (same : e'.world.statuses = e.world.statuses)
    (receiving : e'.mode ≠ .ended (.returned (.ok ())))
    : Closes e e' :=
  .inr ⟨stops_of_statuses same, receiving⟩

theorem closes_afterScan (site : ScanSite) (same : e'.stops = e.stops)
    : Closes e (e'.afterScan site) := by
  refine .inr ⟨Eq.trans ?_ same, ?_⟩
  · cases site with
    | initial =>
        simp only [afterScan]
        split
        · exact stops_tell (by simp)
        · rfl
    | resumed | reloaded => exact stops_tell (by simp)
    | forced | periodic => rfl
  · cases site with
    | _ => simp [afterScan]

theorem closes_leave (site : ScanSite) (same : e'.stops = e.stops)
    : Closes e (e'.leave site) := by
  have after : (e'.afterScan site).stops = e.stops := by
    rcases closes_afterScan site same with ⟨-, ended⟩ | ⟨stops, -⟩
    · cases site <;> simp [afterScan] at ended
    · exact stops
  cases site with
  | initial => exact closes_finish same
  | _ => exact closes_finish after

theorem closes_rescan (site : ScanSite) (same : e'.stops = e.stops)
    : Closes e (e'.rescan host site) := by
  have announced : e'.announce.stops = e.stops := by
    refine Eq.trans ?_ same
    exact stops_tell (by simp)
  unfold rescan
  split
  · exact .inr ⟨announced, by simp [await]⟩
  · exact closes_fail _ announced

theorem closes_scanned (site : ScanSite) (result : Except Error Unit)
    : Closes e (e.scanned site result) := by
  cases result with
  | ok value =>
      simp only [scanned]
      split
      · exact closes_afterScan site (stops_tell (by simp))
      · exact closes_afterScan site rfl
  | error error =>
      simp only [scanned]
      split
      · split
        · exact closes_finish rfl
        · exact closes_afterScan _ (stops_tell (by simp))
      · split
        · exact closes_leave site rfl
        · exact closes_afterScan site (stops_tell (by simp))

theorem closes_commandScanning {site : ScanSite} {rest : Eff Unit} (cmd : EngineCommand)
    (mode : e.mode = .scanning site rest)
    : Closes e (e.commandScanning site cmd) := by
  have stays : Closes e e := closes_silent rfl (by simp [mode])
  cases cmd with
  | pause | openSettings => exact closes_afterScan site (stops_tell (by simp))
  | openHelp =>
      simp only [commandScanning]
      split
      · exact closes_afterScan site (stops_tell (by simp))
      · exact stays
  | shutdown => exact closes_leave site rfl
  | forceScan | applyConfig _ | resume => exact stays

theorem closes_commandPaused {answers : ReloadAnswers} (cmd : EngineCommand)
    (mode : e.mode = .selecting)
    : Closes e (e.commandPaused host answers cmd) := by
  have told {status : EngineStatus} (other : status ≠ .stopped) : Closes e (e.tell status) :=
    .inr ⟨stops_tell other, by simp [tell, mode]⟩
  cases cmd with
  | resume =>
      simp only [commandPaused]
      split
      · exact closes_rescan _ rfl
      · exact .inr ⟨stops_tell (by simp), by simp [tell, mode]⟩
  | shutdown => exact closes_finish rfl
  | applyConfig cfg =>
      have statuses := statuses_reload e answers "Aucun dossier n'est configuré!" cfg
      have control := control_reload e answers "Aucun dossier n'est configuré!" cfg
      simp only [commandPaused]
      split
      · rename_i reloads
        rw [reloads] at statuses
        exact closes_fail _ (stops_of_statuses statuses)
      · rename_i reached _ reloads
        rw [reloads] at statuses control
        refine closes_silent statuses ?_
        have phase : reached.mode.phase = e.mode.phase := congrArg Control.phase control
        intro ended
        rw [show reached.mode = _ from ended, mode] at phase
        cases phase
  | openSettings | openHelp => exact told (by simp)
  | pause | forceScan => exact closes_silent rfl (by simp [commandPaused, mode])

theorem closes_commandRunning {answers : ReloadAnswers} (cmd : EngineCommand)
    (mode : e.mode = .selecting)
    : Closes e (e.commandRunning host answers cmd) := by
  cases cmd with
  | shutdown => exact closes_finish rfl
  | forceScan =>
      simp only [commandRunning]
      split
      · exact closes_silent rfl (by simp [mode])
      · exact closes_rescan _ rfl
  | applyConfig cfg =>
      have statuses := statuses_reload e answers "Pas de dossier" cfg
      have control := control_reload e answers "Pas de dossier" cfg
      simp only [commandRunning]
      split
      · rename_i reloads
        rw [reloads] at statuses
        exact closes_fail _ (stops_of_statuses statuses)
      · rename_i reached changed reloads
        rw [reloads] at statuses control
        have same : reached.stops = e.stops := stops_of_statuses statuses
        have announced : reached.announce.stops = e.stops :=
          Eq.trans (stops_tell (by simp)) same
        split
        · split
          · exact .inr ⟨announced, by simp [await]⟩
          · exact closes_fail _ same
        · refine .inr ⟨(stops_tell (by simp)).trans same, ?_⟩
          have phase : reached.mode.phase = e.mode.phase := congrArg Control.phase control
          intro ended
          rw [show reached.mode = _ from ended, mode] at phase
          cases phase
  | pause | openHelp | openSettings =>
      exact .inr ⟨stops_tell (by simp), by simp [commandRunning, tell, mode]⟩
  | resume => exact closes_silent rfl (by simp [commandRunning, mode])

theorem MainStep.closes (programs : Programs e) (step : MainStep host e label e')
    : Closes e e' := by
  have worked {op : Op} {answer : op.Answer} {after : World} {mode : Mode}
      (served : e.Serves host op answer after) (silent : .stopped ∉ op.statuses)
      (open_ : mode ≠ .ended (.returned (.ok ())))
      : Closes e { e with world := after, mode } := by
    refine .inr ⟨?_, open_⟩
    simp [stops, host.env.sem_statuses served.1, List.count_eq_zero_of_not_mem silent]
  cases step with
  | scan mode served =>
      have sound := programs.mode
      rw [mode] at sound
      refine worked served ?_ (by simp)
      cases sound.1 with
      | looks looks => cases looks <;> simp [Op.statuses]
      | _ => simp [Op.statuses]
  | flush mode served =>
      have sound := programs.mode
      rw [mode] at sound
      refine worked served ?_ (by simp)
      rw [Op.statuses_quiet (.inr (.inl sound.1))]
      exact List.not_mem_nil
  | scanned mode => exact closes_scanned _ _
  | interrupted mode => exact closes_commandScanning _ mode
  | left mode => exact closes_leave _ rfl
  | stopped mode => exact closes_finish rfl
  | watching mode =>
      unfold startWatching
      split
      · exact closes_fail _ rfl
      · split
        · exact closes_fail _ rfl
        · exact closes_silent rfl (by simp [spawnDispatcher])
  | paused mode => exact closes_commandPaused _ mode
  | command mode => exact closes_commandRunning _ mode
  | health mode =>
      unfold checked
      split
      · split <;> exact closes_silent rfl (by simp)
      · split <;> exact closes_silent rfl (by simp)
      · split
        · exact closes_silent rfl (by simp)
        · exact .inr ⟨stops_tell (by simp), by simp [tell]⟩
  | reconnected mode => exact .inr ⟨stops_tell (by simp), by simp [SyncEngine.reconnected]⟩
  | rescanTick mode =>
      unfold SyncEngine.rescanTick
      split
      · exact closes_silent rfl (by simp [mode])
      · exact closes_rescan _ rfl
  | spawned mode =>
      unfold spawn
      split
      · exact closes_fail _ rfl
      · exact closes_silent rfl (by simp)
  | flushed | healthTick | received => exact closes_silent rfl (by simp)

/-- Nothing but the main task says that the engine has stopped. -/
theorem stops_retire (e : SyncEngine) (index : Nat) : (e.retire index).stops = e.stops := by
  simp only [retire]
  split
  · exact stops_tell (by simp)
  · rfl

theorem stops_worked {op : Op} {answer : op.Answer} {after : World}
    (served : e.Serves host op answer after) (silent : op.statuses = [])
    (same : e'.world = after)
    : e'.stops = e.stops := by
  refine stops_of_statuses ?_
  rw [same, host.env.sem_statuses served.1, silent, List.append_nil]

theorem WorkerStep.stops (programs : Programs e) (step : WorkerStep host e label e')
    : e'.stops = e.stops := by
  cases step with
  | spared => exact stops_retire _ _
  | begun | panicked => rfl
  | @worked index worker op next answer after found handling served =>
      have uses := programs.worker worker (List.mem_of_getElem? found) _ handling
      exact stops_worked served (Op.statuses_quiet (.inl uses.1)) rfl
  | @handled index worker result found handling =>
      cases result with
      | ok value => exact stops_retire _ _
      | error error =>
          simp only [SyncEngine.handled]
          split
          · exact (stops_retire _ _).trans (stops_tell (by simp))
          · exact stops_retire _ _

theorem DispatcherStep.stops (programs : Programs e) (step : DispatcherStep host e label e')
    : e'.stops = e.stops := by
  cases step with
  | taken | ticked | left => rfl
  | @worked index dispatcher op next answer after found busy served =>
      have uses := programs.dispatcher dispatcher (List.mem_of_getElem? found)
      rw [busy] at uses
      exact stops_worked served (Op.statuses_quiet (.inr (.inr uses.1))) rfl

theorem OutsideStep.stops (step : OutsideStep e label e') : e'.stops = e.stops := by
  cases step with
  | published =>
      simp only [publish]
      split
      · exact stops_tell (by simp)
      · rfl
  | _ => rfl

/-- The engine has said that it has stopped if it has returned in order, and not otherwise; a
panic may follow.
-/
structure TellsStopped (base : Nat) (e : SyncEngine) : Prop where
  receiving : e.Receiving → e.stops = base
  returned : e.mode = .ended (.returned (.ok ())) → e.stops = base + 1
  failed : ∀ error, e.mode = .ended (.returned (.error error)) → e.stops = base
  once : e.stops ≤ base + 1

theorem TellsStopped.main {base : Nat} (told : TellsStopped base e) (programs : Programs e)
    (step : MainStep host e label e')
    : TellsStopped base e' := by
  have before := told.receiving step.receiving
  rcases step.closes programs with ⟨more, ended⟩ | ⟨same, other⟩
  · refine ⟨fun receiving => ?_, fun _ => by rw [more, before], fun error failed => ?_, ?_⟩
    · rw [Receiving, ended] at receiving
      exact receiving.elim
    · rw [ended] at failed
      cases failed
    · rw [more, before]
  · have still : e'.stops = base := same.trans before
    exact ⟨fun _ => still, fun ended => absurd ended other, fun _ _ => still,
      still ▸ Nat.le_succ _⟩

/-- A step that is not of the main task leaves it where it is, or panics. -/
theorem TellsStopped.keep {base : Nat} (told : TellsStopped base e) (stops : e'.stops = e.stops)
    (mode : e'.mode = e.mode ∨ e'.mode = .ended .panicked)
    : TellsStopped base e' := by
  rcases mode with same | panicked
  · refine ⟨fun receiving => ?_, fun ended => ?_, fun error ended => ?_, stops ▸ told.once⟩
    · rw [Receiving, same] at receiving
      exact stops.trans (told.receiving receiving)
    · exact stops.trans (told.returned (same ▸ ended))
    · exact stops.trans (told.failed error (same ▸ ended))
  · refine ⟨fun receiving => ?_, fun ended => ?_, fun error ended => ?_, stops ▸ told.once⟩
    · rw [Receiving, panicked] at receiving
      exact receiving.elim
    · rw [panicked] at ended
      cases ended
    · rw [panicked] at ended
      cases ended

theorem TellsStopped.step {base : Nat} (told : TellsStopped base e) (programs : Programs e)
    (step : Step host e label e')
    : TellsStopped base e' := by
  cases step with
  | main step => exact told.main programs step
  | worker alive step =>
      refine told.keep (step.stops programs) ?_
      rcases step.control with same | rfl
      · exact .inl same.mode
      · exact .inr rfl
  | dispatcher alive step => exact told.keep (step.stops programs) (.inl step.control.mode)
  | outside step => exact told.keep step.stops (.inl step.control.mode)

-----------------------------------------------------------------------------------------
-- Stopping for good
-----------------------------------------------------------------------------------------

/-- What has happened since the shutdown was requested: the steps, how often the main task has
entered another phase, and how often a scan; the watchers that were still to be started then, and
those that have been.
-/
structure Curfew where
  steps : List Label := []
  turns : Nat := 0
  scans : Nat := 0
  toStart : Nat := 0
  watchers : Nat := 0

/-- What the curfew makes of a step. -/
def curfew : Watch SyncEngine Label Curfew := fun curfew e label e' =>
  if e.world.shutdown then
    { steps := curfew.steps ++ [label]
      turns :=
        if e'.control.phase = e.control.phase then curfew.turns else curfew.turns + 1
      scans :=
        if e'.control.phase.isScan && !e.control.phase.isScan then curfew.scans + 1
        else curfew.scans
      toStart := if curfew.steps = [] then e.control.phase.toStart else curfew.toStart
      watchers :=
        match label with
        | .watching _ => curfew.watchers + 1
        | _ => curfew.watchers }
  else curfew

/-- Since the request nothing has begun, no scan either, and a watcher only if there was none to
begin with; the main task has gone through a few phases at most. As soon as it is at the head of its
loop, or awaits a scan or a permit, it may stop.
-/
structure StopsForGood (host : Host) (curfew : Curfew) (e : SyncEngine) : Prop where
  requested : curfew.steps ≠ [] → e.world.shutdown = true
  begins : ∀ label ∈ curfew.steps, label.begins = false
  scans : curfew.scans = 0
  early : curfew.steps = [] → curfew.turns = 0 ∧ curfew.watchers = 0
  watchers : curfew.steps ≠ [] → curfew.watchers + e.control.phase.toStart ≤ curfew.toStart
  turns : curfew.turns + e.control.phase.distance ≤ 4
  ready
    : e.world.shutdown = true
      → e.control.phase = .selecting ∨ e.control.phase = .acquiring
        ∨ (∃ site, e.control.phase = .scanning site)
      → ∃ e', Step host e .stopped e' ∧ e'.control.phase = .ended

theorem stops_ready (requested : e.world.shutdown = true)
    (there
      : e.control.phase = .selecting ∨ e.control.phase = .acquiring
        ∨ ∃ site, e.control.phase = .scanning site)
    : ∃ e', Step host e .stopped e' ∧ e'.control.phase = .ended := by
  cases mode : e.mode with
  | scanning site rest =>
      exact ⟨_, .main (.left mode requested), phase_leave _ _⟩
  | selecting => exact ⟨_, .main (.stopped (.inl mode) requested), rfl⟩
  | acquiring task => exact ⟨_, .main (.stopped (.inr ⟨task, mode⟩) requested), rfl⟩
  | starting | checking | reconnecting | flushing | ended =>
      have phase := phase_of_mode mode
      rw [phase] at there
      simp [Mode.phase] at there

/-- What is started after the request takes from what was to be started then. -/
theorem StopsForGood.watchers_step {note : Curfew} (stops : StopsForGood host note e)
    (step : Step host e label e') (requested : e.world.shutdown = true)
    (settles : e'.control.phase.toStart ≤ e.control.phase.toStart)
    : (curfew note e label e').watchers + e'.control.phase.toStart
      ≤ (curfew note e label e').toStart := by
  have before : note.watchers + e.control.phase.toStart ≤ (curfew note e label e').toStart := by
    simp only [curfew, requested, if_true]
    split
    · rename_i first
      rw [(stops.early first).2, Nat.zero_add]
    · rename_i later
      exact stops.watchers later
  by_cases watching : ∃ answer, label = .watching answer
  · obtain ⟨answer, rfl⟩ := watching
    obtain ⟨starting, started⟩ := step.watching
    have one : (curfew note e (.watching answer) e').watchers = note.watchers + 1 := by
      simp [curfew, requested]
    rw [one, started]
    rw [starting] at before
    exact before
  · have same : (curfew note e label e').watchers = note.watchers := by
      simp only [curfew, requested, if_true]
      split
      · rename_i answer
        exact absurd ⟨answer, rfl⟩ watching
      · rfl
    omega

theorem StopsForGood.step {note : Curfew} (stops : StopsForGood host note e)
    (step : Step host e label e')
    : StopsForGood host (curfew note e label e') e' := by
  by_cases requested : e.world.shutdown = true
  · obtain ⟨still, late, deaf, nearer⟩ := step.late requested
    obtain ⟨scanning, settles⟩ := step.control_step.settles late deaf
    have watchers := stops.watchers_step step requested settles
    have turns := stops.turns
    refine ⟨fun _ => still, ?_, ?_, ?_, fun _ => watchers, ?_, stops_ready⟩
    · intro seen member
      simp only [curfew, requested, if_true] at member
      rcases List.mem_append.mp member with earlier | now
      · exact stops.begins seen earlier
      · exact List.mem_singleton.mp now ▸ late
    · have none_begins : (e'.control.phase.isScan && !e.control.phase.isScan) = false := by
        cases scan : e'.control.phase.isScan with
        | false => rfl
        | true => simp [scanning scan]
      simp [curfew, requested, none_begins, stops.scans]
    · simp [curfew, requested]
    · simp only [curfew, requested, if_true]
      split
      · rename_i same
        rw [same]
        exact turns
      · rename_i other
        have closer := nearer.resolve_left other
        omega
  · have early : note.steps = [] := by
      by_contra later
      exact requested (stops.requested later)
    simp only [curfew, if_neg requested]
    refine ⟨fun later => absurd early later, stops.begins, stops.scans, stops.early,
      fun later => absurd early later, ?_, stops_ready⟩
    rw [(stops.early early).1, Nat.zero_add]
    exact Phase.distance_le _

end SyncEngine

end SyncGDrive
