import SyncGDrive.Engine.Deletions
import SyncGDrive.Loop.Control
import SyncGDrive.Loop.Drive

/-! Runs under a plain host, over a root that is missing: how the engine starts. -/

namespace SyncGDrive

open Program

-----------------------------------------------------------------------------------------
-- A plain host
-----------------------------------------------------------------------------------------

/-- The remote lists nothing, folders get their names as identifiers, and only the given
faults occur.
-/
def Environment.plain (faults : Fault → Prop) : Environment where
  md5 _ := ""
  provider
    | .listRemote _, _, remote, answer, after => answer = .ok ⟨[], []⟩ ∧ after = remote
    | .mkdir _ name, _, remote, answer, after => answer = .ok name ∧ after = remote
    | _, _, remote, _, after => after = remote
  faults

/-- No pattern matches anything, and every directory can be watched. -/
def Host.plain (faults : Fault → Prop) : Host where
  env := .plain faults
  fromPatterns _ := .ok .nothing
  watch _ answer := answer = .ok ()

-----------------------------------------------------------------------------------------
-- Scans of a missing root
-----------------------------------------------------------------------------------------

/-- What a scan of a missing root has reported when it turns to the rows. -/
def World.surveyed (w : World) : World :=
  ((w.report (.status (.scanProgress .remoteListing 0 0 "listing remote…"))).report
    (.status (.scanProgress .localListing 0 0 "inventaire local…"))).report
    (.status (.scanProgress .comparing 0 0 "comparaison…"))

/-- The operations by which a scan of a missing root turns to the rows. -/
def Op.Surveys : Op → Prop
  | .report _ | .provider (.listRemote _) | .walkDir .. | .allPaths => True
  | _ => False

theorem Op.Surveys.unticketed {op : Op} (surveys : op.Surveys) : op.Unticketed := by
  cases op <;> trivial

/-- A scan of a missing root turns to the rows at once. -/
theorem scan_surveys {faults : Fault → Prop} {kept : Op → Prop} {w last : World} {rest : Eff Unit}
    (disk : w.disk = emptyDisk) (seen : ∀ op, op.Surveys → kept op)
    (answer : Except Error (List String)) (after : World)
    (served : (Environment.plain faults).sem .allPaths w.surveyed answer after)
    (tail
      : Reaches ((Environment.plain faults).among kept)
          (do
            let dbIndex ← propagate answer
            let toSync ← compareFiles backupPair dbIndex []
            sendFiles ⟨backupConfig, false⟩ toSync
            dbIndex.forM (orphanRow ⟨backupConfig, false⟩ backupPair [])
            reportWhen false .idle)
          after rest last)
    : Reaches ((Environment.plain faults).among kept) (scan ⟨backupConfig, false⟩ .nothing) w rest
        last := by
  have walk : w.disk.walkDir backupPair.localPath IgnoreMatcher.nothing.keeps = [] := by
    rw [disk]
    rfl
  refine reaches_among () _ rfl (seen _ trivial) ?_
  refine reaches_among (.ok ⟨[], []⟩) _ ⟨_, ⟨rfl, rfl⟩, rfl⟩ (seen _ trivial) ?_
  refine reaches_among () _ rfl (seen _ trivial) ?_
  refine reaches_among [] _ ⟨walk.symm, rfl⟩ (seen _ trivial) ?_
  refine reaches_among () _ rfl (seen _ trivial) ?_
  exact reaches_among answer after served (seen _ trivial) tail

/-- Without rows there is nothing to do. -/
theorem scan_completes {faults : Fault → Prop} {w : World} (disk : w.disk = emptyDisk)
    (rows : w.db.allPaths = [])
    : Reaches ((Environment.plain faults).among Op.Unticketed)
        (scan ⟨backupConfig, false⟩ .nothing) w (.done (.ok ()))
        (w.surveyed.report (.storeTotals 0 0)) := by
  refine scan_surveys disk (fun _ => Op.Surveys.unticketed) (.ok []) _ ⟨[], ?_, .inl ⟨rfl, rfl⟩⟩ ?_
  · rw [show w.surveyed.db = w.db from rfl, rows]
  · exact reaches_among () _ rfl trivial .refl

/-- A database that fails makes the scan fail. -/
theorem scan_fails {faults : Fault → Prop} {kept : Op → Prop} (database : faults .database)
    {w : World} (disk : w.disk = emptyDisk) (seen : ∀ op, op.Surveys → kept op)
    : Reaches ((Environment.plain faults).among kept)
        (scan ⟨backupConfig, false⟩ .nothing) w (.done (.error (.msg "database is locked")))
        w.surveyed :=
  scan_surveys disk seen (.error (.msg "database is locked")) _
    ⟨_, .refl _, .inr ⟨database, ⟨_, rfl⟩, rfl⟩⟩ .refl

-----------------------------------------------------------------------------------------
-- Scans over many rows
-----------------------------------------------------------------------------------------

theorem Database.allPaths_upsert (db : Database) (entry : FileEntry)
    : (db.upsert entry).allPaths = entry.path :: db.allPaths.erase entry.path :=
  AList.keys_insert ..

/-- A database with that many rows. -/
def manyRows : Nat → Database
  | 0 => {}
  | count + 1 => (manyRows count).upsert ⟨String.ofList (List.replicate count 'a'), "", 0⟩

/-- The paths are shorter than the number of rows. -/
theorem manyRows_short {path : String} {count : Nat} (member : path ∈ (manyRows count).allPaths)
    : path.length < count := by
  induction count with
  | zero => cases member
  | succ count ih =>
      rw [manyRows, Database.allPaths_upsert, List.mem_cons] at member
      rcases member with rfl | earlier
      · simp
      · exact Nat.lt_succ_of_lt (ih (List.mem_of_mem_erase earlier))

theorem manyRows_length (count : Nat) : (manyRows count).allPaths.length = count := by
  induction count with
  | zero => rfl
  | succ count ih =>
      have fresh : String.ofList (List.replicate count 'a') ∉ (manyRows count).allPaths := by
        intro member
        simpa using manyRows_short member
      rw [manyRows, Database.allPaths_upsert, List.erase_of_not_mem fresh, List.length_cons, ih]

/-- The deletion of a row without a local file comes to be sent. -/
theorem orphanRow_reaches {faults : Fault → Prop} {w last : World} (running : w.shutdown = false)
    (path : String) {rest : Eff Unit} (f : Unit → Eff Unit)
    (tail
      : Reaches (Environment.plain faults).sem
          (.call (.send (.delete (backupPair.localPath.join path)))
            (fun accepted =>
              (if accepted then return () else throw (.msg "shutdown: task queue closed")) >>= f))
          (w.report (.addTotals 1 0)) rest last)
    : Reaches (Environment.plain faults).sem
        (orphanRow ⟨backupConfig, false⟩ backupPair [] path >>= f) w rest last := by
  refine reaches_call false w ⟨.inl rfl, running.symm⟩ ?_
  exact reaches_call () _ rfl tail

theorem forM_cons_bind {γ : Type} (body : γ → Eff Unit) (first : γ) (rest : List γ)
    (f : Unit → Eff Unit)
    : ((first :: rest).forM body >>= f) = (body first >>= fun _ => rest.forM body >>= f) :=
  bind_assoc (body first) (fun _ => rest.forM body) f

theorem forM_append_bind {γ : Type} (body : γ → Eff Unit) (first rest : List γ)
    (f : Unit → Eff Unit)
    : ((first ++ rest).forM body >>= f) = (first.forM body >>= fun _ => rest.forM body >>= f) := by
  induction first with
  | nil => rfl
  | cons head first ih => rw [List.cons_append, forM_cons_bind, ih, forM_cons_bind]

/-- What the deletions of rows leave behind: that many more tasks, and all else as it was. -/
structure World.Fills (w last : World) (count : Nat) : Prop where
  disk : last.disk = w.disk
  db : last.db = w.db
  running : last.shutdown = w.shutdown
  online : last.offline = w.offline
  length : last.tasks.length = w.tasks.length + count

/-- The deletions of rows are sent one after the other, by induction on the rows. -/
theorem orphanRows_fill {faults : Fault → Prop} {w : World} (running : w.shutdown = false)
    (paths : List String) (f : Unit → Eff Unit)
    : ∃ last,
        w.Fills last paths.length
        ∧ ∀ {rest : Eff Unit} {final : World},
            Reaches (Environment.plain faults).sem (f ()) last rest final
            → Reaches (Environment.plain faults).sem
                (paths.forM (orphanRow ⟨backupConfig, false⟩ backupPair []) >>= f) w rest
                  final := by
  induction paths generalizing w with
  | nil => exact ⟨w, ⟨rfl, rfl, rfl, rfl, rfl⟩, id⟩
  | cons first paths ih =>
      rw [forM_cons_bind]
      let sent : World :=
        { w.report (.addTotals 1 0) with
          tasks := w.tasks ++ [.delete (backupPair.localPath.join first)] }
      obtain ⟨last, fills, reaches⟩ := @ih sent running
      refine ⟨last, ⟨fills.disk, fills.db, fills.running, fills.online, ?_⟩, ?_⟩
      · rw [fills.length, List.length_append, List.length_singleton, List.length_cons]
        omega
      · intro rest final tail
        refine orphanRow_reaches running first _ ?_
        exact reaches_call true sent (.inl ⟨rfl, rfl⟩) (reaches tail)

/-- A scan of a missing root sends the deletion of every row. -/
theorem scan_fills {faults : Fault → Prop} {w : World} (disk : w.disk = emptyDisk)
    (running : w.shutdown = false)
    : ∃ last,
        w.Fills last w.db.allPaths.length
        ∧ Reaches ((Environment.plain faults).among (fun _ => True))
            (scan ⟨backupConfig, false⟩ .nothing) w (.done (.ok ())) last := by
  obtain ⟨last, fills, orphans⟩ :=
    @orphanRows_fill faults (w.surveyed.report (.storeTotals 0 0)) running w.db.allPaths
      (fun _ => reportWhen false .idle)
  refine ⟨last, ⟨fills.disk, fills.db, fills.running, fills.online, fills.length⟩, ?_⟩
  refine scan_surveys disk (fun _ _ => trivial) (.ok w.db.allPaths) w.surveyed
    ⟨_, .refl _, .inl ⟨rfl, rfl⟩⟩ (reaches_among () _ rfl trivial ?_)
  exact (orphans .refl).mono (fun _ _ _ _ served => ⟨served, trivial⟩)

/-- It comes to send the last one when all others are sent. -/
theorem scan_demands {faults : Fault → Prop} {w : World} (disk : w.disk = emptyDisk)
    (running : w.shutdown = false) (rows : w.db.allPaths ≠ [])
    : ∃ task next last,
        last.tasks.length + 1 = w.tasks.length + w.db.allPaths.length
        ∧ Reaches ((Environment.plain faults).among (fun _ => True))
            (scan ⟨backupConfig, false⟩ .nothing) w (.call (Op.send task) next) last := by
  let path := w.db.allPaths.getLast rows
  let finish : Unit → Eff Unit := fun _ => reportWhen false .idle
  obtain ⟨last, fills, orphans⟩ :=
    @orphanRows_fill faults (w.surveyed.report (.storeTotals 0 0)) running w.db.allPaths.dropLast
      (fun _ => [path].forM (orphanRow ⟨backupConfig, false⟩ backupPair []) >>= finish)
  have stands : last.shutdown = false := fills.running.trans running
  have split : w.db.allPaths.dropLast ++ [path] = w.db.allPaths := List.dropLast_concat_getLast rows
  have comes :=
    @orphanRow_reaches faults _ _ stands path _
      (fun _ => ([] : List String).forM (orphanRow ⟨backupConfig, false⟩ backupPair []) >>= finish)
      .refl
  rw [← forM_cons_bind] at comes
  have demands := orphans comes
  rw [← forM_append_bind, split] at demands
  refine ⟨_, _, _, ?_, scan_surveys disk (fun _ _ => trivial) (.ok w.db.allPaths) w.surveyed
    ⟨_, .refl _, .inl ⟨rfl, rfl⟩⟩ (reaches_among () _ rfl trivial
      (demands.mono (fun _ _ _ _ served => ⟨served, trivial⟩)))⟩
  have length := fills.length
  have some := List.length_pos_of_ne_nil rows
  rw [List.length_dropLast] at length
  change last.tasks.length = w.tasks.length + _ at length
  change last.tasks.length + 1 = _
  omega

-----------------------------------------------------------------------------------------
-- Started engines
-----------------------------------------------------------------------------------------

theorem locked_isShutdownErr : isShutdownErr (.msg "database is locked") = false := by
  decide +kernel

namespace SyncEngine

/-- An initial scan that fails leaves the engine offline. -/
theorem scanned_initial {e : SyncEngine} {error : Error} (failed : isShutdownErr error = false)
    : e.scanned .initial (.error error)
      = { tell { e with world := { e.world with offline := true } }
            (.error "Mode Hors-ligne (Scan initial échoué)") with mode := .starting } := by
  simp [scanned, failed, afterScan, tell, World.report]

theorem scanned_initial_ok {e : SyncEngine} (resumed : e.paused = false)
    (online : e.world.offline = false)
    : e.scanned .initial (.ok ()) = { e.tell .idle with mode := .starting } := by
  simp [scanned, afterScan, resumed, online]

/-- The initial scan has found nothing to do, and the watcher has started. -/
def started (faults : Fault → Prop) (w : World) : SyncEngine :=
  let e := launch (.plain faults) w backupConfig false
  (scanned { e with world := e.world.surveyed.report (.storeTotals 0 0) } .initial
    (.ok ())).startWatching (.ok ())

/-- A run up to there, for an observer who takes no notice of scans. -/
theorem runs_started {Note : Type} {faults : Fault → Prop}
    {watch : Watch SyncEngine Label Note} {allowed : Discipline SyncEngine Label Note}
    {first : Note} {w : World}
    (disk : w.disk = emptyDisk) (rows : w.db.allPaths = []) (reliable : ¬ faults .channelClosed)
    (unseen : ∀ note e op e', op.Unticketed → watch note e (.main op) e' = note)
    (quiet
      : ∀ e label e',
          label = .scanned (.ok ()) ∨ label = .watching (.ok ()) → watch first e label e' = first)
    (fine : ∀ note e op e', op.Unticketed → allowed note e (.main op) e')
    (fineQuiet
      : ∀ e label e',
          label = .scanned (.ok ()) ∨ label = .watching (.ok ()) → allowed first e label e')
    : Runs (.plain faults) watch allowed first (launch (.plain faults) w backupConfig false) first
        (started faults w) := by
  have scanned : Runs (.plain faults) watch allowed first _ first _ :=
    runs_scan_among (@scan_completes faults (launch (.plain faults) w backupConfig false).world
      disk rows) .start rfl reliable (Nat.zero_le _) unseen fine
  have ended := scanned.step (.main (.scanned rfl)) (fineQuiet _ _ _ (.inl rfl))
  rw [quiet _ _ _ (.inl rfl)] at ended
  have watching := ended.step (.main (@MainStep.watching _ _ (.ok ()) rfl (fun _ _ => rfl)))
    (fineQuiet _ _ _ (.inr rfl))
  rw [quiet _ _ _ (.inr rfl)] at watching
  exact watching

end SyncEngine

end SyncGDrive
