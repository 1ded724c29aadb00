import SyncGDrive.Engine.Scan
import SyncGDrive.Program.Monitors

/-! The phases of a scan, as they can be told from its operations: what each of them requests, what
it shows of its progress, and how the tasks that are sent agree with those that are announced.
-/

namespace SyncGDrive

open Program

-----------------------------------------------------------------------------------------
-- Phases
-----------------------------------------------------------------------------------------

/-- Where a scan is. Folders and files are counted as they are shown; of the tasks, those that the
tracker has been told of are counted, and those that have been sent.
-/
inductive ScanStage
  | ready
  | listing
  | walking (counted : Nat)
  | creating (done total : Nat)
  | comparing (done total : Nat)
  | sending (sent total : Nat)
  /-- The next file has been shown by its name. -/
  | shown (sent total : Nat) (current : String)
  | sweeping (announced sent : Nat)
  /-- A shutdown has been noticed, or no task is accepted any more. -/
  | closed
  deriving DecidableEq

/-- The operations of phase 2, besides what it shows. -/
inductive Op.Creates : Op → Prop
  | lookup {key : String} : Creates (.lookup key)
  | mkdir {parentId : DriveId} {name : String} : Creates (.provider (.mkdir parentId name))
  | insert {key : String} {driveId parentId : DriveId} : Creates (.insert key driveId parentId)
  | sleep {milliseconds : Nat} : Creates (.sleep milliseconds)

/-- The operations of phase 3, besides what it shows. -/
inductive Op.Compares : Op → Prop
  | allPaths : Compares .allPaths
  | lookup {key : String} : Compares (.lookup key)
  | get {key : String} : Compares (.get key)
  | metadata {path : Path} : Compares (.metadata path)
  | md5 {path : Path} : Compares (.md5 path)
  | upsert {entry : FileEntry} : Compares (.upsert entry)

/-- Every task that was announced has been sent, and all of phase 4. -/
inductive ScanStage.Even : ScanStage → Prop
  | sent {total : Nat} : Even (.sending total total)
  | swept {announced : Nat} : Even (.sweeping announced announced)

abbrev Op.progress (phase : ScanPhase) (done total : Nat) (current : String) : Op :=
  .report (.status (.scanProgress phase done total current))

/-- What a scan may request in a phase, and where it goes on from there. -/
inductive ScanStage.May : ScanStage → Op → Prop
  | asks {stage : ScanStage} (going : stage ≠ .closed) : May stage .isCancelled
  | begins {text : String} : May .ready (.progress .remoteListing 0 0 text)
  | lists {rootId : DriveId} : May .listing (.provider (.listRemote rootId))
  | fills {key : String} {driveId parentId : DriveId} : May .listing (.insert key driveId parentId)
  | enters {text : String} : May .listing (.progress .localListing 0 0 text)
  | walks {root : Path} {keep : Path → Bool → Bool} : May (.walking 0) (.walkDir root keep)
  | counts {counted done : Nat} {text : String} (more : counted < done)
    : May (.walking counted) (.progress .localListing done 0 text)
  | opens {counted total : Nat} {text : String} (left : 0 < total)
    : May (.walking counted) (.progress .directories 1 total text)
  | proceeds {done total : Nat} {text : String} (left : done < total)
    : May (.creating done total) (.progress .directories (done + 1) total text)
  | creates {done total : Nat} {op : Op} (part : op.Creates) : May (.creating done total) op
  | skips {counted total : Nat} {text : String}
    : May (.walking counted) (.progress .comparing 0 total text)
  | turns {all total : Nat} {text : String}
    : May (.creating all all) (.progress .comparing 0 total text)
  | compares {done total : Nat} {op : Op} (part : op.Compares) : May (.comparing done total) op
  | advances {done done' total : Nat} {text : String} (more : done < done') (within : done' ≤ total)
    : May (.comparing done total) (.progress .comparing done' total text)
  | totals {done total files bytes : Nat}
    : May (.comparing done total) (.report (.storeTotals files bytes))
  | shows {sent total : Nat} {text : String} (left : sent < total)
    : May (.sending sent total) (.progress .comparing (sent + 1) total text)
  | sends {sent total : Nat} {path : Path}
    : May (.shown sent total ((Path.fileName? path).getD "")) (.send (.syncFile path))
  | looks {stage : ScanStage} {path : Path} (even : stage.Even) : May stage (.metadata path)
  | announces {stage : ScanStage} (even : stage.Even) : May stage (.report (.addTotals 1 0))
  | deletes {sent : Nat} {path : Path} : May (.sweeping (sent + 1) sent) (.send (.delete path))

def ScanStage.next : (op : Op) → op.Answer → ScanStage → ScanStage
  | .isCancelled, true, _ | .sleep _, true, _ | .send _, false, _ => .closed
  | .send _, true, .shown sent total _ => .sending (sent + 1) total
  | .send _, true, .sweeping announced sent => .sweeping announced (sent + 1)
  | .report (.status (.scanProgress .remoteListing _ _ _)), _, _ => .listing
  | .report (.status (.scanProgress .localListing done _ _)), _, _ => .walking done
  | .report (.status (.scanProgress .directories done total _)), _, _ => .creating done total
  | .report (.status (.scanProgress .comparing _ _ current)), _, .sending sent total =>
      .shown sent total current
  | .report (.status (.scanProgress .comparing done total _)), _, _ => .comparing done total
  | .report (.storeTotals files _), _, _ => .sending 0 files
  | .report (.addTotals files _), _, .sending sent total => .sweeping (total + files) sent
  | .report (.addTotals files _), _, .sweeping announced sent => .sweeping (announced + files) sent
  | _, _, stage => stage

def scanPhases : Monitor effects ScanStage where
  permits op stage := stage.May op
  next := ScanStage.next

-----------------------------------------------------------------------------------------
-- Single operations
-----------------------------------------------------------------------------------------

section Operations

variable {α : Type} {stage : ScanStage} {post : α → ScanStage → Prop}

/-- The check at the head of a loop closes the scan, or leaves it where it is. -/
theorem accepts_unlessShutdown {body : Eff α} (going : stage ≠ .closed)
    (accepts : Accepts scanPhases body stage (OnSuccess post))
    : Accepts scanPhases (unlessShutdown body) stage (OnSuccess post) := by
  refine ⟨.asks going, fun cancelled => ?_⟩
  cases cancelled with
  | true => trivial
  | false => exact accepts

/-- A status that is not due changes nothing. -/
theorem accepts_reportWhen {due : Prop} [Decidable due] {status : EngineStatus}
    (post : ScanStage → Prop)
    (reports : due → Accepts scanPhases (reportStatus status) stage (OnSuccess (fun _ => post)))
    (silent : ¬ due → post stage)
    : Accepts scanPhases (reportWhen due status) stage (OnSuccess (fun _ => post)) := by
  unfold reportWhen
  split
  · exact reports ‹_›
  · exact silent ‹_›

/-- The attempts of `retry`, by induction on those that are left. -/
theorem accepts_retry {cfg : AppConfig} {done total : Nat} {operation : Eff (Except Error α)}
    (attempt
      : Accepts scanPhases operation (.creating done total)
          (OnSuccess (fun _ last => last = .creating done total)))
    : Accepts scanPhases (retry cfg operation) (.creating done total)
        (OnSuccess (fun _ last => last = .creating done total)) := by
  have turn (again : Option (Eff α))
      (onward
        : ∀ next, again = some next
            → Accepts scanPhases next (.creating done total)
                (OnSuccess (fun _ last => last = .creating done total)))
      : Accepts scanPhases (retryAttempt cfg.retry.initialBackoffMs operation again)
          (.creating done total) (OnSuccess (fun _ last => last = .creating done total)) := by
    refine ⟨.asks (by simp), fun cancelled => ?_⟩
    cases cancelled with
    | true => trivial
    | false =>
        apply attempt.then
        intro answer middle same
        subst same
        cases answer with
        | ok value => rfl
        | error error =>
            cases again with
            | none => trivial
            | some next =>
                refine ⟨.creates .sleep, fun stopped => ?_⟩
                cases stopped with
                | true => trivial
                | false => exact onward next rfl
  unfold retry
  induction cfg.retry.maxAttempts - 1 with
  | zero =>
      apply turn
      intro next none_
      cases none_
  | succ left ih =>
      apply turn
      intro next same
      cases same
      exact ih

end Operations

-----------------------------------------------------------------------------------------
-- The inventories
-----------------------------------------------------------------------------------------

section Inventories

variable {ctx : EngineContext} {primary : SyncPair} {ignore : IgnoreMatcher}

theorem listRemote_phases
    : Accepts scanPhases (listRemote primary) .ready
        (OnSuccess (fun _ last => last = .listing)) := by
  refine ⟨.begins, fun _ => ⟨.lists, fun answer => ?_⟩⟩
  cases answer with
  | ok index => rfl
  | error error => rfl

theorem fillCache_phases (index : RemoteIndex)
    : Accepts scanPhases (fillCache index) .listing
        (OnSuccess (fun _ last => last = .listing)) := by
  have inserts (key : String) (driveId parentId : DriveId) (stage : ScanStage)
      (here : stage = .listing)
      : Accepts scanPhases (ask (.insert key driveId parentId)) stage
          (OnSuccess (fun _ last => last = .listing)) := by
    subst here
    exact ⟨.fills, fun _ => rfl⟩
  apply
    (accepts_forM (· = ScanStage.listing) index.dirs
      (fun dir _ stage here => inserts _ _ _ stage here) rfl).then
  intro _ middle here
  exact accepts_forM _ index.files (fun file _ stage here => inserts _ _ _ stage here) here

/-- An entry counts for one. -/
theorem Inventory.add_localCount (inventory : Inventory) (root : Path) (entry : DirEntry)
    : (inventory.add root entry).localCount = inventory.localCount + 1 := by
  unfold Inventory.add
  split <;> rfl

/-- The walk has shown at most as many entries as it has met. -/
theorem takeInventory_phases
    : Accepts scanPhases (takeInventory primary ignore) .listing
        (OnSuccess (fun _ last => ∃ counted, last = .walking counted)) := by
  refine ⟨.enters, fun _ => ⟨.walks, fun entries => ?_⟩⟩
  have visits
      : Accepts scanPhases (entries.foldlM (takeInventory.visit primary) {}) (.walking 0)
          (OnSuccess (fun (inventory : Inventory) last =>
            ∃ counted, counted ≤ inventory.localCount ∧ last = .walking counted)) := by
    apply accepts_foldlM (fun (inventory : Inventory) last =>
      ∃ counted, counted ≤ inventory.localCount ∧ last = ScanStage.walking counted)
    · intro inventory entry _ stage here
      obtain ⟨counted, met, same⟩ := here
      subst same
      apply accepts_unlessShutdown (by simp)
      have one := inventory.add_localCount primary.localPath entry
      apply
        (accepts_reportWhen
          (fun last =>
            ∃ counted, counted ≤ (inventory.add primary.localPath entry).localCount
              ∧ last = .walking counted)
          (fun _ => ⟨.counts (by omega), fun _ => ⟨_, le_rfl, rfl⟩⟩)
          (fun _ => ⟨counted, by omega, rfl⟩)).then
      intro _ middle here
      exact here
    · exact ⟨0, le_rfl, rfl⟩
  apply visits.mono
  intro result last met
  cases result with
  | error error => trivial
  | ok inventory =>
      obtain ⟨counted, -, same⟩ := met
      exact ⟨counted, same⟩

end Inventories

-----------------------------------------------------------------------------------------
-- The folders
-----------------------------------------------------------------------------------------

section Folders

variable {ctx : EngineContext} {primary : SyncPair} {done total : Nat}

theorem create_phases (acting : ctx.dryRun = false) (current : String × DriveId) (rel part : String)
    : Accepts scanPhases (enterFolder.create ctx current rel part) (.creating done total)
        (OnSuccess (fun _ last => last = .creating done total)) := by
  unfold enterFolder.create
  rw [acting]
  apply accepts_retry
  exact ⟨.creates .mkdir, fun _ => rfl⟩

theorem enterFolder_phases (acting : ctx.dryRun = false) (current : String × DriveId)
    (name : OsString)
    : Accepts scanPhases (enterFolder ctx current name) (.creating done total)
        (OnSuccess (fun _ last => last = .creating done total)) := by
  refine ⟨.creates .lookup, fun found => ?_⟩
  cases found with
  | some entry => rfl
  | none =>
      apply (create_phases acting current _ _).then
      intro newId middle same
      subst same
      exact ⟨.creates .insert, fun _ => rfl⟩

/-- The stage before the directory with an index: the first one is met while still walking. -/
def ScanStage.BeforeFolder (total index : Nat) (stage : ScanStage) : Prop :=
  (index = 0 ∧ ∃ counted, stage = .walking counted) ∨ stage = .creating index total

theorem ensureFolder_phases (acting : ctx.dryRun = false) {dir : Path} {index : Nat}
    {stage : ScanStage} (left : index < total) (here : stage.BeforeFolder total index)
    : Accepts scanPhases (ensureFolder ctx primary total (dir, index)) stage
        (OnSuccess (fun _ => ScanStage.BeforeFolder total (index + 1))) := by
  have going : stage ≠ .closed := by
    rcases here with ⟨-, counted, same⟩ | same <;> simp [same]
  apply accepts_unlessShutdown going
  cases stripped : Path.stripPrefix primary.localPath dir with
  | none => trivial
  | some rel =>
      have may (text : String) : stage.May (.progress .directories (index + 1) total text) := by
        rcases here with ⟨first, counted, same⟩ | same
        · subst first same
          exact .opens left
        · subst same
          exact .proceeds left
      refine ⟨may _, fun _ => ⟨.creates .lookup, fun found => ?_⟩⟩
      cases found with
      | some entry => exact .inr rfl
      | none =>
          have enters (current : String × DriveId) (name : OsString) (stage : ScanStage)
              (same : stage = .creating (index + 1) total)
              : Accepts scanPhases (enterFolder ctx current name) stage
                  (OnSuccess (fun _ last => last = .creating (index + 1) total)) := by
            subst same
            exact enterFolder_phases acting current name
          apply
            (accepts_foldlM (fun _ last => last = ScanStage.creating (index + 1) total) rel
              (fun current name _ stage same => enters current name stage same) rfl).then
          intro _ middle same
          exact .inr same

theorem createFolders_phases (acting : ctx.dryRun = false) (localDirs : List Path) {counted : Nat}
    : Accepts scanPhases (createFolders ctx primary localDirs) (.walking counted)
        (OnSuccess (fun _ => ScanStage.BeforeFolder localDirs.length localDirs.length)) := by
  have folders (dir : Path) (index : Nat) (stage : ScanStage)
      (within : index < 0 + localDirs.length) (here : stage.BeforeFolder localDirs.length index)
      : Accepts scanPhases (ensureFolder ctx primary localDirs.length (dir, index)) stage
          (OnSuccess (fun _ => ScanStage.BeforeFolder localDirs.length (index + 1))) :=
    ensureFolder_phases acting (by omega) here
  have loop :=
    accepts_forM_zipIdx (ScanStage.BeforeFolder localDirs.length) localDirs folders
      (.inl ⟨rfl, counted, rfl⟩)
  rwa [Nat.zero_add] at loop

end Folders

-----------------------------------------------------------------------------------------
-- The comparison
-----------------------------------------------------------------------------------------

section Comparison

variable {primary : SyncPair} {done total : Nat}

theorem mtimeOf_phases (path : Path)
    : Accepts scanPhases (mtimeOf path) (.comparing done total)
        (OnSuccess (fun _ last => last = .comparing done total)) := by
  refine ⟨.compares .metadata, fun answer => ?_⟩
  cases answer with
  | ok metadata => rfl
  | error error => rfl

theorem sizeOf_phases (path : Path)
    : Accepts scanPhases (sizeOf path) (.comparing done total)
        (OnSuccess (fun _ last => last = .comparing done total)) := by
  refine ⟨.compares .metadata, fun answer => ?_⟩
  cases answer with
  | ok metadata => rfl
  | error error => rfl

theorem compareFile_phases (path : Path) (rel : String) (inDb remoteExists : Bool)
    : Accepts scanPhases (compareFile path rel inDb remoteExists) (.comparing done total)
        (OnSuccess (fun _ last => last = .comparing done total)) := by
  unfold compareFile
  apply Accepts.ite
  · intro _
    refine ⟨.compares .get, fun answer => ?_⟩
    rcases answer with error | found
    · rfl
    cases found with
    | none => rfl
    | some entry =>
        apply (mtimeOf_phases path).then
        intro mtime middle same
        subst same
        apply Accepts.ite
        · intro _
          rfl
        · intro _
          refine ⟨.compares .md5, fun hashed => ?_⟩
          cases hashed with
          | error error => rfl
          | ok hash =>
              apply Accepts.ite
              · intro _
                exact ⟨.compares .upsert, fun _ => rfl⟩
              · intro _
                rfl
  · intro _
    apply Accepts.ite
    · intro _
      refine ⟨.compares .md5, fun hashed => ?_⟩
      cases hashed with
      | error error => rfl
      | ok hash =>
          apply (mtimeOf_phases path).then
          intro mtime middle same
          subst same
          exact ⟨.compares .upsert, fun _ => rfl⟩
    · intro _
      rfl

/-- At most so many files have been shown as compared. -/
def ScanStage.Compared (total index : Nat) (stage : ScanStage) : Prop :=
  ∃ done, done ≤ index ∧ stage = .comparing done total

theorem compareNext_phases {dbIndex : List String} {toSync : List Path} {file : Path} {index : Nat}
    {stage : ScanStage} (left : index < total) (here : stage.Compared total index)
    : Accepts scanPhases (compareNext primary dbIndex total toSync (file, index)) stage
        (OnSuccess (fun _ => ScanStage.Compared total (index + 1))) := by
  obtain ⟨done, shown, same⟩ := here
  subst same
  apply accepts_unlessShutdown (by simp)
  cases stripped : Path.stripPrefix primary.localPath file with
  | none => exact ⟨done, by omega, rfl⟩
  | some relPath =>
      apply
        (accepts_reportWhen (ScanStage.Compared total (index + 1))
          (fun _ => ⟨.advances (by omega) left, fun _ => ⟨_, le_rfl, rfl⟩⟩)
          (fun _ => ⟨done, by omega, rfl⟩)).then
      intro _ middle here
      obtain ⟨done, shown, same⟩ := here
      subst same
      refine ⟨.compares .lookup, fun found => ?_⟩
      apply (compareFile_phases _ _ _ _).then
      intro different middle same
      subst same
      apply Accepts.ite
      · intro _
        exact ⟨done, shown, rfl⟩
      · intro _
        exact ⟨done, shown, rfl⟩

theorem compareFiles_phases (dbIndex : List String) (localFiles : List Path)
    : Accepts scanPhases (compareFiles primary dbIndex localFiles) (.comparing 0 localFiles.length)
        (OnSuccess (fun _ last => ∃ done, last = .comparing done localFiles.length)) := by
  have compares (toSync : List Path) (file : Path) (index : Nat) (stage : ScanStage)
      (within : index < 0 + localFiles.length) (here : stage.Compared localFiles.length index)
      : Accepts scanPhases
          (compareNext primary dbIndex localFiles.length toSync (file, index)) stage
          (OnSuccess (fun _ => ScanStage.Compared localFiles.length (index + 1))) :=
    compareNext_phases (by omega) here
  apply
    (accepts_foldlM_zipIdx (ScanStage.Compared localFiles.length) localFiles compares
      ⟨0, le_rfl, rfl⟩).then
  intro toSync middle here
  obtain ⟨done, -, same⟩ := here
  apply accepts_foldlM (fun _ last => ∃ done, last = ScanStage.comparing done localFiles.length)
  · intro kept path _ stage here
    obtain ⟨done, same⟩ := here
    subst same
    apply (sizeOf_phases path).then
    intro size middle same
    exact ⟨done, same⟩
  · exact ⟨done, same⟩

end Comparison

-----------------------------------------------------------------------------------------
-- The tasks
-----------------------------------------------------------------------------------------

section Tasks

variable {ctx : EngineContext} {primary : SyncPair}

theorem ScanStage.Even.going {stage : ScanStage} (even : stage.Even) : stage ≠ .closed := by
  cases even <;> simp

/-- A task that is not accepted closes the scan. -/
theorem accepts_enqueue {task : Task} {stage after : ScanStage} (may : stage.May (.send task))
    (sent : ScanStage.next (.send task) true stage = after)
    : Accepts scanPhases (enqueue task) stage (OnSuccess (fun _ last => last = after)) := by
  refine ⟨may, fun accepted => ?_⟩
  cases accepted with
  | true => exact sent
  | false => trivial

theorem sendFile_phases (acting : ctx.dryRun = false) {total index : Nat} {path : Path}
    {stage : ScanStage} (left : index < total) (here : stage = .sending index total)
    : Accepts scanPhases (sendFile ctx total (path, index)) stage
        (OnSuccess (fun _ last => last = .sending (index + 1) total)) := by
  subst here
  apply accepts_unlessShutdown (by simp)
  refine ⟨.shows left, fun _ => ?_⟩
  unfold unlessDryRun
  rw [acting]
  exact accepts_enqueue .sends rfl

theorem sendFiles_phases (acting : ctx.dryRun = false) (toSync : List Path) {done total : Nat}
    : Accepts scanPhases (sendFiles ctx toSync) (.comparing done total)
        (OnSuccess (fun _ => ScanStage.Even)) := by
  have adds (bytes : Nat) (path : Path) (stage : ScanStage) (same : stage = .comparing done total)
      : Accepts scanPhases (do return bytes + (← sizeOf path)) stage
          (OnSuccess (fun _ last => last = .comparing done total)) := by
    subst same
    exact (sizeOf_phases path).then (fun _ _ kept => kept)
  apply
    (accepts_foldlM (fun _ last => last = ScanStage.comparing done total) toSync
      (fun bytes path _ stage same => adds bytes path stage same) rfl).then
  intro bytes middle same
  subst same
  unfold unlessDryRun
  rw [acting]
  refine ⟨.totals, fun _ => ?_⟩
  have sends (path : Path) (index : Nat) (stage : ScanStage) (within : index < 0 + toSync.length)
      (here : stage = .sending index toSync.length)
      : Accepts scanPhases (sendFile ctx toSync.length (path, index)) stage
          (OnSuccess (fun _ last => last = .sending (index + 1) toSync.length)) :=
    sendFile_phases acting (by omega) here
  have loop :=
    accepts_forM_zipIdx (fun index last => last = ScanStage.sending index toSync.length)
      toSync sends rfl
  rw [Nat.zero_add] at loop
  apply loop.mono
  intro result last sent
  cases result with
  | error error => trivial
  | ok done =>
      subst sent
      exact .sent

/-- A deletion is announced, then sent. -/
theorem sendDelete_phases (acting : ctx.dryRun = false) {path : Path} {stage : ScanStage}
    (even : stage.Even)
    : Accepts scanPhases (sendDelete ctx path) stage (OnSuccess (fun _ => ScanStage.Even)) := by
  unfold sendDelete unlessDryRun
  rw [acting]
  refine ⟨.announces even, fun _ => ?_⟩
  have announced : ∃ sent, scanPhases.next (.report (.addTotals 1 0)) () stage
      = .sweeping (sent + 1) sent := by
    cases even <;> exact ⟨_, rfl⟩
  obtain ⟨sent, same⟩ := announced
  rw [same]
  apply (accepts_enqueue .deletes rfl).mono
  intro result last sent
  cases result with
  | error error => trivial
  | ok done =>
      subst sent
      exact .swept

theorem orphanRow_phases (acting : ctx.dryRun = false) {localRelSet : List String} {dbPath : String}
    {stage : ScanStage} (even : stage.Even)
    : Accepts scanPhases (orphanRow ctx primary localRelSet dbPath) stage
        (OnSuccess (fun _ => ScanStage.Even)) := by
  apply accepts_unlessShutdown even.going
  apply Accepts.ite
  · intro _
    exact even
  · intro _
    exact sendDelete_phases acting even

theorem isDir_phases (path : Path) {stage : ScanStage} (even : stage.Even)
    : Accepts scanPhases (isDir path) stage (OnSuccess (fun _ => ScanStage.Even)) := by
  refine ⟨.looks even, fun answer => ?_⟩
  have same : scanPhases.next (.metadata path) answer stage = stage := by
    cases even <;> rfl
  rw [same]
  cases answer with
  | ok metadata => exact even
  | error error => exact even

theorem orphanRemote_phases (acting : ctx.dryRun = false) {ignore : IgnoreMatcher}
    {localRelSet dbIndex : List String} {file : RemoteFile} {stage : ScanStage} (even : stage.Even)
    : Accepts scanPhases (orphanRemote ctx primary ignore localRelSet dbIndex file) stage
        (OnSuccess (fun _ => ScanStage.Even)) := by
  apply accepts_unlessShutdown even.going
  apply Accepts.ite
  · intro _
    exact even
  · intro _
    apply (isDir_phases _ even).then
    intro directory middle even
    apply Accepts.ite
    · intro _
      exact even
    · intro _
      apply Accepts.ite
      · intro _
        exact even
      · intro _
        apply (isDir_phases _ even).then
        intro directory middle even
        apply Accepts.ite
        · intro _
          exact even
        · intro _
          exact sendDelete_phases acting even

end Tasks

-----------------------------------------------------------------------------------------
-- The scan
-----------------------------------------------------------------------------------------

/-- Phases 3 to 6 begin where the last folder has been shown. -/
theorem reconcile_phases {ctx : EngineContext} (acting : ctx.dryRun = false) {primary : SyncPair}
    {ignore : IgnoreMatcher} {remoteIndex : RemoteIndex} {localFiles : List Path} {folders : Nat}
    {stage : ScanStage} (here : stage.BeforeFolder folders folders)
    : Accepts scanPhases (reconcile ctx primary ignore remoteIndex localFiles) stage
        (OnSuccess (fun _ => ScanStage.Even)) := by
  have may : stage.May (.progress .comparing 0 localFiles.length "comparaison…") := by
    rcases here with ⟨-, counted, same⟩ | same
    · subst same
      exact .skips
    · subst same
      exact .turns
  have compares
      : scanPhases.next (.progress .comparing 0 localFiles.length "comparaison…") () stage
        = .comparing 0 localFiles.length := by
    rcases here with ⟨-, counted, same⟩ | same
    · subst same
      rfl
    · subst same
      rfl
  refine ⟨may, fun _ => ?_⟩
  rw [compares]
  refine ⟨.compares .allPaths, fun listed => ?_⟩
  cases listed with
  | error error => trivial
  | ok dbIndex =>
      apply (compareFiles_phases dbIndex localFiles).then
      intro toSync middle compared
      obtain ⟨done, same⟩ := compared
      subst same
      apply (sendFiles_phases acting toSync).then
      intro _ middle even
      apply
        (accepts_forM ScanStage.Even dbIndex
          (fun dbPath _ stage even => orphanRow_phases acting even) even).then
      intro _ middle even
      apply
        (accepts_forM ScanStage.Even remoteIndex.files
          (fun file _ stage even => orphanRemote_phases acting even) even).then
      intro _ middle even
      unfold reportWhen
      rw [acting]
      exact even

/-- Whatever a scan is answered, it goes through its phases in their order: each makes its own
requests, counts its progress up to a total that stays, and sends a file only after it has shown it
by its name, a deletion only after it has told the tracker. Nothing is requested once a shutdown is
noticed or a task is not accepted, and a scan that comes to its end has sent as many tasks as it has
announced.
-/
theorem scans_keep_phases {ctx : EngineContext} (ignore : IgnoreMatcher)
    (acting : ctx.dryRun = false)
    : Accepts scanPhases (scan ctx ignore) .ready (OnSuccess (fun _ => ScanStage.Even)) := by
  unfold scan
  cases ctx.cfg.getPrimaryPair with
  | none => trivial
  | some primary =>
      apply listRemote_phases.then
      intro remoteIndex middle same
      subst same
      apply (fillCache_phases remoteIndex).then
      intro _ middle same
      subst same
      apply takeInventory_phases.then
      intro inventory middle walked
      obtain ⟨counted, same⟩ := walked
      subst same
      apply (createFolders_phases acting inventory.localDirs).then
      intro _ middle here
      exact reconcile_phases acting here

theorem backup_scan_keeps_phases
    : Accepts scanPhases (scan ⟨backupConfig, false⟩ .nothing) .ready
        (OnSuccess (fun _ => ScanStage.Even)) :=
  scans_keep_phases .nothing rfl

end SyncGDrive
