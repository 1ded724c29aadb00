import SyncGDrive.Engine.Adoption
import SyncGDrive.Engine.Knowledge
import SyncGDrive.Loop.Engine
import SyncGDrive.Program.Runs

/-! What simulations leave in the database. A simulated scan sends nothing, but its comparison
records digests; and the dispatcher, which does not know the flag, fills the offline queue.
-/

namespace SyncGDrive

open Program

-----------------------------------------------------------------------------------------
-- A scan that records nothing
-----------------------------------------------------------------------------------------

/-- No file that the scan walks and whose key the cache comes to know can be recorded. -/
def RecordsNoFile (env : Environment) (listing : Except Error RemoteIndex) (primary : SyncPair)
    (ignore : IgnoreMatcher) (w : World)
    : Prop :=
  ∀ rel ∈ walkedRels w.disk primary.localPath ignore, ∀ hash,
    KnownKey w listing primary ignore (relKey rel)
    → ¬ Recordable env w (primary.localPath ++ rel) (relKey rel) hash

section Scan

variable {env : Environment} {listing : Except Error RemoteIndex} {primary : SyncPair}
  {ignore : IgnoreMatcher} {ctx : EngineContext} {w state : World} {allowed : String → Prop}

/-- Digesting a file: what the disk has, or some error. -/
theorem always_digest {inv : World → Prop} {α : Type} {path : Path}
    {f : Except Error String → Eff α} {post : Except Error α → World → Prop} (here : inv state)
    (read
      : ∀ content, state.disk.read path = some content
        → Always env.sem inv (f (.ok (env.md5 content))) state post)
    (unread : ∀ error, Always env.sem inv (f (.error error)) state post)
    : Always env.sem inv (ask (.md5 path) >>= f) state post := by
  refine always_ask_bind.mpr ⟨here, ?_⟩
  intro answer after served
  obtain ⟨rfl, answered⟩ := served
  cases found : after.disk.read path with
  | some content =>
      simp only [found] at answered
      rw [answered]
      exact read content found
  | none =>
      simp only [found] at answered
      obtain ⟨error, rfl⟩ := answered
      exact unread error

/-- The time of a file is the one that the disk has. -/
theorem always_mtimeOf {inv : World → Prop} {α : Type} {path : Path} {f : Int → Eff α}
    {post : Except Error α → World → Prop} (here : inv state)
    (rest : Always env.sem inv (f (state.disk.mtimeOf path)) state post)
    : Always env.sem inv (mtimeOf path >>= f) state post := by
  refine always_ask_bind.mpr ⟨here, ?_⟩
  intro answer after served
  obtain ⟨rfl, answered⟩ := served
  cases there : after.disk.metadata path with
  | some metadata =>
      simp only [there] at answered
      subst answered
      simp only [Disk.mtimeOf, there] at rest
      exact rest
  | none =>
      simp only [there] at answered
      obtain ⟨error, rfl⟩ := answered
      simp only [Disk.mtimeOf, there] at rest
      exact rest

/-- As the scan began, with no key in the cache that it could not come to know. -/
structure Simulating (listing : Except Error RemoteIndex) (primary : SyncPair)
    (ignore : IgnoreMatcher) (w state : World)
    : Prop where
  untouched : Untouched w state
  knows : KnowsOnly (KnownKey w listing primary ignore) state

/-- A program that prepares, and enters only such keys, goes on so. -/
theorem Simulating.always {α : Type} {program : Eff α}
    (here : Simulating listing primary ignore w state) (prepares : Uses Op.Prepares program)
    (enters : Uses (Op.EntersOnly (KnownKey w listing primary ignore)) program)
    : Always env.sem (Simulating listing primary ignore w) program state (fun _ _ => True) :=
  (((always_untouched prepares here.untouched).and (always_knowsOnly enters here.knows)).weaken
    (fun _ both => ⟨both.1, both.2⟩)).mono (fun _ _ _ _ => trivial)

/-- Looking does, too. -/
theorem Simulating.looks {α : Type} {program : Eff α}
    (here : Simulating listing primary ignore w state) (looks : Uses Op.Looks program)
    : Always env.sem (Simulating listing primary ignore w) program state (fun _ _ => True) :=
  here.always (looks.mono (fun _ => Op.Looks.prepares)) (looks.mono (fun _ => Op.Looks.entersOnly))

/-- After a look it is so as well. -/
theorem Simulating.looked {op : Op} {answer : op.Answer} {after : World}
    (here : Simulating listing primary ignore w state) (looks : op.Looks)
    (served : env.sem op state answer after)
    : Simulating listing primary ignore w after := by
  have asks : Uses Op.Looks (ask op) := uses_ask looks
  have loop : Always env.sem (Simulating listing primary ignore w) (ask op) state
      (fun _ _ => True) := here.looks asks
  exact (loop.2 answer after served).1

/-- A file that cannot be recorded is compared without a write. -/
theorem Simulating.compareFile {path : Path} {key : String} {inDb remoteExists : Bool}
    (here : Simulating listing primary ignore w state) (recorded : inDb = (w.db.row key).isSome)
    (never : remoteExists = true → ∀ hash, ¬ Recordable env w path key hash)
    : Always env.sem (Simulating listing primary ignore w)
        (SyncGDrive.compareFile path key inDb remoteExists) state (fun _ _ => True) := by
  have digested {v : World} {content : List UInt8} (same : Untouched w v)
      (read : v.disk.read path = some content)
      : (w.disk.read path).map env.md5 = some (env.md5 content) := by
    rw [← same.disk, read]
    rfl
  unfold SyncGDrive.compareFile
  split
  · rename_i both
    obtain ⟨inDb, remote⟩ := Bool.and_eq_true_iff.mp both
    refine always_ask_bind.mpr ⟨here, ?_⟩
    intro answer after served
    have same := here.looked (.get key) served
    split
    · rename_i entry
      have row : w.db.get key = some entry := by
        rcases served with stored | failed
        · rw [← here.untouched.db]
          exact (Except.ok.inj stored.1).symm
        · obtain ⟨-, ⟨error, wrong⟩, -⟩ := failed
          cases wrong
      apply always_mtimeOf same
      split
      · exact ⟨same, trivial⟩
      · rename_i touched
        apply always_digest same
        · intro content read
          simp only
          split
          · -- the row would get a new time, which the condition excludes
            rename_i equal
            refine absurd ⟨digested same.untouched read, ?_⟩ (never remote (env.md5 content))
            intro columns found
            rw [Database.get, Option.mem_def.mp found] at row
            obtain rfl := Option.some.inj row
            exact ⟨same.untouched.disk ▸ touched, equal.symm⟩
          · exact ⟨same, trivial⟩
        · intro error
          exact ⟨same, trivial⟩
    · exact ⟨same, trivial⟩
  · rename_i notBoth
    split
    · rename_i remote
      have unrecorded : w.db.row key = none := by
        rw [remote, Bool.and_true, recorded] at notBoth
        simpa using notBoth
      apply always_digest here
      · intro content read
        exact absurd ⟨digested here.untouched read, by simp [unrecorded]⟩
          (never remote (env.md5 content))
      · intro error
        exact ⟨here, trivial⟩
    · exact ⟨here, trivial⟩

/-- The turn of the comparison for one file. -/
theorem Simulating.compareNext {dbIndex : List String} {total place : Nat} {toSync : List Path}
    {path : Path} (here : Simulating listing primary ignore w state)
    (index : dbIndex.Perm w.db.allPaths)
    (walked : path ∈ walkedFiles w.disk primary.localPath ignore)
    (never : RecordsNoFile env listing primary ignore w)
    : Always env.sem (Simulating listing primary ignore w)
        (SyncGDrive.compareNext primary dbIndex total toSync (path, place)) state
        (fun _ _ => True) := by
  rw [walkedFiles_eq] at walked
  obtain ⟨rel, inWalk, rfl⟩ := List.mem_map.mp walked
  have clean := (walkedRels_proper inWalk).clean
  refine always_ask_bind.mpr ⟨here, ?_⟩
  intro cancelled checked served
  have here := here.looked .isCancelled served
  split
  · exact ⟨here, trivial⟩
  · simp only [clean.stripPrefix]
    refine (here.looks (uses_reportWhen (.progress ..))).bind ?_ (fun _ _ _ _ => trivial)
    intro _ reported here _
    refine always_ask_bind.mpr ⟨here, ?_⟩
    intro cached found served
    have known : cached = reported.pathCache.lookup (relKey rel) := served.1
    have knows := here.knows (relKey rel)
    rw [← known] at knows
    have here := here.looked (.lookup _) served
    have recorded : dbIndex.contains (relKey rel) = (w.db.row (relKey rel)).isSome := by
      rw [Bool.eq_iff_iff, List.contains_iff_mem, index.mem_iff, Database.mem_allPaths]
    refine (here.compareFile recorded ?_).bind ?_ (fun _ _ _ _ => trivial)
    · intro exists_ hash
      exact never rel inWalk hash (knows exists_)
    · intro changed compared here _
      split <;> exact ⟨here, trivial⟩

/-- The comparison of all files, by its loops. -/
theorem Simulating.compareFiles {dbIndex : List String}
    (here : Simulating listing primary ignore w state) (index : dbIndex.Perm w.db.allPaths)
    (never : RecordsNoFile env listing primary ignore w)
    : Always env.sem (Simulating listing primary ignore w)
        (SyncGDrive.compareFiles primary dbIndex (walkedFiles w.disk primary.localPath ignore))
        state (fun _ _ => True) := by
  apply Always.bind
  case post => exact fun _ _ => True
  case failed =>
    intro error last _ _
    trivial
  · apply always_foldlM (fun rest _ middle =>
      Simulating listing primary ignore w middle
      ∧ ∀ file ∈ rest, file.1 ∈ walkedFiles w.disk primary.localPath ignore)
    · intro toSync last loop
      exact ⟨loop.1, trivial⟩
    · intro file rest toSync middle loop
      obtain ⟨here, walked⟩ := loop
      apply (here.compareNext index (walked file List.mem_cons_self) never).mono
      intro result after here _
      cases result with
      | error error => trivial
      | ok toSync => exact ⟨here, fun file member => walked file (List.mem_cons_of_mem _ member)⟩
    · refine ⟨here, ?_⟩
      intro file member
      rw [(List.mem_zipIdx' member).2]
      exact List.getElem_mem _
  · intro toSync compared here _
    apply here.looks
    apply uses_foldlM
    intro kept path _
    exact uses_sizeOf.bind (fun _ => uses_pure)

/-- Phases 3 to 6. -/
theorem Simulating.reconcile {index : RemoteIndex}
    (here : Simulating listing primary ignore w state) (dry : ctx.dryRun = true)
    (never : RecordsNoFile env listing primary ignore w)
    : Always env.sem (Simulating listing primary ignore w)
        (SyncGDrive.reconcile ctx primary ignore index
          (walkedFiles w.disk primary.localPath ignore))
        state (fun _ _ => True) := by
  have nothing (body : Eff Unit) : Uses Op.Looks (unlessDryRun ctx body) := by
    rw [unlessDryRun, if_pos dry]
    exact uses_pure
  refine (here.looks uses_scanProgress).bind ?_ (fun _ _ _ _ => trivial)
  intro _ reported here _
  refine always_ask_bind.mpr ⟨here, ?_⟩
  intro answer read served
  have rows : ∀ paths, answer = .ok paths → paths.Perm w.db.allPaths := by
    intro paths ok
    obtain ⟨listed, order, stored⟩ := served
    rcases stored with listing | failed
    · obtain rfl := Except.ok.inj (listing.1.symm.trans ok)
      rw [← here.untouched.db]
      exact order
    · obtain ⟨-, ⟨error, wrong⟩, -⟩ := failed
      cases wrong.symm.trans ok
  have here := here.looked .allPaths served
  cases answer with
  | error error => exact ⟨here, trivial⟩
  | ok dbIndex =>
      change Always env.sem _ (SyncGDrive.compareFiles primary dbIndex _ >>= _) read _
      refine (here.compareFiles (rows dbIndex rfl) never).bind ?_ (fun _ _ _ _ => trivial)
      intro toSync compared here _
      apply here.looks
      have sends : Uses Op.Looks (sendFiles ctx toSync) := by
        refine Uses.bind (uses_foldlM _ _ ?_) (fun _ => (nothing _).bind (fun _ => uses_forM _ ?_))
        · intro bytes path _
          exact uses_sizeOf.bind (fun _ => uses_pure)
        · intro file _
          exact uses_unlessShutdown .isCancelled (uses_scanProgress.bind (fun _ => nothing _))
      refine sends.bind (fun _ => (uses_forM _ ?_).bind (fun _ => (uses_forM _ ?_).bind ?_))
      · intro dbPath _
        exact uses_unlessShutdown .isCancelled (.ite (fun _ => uses_pure) (fun _ => nothing _))
      · intro file _
        refine uses_unlessShutdown .isCancelled (.ite (fun _ => uses_pure) (fun _ => ?_))
        refine (uses_isDir (.metadata _)).bind (fun _ => .ite (fun _ => uses_pure) (fun _ => ?_))
        refine .ite (fun _ => uses_pure) (fun _ => (uses_isDir (.metadata _)).bind (fun _ => ?_))
        exact .ite (fun _ => uses_pure) (fun _ => nothing _)
      · intro _
        exact uses_reportWhen .idle

/-- A simulated scan that finds no file to record leaves the database alone and sends nothing. -/
theorem simulated_scan_untouched (dry : ctx.dryRun = true)
    (answers
      : ∀ folder disk remote answer after,
          env.provider (.listRemote folder) disk remote answer after → answer = listing)
    (configured : ctx.cfg.getPrimaryPair = some primary)
    (never : RecordsNoFile env listing primary ignore w)
    : Always env.sem (Untouched w) (scan ctx ignore) w (fun _ _ => True) := by
  have here : Simulating listing primary ignore w w := ⟨⟨rfl, rfl, rfl⟩, fun _ => .inl⟩
  have simulated
      : Always env.sem (Simulating listing primary ignore w) (scan ctx ignore) w
          (fun _ _ => True) := by
    simp only [scan, configured, orError]
    change Always env.sem _ (listRemote primary >>= _) w _
    refine ((here.always prepares_listRemote ?_).and (listRemote_returns answers)).seq
      (fun _ both => both.1) ?_ (fun _ _ _ _ => trivial)
    · apply uses_listRemote.mono
      intro op asked
      rcases asked with looks | listing
      · exact looks.entersOnly
      · subst listing
        intro _ _ _ entering
        cases entering
    intro index listed_ both returned
    obtain ⟨here, -⟩ := both
    cases returned.2
    refine (here.always prepares_fillCache ?_).bind ?_ (fun _ _ _ _ => trivial)
    · exact entersOnly_fillCache (fun file member => .inr (.inl ⟨file, member, rfl⟩))
        (fun dir member => .inr (.inr (.inl ⟨dir, member, rfl⟩)))
    intro _ filled here _
    refine ((here.looks uses_takeInventory).and takeInventory_finds).seq (fun _ both => both.1) ?_
      (fun _ _ _ _ => trivial)
    intro inventory walked both found
    obtain ⟨sameDisk⟩ := here.untouched
    obtain ⟨here, -⟩ := both
    obtain ⟨files, dirs⟩ := found.2 inventory rfl
    rw [sameDisk] at files dirs
    rw [files, dirs]
    refine (here.always prepares_createFolders ?_).bind ?_ (fun _ _ _ _ => trivial)
    · exact entersOnly_createFolders (fun rel walked => .inr (.inr (.inr ⟨rel, walked, rfl⟩)))
    · intro _ created here _
      exact here.reconcile dry never
  exact (simulated.weaken (fun _ simulating => simulating.untouched)).mono (fun _ _ _ _ => trivial)

end Scan

-----------------------------------------------------------------------------------------
-- A dispatcher that records nothing
-----------------------------------------------------------------------------------------

/-- Offline, nothing of the event lies below the root. -/
def WatchEvent.Outside (root : Path) : WatchEvent → Prop
  | .modified _ => True
  | .deleted path => Path.stripPrefix root path = none
  | .renamed source target =>
      Path.stripPrefix root source = none ∨ Path.stripPrefix root target = none

/-- The rows are as they were, and the connection is. -/
structure SameRows (w state : World) : Prop where
  db : state.db = w.db
  offline : state.offline = w.offline

section Dispatcher

variable {env : Environment} {w state : World} {root : Path}

/-- What writes no row keeps the rows. -/
theorem SameRows.always {α : Type} {program : Eff α} (same : SameRows w state)
    (uses : Uses (fun op : Op => op.writes ≠ some .db) program)
    : Always env.sem (SameRows w) program state (fun _ _ => True) := by
  apply uses.always _ same
  intro op here answer after spares same served
  have keeps := env.sem_keeps served
  exact ⟨(keeps.db spares).trans same.db, keeps.offline.trans same.offline⟩

/-- Asking for the connection is answered as at first. -/
theorem SameRows.always_isOffline {α : Type} {f : Bool → Eff α}
    {post : Except Error α → World → Prop} (same : SameRows w state)
    (rest : Always env.sem (SameRows w) (f w.offline) state post)
    : Always env.sem (SameRows w) (ask .isOffline >>= f) state post := by
  refine always_ask_bind.mpr ⟨same, ?_⟩
  intro answer after served
  obtain ⟨rfl, rfl⟩ := served
  rw [same.offline]
  exact rest

theorem SameRows.dispatchEvent {event : WatchEvent} (same : SameRows w state)
    (outside : w.offline = true → event.Outside root)
    : Always env.sem (SameRows w) (SyncGDrive.dispatchEvent root event) state
        (fun _ _ => True) := by
  cases event with
  | modified path => exact ⟨same, trivial⟩
  | deleted path =>
      apply same.always_isOffline
      cases offline : w.offline with
      | true =>
          have elsewhere : Path.stripPrefix root path = none := outside offline
          simp only [if_true, recordOffline, elsewhere]
          exact ⟨same, trivial⟩
      | false =>
          simp only [Bool.false_eq_true, if_false]
          exact same.always ((uses_ask (by simp [Op.writes])).bind
            (fun _ => uses_ask (by simp [Op.writes])))
  | renamed source target =>
      apply same.always_isOffline
      cases offline : w.offline with
      | true =>
          simp only [if_true]
          split
          · rename_i sourceRel targetRel inSource inTarget
            rcases outside offline with elsewhere | elsewhere
            · cases inSource.symm.trans elsewhere
            · cases inTarget.symm.trans elsewhere
          · exact ⟨same, trivial⟩
      | false =>
          simp only [Bool.false_eq_true, if_false]
          exact same.always ((uses_ask (by simp [Op.writes])).bind
            (fun _ => uses_ask (by simp [Op.writes])))

/-- The paths of a tick, by induction on them. -/
theorem SameRows.dispatchAll {paths : List Path} (same : SameRows w state)
    (outside : w.offline = true → ∀ path ∈ paths, Path.stripPrefix root path = none)
    : Always env.sem (SameRows w) (SyncGDrive.dispatchAll root paths) state (fun _ _ => True) := by
  induction paths generalizing state with
  | nil => exact ⟨same, trivial⟩
  | cons path paths ih =>
      have first
          : Always env.sem (SameRows w) (dispatchReady root path) state (fun _ _ => True) := by
        apply same.always_isOffline
        cases offline : w.offline with
        | true =>
            simp only [if_true, recordOffline, outside offline path List.mem_cons_self]
            exact ⟨same, trivial⟩
        | false =>
            simp only [Bool.false_eq_true, if_false]
            apply same.always
            refine (uses_sizeOf.mono (fun op looks => ?_)).bind (fun _ => ?_)
            · rw [looks.silent]
              simp
            · exact (uses_ask (by simp [Op.writes])).bind
                (fun _ => uses_ask (by simp [Op.writes]))
      refine first.bind ?_ (fun _ _ _ _ => trivial)
      intro goesOn middle same _
      split
      · exact ih same (fun offline path member =>
          outside offline path (List.mem_cons_of_mem _ member))
      · exact ⟨same, trivial⟩

end Dispatcher

-----------------------------------------------------------------------------------------
-- Runs of a simulation
-----------------------------------------------------------------------------------------

/-- What happens while an engine simulates: the outside moves on, a scan runs that gets a listing,
the watcher reports an event, the delay of paths has elapsed, or a task is handled.
-/
inductive Activity
  | outside
  | scan (cfg : AppConfig) (ignore : IgnoreMatcher) (listing : Except Error RemoteIndex)
  | event (localRoot : Path) (seen : WatchEvent)
  | ready (localRoot : Path) (paths : List Path)
  | handle (cfg : AppConfig) (ignore : IgnoreMatcher) (task : Task)

/-- The program reaches that world, be it at its end or not, where anything but the listing may
fail.
-/
def GetsTo {α : Type} (md5 : List UInt8 → String) (listing : Except Error RemoteIndex)
    (program : Eff α) (w next : World)
    : Prop :=
  ∃ rest, Reaches (Environment.unruly md5 listing).sem program w rest next

/-- How a simulation moves. The outside changes anything but the database. -/
def Activity.Moves (md5 : List UInt8 → String) : Moves World Activity
  | w, .outside, next => next.db = w.db
  | w, .scan cfg ignore listing, next =>
      GetsTo md5 listing (SyncGDrive.scan ⟨cfg, true⟩ ignore) w next
  | w, .event root seen, next => GetsTo md5 (.ok ⟨[], []⟩) (dispatchEvent root seen) w next
  | w, .ready root paths, next => GetsTo md5 (.ok ⟨[], []⟩) (dispatchAll root paths) w next
  | w, .handle cfg ignore task, next =>
      GetsTo md5 (.ok ⟨[], []⟩) (SyncGDrive.handle ⟨cfg, true⟩ ignore task) w next

/-- The tasks that scans have sent. -/
def sentByScans : Watch World Activity (List Task)
  | sent, w, .scan .., next => sent ++ next.tasks.drop w.tasks.length
  | sent, _, _, _ => sent

/-- No scan finds a file to record, and nothing below the root is passed on offline. -/
def RecordsNothing (md5 : List UInt8 → String) : Discipline World Activity (List Task)
  | _, w, .scan cfg ignore listing, _ =>
      ∀ primary ∈ cfg.getPrimaryPair,
        RecordsNoFile (Environment.unruly md5 listing) listing primary ignore w
  | _, w, .event root event, _ => w.offline = true → event.Outside root
  | _, w, .ready root paths, _ =>
      w.offline = true → ∀ path ∈ paths, Path.stripPrefix root path = none
  | _, _, _, _ => True

variable {md5 : List UInt8 → String} {w next : World}

/-- A scan of a simulation, whatever it is configured with. -/
theorem scan_simulated {cfg : AppConfig} {ignore : IgnoreMatcher}
    {listing : Except Error RemoteIndex}
    (never
      : ∀ primary ∈ cfg.getPrimaryPair,
          RecordsNoFile (Environment.unruly md5 listing) listing primary ignore w)
    (run : GetsTo md5 listing (scan ⟨cfg, true⟩ ignore) w next)
    : Untouched w next := by
  obtain ⟨rest, reached⟩ := run
  cases configured : cfg.getPrimaryPair with
  | none =>
      have ends : scan ⟨cfg, true⟩ ignore = .done (.error (.msg "Aucun dossier")) := by
        simp only [scan, configured, orError]
        rfl
      rw [ends] at reached
      cases reached
      exact ⟨rfl, rfl, rfl⟩
  | some primary =>
      exact ((simulated_scan_untouched rfl (fun _ _ _ _ _ answered => answered) configured
        (never primary configured)).reaches reached).here

/-- A simulation of which no step has anything to record leaves the database as it was, and its
scans send nothing; a real run after it begins as at first, with the disk and the drive of now.
-/
theorem simulation_keeps_database {first last : World} {sent : List Task}
    (run
      : Observed (Activity.Moves md5) sentByScans (RecordsNothing md5) [] first sent last)
    : last.db = first.db ∧ sent = []
      ∧ ∀ host cfg,
          SyncEngine.launch host last cfg false
            = SyncEngine.launch host
                { first with disk := last.disk, remote := last.remote, statuses := last.statuses }
                cfg false := by
  have kept : last.db = first.db ∧ sent = [] := by
    refine run.invariant (fun sent w => w.db = first.db ∧ sent = []) ⟨rfl, rfl⟩ ?_
    intro sent w activity next before moved fine
    obtain ⟨same, rfl⟩ := before
    cases activity with
    | outside => exact ⟨Eq.trans moved same, rfl⟩
    | scan cfg ignore listing =>
        have untouched := scan_simulated fine moved
        refine ⟨untouched.db.trans same, ?_⟩
        simp [sentByScans, untouched.tasks]
    | event root event =>
        obtain ⟨rest, reached⟩ := moved
        have rows : SameRows w w := ⟨rfl, rfl⟩
        exact ⟨((rows.dispatchEvent fine).reaches reached).here.db.trans same, rfl⟩
    | ready root paths =>
        obtain ⟨rest, reached⟩ := moved
        have rows : SameRows w w := ⟨rfl, rfl⟩
        exact ⟨((rows.dispatchAll fine).reaches reached).here.db.trans same, rfl⟩
    | handle cfg ignore task =>
        obtain ⟨rest, reached⟩ := moved
        rw [SyncGDrive.handle.eq_def, if_pos rfl] at reached
        cases reached
        exact ⟨same, rfl⟩
  refine ⟨kept.1, kept.2, ?_⟩
  intro host cfg
  simp only [SyncEngine.launch, kept.1]

theorem unrecordedWorld_dirs
    : walkedDirs unrecordedWorld.disk backupPair.localPath .nothing = [] := by
  simp [walkedDirs, unrecordedWorld, backupPair, Disk.walkDir, Disk.backup_entry?, Node.walk,
    IgnoreMatcher.keeps, IgnoreMatcher.nothing_isIgnored, Listing.yielded, Listing.single]
  decide

/-- The remote does not have the file: a simulated scan can end, and has recorded nothing. -/
theorem simulated_newcomer
    : ∃ last,
        Reaches (Environment.unruly (fun _ => "digest") (.ok ⟨[], []⟩)).sem
          (scan ⟨backupConfig, true⟩ .nothing) unrecordedWorld (.done (.ok ())) last
        ∧ last.db = unrecordedWorld.db ∧ last.tasks = [] := by
  have fine : RecordsNothing (fun _ => "digest") [] unrecordedWorld
      (.scan backupConfig .nothing (.ok ⟨[], []⟩)) unrecordedWorld := by
    intro primary configured rel walked hash known
    obtain rfl : primary = backupPair := (Option.some.inj configured).symm
    rw [unrecordedWorld_rels, List.mem_singleton] at walked
    subst walked
    rcases known with cached | listed | listed | directory
    · cases cached
    · obtain ⟨file, member, -⟩ := listed
      cases member
    · obtain ⟨dir, member, -⟩ := listed
      cases member
    · obtain ⟨dir, member, -⟩ := directory
      rw [unrecordedWorld_dirs] at member
      cases member
  have ends : NeverFails (Environment.obliging (fun _ => "digest") (.ok ⟨[], []⟩))
      (scan ⟨backupConfig, true⟩ .nothing) :=
    neverFails_scan (fun _ => id) rfl (fun _ name _ _ _ _ made => ⟨name, made⟩)
  obtain ⟨result, last, reached, -, value, rfl⟩ := obliging_run (ends unrecordedWorld rfl)
  have moved : Activity.Moves (fun _ => "digest") unrecordedWorld
      (.scan backupConfig .nothing (.ok ⟨[], []⟩)) last := ⟨_, reached⟩
  have kept := simulation_keeps_database (.step .start moved fine)
  refine ⟨last, reached, kept.1, ?_⟩
  simpa [sentByScans, unrecordedWorld] using kept.2.1

/-- A deletion that the dispatcher passes on offline enters the queue of a simulation. -/
theorem simulated_deletion_recorded
    : ∃ sent last,
        Observed (Activity.Moves (fun _ => "digest")) sentByScans anyStep []
          { unrecordedWorld with offline := true } sent last
        ∧ last.db.getOfflineTasks ≠ unrecordedWorld.db.getOfflineTasks := by
  let w : World := { unrecordedWorld with offline := true }
  let last : World := { w with db := w.db.pushOfflineTask "delete" "a" none }
  have moved : Activity.Moves (fun _ => "digest") w
      (.event [.utf8 "backup"] (.deleted [.utf8 "backup", .utf8 "a"])) last :=
    ⟨.done (.ok true), .step ⟨rfl, rfl⟩ (.step (.inl ⟨rfl, rfl⟩) .refl)⟩
  refine ⟨_, last, .step .start moved trivial, ?_⟩
  intro same
  have lengths := congrArg List.length same
  cases lengths

end SyncGDrive
