import SyncGDrive.Data.Concat
import SyncGDrive.Engine.Calls
import SyncGDrive.Program.Notes

/-! The folders that a scan creates: every missing one on the way to a local directory, each once,
with the folder above it as parent.
-/

namespace SyncGDrive

open Program

-----------------------------------------------------------------------------------------
-- Phase 2 with its counters
-----------------------------------------------------------------------------------------

/-- `dirs_verified` and `dirs_created`. -/
structure FolderCounts where
  verified : Nat := 0
  created : Nat := 0
  deriving DecidableEq

/-- `enterFolder`, counting the folders that it creates. -/
def enterCounting (ctx : EngineContext) (current : (String × DriveId) × FolderCounts)
    (name : OsString)
    : Eff ((String × DriveId) × FolderCounts) := do
  let part := name.toStringLossy
  let currentRel := pushKey current.1.1 part
  match ← ask (.lookup currentRel) with
  | some entry => return ((currentRel, entry.driveId), current.2)
  | none =>
      let newId ← enterFolder.create ctx current.1 currentRel part
      ask (.insert currentRel newId current.1.2)
      return ((currentRel, newId), { current.2 with created := current.2.created + 1 })

/-- `ensureFolder`, counting. -/
def ensureCounting (ctx : EngineContext) (primary : SyncPair) (totalDirs : Nat)
    (counts : FolderCounts) (dir : Path × Nat)
    : Eff FolderCounts :=
  unlessShutdown do
    match Path.stripPrefix primary.localPath dir.1 with
    | none => throw (.msg "prefix not found")
    | some rel =>
        scanProgress .directories (dir.2 + 1) totalDirs ((Path.fileName? rel).getD "")
        match ← ask (.lookup (relKey rel)) with
        | some _ => return { counts with verified := counts.verified + 1 }
        | none =>
            let entered ← rel.foldlM (enterCounting ctx) (("", primary.remoteFolderId), counts)
            return entered.2

/-- Phase 2, with what it counts. -/
def countFolders (ctx : EngineContext) (primary : SyncPair) (localDirs : List Path)
    : Eff FolderCounts :=
  localDirs.zipIdx.foldlM (ensureCounting ctx primary localDirs.length) {}

section Counting

variable {ctx : EngineContext} {primary : SyncPair}

theorem enterFolder_eq (current : (String × DriveId) × FolderCounts) (name : OsString)
    : enterFolder ctx current.1 name = Prod.fst <$> enterCounting ctx current name := by
  simp only [enterFolder, enterCounting, map_bind]
  refine bind_congr (fun cached => ?_)
  cases cached with
  | some entry => rfl
  | none =>
      simp only [map_bind]
      rfl

theorem enterFolders_eq (names : List OsString) (current : (String × DriveId) × FolderCounts)
    : names.foldlM (enterFolder ctx) current.1
      = Prod.fst <$> names.foldlM (enterCounting ctx) current := by
  induction names generalizing current with
  | nil => rfl
  | cons name names ih =>
      simp only [List.foldlM_cons, enterFolder_eq, map_bind, bind_map_left]
      exact bind_congr (fun entered => ih entered)

theorem ensureFolder_eq {total : Nat} {counts : FolderCounts} {dir : Path × Nat}
    : ensureFolder ctx primary total dir
      = (fun _ => ()) <$> ensureCounting ctx primary total counts dir := by
  simp only [ensureFolder, ensureCounting, unlessShutdown, map_bind]
  refine bind_congr (fun cancelled => ?_)
  split
  · rfl
  cases Path.stripPrefix primary.localPath dir.1 with
  | none => rfl
  | some rel =>
      simp only [map_bind]
      refine bind_congr (fun _ => bind_congr (fun cached => ?_))
      cases cached with
      | some entry => rfl
      | none =>
          simp only [discard, Functor.discard, LawfulFunctor.map_const, Function.comp_apply,
            enterFolders_eq rel (("", primary.remoteFolderId), counts), map_bind, Functor.map_map]
          rfl

/-- Counting aside, it is the second phase of the scan. -/
theorem createFolders_eq (localDirs : List Path)
    : createFolders ctx primary localDirs
      = (fun _ => ()) <$> countFolders ctx primary localDirs := by
  have loop (dirs : List (Path × Nat)) (counts : FolderCounts)
      : dirs.forM (ensureFolder ctx primary localDirs.length)
        = (fun _ => ()) <$> dirs.foldlM (ensureCounting ctx primary localDirs.length) counts := by
    induction dirs generalizing counts with
    | nil => rfl
    | cons dir dirs ih =>
        change (ensureFolder ctx primary localDirs.length dir >>= fun _ => dirs.forM _) = _
        rw [List.foldlM_cons, @ensureFolder_eq _ _ _ counts, bind_map_left, map_bind]
        exact bind_congr (fun counts => ih counts)
  exact loop _ {}

end Counting

-----------------------------------------------------------------------------------------
-- Calls of mkdir
-----------------------------------------------------------------------------------------

/-- A call of `mkdir` that has succeeded. -/
structure MkdirCall where
  parent : DriveId
  name : String
  id : DriveId
  deriving DecidableEq

/-- The calls that have succeeded, and how many have failed since the last of them. -/
structure MkdirLog where
  made : List MkdirCall := []
  failures : Nat := 0
  deriving DecidableEq

/-- Only calls of `mkdir` are noted. -/
def MkdirLog.note : Noting effects MkdirLog
  | .provider (.mkdir parent name), .ok id, log => ⟨log.made ++ [⟨parent, name, id⟩], 0⟩
  | .provider (.mkdir _ _), .error _, log => { log with failures := log.failures + 1 }
  | _, _, log => log

/-- A folder that a list of directories calls for: it is on the way to one that is not cached, and
is not cached itself.
-/
structure FolderMissing (w : World) (rels : List Path) (rel : Path) : Prop where
  named : rel ≠ []
  uncached : w.pathCache.lookup (relKey rel) = none
  wanted : ∃ dir ∈ rels, w.pathCache.lookup (relKey dir) = none ∧ rel <+: dir

/-- The call has made the folder at a path, with the folder above it as parent. -/
structure FolderMade (primary : SyncPair) (state : World) (rel : Path) (call : MkdirCall)
    : Prop where
  cached : state.pathCache.lookup (relKey rel) = some ⟨call.id, call.parent⟩
  parent : state.folderId? primary (relKey rel.dropLast) = some call.parent
  name : rel.getLast?.map OsString.toStringLossy = some call.name

/-- Some paths that were not cached have been given folders, one after the other, and nothing else
has happened to the cache. A simulation makes up their identifiers and calls nobody.
-/
structure FoldersMade (ctx : EngineContext) (primary : SyncPair) (w : World) (made : List Path)
    (state : World) (log : MkdirLog)
    : Prop where
  distinct : made.Nodup
  plain : ∀ rel ∈ made, Plain rel
  fresh : ∀ rel ∈ made, w.pathCache.lookup (relKey rel) = none
  others
    : ∀ key, key ∉ made.map relKey → state.pathCache.lookup key = w.pathCache.lookup key
  cached : ∀ rel ∈ made, ∃ call, FolderMade primary state rel call
  calls : ctx.dryRun = false → List.Forall₂ (FolderMade primary state) made log.made
  simulated : ctx.dryRun = true → log.made = []

section Growing

variable {ctx : EngineContext} {primary : SyncPair} {w state after : World} {made : List Path}
  {log : MkdirLog} {rel : Path}

/-- The cache has kept its entries. -/
def World.Grows (state after : World) : Prop :=
  ∀ key entry,
    state.pathCache.lookup key = some entry → after.pathCache.lookup key = some entry

theorem World.Grows.folderId {key : String} {id : DriveId} (grows : state.Grows after)
    (known : state.folderId? primary key = some id)
    : after.folderId? primary key = some id := by
  unfold World.folderId? at known ⊢
  split
  · rename_i top
    rwa [if_pos top] at known
  · rename_i below
    rw [if_neg below, Option.map_eq_some_iff] at known
    obtain ⟨entry, found, rfl⟩ := known
    rw [grows key entry found]
    rfl

theorem FolderMade.grows {call : MkdirCall} (folder : FolderMade primary state rel call)
    (grows : state.Grows after)
    : FolderMade primary after rel call :=
  ⟨grows _ _ folder.cached, grows.folderId folder.parent, folder.name⟩

/-- A key that is new to the cache is added to it. -/
theorem World.grows_insert {key : String} {id parent : DriveId}
    (new : state.pathCache.lookup key = none)
    : state.Grows { state with pathCache := state.pathCache.insert key id parent } := by
  intro other entry found
  rw [PathCache.lookup_insert, if_neg]
  · exact found
  · rintro rfl
    rw [new] at found
    cases found

/-- A path whose key is cached by now, and was not before, has been given its folder. -/
theorem FoldersMade.mem (folders : FoldersMade ctx primary w made state log) (plain : Plain rel)
    (uncached : w.pathCache.lookup (relKey rel) = none)
    (known : (state.pathCache.lookup (relKey rel)).isSome)
    : rel ∈ made := by
  by_contra absent
  rw [folders.others, uncached] at known
  · cases known
  · intro member
    obtain ⟨other, inMade, same⟩ := List.mem_map.mp member
    exact absent (relKey_inj (folders.plain other inMade) plain same ▸ inMade)

/-- A path whose key is not cached has not been given a folder. -/
theorem FoldersMade.not_mem (folders : FoldersMade ctx primary w made state log)
    (unknown : state.pathCache.lookup (relKey rel) = none)
    : relKey rel ∉ made.map relKey := by
  intro member
  obtain ⟨other, inMade, same⟩ := List.mem_map.mp member
  obtain ⟨call, folder⟩ := folders.cached other inMade
  have cached := folder.cached
  rw [same, unknown] at cached
  cases cached

/-- One more folder, below one that is known. -/
theorem FoldersMade.add (folders : FoldersMade ctx primary w made state log) {name : OsString}
    {id parent : DriveId} {log' : MkdirLog} (plain : Plain (rel ++ [name]))
    (unknown : state.pathCache.lookup (relKey (rel ++ [name])) = none)
    (above : state.folderId? primary (relKey rel) = some parent)
    (stored
      : after.pathCache = state.pathCache.insert (relKey (rel ++ [name])) id parent)
    (noted
      : log'.made
        = if ctx.dryRun then log.made else log.made ++ [⟨parent, name.toStringLossy, id⟩])
    : FoldersMade ctx primary w (made ++ [rel ++ [name]]) after log' := by
  have absent := folders.not_mem unknown
  have uncached : w.pathCache.lookup (relKey (rel ++ [name])) = none := by
    rw [← folders.others _ absent, unknown]
  have grows : state.Grows after := by
    have grown := @World.grows_insert state _ id parent unknown
    intro key entry found
    rw [stored]
    exact grown key entry found
  have folder
      : FolderMade primary after (rel ++ [name]) ⟨parent, name.toStringLossy, id⟩ := by
    refine ⟨?_, ?_, by simp⟩
    · rw [stored, PathCache.lookup_insert, if_pos rfl]
    · rw [List.dropLast_concat]
      exact grows.folderId above
  constructor
  · refine List.nodup_append.mpr ⟨folders.distinct, List.nodup_singleton _, ?_⟩
    rintro other inMade _ member rfl
    rw [List.mem_singleton] at member
    exact absent (member ▸ List.mem_map_of_mem inMade)
  · exact List.forall_mem_concat.mpr ⟨folders.plain, plain⟩
  · exact List.forall_mem_concat.mpr ⟨folders.fresh, uncached⟩
  · intro key notMade
    rw [List.map_append, List.mem_append, not_or] at notMade
    rw [stored, PathCache.lookup_insert, if_neg (by simpa using notMade.2)]
    exact folders.others key notMade.1
  · refine List.forall_mem_concat.mpr ⟨fun other old => ?_, _, folder⟩
    obtain ⟨call, made⟩ := folders.cached other old
    exact ⟨call, made.grows grows⟩
  · intro real
    rw [noted, if_neg (by simp [real])]
    refine List.rel_append ((folders.calls real).imp (fun _ _ made => made.grows grows)) ?_
    exact .cons folder .nil
  · intro simulated
    rw [noted, if_pos simulated]
    exact folders.simulated simulated

/-- What is known of the folders depends on the cache only. -/
theorem FoldersMade.same (folders : FoldersMade ctx primary w made state log) {log' : MkdirLog}
    (cache : after.pathCache = state.pathCache) (noted : log'.made = log.made)
    : FoldersMade ctx primary w made after log' := by
  have grows : state.Grows after := fun key entry found => cache ▸ found
  refine ⟨folders.distinct, folders.plain, folders.fresh, ?_, ?_, ?_, ?_⟩
  · rw [cache]
    exact folders.others
  · intro rel member
    obtain ⟨call, folder⟩ := folders.cached rel member
    exact ⟨call, folder.grows grows⟩
  · rw [noted]
    exact fun real => (folders.calls real).imp (fun _ _ folder => folder.grows grows)
  · rw [noted]
    exact folders.simulated

end Growing

-----------------------------------------------------------------------------------------
-- The two loops
-----------------------------------------------------------------------------------------

section Loops

variable {env : Environment} {ctx : EngineContext} {primary : SyncPair} {w state : World}
  {log : MkdirLog} {α β : Type}

/-- Where nothing disturbs the environment, the flag has not changed since. -/
def Environment.Flags (env : Environment) (w state : World) : Prop :=
  env.Undisturbed → state.shutdown = w.shutdown

/-- An operation that is no call of `mkdir` and leaves the cache alone. -/
def Op.Beside (op : Op) : Prop :=
  op.writes ≠ some .pathCache ∧ ∀ parent name, op ≠ .provider (.mkdir parent name)

theorem Op.Beside.silent {op : Op} (beside : op.Beside) : Program.Silent MkdirLog.note op := by
  intro answer log
  cases op with
  | provider call =>
      cases call with
      | mkdir parent name => exact absurd rfl (beside.2 parent name)
      | listRemote | upload | delete | rename => rfl
  | _ => rfl

/-- Such an operation passes without a trace. -/
theorem noted_beside {op : Op} {answer : op.Answer} {here after : World × MkdirLog}
    (beside : op.Beside) (served : noted env.sem MkdirLog.note op here answer after)
    : after.2 = here.2
      ∧ env.sem op here.1 answer after.1
      ∧ after.1.pathCache = here.1.pathCache
      ∧ env.Flags here.1 after.1 := by
  obtain ⟨served, log⟩ := served
  rw [beside.silent answer here.2] at log
  exact ⟨log, served, (env.sem_keeps served).pathCache beside.1,
    fun quiet => env.sem_shutdown quiet served⟩

theorem always_beside {op : Op} {f : op.Answer → Eff α}
    {post : Except Error α → World × MkdirLog → Prop} (beside : op.Beside)
    (rest
      : ∀ answer after,
          env.sem op state answer after → after.pathCache = state.pathCache
          → env.Flags state after
          → Always (noted env.sem MkdirLog.note) (fun _ => True) (f answer) (after, log) post)
    : Always (noted env.sem MkdirLog.note) (fun _ => True) (ask op >>= f) (state, log) post := by
  refine ⟨trivial, ?_⟩
  rintro answer ⟨after, _⟩ noted
  obtain ⟨rfl, served, same, flags⟩ := noted_beside beside noted
  exact rest answer after served same flags

/-- How many attempts `retry` makes. -/
def AppConfig.attempts (cfg : AppConfig) : Nat := cfg.retry.maxAttempts - 1 + 1

/-- What the attempts at one folder leave: its call, or as many failures as there are attempts. -/
def Attempted (env : Environment) (cfg : AppConfig) (parent : DriveId) (name : String)
    (start : World) (before : List MkdirCall) (result : Except Error DriveId)
    (here : World × MkdirLog)
    : Prop :=
  here.1.pathCache = start.pathCache ∧ env.Flags start here.1
  ∧ match result with
    | .ok id => here.2 = ⟨before ++ [⟨parent, name, id⟩], 0⟩
    | .error _ =>
        here.2.made = before
        ∧ (env.Undisturbed → start.shutdown = false → here.2.failures = cfg.attempts)

/-- Where the attempts stand: the failures so far and the attempts still to come are all attempts.
-/
structure Attempting (env : Environment) (cfg : AppConfig) (start : World) (before : List MkdirCall)
    (still : Nat) (here : World × MkdirLog)
    : Prop where
  cache : here.1.pathCache = start.pathCache
  flags : env.Flags start here.1
  made : here.2.made = before
  count : here.2.failures + still = cfg.attempts

/-- Between the attempts nothing is counted. -/
theorem Attempting.paused {cfg : AppConfig} {before : List MkdirCall} {still : Nat} {op : Op}
    {answer : op.Answer} {here after : World × MkdirLog}
    (attempting : Attempting env cfg state before still here) (beside : op.Beside)
    (served : noted env.sem MkdirLog.note op here answer after)
    : Attempting env cfg state before still after := by
  obtain ⟨log, -, same, flags⟩ := noted_beside beside served
  exact {
    cache := same.trans attempting.cache
    flags := fun quiet => (flags quiet).trans (attempting.flags quiet)
    made := log ▸ attempting.made
    count := log ▸ attempting.count
  }

/-- The attempts at one folder leave its call, or as many failures as there are attempts. -/
theorem always_retry_mkdir {cfg : AppConfig} {parent : DriveId} {name : String}
    (fresh : log.failures = 0)
    : Always (noted env.sem MkdirLog.note) (fun _ => True)
        (retry cfg (ask (.provider (.mkdir parent name)))) (state, log)
        (Attempted env cfg parent name state log.made) := by
  have start : Attempting env cfg state log.made (cfg.retry.maxAttempts - 1 + 1) (state, log) :=
    ⟨rfl, fun _ => rfl, rfl, by rw [fresh, Nat.zero_add, AppConfig.attempts]⟩
  apply always_retry (fun left => Attempting env cfg state log.made (left + 1))
    (fun left _ => Attempting env cfg state log.made left) _ _ _ start
  · intro left here attempting
    refine ⟨trivial, fun cancelled after served => ?_⟩
    have checked := attempting.paused ⟨by simp [Op.writes], by rintro _ _ ⟨⟩⟩ served
    cases cancelled with
    | true =>
        refine ⟨trivial, checked.cache, checked.flags, checked.made, fun quiet running => ?_⟩
        obtain ⟨stopped, same⟩ := quiet.sem_isCancelled.mp served.1
        rw [← checked.flags quiet, same, ← stopped] at running
        cases running
    | false =>
        refine ⟨trivial, ?_⟩
        rintro answer ⟨_, _⟩ ⟨⟨remote, -, rfl⟩, rfl⟩
        cases answer with
        | ok id =>
            refine ⟨trivial, checked.cache, checked.flags, ?_⟩
            simp only [MkdirLog.note, checked.made]
        | error error =>
            refine ⟨trivial, checked.cache, checked.flags, checked.made, ?_⟩
            have count := checked.count
            simp only [MkdirLog.note]
            omega
  · intro error here _ attempting
    exact ⟨attempting.cache, attempting.flags, attempting.made, fun _ _ => attempting.count⟩
  · intro left error here _ attempting stopped after served
    have slept := attempting.paused ⟨by simp [Op.writes], by rintro _ _ ⟨⟩⟩ served
    cases stopped with
    | true =>
        refine ⟨trivial, slept.cache, slept.flags, slept.made, fun quiet running => ?_⟩
        rw [← slept.flags quiet] at running
        obtain ⟨⟨-, flag | ⟨off, -⟩⟩, -⟩ := served
        · rw [← flag] at running
          cases running
        · cases off
    | false => exact slept

/-- Where the loops stand: these folders have been made and counted, and no attempt is left open. -/
structure FolderLoop (env : Environment) (ctx : EngineContext) (primary : SyncPair) (w : World)
    (made : List Path) (counts : FolderCounts) (here : World × MkdirLog)
    : Prop where
  folders : FoldersMade ctx primary w made here.1 here.2
  created : counts.created = made.length
  failures : here.2.failures = 0
  flags : env.Flags w here.1

/-- Where the loops break off: without a shutdown, all attempts at one folder have failed. -/
structure FolderStop (env : Environment) (ctx : EngineContext) (primary : SyncPair) (w : World)
    (made : List Path) (here : World × MkdirLog)
    : Prop where
  folders : FoldersMade ctx primary w made here.1 here.2
  failures : env.Undisturbed → w.shutdown = false → here.2.failures = ctx.cfg.attempts

theorem FolderLoop.same {made : List Path} {counts : FolderCounts} {after : World}
    (loop : FolderLoop env ctx primary w made counts (state, log))
    (cache : after.pathCache = state.pathCache) (flags : env.Flags state after)
    : FolderLoop env ctx primary w made counts (after, log) :=
  ⟨loop.folders.same cache rfl, loop.created, loop.failures,
    fun quiet => (flags quiet).trans (loop.flags quiet)⟩

/-- Looking up a key changes nothing. -/
theorem always_noted_lookup {key : String} {f : Option CacheEntry → Eff α}
    {post : Except Error α → World × MkdirLog → Prop}
    (rest
      : Always (noted env.sem MkdirLog.note) (fun _ => True) (f (state.pathCache.lookup key))
          (state, log) post)
    : Always (noted env.sem MkdirLog.note) (fun _ => True) (ask (.lookup key) >>= f) (state, log)
        post := by
  refine always_noted.mpr ⟨trivial, ?_⟩
  rintro _ _ ⟨rfl, rfl⟩
  exact rest

/-- What the loops have come to at a path: its key with its folder, and one more folder made if it
was missing; or they have broken off.
-/
def Entered (env : Environment) (ctx : EngineContext) (primary : SyncPair) (w : World)
    (made : List Path) (path : Path) (result : Except Error ((String × DriveId) × FolderCounts))
    (here : World × MkdirLog)
    : Prop :=
  match result with
  | .ok (current, counts) =>
      current.1 = relKey path ∧ here.1.folderId? primary current.1 = some current.2
      ∧ ∃ made',
          FolderLoop env ctx primary w made' counts here
          ∧ ∀ rel, rel ∈ made' ↔ rel ∈ made ∨ rel = path ∧ w.pathCache.lookup (relKey rel) = none
  | .error _ => FolderStop env ctx primary w made here

/-- One name further down: the folder is there, or it is made. -/
theorem always_enterCounting {made : List Path} {counts : FolderCounts} {front : Path}
    {name : OsString} {id : DriveId} (plain : Plain (front ++ [name]))
    (loop : FolderLoop env ctx primary w made counts (state, log))
    (above : state.folderId? primary (relKey front) = some id)
    : Always (noted env.sem MkdirLog.note) (fun _ => True)
        (enterCounting ctx ((relKey front, id), counts) name) (state, log)
        (Entered env ctx primary w made (front ++ [name])) := by
  have names := (PlainNames.append.mp plain.2).1
  have below : relKey (front ++ [name]) ≠ "" := relKey_ne_empty plain
  simp only [enterCounting]
  generalize spelled : pushKey (relKey front) name.toStringLossy = key
  obtain rfl : relKey (front ++ [name]) = key := (relKey_push names name).trans spelled
  refine always_noted_lookup ?_
  cases cached : state.pathCache.lookup (relKey (front ++ [name])) with
  | some entry =>
      refine ⟨trivial, rfl, ?_, made, loop, ?_⟩
      · simp only [World.folderId?, below, if_false, cached, Option.map_some]
      · intro rel
        constructor
        · exact .inl
        · rintro (old | ⟨rfl, uncached⟩)
          · exact old
          · exact loop.folders.mem plain uncached (by simp [cached])
  | none =>
      have uncached : w.pathCache.lookup (relKey (front ++ [name])) = none := by
        rw [← loop.folders.others _ (loop.folders.not_mem cached), cached]
      -- What is left once there is an identifier.
      have enter {newId : DriveId} {middle : World} {log' : MkdirLog}
          (same : middle.pathCache = state.pathCache) (flags : env.Flags state middle)
          (fresh : log'.failures = 0)
          (noted
            : log'.made
              = if ctx.dryRun then log.made else log.made ++ [⟨id, name.toStringLossy, newId⟩])
          : Always (Program.noted env.sem MkdirLog.note) (fun _ => True)
              (do
                ask (.insert (relKey (front ++ [name])) newId id)
                return ((relKey (front ++ [name]), newId),
                  { counts with created := counts.created + 1 }))
              (middle, log')
              (Entered env ctx primary w made (front ++ [name])) := by
        refine always_noted.mpr ⟨trivial, ?_⟩
        rintro _ after rfl
        refine ⟨trivial, rfl, ?_, made ++ [front ++ [name]], ⟨?_, ?_, fresh, ?_⟩, ?_⟩
        · simp only [World.folderId?, below, if_false, PathCache.lookup_insert, if_true,
            Option.map_some]
        · exact loop.folders.add plain cached above (by rw [same]) noted
        · rw [List.length_append, ← loop.created]
          rfl
        · exact fun quiet => (flags quiet).trans (loop.flags quiet)
        · intro rel
          rw [List.mem_append, List.mem_singleton]
          refine or_congr_right (iff_self_and.mpr ?_)
          rintro rfl
          exact uncached
      unfold enterFolder.create
      cases real : ctx.dryRun with
      | true => exact enter rfl (fun _ => rfl) loop.failures (by rw [if_pos real])
      | false =>
          refine (always_retry_mkdir loop.failures).bind ?_ ?_
          · rintro newId ⟨middle, log'⟩ - ⟨same, flags, noted⟩
            have noted : log' = _ := noted
            subst noted
            exact enter same flags rfl (by rw [if_neg (by simp [real])])
          · rintro error ⟨middle, log'⟩ - ⟨same, flags, noted, failures⟩
            refine ⟨loop.folders.same same noted, fun quiet running => failures quiet ?_⟩
            exact (loop.flags quiet).trans running

/-- A folder made before, or one on the way to a path that was missing. -/
def Along (w : World) (made : List Path) (path rel : Path) : Prop :=
  rel ∈ made ∨ rel ≠ [] ∧ rel <+: path ∧ w.pathCache.lookup (relKey rel) = none

theorem along_concat {made : List Path} {front rel : Path} {name : OsString}
    : Along w made (front ++ [name]) rel
      ↔ Along w made front rel
        ∨ rel = front ++ [name] ∧ w.pathCache.lookup (relKey rel) = none := by
  unfold Along
  rw [List.prefix_concat_iff]
  constructor
  · rintro (old | ⟨named, rfl | below, uncached⟩)
    · exact .inl (.inl old)
    · exact .inr ⟨rfl, uncached⟩
    · exact .inl (.inr ⟨named, below, uncached⟩)
  · rintro ((old | ⟨named, below, uncached⟩) | ⟨rfl, uncached⟩)
    · exact .inl old
    · exact .inr ⟨named, .inr below, uncached⟩
    · exact .inr ⟨by simp, .inl rfl, uncached⟩

/-- One directory that is not cached: the names one after the other make what is missing. -/
theorem always_enterAll {made : List Path} {counts : FolderCounts} {path : Path}
    (plain : Plain path) (loop : FolderLoop env ctx primary w made counts (state, log))
    : Always (noted env.sem MkdirLog.note) (fun _ => True)
        (path.foldlM (enterCounting ctx) (("", primary.remoteFolderId), counts)) (state, log)
        (fun result here =>
          match result with
          | .ok entered =>
              ∃ made',
                FolderLoop env ctx primary w made' entered.2 here
                ∧ ∀ rel, rel ∈ made' ↔ Along w made path rel
          | .error _ =>
              ∃ made',
                FolderStop env ctx primary w made' here
                  ∧ ∀ rel ∈ made', Along w made path rel) := by
  let inner (rest : Path) (current : (String × DriveId) × FolderCounts) (here : World × MkdirLog)
      : Prop :=
    ∃ front made',
      path = front ++ rest ∧ current.1.1 = relKey front
      ∧ here.1.folderId? primary (relKey front) = some current.1.2
      ∧ FolderLoop env ctx primary w made' current.2 here
      ∧ ∀ rel, rel ∈ made' ↔ Along w made front rel
  refine always_foldlM inner ?_ ?_ path _ ⟨[], made, rfl, relKey_nil.symm, ?_, loop, ?_⟩
  · rintro current here ⟨front, made', split, -, -, loop, which⟩
    rw [List.append_nil] at split
    exact ⟨trivial, made', loop, split ▸ which⟩
  · rintro name rest ⟨⟨key, id⟩, counts⟩ ⟨middle, log⟩
      ⟨front, made', split, rfl, above, loop, which⟩
    have split : path = (front ++ [name]) ++ rest := by simpa using split
    have plainHere : Plain (front ++ [name]) :=
      ⟨by simp, (PlainNames.append.mp (split ▸ plain.2)).1⟩
    refine (always_enterCounting plainHere loop above).mono ?_
    rintro (error | ⟨⟨key, id⟩, counts⟩) here - entered
    · refine ⟨made', entered, fun rel member => ?_⟩
      rcases (which rel).mp member with old | ⟨named, below, uncached⟩
      · exact .inl old
      · refine .inr ⟨named, below.trans ?_, uncached⟩
        rw [split, List.append_assoc]
        exact List.prefix_append ..
    · obtain ⟨rfl, folder, made'', loop, more⟩ := entered
      refine ⟨front ++ [name], made'', split, rfl, folder, loop, fun rel => ?_⟩
      rw [more, which, along_concat]
  · simp [World.folderId?]
  · intro rel
    constructor
    · exact .inl
    · rintro (old | ⟨named, below, -⟩)
      · exact old
      · exact absurd (List.prefix_nil.mp below) named

/-- One more directory calls for the folders on the way to it, if it was missing. -/
theorem folderMissing_concat {front : List Path} {dir rel : Path}
    : FolderMissing w (front ++ [dir]) rel
      ↔ FolderMissing w front rel
        ∨ w.pathCache.lookup (relKey dir) = none ∧ rel ≠ [] ∧ rel <+: dir
          ∧ w.pathCache.lookup (relKey rel) = none := by
  constructor
  · rintro ⟨named, uncached, other, member, missing, below⟩
    rcases List.mem_append.mp member with old | new
    · exact .inl ⟨named, uncached, other, old, missing, below⟩
    · obtain rfl := List.mem_singleton.mp new
      exact .inr ⟨missing, named, below, uncached⟩
  · rintro (⟨named, uncached, other, member, missing, below⟩ | ⟨missing, named, below, uncached⟩)
    · exact ⟨named, uncached, other, List.mem_append_left _ member, missing, below⟩
    · exact ⟨named, uncached, dir, by simp, missing, below⟩

/-- One turn of the outer loop. -/
theorem always_ensureCounting {made front : List Path} {counts : FolderCounts} {path : Path}
    {total place : Nat} (plain : Plain path)
    (loop : FolderLoop env ctx primary w made counts (state, log))
    (which : ∀ rel, rel ∈ made ↔ FolderMissing w front rel)
    : Always (noted env.sem MkdirLog.note) (fun _ => True)
        (ensureCounting ctx primary total counts (primary.localPath ++ path, place)) (state, log)
        (fun result here =>
          match result with
          | .ok counts =>
              ∃ made',
                FolderLoop env ctx primary w made' counts here
                ∧ ∀ rel, rel ∈ made' ↔ FolderMissing w (front ++ [path]) rel
          | .error _ =>
              ∃ made',
                FolderStop env ctx primary w made' here
                ∧ ∀ rel ∈ made', FolderMissing w (front ++ [path]) rel) := by
  have before (rel : Path) (member : rel ∈ made) : FolderMissing w (front ++ [path]) rel :=
    folderMissing_concat.mpr (.inl ((which rel).mp member))
  simp only [ensureCounting, unlessShutdown, plain.clean.stripPrefix]
  refine always_beside ⟨by simp [Op.writes], by rintro _ _ ⟨⟩⟩ ?_
  intro cancelled checked served same flags
  have loop := loop.same same flags
  split
  · rename_i stopped
    refine ⟨trivial, made, ⟨loop.folders, fun quiet running => ?_⟩, before⟩
    have flag := quiet.sem_isCancelled.mp served
    rw [← loop.flags quiet, flag.2, ← flag.1] at running
    exact absurd stopped (by simp [running])
  refine always_beside ⟨by simp [Op.writes], by rintro _ _ ⟨⟩⟩ ?_
  intro _ reported _ same flags
  have loop := loop.same same flags
  refine always_noted_lookup ?_
  cases cached : reported.pathCache.lookup (relKey path) with
  | some entry =>
      refine ⟨trivial, made, ⟨loop.folders, loop.created, loop.failures, loop.flags⟩, fun rel => ?_⟩
      refine ⟨before rel, fun missing => ?_⟩
      rcases folderMissing_concat.mp missing with old | ⟨missing, named, below, uncached⟩
      · exact (which rel).mpr old
      · -- The directory was made on the way to an earlier one, and so were those above it.
        have mine := loop.folders.mem plain missing (by simp [cached])
        obtain ⟨other, member, missing, prefix_⟩ := ((which path).mp mine).wanted
        exact (which rel).mpr ⟨named, uncached, other, member, missing, below.trans prefix_⟩
  | none =>
      have uncached : w.pathCache.lookup (relKey path) = none := by
        rw [← loop.folders.others _ (loop.folders.not_mem cached), cached]
      have along (rel : Path) : Along w made path rel ↔ FolderMissing w (front ++ [path]) rel := by
        rw [Along, which, folderMissing_concat, and_iff_right uncached]
      refine (always_enterAll plain loop).bind ?_ ?_
      · rintro entered here - ⟨made', loop, made⟩
        exact ⟨trivial, made', loop, fun rel => (made rel).trans (along rel)⟩
      · rintro error here - ⟨made', stop, made⟩
        exact ⟨made', stop, fun rel member => (along rel).mp (made rel member)⟩

/-- No folder made was cached before, so what was cached still is. -/
theorem FoldersMade.kept {made : List Path} (folders : FoldersMade ctx primary w made state log)
    : w.Grows state := by
  intro key entry found
  rw [folders.others, found]
  intro member
  obtain ⟨rel, inMade, rfl⟩ := List.mem_map.mp member
  rw [folders.fresh rel inMade] at found
  cases found

/-- A folder that has been made is not missing any more. -/
theorem FoldersMade.not_missing {made rels : List Path} {rel : Path}
    (folders : FoldersMade ctx primary w made state log) (member : rel ∈ made)
    : ¬ FolderMissing state rels rel := by
  intro missing
  obtain ⟨call, folder⟩ := folders.cached rel member
  have cached := folder.cached
  rw [missing.uncached] at cached
  cases cached

/-- What phase 2 leaves for a list of directories: folders have been made for missing paths only,
for all of them where it ends well, and where it fails undisturbed, all attempts at one have.
-/
structure FoldersCreated (env : Environment) (ctx : EngineContext) (primary : SyncPair) (w : World)
    (rels : List Path) (result : Except Error FolderCounts) (here : World × MkdirLog)
    : Prop where
  made
    : ∃ made,
        FoldersMade ctx primary w made here.1 here.2
        ∧ (∀ rel ∈ made,
            FolderMissing w rels rel ∧ ∀ rels', ¬ FolderMissing here.1 rels' rel)
        ∧ ∀ counts,
            result = .ok counts
            → (∀ rel, FolderMissing w rels rel → rel ∈ made) ∧ counts.created = made.length
  kept : w.Grows here.1
  known
    : ∀ counts,
        result = .ok counts → ∀ rel ∈ rels, (here.1.pathCache.lookup (relKey rel)).isSome
  fine : ∀ counts, result = .ok counts → here.2.failures = 0
  failed
    : env.Undisturbed → w.shutdown = false
      → ∀ error, result = .error error → here.2.failures = ctx.cfg.attempts

/-- Phase 2 is complete and minimal, for directories in any order and any cache. -/
theorem folders_complete_minimal {rels : List Path} (plain : ∀ rel ∈ rels, Plain rel)
    : createFolders ctx primary (rels.map (primary.localPath ++ ·))
        = (fun _ => ()) <$> countFolders ctx primary (rels.map (primary.localPath ++ ·))
      ∧ Always (noted env.sem MkdirLog.note) (fun _ => True)
          (countFolders ctx primary (rels.map (primary.localPath ++ ·))) (w, {})
          (FoldersCreated env ctx primary w rels) := by
  refine ⟨createFolders_eq _, ?_⟩
  let outer (rest : List (Path × Nat)) (counts : FolderCounts) (here : World × MkdirLog) : Prop :=
    ∃ front back made,
      rels = front ++ back ∧ rest.map Prod.fst = back.map (primary.localPath ++ ·)
      ∧ FolderLoop env ctx primary w made counts here
      ∧ ∀ rel, rel ∈ made ↔ FolderMissing w front rel
  refine always_foldlM outer ?_ ?_ _ _ ⟨[], rels, [], rfl, ?_, ?_, ?_⟩
  · rintro counts here ⟨front, back, made, split, ended, loop, which⟩
    obtain rfl : back = [] := List.map_eq_nil_iff.mp ended.symm
    rw [List.append_nil] at split
    subst split
    refine ⟨trivial, ⟨made, loop.folders, ?_, ?_⟩, loop.folders.kept, ?_, ?_, by rintro _ _ _ ⟨⟩⟩
    · exact fun rel member => ⟨(which rel).mp member, fun _ => loop.folders.not_missing member⟩
    · rintro _ ⟨⟩
      exact ⟨fun rel missing => (which rel).mpr missing, loop.created⟩
    · rintro _ ⟨⟩ rel member
      cases cached : w.pathCache.lookup (relKey rel) with
      | some entry => exact Option.isSome_of_eq_some (loop.folders.kept _ _ cached)
      | none =>
          have missing : FolderMissing w rels rel :=
            ⟨(plain rel member).1, cached, rel, member, cached, List.prefix_rfl⟩
          obtain ⟨call, folder⟩ := loop.folders.cached rel ((which rel).mpr missing)
          exact Option.isSome_of_eq_some folder.cached
    · rintro _ ⟨⟩
      exact loop.failures
  · rintro ⟨dir, place⟩ rest counts ⟨middle, log⟩ ⟨front, back, made, split, onward, loop, which⟩
    cases back with
    | nil => cases onward
    | cons path back =>
        obtain ⟨rfl, tail⟩ := List.cons.inj onward
        have inRels : ∀ rel ∈ front ++ [path], rel ∈ rels := by
          intro rel member
          rw [split]
          rw [List.mem_append, List.mem_cons]
          rcases List.mem_append.mp member with old | new
          · exact .inl old
          · exact .inr (.inl (List.mem_singleton.mp new))
        refine (always_ensureCounting (plain path (inRels path (by simp))) loop which).mono ?_
        rintro (error | counts) here - turned
        · obtain ⟨made', stop, missing⟩ := turned
          have all (rel : Path) (member : rel ∈ made') : FolderMissing w rels rel := by
            obtain ⟨named, uncached, other, inFront, rest⟩ := missing rel member
            exact ⟨named, uncached, other, inRels other inFront, rest⟩
          refine ⟨⟨made', stop.folders, ?_, by rintro _ ⟨⟩⟩, stop.folders.kept, by rintro _ ⟨⟩,
            by rintro _ ⟨⟩, fun quiet running _ _ => stop.failures quiet running⟩
          exact fun rel member => ⟨all rel member, fun _ => stop.folders.not_missing member⟩
        · obtain ⟨made', loop, which⟩ := turned
          exact ⟨front ++ [path], back, made', by simpa using split, tail, loop, which⟩
  · rw [List.zipIdx_map_fst]
  · refine ⟨?_, rfl, rfl, fun _ => rfl⟩
    exact ⟨List.nodup_nil, by simp, by simp, fun _ _ => rfl, by simp, fun _ => .nil, fun _ => rfl⟩
  · intro rel
    constructor
    · rintro ⟨⟩
    · rintro ⟨-, -, other, ⟨⟩, -⟩

end Loops

-----------------------------------------------------------------------------------------
-- Two folders
-----------------------------------------------------------------------------------------

/-- `a/b` and, later in the list, `a`. -/
def twoDirs : List Path := [[.utf8 "a", .utf8 "b"], [.utf8 "a"]]

theorem twoDirs_plain : ∀ rel ∈ twoDirs, Plain rel := by
  have name (text : String) (plain : PlainName text) : ∃ text', OsString.utf8 text = .utf8 text'
      ∧ PlainName text' := ⟨text, rfl, plain⟩
  intro rel member
  simp only [twoDirs, List.mem_cons, List.not_mem_nil, or_false] at member
  rcases member with rfl | rfl
  · refine ⟨by simp, ?_⟩
    intro part inside
    simp only [List.mem_cons, List.not_mem_nil, or_false] at inside
    rcases inside with rfl | rfl <;> exact name _ (by decide)
  · refine ⟨by simp, ?_⟩
    intro part inside
    rw [List.mem_singleton.mp inside]
    exact name _ (by decide)

/-- A simulation caches the folder `a` without calling `mkdir`. -/
theorem simulation_makes_no_folder
    : ¬ ∀ (env : Environment) ctx (primary : SyncPair) (w : World) (rels : List Path),
          (∀ rel ∈ rels, Plain rel)
          → Always (noted env.sem MkdirLog.note) (fun _ => True)
              (countFolders ctx primary (rels.map (primary.localPath ++ ·))) (w, {})
              (fun result here =>
                ∀ counts,
                  result = .ok counts
                  → ∃ made,
                      (∀ rel, rel ∈ made ↔ FolderMissing w rels rel)
                      ∧ List.Forall₂ (FolderMade primary here.1) made here.2.made) := by
  intro claim
  let w : World := { disk := .backup .empty (fun _ => .special) }
  have always := claim (.steady (fun _ => "")) ⟨backupConfig, true⟩ backupPair w [[.utf8 "a"]]
    (fun rel member => twoDirs_plain rel (List.mem_cons_of_mem _ member))
  have path
      : ∃ counts last,
          Reaches (noted (Environment.steady (fun _ => "")).sem MkdirLog.note)
            (countFolders ⟨backupConfig, true⟩ backupPair [[.utf8 "backup", .utf8 "a"]]) (w, {})
            (.done (.ok counts)) (last, {}) := by
    refine ⟨⟨0, 1⟩, Exists.intro ?_ ?_⟩
    rotate_left
    · refine reaches_noted_call false _ ⟨.inl rfl, rfl⟩ ?_
      refine reaches_noted_call () _ rfl ?_
      refine reaches_noted_call none _ ⟨rfl, rfl⟩ ?_
      refine reaches_noted_call none _ ⟨rfl, rfl⟩ ?_
      refine reaches_noted_call () _ rfl ?_
      exact .refl
  obtain ⟨counts, last, path⟩ := path
  obtain ⟨made, which, calls⟩ := (always.reaches path).2 counts rfl
  obtain rfl := List.forall₂_nil_right_iff.mp calls
  have missing : FolderMissing w [[.utf8 "a"]] [.utf8 "a"] :=
    ⟨by simp, rfl, [.utf8 "a"], by simp, rfl, List.prefix_rfl⟩
  cases (which _).mpr missing

/-- Whatever the provider does, `a` and `a/b` are made, once each, or the phase fails. -/
theorem twoDirs_made
    : Always (noted (Environment.calm (fun _ => "") "root").sem MkdirLog.note) (fun _ => True)
        (countFolders ⟨backupConfig, false⟩ backupPair (twoDirs.map (backupPair.localPath ++ ·)))
        ({ disk := .backup .empty (fun _ => .special) }, {})
        (FoldersCreated (.calm (fun _ => "") "root") ⟨backupConfig, false⟩ backupPair
          { disk := .backup .empty (fun _ => .special) } twoDirs) :=
  (folders_complete_minimal twoDirs_plain).2

end SyncGDrive
