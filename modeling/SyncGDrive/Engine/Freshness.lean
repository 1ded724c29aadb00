import SyncGDrive.Engine.Mirroring
import SyncGDrive.Engine.Simulation

/-! A file that is written and synchronised in turn: after which handlings the remote holds what the
file holds, and which scans order it synchronised.
-/

namespace SyncGDrive

open Program

-----------------------------------------------------------------------------------------
-- Copies
-----------------------------------------------------------------------------------------

/-- The item that the cache knows at a key is a live file with that content. -/
def World.HoldsCopy (w : World) (key : String) (content : List UInt8) : Prop :=
  ∃ entry item,
    w.pathCache.lookup key = some entry ∧ w.remote.item? entry.driveId = some item
    ∧ item.trashed = false ∧ item.kind = .file content

/-- No item that the cache knows is in the trash. -/
def World.CachesLive (w : World) : Prop :=
  ∀ key entry item,
    w.pathCache.lookup key = some entry → w.remote.item? entry.driveId = some item
    → item.trashed = false

/-- The row of the file has its whole second or its digest, and the remote another content. -/
def World.Mistakes (md5 : List UInt8 → String) (w : World) (key : String) (data : FileData)
    : Prop :=
  (w.Recorded key (fun entry => entry.mtime = data.modified / 1000000000)
    ∨ w.Recorded key (fun entry => entry.hash = md5 data.content))
  ∧ ¬ w.HoldsCopy key data.content

section Copies

variable {w state : World} {key : String} {content : List UInt8}

theorem World.Matches.holdsCopy_iff (same : w.Matches state)
    : state.HoldsCopy key content ↔ w.HoldsCopy key content := by
  rw [World.HoldsCopy, World.HoldsCopy, same.pathCache, same.remote]

theorem World.Matches.cachesLive (same : w.Matches state) (live : w.CachesLive)
    : state.CachesLive := by
  intro key entry item found known
  rw [same.pathCache] at found
  rw [same.remote] at known
  exact live key entry item found known

/-- An upload that succeeds puts the content in its item, and leaves that where it stands. -/
theorem Remote.upload_ok {remote after : Remote} {fresh parent id : DriveId} {name : String}
    {existing : Option DriveId}
    (made : remote.upload fresh parent name existing content = (.ok id, after))
    : ∃ item,
        after = remote.put id item ∧ item.kind = .file content
        ∧ (item.trashed = false
          ∨ existing = some id ∧ ∃ old, remote.item? id = some old ∧ item.trashed = old.trashed)
    := by
  unfold upload at made
  split at made
  · obtain ⟨same, rfl⟩ := Prod.mk.inj made
    cases same
    exact ⟨_, rfl, rfl, .inl rfl⟩
  · split at made
    · rename_i old known
      obtain ⟨same, rfl⟩ := Prod.mk.inj made
      cases same
      exact ⟨_, rfl, rfl, .inr ⟨rfl, _, known, rfl⟩⟩
    · cases (Prod.mk.inj made).1

/-- An upload to the item that the cache knows, or to a new one, entered in the cache. -/
theorem World.CachesLive.uploaded {fresh parent standing : DriveId} {name : String}
    {result : UploadResult} {after : Remote} (live : w.CachesLive)
    (made
      : w.remote.upload fresh parent name ((w.pathCache.lookup key).map CacheEntry.driveId) content
        = (.ok result.driveId, after))
    (remote : state.remote = after)
    (cache : state.pathCache = w.pathCache.insert key result.driveId standing)
    : state.HoldsCopy key content ∧ state.CachesLive := by
  obtain ⟨item, put, kind, untouched⟩ := Remote.upload_ok made
  rw [← remote] at put
  have fine : item.trashed = false := by
    rcases untouched with new | ⟨cached, old, known, same⟩
    · exact new
    · obtain ⟨entry, found, id⟩ := Option.map_eq_some_iff.mp cached
      rw [same]
      rw [← id] at known
      exact live key entry old found known
  constructor
  · refine ⟨⟨result.driveId, standing⟩, item, ?_, ?_, fine, kind⟩
    · rw [cache, PathCache.lookup_insert, if_pos rfl]
    · rw [put, Remote.item?_put, if_pos rfl]
  · intro other entry item' found known
    rw [put, Remote.item?_put] at known
    split at known
    · cases known
      exact fine
    · rename_i another
      rw [cache, PathCache.lookup_insert] at found
      split at found
      · cases found
        exact absurd rfl another
      · exact live other entry item' found known

end Copies

-----------------------------------------------------------------------------------------
-- Handling the file
-----------------------------------------------------------------------------------------

/-- How a handling of the file ends: cached items stay live, and when it has succeeded without a
shutdown the remote holds the content exactly if the file was not mistaken for a synchronised one.
-/
structure Refreshes (md5 : List UInt8 → String) (key : String) (data : FileData) (w : World)
    (result : Except Error Unit) (last : World)
    : Prop where
  live : last.CachesLive
  fresh
    : result = .ok () → last.shutdown = false
      → (last.HoldsCopy key data.content ↔ ¬ w.Mistakes md5 key data)

/-- Nothing but reports, the shutdown and the channel may have changed. -/
structure World.Stands (w state : World) : Prop where
  matching : w.Matches state
  db : state.db = w.db

theorem World.Stands.refl (w : World) : w.Stands w := ⟨.refl w, rfl⟩

/-- An operation that writes no store. -/
theorem World.Stands.served {env : Environment} {op : Op} {w state after : World}
    {answer : op.Answer} (stands : w.Stands state) (served : env.sem op state answer after)
    (spares : op.writes ≠ some .remote ∧ op.writes ≠ some .pathCache ∧ op.writes ≠ some .db)
    : w.Stands after := by
  obtain ⟨remote, pathCache, db⟩ := spares
  exact ⟨stands.matching.trans (Environment.sem_matches served ⟨remote, pathCache⟩),
    ((env.sem_keeps served).db db).trans stands.db⟩

section Handling

variable {md5 : List UInt8 → String} {root : DriveId} {faults : Fault → Prop} {env : Environment}
  {w state : World} {primary : SyncPair} {ctx : EngineContext} {ignore : IgnoreMatcher}
  {path : Path} {key : String} {data : FileData} {α : Type}

theorem Refreshes.failed {error : Error} (live : w.CachesLive) (stands : w.Stands state)
    : Refreshes md5 key data w (.error error) state :=
  ⟨stands.matching.cachesLive live, nofun⟩

/-- The row and the cache entry of a key are looked up, or SQLite fails. -/
theorem always_recorded_stands {test : FileEntry → Bool} {f : Bool → Eff α}
    {post : Except Error α → World → Prop} (stands : w.Stands state)
    (yes
      : w.Recorded key test
        → ∀ after, w.Stands after → Always env.sem (fun _ => True) (f true) after post)
    (no
      : ¬ w.Recorded key test
        → ∀ after, w.Stands after → Always env.sem (fun _ => True) (f false) after post)
    (failed : ∀ error after, w.Stands after → post (.error error) after)
    : Always env.sem (fun _ => True) (syncFile.recorded key test >>= f) state post := by
  simp only [syncFile.recorded, bind_assoc]
  refine always_ask_bind.mpr ⟨trivial, fun answer after served => ?_⟩
  have read := stands.served served (by simp [Op.writes])
  rcases served with ⟨rfl, -⟩ | ⟨-, ⟨error, rfl⟩, -⟩
  · simp only [propagate, Prog.ok_bind, stands.db]
    cases row : w.db.get key with
    | none => exact no (by simp [World.Recorded, row]) _ read
    | some entry =>
        cases passes : test entry with
        | false => simpa [passes] using no (by simp [World.Recorded, row, passes]) _ read
        | true =>
            simp only [passes, if_true, bind_assoc]
            refine always_ask_bind.mpr ⟨trivial, fun known after served => ?_⟩
            have looked := read.served served (by simp [Op.writes])
            obtain ⟨rfl, -⟩ := served
            rw [read.matching.pathCache]
            cases found : w.pathCache.lookup key with
            | none => exact no (by simp [World.Recorded, found]) _ looked
            | some cached => exact yes ⟨entry, row, passes, by simp [found]⟩ _ looked
  · exact ⟨trivial, failed error _ read⟩

/-- The metadata of the file, as often as they are asked for. -/
theorem always_stat_stands {f : Except Error Metadata → Eff α}
    {post : Except Error α → World → Prop} (file : w.disk.node? path = some (.file data))
    (stands : w.Stands state)
    (rest
      : Always env.sem (fun _ => True)
          (f (.ok ⟨false, true, data.content.length, data.modified⟩)) state post)
    : Always env.sem (fun _ => True) (ask (.metadata path) >>= f) state post := by
  refine always_known ?_ trivial rest
  intro got reached served
  obtain ⟨rfl, answered⟩ := served
  simp only [Disk.metadata, stands.matching.disk, file, Option.map_some, Node.metadata] at answered
  exact ⟨answered, rfl⟩

/-- The folder of the file is known, or the handling fails. -/
theorem always_folderId_stands {rel missing : String} {f : DriveId → Eff α}
    {post : Except Error α → World → Prop} (stands : w.Stands state)
    (failed : ∀ error after, w.Stands after → post (.error error) after)
    (rest
      : ∀ parentId after,
          w.Stands after → Always env.sem (fun _ => True) (f parentId) after post)
    : Always env.sem (fun _ => True) (folderId primary rel missing >>= f) state post := by
  unfold folderId
  split
  · exact rest _ _ stands
  · rw [bind_assoc]
    refine always_ask_bind.mpr ⟨trivial, fun known after served => ?_⟩
    have looked := stands.served served (by simp [Op.writes])
    cases known with
    | none => exact ⟨trivial, failed _ _ looked⟩
    | some entry => exact rest _ _ looked

/-- A row is written, or SQLite fails. -/
theorem always_upsert_ends {entry : FileEntry} {post : Except Error Unit → World → Prop}
    (ends : ∀ result after, state.Matches after → post result after)
    : Always env.sem (fun _ => True) (do propagate (← ask (.upsert entry))) state post := by
  refine always_ask_bind.mpr ⟨trivial, fun answer after served => ?_⟩
  have same := Environment.sem_matches served (by simp [Op.writes])
  cases answer <;> exact ⟨trivial, ends _ _ same⟩

/-- A file that is not mistaken for a synchronised one is uploaded, unless something fails. -/
theorem always_uploadFile_refreshes (live : w.CachesLive) (stands : w.Stands state)
    (read : w.disk.read path = some data.content) {hash : String} {time : Int} {size : Nat}
    (due : ¬ w.Mistakes md5 key data)
    : Always (Environment.unfailing md5 root faults).sem (fun _ => True)
        (uploadFile ctx primary path key hash time size) state (Refreshes md5 key data w) := by
  have failed {error : Error} {last : World} (same : w.Matches last)
      : Refreshes md5 key data w (.error error) last := ⟨same.cachesLive live, nofun⟩
  unfold uploadFile
  cases path.fileName? with
  | none => exact ⟨trivial, failed stands.matching⟩
  | some fileName =>
  simp only [orError, propagate, Prog.ok_bind]
  apply always_folderId_stands stands
  · intro error after same
    exact failed same.matching
  intro parentId after stands
  refine always_ask_bind.mpr ⟨trivial, fun existing looked served => ?_⟩
  obtain ⟨rfl, rfl⟩ := served
  refine always_ask_bind.mpr ⟨trivial, fun _ reported served => ?_⟩
  have same := (stands.served served (by simp [Op.writes])).matching
  rw [stands.matching.pathCache]
  refine (always_uploadLoop_ends read same).bind ?_ ?_
  · intro result stored _ ended
    cases ended with
    | stored unused made cache =>
        refine always_ask_bind.mpr ⟨trivial, fun _ entered served => ?_⟩
        have entered_eq : entered = _ := served
        obtain ⟨holds, live⟩ : entered.HoldsCopy key data.content ∧ entered.CachesLive := by
          apply live.uploaded made (by rw [entered_eq])
          rw [entered_eq, cache]
        apply always_upsert_ends
        intro result last same
        exact ⟨same.cachesLive live, fun _ _ => iff_of_true (same.holdsCopy_iff.mpr holds) due⟩
  · intro error stored _ ended
    cases ended with
    | failed same => exact failed same

/-- Handling the file, from any state. -/
theorem always_syncFile_refreshes (configured : ctx.cfg.getPrimaryPair = some primary)
    (inRoot : relStr primary.localPath path = .ok key)
    (file : w.disk.node? path = some (.file data)) (kept : ignore.isIgnored path false = false)
    (full : data.content ≠ []) (live : w.CachesLive)
    : Always (Environment.unfailing md5 root faults).sem (fun _ => True)
        (syncFile ctx ignore path) w
        (Refreshes md5 key data w) := by
  have start := World.Stands.refl w
  unfold syncFile
  apply always_stat_stands file start
  simp only [propagate, Prog.ok_bind, kept, Bool.not_true, Bool.or_self, Bool.false_eq_true,
    if_false]
  apply always_stat_stands file start
  simp only [withContext, Except.mapError, Prog.ok_bind]
  rw [if_neg (by simpa using full)]
  simp only [orError, configured, inRoot, propagate, Prog.ok_bind, mtime, bind_assoc]
  apply always_stat_stands file start
  simp only [withContext, Except.mapError, Prog.ok_bind]
  split
  · exact ⟨trivial, .failed live start⟩
  simp only [Metadata.seconds, pure_bind]
  -- Where the row has the whole second, the file is taken for a synchronised one.
  have skipped {state : World} (same : w.Matches state)
      (recorded
        : w.Recorded key (fun entry => entry.mtime = data.modified / 1000000000)
          ∨ w.Recorded key (fun entry => entry.hash = md5 data.content))
      (result : Except Error Unit)
      : Refreshes md5 key data w result state := by
    refine ⟨same.cachesLive live, fun _ _ => ?_⟩
    rw [same.holdsCopy_iff]
    exact ⟨fun holds mistakes => mistakes.2 holds,
      fun fine => not_not.mp (fun missing => fine ⟨recorded, missing⟩)⟩
  apply always_recorded_stands start
  · intro recorded after stands
    exact ⟨trivial, skipped stands.matching (.inl recorded) _⟩
  · intro newTime looked stands
    simp only [Bool.false_eq_true, if_false]
    refine always_ask_bind.mpr ⟨trivial, fun cancelled checked served => ?_⟩
    have down : cancelled = checked.shutdown := served.2
    replace stands := stands.served served (by simp [Op.writes])
    cases cancelled with
    | true =>
        refine ⟨trivial, stands.matching.cachesLive live, ?_⟩
        intro _ running
        simp [← down] at running
    | false =>
        simp only [Bool.false_eq_true, if_false, hashFile, bind_assoc]
        refine always_ask_bind.mpr ⟨trivial, fun digest hashed served => ?_⟩
        replace stands := stands.served served (by simp [Op.writes])
        obtain ⟨rfl, digested⟩ := served
        simp only [stands.matching.disk] at digested
        cases readable : data.readable with
        | true =>
            have read : w.disk.read path = some data.content := by simp [Disk.read, file, readable]
            simp only [read] at digested
            subst digested
            simp only [pure_bind]
            apply always_recorded_stands stands
            · intro recorded after stands
              simp only [if_true]
              apply always_upsert_ends
              intro result last same
              exact skipped (stands.matching.trans same) (.inr recorded) result
            · intro newContent after stands
              simp only [Bool.false_eq_true, if_false]
              apply always_uploadFile_refreshes live stands read
              intro mistakes
              rcases mistakes.1 with recorded | recorded
              · exact newTime recorded
              · exact newContent recorded
            · intro error after stands
              exact .failed live stands
        | false =>
            have unread : w.disk.read path = none := by simp [Disk.read, file, readable]
            simp only [unread] at digested
            obtain ⟨error, rfl⟩ := digested
            simp only [pure_bind, isFile, bind_assoc]
            apply always_stat_stands file stands
            simp only [pure_bind, Bool.not_true, Bool.false_eq_true, if_false]
            refine always_ask_bind.mpr ⟨trivial, fun cancelled checked served => ?_⟩
            have down : cancelled = checked.shutdown := served.2
            replace stands := stands.served served (by simp [Op.writes])
            cases cancelled with
            | true =>
                exact ⟨trivial, stands.matching.cachesLive live, fun _ running => by
                  simp [← down] at running⟩
            | false => exact ⟨trivial, .failed live stands⟩
  · intro error after stands
    exact .failed live stands

end Handling

-----------------------------------------------------------------------------------------
-- Scanning
-----------------------------------------------------------------------------------------

/-- No other file of the walk has its key. -/
def KeyedAlone (primary : SyncPair) (ignore : IgnoreMatcher) (disk : Disk) (rel : Path) : Prop :=
  ∀ rel',
    primary.localPath ++ rel' ∈ walkedFiles disk primary.localPath ignore
    → relKey rel' = relKey rel → rel' = rel

/-- What holds of the value and the world where the program succeeds. -/
def Ensures {α : Type} (env : Environment) (program : Eff α) (w : World) (post : α → World → Prop)
    : Prop :=
  Always env.sem (fun _ => True) program w
    (fun result last => ∀ value, result = .ok value → post value last)

section Rules

variable {env : Environment} {w : World} {α β : Type} {program : Eff α} {f : α → Eff β}

theorem ensures_pure {value : α} {post : α → World → Prop} (holds : post value w)
    : Ensures env (pure value) w post := by
  refine ⟨trivial, fun got same => ?_⟩
  cases same
  exact holds

theorem ensures_throw {error : Error} {post : α → World → Prop}
    : Ensures env (throw error) w post := ⟨trivial, nofun⟩

theorem Ensures.bind {middle : α → World → Prop} {post : β → World → Prop}
    (first : Ensures env program w middle)
    (second : ∀ value state, middle value state → Ensures env (f value) state post)
    : Ensures env (program >>= f) w post := by
  apply Always.bind first
  · intro value state _ holds
    exact second value state (holds value rfl)
  · intro error state _ _
    exact nofun

theorem Ensures.mono {post post' : α → World → Prop} (ensures : Ensures env program w post)
    (weaker : ∀ value last, post value last → post' value last)
    : Ensures env program w post' := by
  apply Always.mono ensures
  intro result last _ holds value same
  exact weaker value last (holds value same)

theorem Ensures.and {post post' : α → World → Prop} (first : Ensures env program w post)
    (second : Ensures env program w post')
    : Ensures env program w (fun value last => post value last ∧ post' value last) := by
  apply ((Always.and first second).weaken (fun _ _ => trivial)).mono
  intro result last _ both value same
  exact ⟨both.2.1 value same, both.2.2 value same⟩

/-- What every operation of the program keeps. -/
theorem ensures_kept {allowed : Op → Prop} {inv : World → Prop} (uses : Uses allowed program)
    (preserved
      : ∀ op state answer next,
          allowed op → inv state → env.sem op state answer next → inv next)
    (here : inv w)
    : Ensures env program w (fun _ last => inv last) := by
  apply ((uses.always preserved here).weaken (fun _ _ => trivial)).mono
  intro result last _ kept value _
  exact kept.1

/-- The disk is as it was, too. -/
theorem Ensures.sameDisk {post : α → World → Prop} (ensures : Ensures env program w post)
    : Ensures env program w (fun value last => post value last ∧ last.disk = w.disk) := by
  apply ((Always.and ensures (always_disk rfl program)).weaken (fun _ _ => trivial)).mono
  intro result last _ both value same
  obtain ⟨⟨-, disk⟩, holds, -⟩ := both
  exact ⟨holds value same, disk⟩

/-- A loop with an accumulator, by induction on the items. -/
theorem ensures_foldlM {γ : Type} {body : β → γ → Eff β} (loop : List γ → β → World → Prop)
    (step
      : ∀ item rest acc state,
          loop (item :: rest) acc state → Ensures env (body acc item) state (loop rest))
    (items : List γ) (acc : β) (start : loop items acc w)
    : Ensures env (items.foldlM body acc) w (loop []) := by
  apply always_foldlM loop _ _ items acc start
  · intro acc last here
    refine ⟨trivial, fun value same => ?_⟩
    cases same
    exact here
  · intro item rest acc state here
    apply Always.mono (step item rest acc state here)
    intro result last _ holds
    cases result with
    | ok acc => exact holds acc rfl
    | error error => exact nofun

theorem ensures_forM {γ : Type} {body : γ → Eff Unit} (loop : List γ → World → Prop)
    (step
      : ∀ item rest state,
          loop (item :: rest) state → Ensures env (body item) state (fun _ last => loop rest last))
    (items : List γ) (start : loop items w)
    : Ensures env (items.forM body) w (fun _ last => loop [] last) := by
  apply always_forM loop _ _ items start
  · intro last here
    exact ⟨trivial, fun _ _ => here⟩
  · intro item rest state here
    apply Always.mono (step item rest state here)
    intro result last _ holds
    cases result with
    | ok _ => exact holds () rfl
    | error error => exact nofun

/-- What is in the channel stays there. -/
theorem ensures_tasks {task : Task} (sent : task ∈ w.tasks)
    : Ensures env program w (fun _ last => task ∈ last.tasks) := by
  apply (always_tasks_subset program).mono
  intro result last _ grows _ _
  exact grows sent

end Rules

section Comparison

variable {env : Environment} {w state : World} {primary : SyncPair} {ignore : IgnoreMatcher}
  {rel path : Path} {key : String}

/-- The disk and one row are as they were. -/
structure World.KeepsRow (w : World) (key : String) (state : World) : Prop where
  disk : state.disk = w.disk
  row : state.db.row key = w.db.row key

theorem World.KeepsRow.outdated (keeps : w.KeepsRow key state) (outdated : Outdated env w path key)
    : Outdated env state path key := by
  unfold Outdated
  rw [keeps.disk, keeps.row]
  exact outdated

/-- Looking around keeps it, and so does writing the row of another key. -/
theorem World.KeepsRow.served {op : Op} {answer : op.Answer} {after : World}
    (keeps : w.KeepsRow key state) (served : env.sem op state answer after)
    (other
      : op.writes ≠ some .db ∨ ∃ entry : FileEntry, op = .upsert entry ∧ key ≠ entry.path)
    : w.KeepsRow key after := by
  have kept := env.sem_keeps served
  refine ⟨kept.disk.trans keeps.disk, ?_⟩
  rcases other with spares | ⟨entry, rfl, another⟩
  · rw [kept.db spares]
    exact keeps.row
  · rcases served with ⟨-, rfl⟩ | ⟨-, -, rfl⟩
    · exact (Database.row_upsert ..).trans (by rw [if_neg another]; exact keeps.row)
    · exact keeps.row

/-- A file with an outdated row is found changed. -/
theorem ensures_compareFile_outdated (outdated : Outdated env w path key) {remoteExists : Bool}
    : Ensures env (compareFile path key true remoteExists) w (fun changed _ => changed = true) := by
  obtain ⟨columns, row, newTime, newHash⟩ := outdated
  cases remoteExists with
  | false => exact ensures_pure rfl
  | true =>
      refine always_ask_bind.mpr ⟨trivial, fun answer after served => ?_⟩
      have disk := (env.sem_keeps served).disk
      rcases served with ⟨rfl, -⟩ | ⟨-, ⟨error, rfl⟩, -⟩
      · have found : w.db.get key = some ⟨key, columns.hash, columns.mtime⟩ := by
          rw [Database.get, row]
          rfl
        simp only [found]
        apply always_mtimeOf trivial
        rw [disk, if_neg newTime]
        apply always_digest trivial
        · intro content read
          rw [disk] at read
          simp only [read, Option.map_some, ne_eq, Option.some.injEq] at newHash
          simp only [if_neg newHash]
          exact ensures_pure rfl
        · intro error
          exact ensures_pure rfl
      · exact ensures_pure rfl

/-- Operations that keep the row of the key. -/
def Op.SparesRow (key : String) (op : Op) : Prop :=
  op.writes ≠ some .db ∨ ∃ entry : FileEntry, op = .upsert entry ∧ key ≠ entry.path

theorem Op.Looks.sparesRow {op : Op} (looks : op.Looks) : op.SparesRow key :=
  .inl looks.prepares.1

/-- One file of the walk: once the list has ours it keeps it, and before that no other file changes
what ours is judged by.
-/
theorem ensures_compareNext {dbIndex : List String} {total : Nat} {toSync : List Path}
    {rel' : Path} {place : Nat} (clean : Clean rel') (alone : relKey rel' = relKey rel → rel' = rel)
    (known : dbIndex.contains (relKey rel) = true)
    (outdated : Outdated env w (primary.localPath ++ rel) (relKey rel))
    (keeps : primary.localPath ++ rel ∈ toSync ∨ w.KeepsRow (relKey rel) state)
    : Ensures env
        (compareNext primary dbIndex total toSync (primary.localPath ++ rel', place)) state
        (fun toSync' last =>
          primary.localPath ++ rel ∈ toSync'
          ∨ primary.localPath ++ rel ∉ toSync ∧ rel' ≠ rel ∧ w.KeepsRow (relKey rel) last) := by
  have preserved (op : Op) (state : World) (answer : op.Answer) (next : World)
      (spares : op.SparesRow (relKey rel))
      (keeps : primary.localPath ++ rel ∈ toSync ∨ w.KeepsRow (relKey rel) state)
      (served : env.sem op state answer next)
      : primary.localPath ++ rel ∈ toSync ∨ w.KeepsRow (relKey rel) next :=
    keeps.imp_right (fun keeps => keeps.served served spares)
  refine always_ask_bind.mpr ⟨trivial, fun cancelled checked served => ?_⟩
  replace keeps := preserved _ _ _ _ (.inl (by simp [Op.writes])) keeps served
  clear served
  cases cancelled with
  | true => exact ensures_throw
  | false =>
  simp only [Bool.false_eq_true, if_false, clean.stripPrefix]
  have reports : Uses (Op.SparesRow (relKey rel)) (reportWhen (place % 50 = 0 ∨ place + 1 = total)
      (.scanProgress .comparing (place + 1) total
        ((Path.fileName? (primary.localPath ++ rel')).getD ""))) :=
    (uses_reportWhen (.progress ..)).mono (fun _ => Op.Looks.sparesRow)
  apply (ensures_kept reports preserved keeps).bind
  intro _ reported keeps
  refine always_ask_bind.mpr ⟨trivial, fun found looked served => ?_⟩
  replace keeps := preserved _ _ _ _ (.inl (by simp [Op.writes])) keeps served
  clear served
  by_cases same : rel' = rel
  · subst same
    rw [known]
    rcases keeps with listed | keeps
    · apply Ensures.bind (ensures_kept uses_compareFile (fun _ _ _ _ _ _ _ => trivial) trivial)
      intro changed last _
      cases changed with
      | true => exact ensures_pure (.inl (List.mem_append_left _ listed))
      | false => exact ensures_pure (.inl listed)
    · apply (ensures_compareFile_outdated (keeps.outdated outdated)).bind
      intro changed last changes
      subst changes
      exact ensures_pure (.inl (by simp))
  · have compares : Uses (Op.SparesRow (relKey rel))
        (compareFile (primary.localPath ++ rel') (relKey rel') (dbIndex.contains (relKey rel'))
          found.isSome) := by
      apply uses_compareFile.mono
      intro op writes
      rcases writes with looks | ⟨hash, mtime, rfl⟩
      · exact looks.sparesRow
      · exact .inr ⟨_, rfl, fun shared => same (alone shared.symm)⟩
    apply (ensures_kept compares preserved keeps).bind
    intro changed last keeps
    have onward : primary.localPath ++ rel ∈ toSync
        ∨ primary.localPath ++ rel ∉ toSync ∧ rel' ≠ rel ∧ w.KeepsRow (relKey rel) last := by
      by_cases listed : primary.localPath ++ rel ∈ toSync
      · exact .inl listed
      · exact .inr ⟨listed, same, keeps.resolve_left listed⟩
    cases changed with
    | true => exact ensures_pure (onward.imp_left (List.mem_append_left _))
    | false => exact ensures_pure onward

/-- The size of a file is the one that the disk has. -/
theorem always_sizeOf {inv : World → Prop} {α : Type} {f : Nat → Eff α}
    {post : Except Error α → World → Prop} (here : inv state)
    (rest : Always env.sem inv (f (state.disk.sizeOf path)) state post)
    : Always env.sem inv (sizeOf path >>= f) state post := by
  refine always_ask_bind.mpr ⟨here, ?_⟩
  intro answer after served
  obtain ⟨rfl, answered⟩ := served
  cases there : after.disk.metadata path with
  | some metadata =>
      simp only [there] at answered
      subst answered
      simp only [Disk.sizeOf, there] at rest
      exact rest
  | none =>
      simp only [there] at answered
      obtain ⟨error, rfl⟩ := answered
      simp only [Disk.sizeOf, there] at rest
      exact rest

/-- The comparison lists the file. -/
theorem ensures_compareFiles {dbIndex : List String} (disk : state.disk = w.disk)
    (walked : primary.localPath ++ rel ∈ walkedFiles w.disk primary.localPath ignore)
    (alone : KeyedAlone primary ignore w.disk rel) (known : dbIndex.contains (relKey rel) = true)
    (outdated : Outdated env w (primary.localPath ++ rel) (relKey rel))
    (full : 0 < w.disk.sizeOf (primary.localPath ++ rel)) (keeps : w.KeepsRow (relKey rel) state)
    : Ensures env (compareFiles primary dbIndex (walkedFiles w.disk primary.localPath ignore)) state
        (fun toSync _ => primary.localPath ++ rel ∈ toSync) := by
  have compared
      : Ensures env
          ((walkedFiles w.disk primary.localPath ignore).zipIdx.foldlM
            (compareNext primary dbIndex
              (walkedFiles w.disk primary.localPath ignore).length) []) state
          (fun toSync _ => primary.localPath ++ rel ∈ toSync) := by
    apply (ensures_foldlM (fun rest toSync state =>
      (primary.localPath ++ rel ∈ toSync
        ∨ primary.localPath ++ rel ∈ rest.map Prod.fst ∧ w.KeepsRow (relKey rel) state)
      ∧ ∀ file ∈ rest, file.1 ∈ walkedFiles w.disk primary.localPath ignore) _ _ _ ?_).mono
    · intro toSync last loop
      exact loop.1.resolve_right (fun left => nomatch left.1)
    · intro file rest toSync state loop
      obtain ⟨listed, walks⟩ := loop
      obtain ⟨path, place⟩ := file
      obtain ⟨rel', rfl, proper⟩ := walkedFiles_below (walks _ List.mem_cons_self)
      apply (ensures_compareNext proper.clean
        (alone rel' (walks _ List.mem_cons_self)) known outdated
        (listed.imp_right And.right)).mono
      intro toSync' last onward
      refine ⟨?_, fun file member => walks file (List.mem_cons_of_mem _ member)⟩
      rcases onward with listed' | ⟨unlisted, other, keeps⟩
      · exact .inl listed'
      · obtain ⟨member, -⟩ := listed.resolve_left unlisted
        simp only [List.map_cons, List.mem_cons, List.append_cancel_left_eq] at member
        exact .inr ⟨member.resolve_left (fun same => other same.symm), keeps⟩
    · refine ⟨.inr ⟨?_, keeps⟩, ?_⟩
      · rw [List.zipIdx_map_fst]
        exact walked
      · intro file member
        rw [(List.mem_zipIdx' member).2]
        exact List.getElem_mem _
  apply compared.sameDisk.bind
  intro toSync state' found
  obtain ⟨listed, disk'⟩ := found
  apply (ensures_foldlM (fun rest kept state =>
    state.disk = w.disk ∧ (primary.localPath ++ rel ∈ kept ∨ primary.localPath ++ rel ∈ rest))
    _ _ _ ⟨disk'.trans disk, .inr listed⟩).mono
  · intro kept last loop
    exact loop.2.resolve_right (by simp)
  · intro path rest kept state loop
    obtain ⟨disk, listed⟩ := loop
    apply always_sizeOf trivial
    refine ⟨trivial, fun kept' same => ?_⟩
    cases same
    refine ⟨disk, ?_⟩
    rcases listed with listed | listed
    · split
      · exact .inl (List.mem_append_left _ listed)
      · exact .inl listed
    · rcases List.mem_cons.mp listed with rfl | later
      · rw [disk, if_pos full]
        exact .inl (by simp)
      · exact .inr later

/-- A listed file is sent. -/
theorem ensures_sendFiles {cfg : AppConfig} {toSync : List Path} (listed : path ∈ toSync)
    : Ensures env (sendFiles ⟨cfg, false⟩ toSync) state
        (fun _ last => .syncFile path ∈ last.tasks) := by
  have always_true (program : Eff Nat) (state : World)
      : Ensures env program state (fun _ _ => True) := by
    apply (always_tasks_subset program).mono
    intro result last _ _ _ _
    trivial
  apply (always_true _ state).bind
  intro bytes summed _
  refine always_ask_bind.mpr ⟨trivial, fun _ stored _ => ?_⟩
  apply (ensures_forM (fun rest state =>
    path ∈ rest.map Prod.fst ∨ .syncFile path ∈ state.tasks) _ _ ?_).mono
  · intro _ last loop
    exact loop.resolve_left (by simp)
  · intro file rest state loop
    refine always_ask_bind.mpr ⟨trivial, fun cancelled checked served => ?_⟩
    have kept := (env.sem_keeps served).tasks (by simp [Op.writes])
    cases cancelled with
    | true => exact ensures_throw
    | false =>
        refine always_ask_bind.mpr ⟨trivial, fun _ reported served => ?_⟩
        have kept := ((env.sem_keeps served).tasks (by simp [Op.writes])).trans kept
        refine always_ask_bind.mpr ⟨trivial, fun accepted last served => ?_⟩
        rcases served with ⟨rfl, rfl⟩ | ⟨-, rfl, rfl⟩
        · apply ensures_pure
          rw [kept]
          rcases loop with ahead | sent
          · rcases List.mem_cons.mp ahead with rfl | later
            · exact .inr (by simp)
            · exact .inl later
          · exact .inr (List.mem_append_left _ sent)
        · exact ensures_throw
  · rw [List.zipIdx_map_fst]
    exact .inl listed

/-- A scan that succeeds has ordered the file synchronised. -/
theorem ensures_scan_orders {cfg : AppConfig} (configured : cfg.getPrimaryPair = some primary)
    (walked : primary.localPath ++ rel ∈ walkedFiles w.disk primary.localPath ignore)
    (alone : KeyedAlone primary ignore w.disk rel)
    (outdated : Outdated env w (primary.localPath ++ rel) (relKey rel))
    (full : 0 < w.disk.sizeOf (primary.localPath ++ rel))
    : Ensures env (scan ⟨cfg, false⟩ ignore) w
        (fun _ last => .syncFile (primary.localPath ++ rel) ∈ last.tasks) := by
  have prepared {α : Type} {program : Eff α} {state : World} (uses : Uses Op.Prepares program)
      (here : Untouched w state)
      : Ensures env program state (fun _ last => Untouched w last) := by
    apply ((always_untouched uses here).weaken (fun _ _ => trivial)).mono
    intro result last _ kept _ _
    exact kept.1
  unfold scan
  simp only [orError, configured, propagate, Prog.ok_bind]
  apply (prepared prepares_listRemote ⟨rfl, rfl, rfl⟩).bind
  intro index listed here
  apply (prepared prepares_fillCache here).bind
  intro _ filled here
  have inventoried
      : Ensures env (takeInventory primary ignore) filled (fun inventory last =>
          Untouched w last
          ∧ inventory.localFiles = walkedFiles w.disk primary.localPath ignore) := by
    have finds
        : Ensures env (takeInventory primary ignore) filled (fun inventory _ =>
            inventory.localFiles = walkedFiles filled.disk primary.localPath ignore) := by
      apply (takeInventory_finds.weaken (fun _ _ => trivial)).mono
      intro result last _ found inventory same
      exact (found.2 inventory same).1
    rw [here.disk] at finds
    exact (prepared prepares_takeInventory here).and finds
  apply inventoried.bind
  intro inventory taken found
  obtain ⟨here, files⟩ := found
  apply (prepared prepares_createFolders here).bind
  intro _ made here
  rw [files]
  -- The comparison, with the rows that the index of the database names.
  refine always_ask_bind.mpr ⟨trivial, fun _ reported served => ?_⟩
  have disk := (env.sem_keeps served).disk
  have db := (env.sem_keeps served).db (by simp [Op.writes])
  refine always_ask_bind.mpr ⟨trivial, fun answer read served => ?_⟩
  have disk' := (env.sem_keeps served).disk
  have db' := (env.sem_keeps served).db (by simp [Op.writes])
  obtain ⟨paths, order, ⟨rfl, -⟩ | ⟨-, ⟨error, rfl⟩, -⟩⟩ := served
  · simp only [propagate, Prog.ok_bind]
    obtain ⟨columns, row, differs⟩ := id outdated
    have known : paths.contains (relKey rel) = true := by
      rw [List.contains_iff_mem, order.mem_iff, Database.mem_allPaths, db, here.db, row]
      rfl
    apply (ensures_compareFiles ((disk'.trans disk).trans here.disk) walked alone known outdated
      full ⟨(disk'.trans disk).trans here.disk, by rw [db', db, here.db]⟩).bind
    intro toSync compared listed
    apply (ensures_sendFiles listed).bind
    intro _ sent ordered
    exact ensures_tasks ordered
  · exact ensures_throw

end Comparison

-----------------------------------------------------------------------------------------
-- Cached items stay live
-----------------------------------------------------------------------------------------

section Live

variable {md5 : List UInt8 → String} {root : DriveId} {faults : Fault → Prop} {env : Environment}
  {w state : World} {primary : SyncPair} {ctx : EngineContext} {ignore : IgnoreMatcher} {α : Type}

/-- An entry for an item that is not in the trash. -/
theorem World.CachesLive.inserted {key : String} {id parentId : DriveId} (live : w.CachesLive)
    (fine : ∀ item, w.remote.item? id = some item → item.trashed = false)
    : World.CachesLive { w with pathCache := w.pathCache.insert key id parentId } := by
  intro other entry item found known
  simp only [PathCache.lookup_insert] at found
  split at found
  · cases found
    exact fine item known
  · exact live other entry item found known

/-- A program that writes neither the remote nor the cache. -/
theorem always_live {program : Eff α} {allowed : Op → Prop} (uses : Uses allowed program)
    (spares : ∀ op, allowed op → op.writes ≠ some .remote ∧ op.writes ≠ some .pathCache)
    (live : w.CachesLive)
    : Always env.sem World.CachesLive program w (fun _ _ => True) := by
  apply uses.always _ live
  intro op state answer next fine live served
  exact (Environment.sem_matches served (spares op fine)).cachesLive live

/-- The items of a listing are live. -/
theorem always_fillCache_live {index : RemoteIndex} (lists : w.remote.Lists md5 root index)
    (live : w.CachesLive)
    : Always env.sem World.CachesLive (fillCache index) w (fun _ _ => True) := by
  have entered {key : String} {id parentId : DriveId} {item : RemoteItem} {place : String}
      {state : World} (here : state.CachesLive ∧ state.remote = w.remote)
      (itemAt : w.remote.ItemAt root id item place)
      : Always env.sem (fun state => state.CachesLive ∧ state.remote = w.remote)
          (ask (.insert key id parentId)) state (fun _ _ => True) := by
    refine always_ask.mpr ⟨here, fun _ after served => ?_⟩
    have stored : after = _ := served
    subst stored
    refine ⟨⟨here.1.inserted ?_, here.2⟩, trivial⟩
    intro item' known
    rw [here.2, itemAt.1] at known
    cases known
    exact itemAt.2.1
  have filled
      : Always env.sem (fun state => state.CachesLive ∧ state.remote = w.remote) (fillCache index) w
          (fun _ _ => True) := by
    refine Always.bind (always_each _ ?_ ⟨live, rfl⟩) ?_ (fun _ _ _ _ => trivial)
    · intro dir listed state here
      obtain ⟨item, itemAt, -⟩ := lists.dirs dir listed
      exact entered here itemAt
    · intro _ state here _
      refine always_each _ ?_ here
      intro file listed state here
      obtain ⟨item, content, itemAt, -⟩ := lists.files file listed
      exact entered here itemAt
  exact (filled.weaken (fun _ here => here.1)).mono (fun _ _ _ _ => trivial)

/-- Making a folder gives a live one. -/
theorem always_mkdir_live {parent : DriveId} {name : String} (live : w.CachesLive)
    : Always (Environment.unfailing md5 root faults).sem World.CachesLive
        (ask (.provider (.mkdir parent name))) w
        (fun result last =>
          ∃ id, result = .ok (.ok id)
            ∧ ∀ item, last.remote.item? id = some item → item.trashed = false) := by
  refine always_ask.mpr ⟨live, fun answer after served => ?_⟩
  obtain ⟨remote, ⟨fresh, unused, rfl, rfl⟩, rfl⟩ := served
  simp only [Remote.mkdir]
  cases found : w.remote.folderNamed parent name with
  | some id =>
      obtain ⟨folder, stored, -, -, -, fine⟩ := Remote.folderNamed_found found
      refine ⟨live, id, rfl, fun item known => ?_⟩
      cases stored.symm.trans known
      exact fine
  | none =>
      refine ⟨?_, fresh, rfl, fun item known => ?_⟩
      · intro key entry item cached known
        rw [Remote.item?_put] at known
        split at known
        · cases known
          rfl
        · exact live key entry item cached known
      · rw [Remote.item?_put, if_pos rfl] at known
        cases known
        rfl

theorem always_enterFolder_live {current : String × DriveId} {name : OsString}
    (real : ctx.dryRun = false)
    (live : w.CachesLive)
    : Always (Environment.unfailing md5 root faults).sem World.CachesLive
        (enterFolder ctx current name) w (fun _ _ => True) := by
  refine always_ask_bind.mpr ⟨live, fun known looked served => ?_⟩
  obtain ⟨rfl, rfl⟩ := served
  split
  · exact ⟨live, trivial⟩
  have created
      : Always (Environment.unfailing md5 root faults).sem World.CachesLive
          (enterFolder.create ctx current (pushKey current.1 name.toStringLossy)
            name.toStringLossy) looked
          (fun result last =>
            ∀ id, result = .ok id
            → ∀ item, last.remote.item? id = some item → item.trashed = false) := by
    simp only [enterFolder.create, real, Bool.false_eq_true, if_false]
    apply always_retry (fun _ state => state.CachesLive) (fun _ _ _ => True) _ _ _ live
    · intro left state live
      refine ⟨live, fun cancelled checked served => ?_⟩
      have live := (Environment.sem_matches served (by simp [Op.writes])).cachesLive live
      cases cancelled with
      | true =>
          refine ⟨live, ?_⟩
          intro id failed
          cases failed
      | false =>
          apply (always_mkdir_live live).mono
          intro result last _ made
          obtain ⟨id, rfl, fine⟩ := made
          intro got same
          cases same
          exact fine
    · intro error last _ _ id failed
      cases failed
    · intro left error state live _ stopped slept served
      have live := (Environment.sem_matches served (by simp [Op.writes])).cachesLive live
      cases stopped with
      | true =>
          refine ⟨live, ?_⟩
          intro id failed
          cases failed
      | false => exact live
  refine created.bind ?_ (fun _ _ _ _ => trivial)
  intro newId state live fine
  refine always_ask_bind.mpr ⟨live, fun _ after served => ?_⟩
  have entered : after = _ := served
  subst entered
  exact ⟨live.inserted (fine newId rfl), trivial⟩

/-- The listing names what the remote holds. -/
theorem always_listRemote_live (live : w.CachesLive)
    : Always (Environment.unfailing md5 primary.remoteFolderId faults).sem World.CachesLive
        (listRemote primary) w
        (fun result last =>
          ∃ index, result = .ok index ∧ last.remote.Lists md5 primary.remoteFolderId index) := by
  refine always_ask_bind.mpr ⟨live, fun _ reported served => ?_⟩
  have live := (Environment.sem_matches served (by simp [Op.writes])).cachesLive live
  refine always_ask_bind.mpr ⟨live, fun answer listed served => ?_⟩
  obtain ⟨remote, ⟨same, index, rfl, lists⟩, stored⟩ := served
  subst same
  subst stored
  exact ⟨live, index, rfl, lists rfl⟩

/-- Every folder of the walk is looked up or made. -/
theorem always_createFolders_live {localDirs : List Path} (real : ctx.dryRun = false)
    (live : w.CachesLive)
    : Always (Environment.unfailing md5 root faults).sem World.CachesLive
        (createFolders ctx primary localDirs) w (fun _ _ => True) := by
  refine always_each _ ?_ live
  intro dir _ state live
  refine always_ask_bind.mpr ⟨live, fun cancelled checked served => ?_⟩
  have live := (Environment.sem_matches served (by simp [Op.writes])).cachesLive live
  cases cancelled with
  | true => exact ⟨live, trivial⟩
  | false =>
  simp only [Bool.false_eq_true, if_false]
  cases Path.stripPrefix primary.localPath dir.1 with
  | none => exact ⟨live, trivial⟩
  | some rel =>
  refine always_ask_bind.mpr ⟨live, fun _ reported served => ?_⟩
  have live := (Environment.sem_matches served (by simp [Op.writes])).cachesLive live
  refine always_ask_bind.mpr ⟨live, fun known looked served => ?_⟩
  have live := (Environment.sem_matches served (by simp [Op.writes])).cachesLive live
  cases known with
  | some entry => exact ⟨live, trivial⟩
  | none =>
  have entered
      : Always (Environment.unfailing md5 root faults).sem World.CachesLive
          (rel.foldlM (enterFolder ctx) ("", primary.remoteFolderId)) looked (fun _ _ => True) := by
    apply always_foldlM (fun _ _ state => state.CachesLive) _ _ rel _ live
    · intro _ _ live
      exact ⟨live, trivial⟩
    · intro name rest current state live
      apply (always_enterFolder_live real live).mono
      intro result last live _
      cases result with
      | ok next => exact live
      | error error => trivial
  exact entered.bind (fun _ _ live _ => ⟨live, trivial⟩) (fun _ _ _ _ => trivial)

/-- A scan keeps cached items live. -/
theorem always_scan_live (real : ctx.dryRun = false)
    (configured : ctx.cfg.getPrimaryPair = some primary) (live : w.CachesLive)
    : Always (Environment.unfailing md5 primary.remoteFolderId faults).sem World.CachesLive
        (scan ctx ignore) w (fun _ _ => True) := by
  have looks {op : Op} (looks : op.Looks)
      : op.writes ≠ some .remote ∧ op.writes ≠ some .pathCache := by
    rw [show op.writes = none from looks.silent]
    simp
  unfold scan
  simp only [orError, configured, propagate, Prog.ok_bind]
  apply (always_listRemote_live live).bind _ (fun _ _ _ _ => trivial)
  intro index listed live lists
  obtain ⟨_, ⟨⟩, lists⟩ := lists
  refine Always.bind (always_fillCache_live lists live) ?_ (fun _ _ _ _ => trivial)
  intro _ filled live _
  refine Always.bind (always_live uses_takeInventory (fun _ => looks) live) ?_
    (fun _ _ _ _ => trivial)
  intro inventory taken live _
  refine Always.bind (always_createFolders_live real live) ?_ (fun _ _ _ _ => trivial)
  intro _ made live _
  apply always_live uses_reconcile _ live
  intro op reconciles
  cases reconciles with
  | looks seen => exact looks seen
  | upsert entry => simp [Op.writes]
  | send task => simp [Op.writes]

/-- Synchronising any file does, too. -/
theorem always_syncFile_live {path : Path} (configured : ctx.cfg.getPrimaryPair = some primary)
    (live : w.CachesLive)
    : Always (Environment.unfailing md5 root faults).sem (fun _ => True)
        (syncFile ctx ignore path) w
        (fun _ last => last.CachesLive) := by
  let env := Environment.unfailing md5 root faults
  have kept (op : Op) (state : World) (answer : op.Answer) (after : World) (here : op.Local)
      (served : env.sem op state answer after)
      (same : state.disk = w.disk ∧ state.remote = w.remote)
      : after.disk = w.disk ∧ after.remote = w.remote := by
    have keeps := Environment.sem_keeps served
    refine ⟨keeps.disk.trans same.1, (keeps.remote ?_).trans same.2⟩
    cases op <;> simp [Op.writes]
    exact here _ rfl
  refine ((@comes_syncFile_orEnded env w ctx primary ignore path configured).keeps kept
    ⟨rfl, rfl⟩).always ?_
  intro program state arrived
  obtain ⟨⟨pathCache, arrived⟩, disk, remote⟩ := arrived
  have same : w.Matches state := ⟨disk, remote, pathCache⟩
  rcases arrived with (⟨result, -⟩ | ⟨due, named, folder, running⟩) | ⟨⟨result, rfl⟩, -⟩
  · exact ⟨trivial, same.cachesLive live⟩
  · rename_i data key fileName parentId
    have read : w.disk.read path = some data.content := by
      simp [Disk.read, due.file, due.readable]
    refine (always_uploadLoop_ends read same).bind ?_ ?_
    · intro result stored _ ended
      cases ended with
      | stored unused made cache =>
          refine always_ask_bind.mpr ⟨trivial, fun _ entered served => ?_⟩
          have entered_eq : entered = _ := served
          obtain ⟨-, live⟩ : entered.HoldsCopy key data.content ∧ entered.CachesLive := by
            apply live.uploaded made (by rw [entered_eq])
            rw [entered_eq, cache]
          apply always_upsert_ends
          intro result last same
          exact same.cachesLive live
    · intro error stored _ ended
      cases ended with
      | failed same => exact same.cachesLive live
  · exact ⟨trivial, same.cachesLive live⟩

/-- A scan that succeeds knows every file that the remote holds. -/
theorem ensures_scan_knows {key : String} {content : List UInt8}
    (configured : ctx.cfg.getPrimaryPair = some primary)
    (held : w.remote.FileAt primary.remoteFolderId key content)
    : Ensures (.unfailing md5 primary.remoteFolderId faults) (scan ctx ignore) w
        (fun _ last => (last.pathCache.lookup key).isSome) := by
  have lists
      : Ensures (.unfailing md5 primary.remoteFolderId faults) (listRemote primary) w
          (fun index _ => ∃ file ∈ index.files, file.relativePath = key) := by
    refine always_ask_bind.mpr ⟨trivial, fun _ reported served => ?_⟩
    have remote := (Environment.sem_matches served (by simp [Op.writes])).remote
    refine always_ask_bind.mpr ⟨trivial, fun answer listed served => ?_⟩
    obtain ⟨after, ⟨-, index, rfl, lists⟩, -⟩ := served
    obtain ⟨id, item, itemAt, kind⟩ := held
    rw [← remote] at itemAt
    obtain ⟨file, member, -, path⟩ := (lists rfl).everyFile id item key content itemAt kind
    exact ensures_pure ⟨file, member, path⟩
  unfold scan
  simp only [orError, configured, propagate, Prog.ok_bind]
  apply lists.bind
  intro index listed inListing
  have filled
      : Ensures (.unfailing md5 primary.remoteFolderId faults) (fillCache index) listed
          (fun _ last => (last.pathCache.lookup key).isSome) := by
    apply (fillCache_knows (.inl inListing)).mono
    intro result last _ known value same
    exact known same
  apply filled.bind
  intro _ filled known
  apply ((always_stays_known ?_ known).weaken (fun _ _ => trivial)).mono
  · intro result last _ stays value _
    exact stays.1
  · refine Uses.bind (uses_takeInventory.mono (fun _ => .looks)) (fun inventory => ?_)
    exact Uses.bind uses_createFolders_scan (fun _ => uses_reconcile_scan)

/-- With nothing failing, a scan that succeeds has ordered a walked file synchronised exactly if it
was ordered before or differs from what the database and the cache know.
-/
theorem always_scan_orders_iff {cfg : AppConfig} {rel : Path} (quiet : env.Undisturbed)
    (running : w.shutdown = false) (configured : cfg.getPrimaryPair = some primary)
    (distinct : ((walkedRels w.disk primary.localPath ignore).map relKey).Nodup)
    (walked : rel ∈ walkedRels w.disk primary.localPath ignore)
    (full : 0 < w.disk.sizeOf (primary.localPath ++ rel))
    : Always (noted env.sem ScanLog.note) (fun _ => True) (scan ⟨cfg, false⟩ ignore) (w, {})
        (fun result last =>
          result = .ok ()
          → (.syncFile (primary.localPath ++ rel) ∈ last.1.tasks
            ↔ .syncFile (primary.localPath ++ rel) ∈ w.tasks
              ∨ Differs env { w with pathCache := last.1.pathCache } (primary.localPath ++ rel)
                  (relKey rel))) := by
  apply always_scan_compares quiet running configured
  · intro index made _ ready
    obtain ⟨made, log⟩ := made
    obtain rfl : log = ⟨index, []⟩ := ready.log
    have disk : made.disk = w.disk := ready.disk
    have db : made.db = w.db := ready.db
    have tasks : made.tasks = w.tasks := ready.tasks
    rw [walkedFiles_eq]
    apply (@always_reconcile env made ⟨index, []⟩ primary ignore _ index quiet ready.running cfg
      (fun rel member => (walkedRels_proper member).clean) distinct).mono
    intro result last _ compared _
    obtain ⟨-, cache, -, order, diff⟩ := compared
    have same : Differs env { w with pathCache := last.1.pathCache } (primary.localPath ++ rel)
          (relKey rel)
        ↔ Differs env made (primary.localPath ++ rel) (relKey rel) := by
      unfold Differs Outdated
      simp only [cache, disk, db]
    rw [same, diff.tasks, tasks]
    simp only [List.mem_append, List.mem_map, Task.syncFile.injEq, List.append_cancel_left_eq,
      exists_eq_right, reduceCtorEq, and_false, exists_false, or_false, toSend, List.mem_filter,
      decide_eq_true_eq, disk, walked, full, true_and]
  · intro error index last _ _ failed
    cases failed

end Live

-----------------------------------------------------------------------------------------
-- Sessions of scans and synchronisations
-----------------------------------------------------------------------------------------

section Sessions

variable {md5 : List UInt8 → String} {faults : Fault → Prop} {primary : SyncPair} {cfg : AppConfig}
  {ignore : IgnoreMatcher} {start w : World} {begun : List Begun}

/-- In a session of scans and synchronisations cached items stay live. By induction on the session.
-/
theorem Session.cachesLive (configured : cfg.getPrimaryPair = some primary)
    (session
      : Session (.unfailing md5 primary.remoteFolderId faults) ⟨cfg, false⟩ ignore start begun w)
    (jobs : ∀ item ∈ begun, item.1 = .scan ∨ ∃ path, item.1 = .task (.syncFile path))
    (live : start.CachesLive)
    : w.CachesLive := by
  induction session with
  | start => exact live
  | outside run disk ih => exact ih jobs
  | @job begun w after job result run executes ih =>
      have before := ih (fun item member => jobs item (List.mem_append_left _ member))
      rcases jobs (job, w) (by simp) with scans | ⟨path, syncs⟩
      · have scans : job = .scan := scans
        subst scans
        exact ((always_scan_live rfl configured before).reaches executes).1
      · have syncs : job = .task (.syncFile path) := syncs
        subst syncs
        exact ((always_syncFile_live configured before).reaches executes).2

/-- In every session of scans and synchronisations: a handling of a file that is kept and not empty,
when it succeeds without a shutdown, leaves the remote with its content exactly if the file was not
mistaken for a synchronised one; a scan that succeeds has ordered it synchronised if its row is
outdated, and where the remote has the file and nothing fails only then.
-/
theorem written_file_fresh_iff (md5 : List UInt8 → String) (faults : Fault → Prop) {rel : Path}
    {data : FileData} (configured : cfg.getPrimaryPair = some primary)
    (session
      : Session (.unfailing md5 primary.remoteFolderId faults) ⟨cfg, false⟩ ignore start begun w)
    (jobs : ∀ item ∈ begun, item.1 = .scan ∨ ∃ path, item.1 = .task (.syncFile path))
    (live : start.CachesLive)
    (file : w.disk.node? (primary.localPath ++ rel) = some (.file data))
    (full : data.content ≠ [])
    (kept : ignore.isIgnored (primary.localPath ++ rel) false = false)
    : (∀ last,
        Reaches (Environment.unfailing md5 primary.remoteFolderId faults).sem
          (handle ⟨cfg, false⟩ ignore (.syncFile (primary.localPath ++ rel))) w
            (.done (.ok ())) last
        → last.shutdown = false
        → (last.HoldsCopy (relKey rel.trim) data.content ↔ ¬ w.Mistakes md5 (relKey rel.trim) data))
      ∧ ∀ last,
          Reaches (Environment.unfailing md5 primary.remoteFolderId faults).sem
            (scan ⟨cfg, false⟩ ignore) w (.done (.ok ())) last
          → primary.localPath ++ rel ∈ walkedFiles w.disk primary.localPath ignore
          → (KeyedAlone primary ignore w.disk rel
              → Outdated (.unfailing md5 primary.remoteFolderId faults) w (primary.localPath ++ rel)
                  (relKey rel.trim)
              → .syncFile (primary.localPath ++ rel) ∈ last.tasks)
            ∧ ((∀ fault, ¬ faults fault)
              → w.shutdown = false
              → ((walkedRels w.disk primary.localPath ignore).map relKey).Nodup
              → (∃ content, w.remote.FileAt primary.remoteFolderId (relKey rel.trim) content)
              → (.syncFile (primary.localPath ++ rel) ∈ last.tasks
                ↔ .syncFile (primary.localPath ++ rel) ∈ w.tasks
                  ∨ Outdated (.unfailing md5 primary.remoteFolderId faults) w
                      (primary.localPath ++ rel) (relKey rel.trim))) := by
  constructor
  · intro last handled running
    have inRoot : relStr primary.localPath (primary.localPath ++ rel) = .ok (relKey rel.trim) := by
      simp [relStr]
    have live := session.cachesLive configured jobs live
    have ends := @always_syncFile_refreshes md5 primary.remoteFolderId faults w primary ⟨cfg, false⟩
      ignore _ _ data configured inRoot file kept full live
    exact (ends.reaches handled).2.fresh rfl running
  · intro last scanned walked
    have clean := (walkedFiles_proper walked).clean
    rw [clean.trim]
    have size : 0 < w.disk.sizeOf (primary.localPath ++ rel) := Disk.sizeOf_pos file full
    constructor
    · intro alone outdated
      exact ((ensures_scan_orders configured walked alone outdated size).reaches scanned).2 () rfl
    · intro sound running distinct held
      obtain ⟨content, held⟩ := held
      have known : (last.pathCache.lookup (relKey rel)).isSome :=
        ((ensures_scan_knows configured held).reaches scanned).2 () rfl
      obtain ⟨log, noted⟩ := scanned.noted ({} : ScanLog)
      have inWalk : rel ∈ walkedRels w.disk primary.localPath ignore := by
        rw [walkedFiles_eq] at walked
        simpa using walked
      have orders := ((@always_scan_orders_iff
          (.unfailing md5 primary.remoteFolderId faults) w primary
        ignore cfg rel sound running configured distinct inWalk size).reaches noted).2 rfl
      have cached : last.pathCache.lookup (relKey rel) ≠ none := by
        intro unknown
        rw [unknown] at known
        cases known
      exact orders.trans (or_congr_right (or_iff_right cached))

end Sessions

-----------------------------------------------------------------------------------------
-- Two writes within a second
-----------------------------------------------------------------------------------------

/-- One file, with that content and that time. -/
def noteDisk (content : List UInt8) (modified : Int) : Disk :=
  .backup (.single (.utf8 "a") OsString.proper_a) (fun _ => .file ⟨content, modified, true⟩)

/-- The digests of its two versions. -/
def noteMd5 (content : List UInt8) : String := if content = [1] then "one" else "two"

/-- Nothing is known of the file. -/
def unsentWorld : World where
  disk := noteDisk [1] 0

/-- The first version has been sent. -/
def sentWorld : World where
  disk := noteDisk [1] 0
  db := ({} : Database).upsert ⟨"a", "one", 0⟩
  pathCache := ({} : PathCache).insert "a" "1" "root"
  remote := ({} : Remote).put "1" ⟨"a", "root", .file [1], false⟩
  tracker := { currentDir := "/backup", currentName := "a", currentFileSize := 1 }

/-- The file is sent when it is handled for the first time. -/
theorem reaches_sent
    : Reaches (Environment.unfailing noteMd5 "root" (fun _ => False)).sem
        (handle ⟨backupConfig, false⟩ .nothing (.syncFile (backupFile "a"))) unsentWorld
        (.done (.ok ())) sentWorld := by
  refine reaches_call (.ok ⟨false, true, 1, 0⟩) _ ⟨rfl, rfl⟩ ?_
  refine reaches_call (.ok ⟨false, true, 1, 0⟩) _ ⟨rfl, rfl⟩ ?_
  refine reaches_call (.ok ⟨false, true, 1, 0⟩) _ ⟨rfl, rfl⟩ ?_
  refine reaches_call (.ok none) _ (.inl ⟨rfl, rfl⟩) ?_
  refine reaches_call false _ ⟨.inl rfl, rfl⟩ ?_
  refine reaches_call (.ok "one") _ ⟨rfl, rfl⟩ ?_
  refine reaches_call (.ok none) _ (.inl ⟨rfl, rfl⟩) ?_
  refine reaches_call none _ ⟨rfl, rfl⟩ ?_
  refine reaches_call () _ rfl ?_
  refine reaches_call false _ ⟨.inl rfl, rfl⟩ ?_
  refine reaches_call (.ok ⟨"1", "one", 1⟩) _ ⟨_, ⟨"1", ?_, rfl, rfl⟩, rfl⟩ ?_
  · refine ⟨by decide, rfl, fun id item found => ?_⟩
    have found : ({} : Remote).item? id = some item := found
    cases found
  refine reaches_call (.ok "one") _ ⟨rfl, rfl⟩ ?_
  refine reaches_call () _ rfl ?_
  exact reaches_call (.ok ()) _ (.inl ⟨rfl, rfl⟩) .refl

/-- The first version sent, the second written half a second later. -/
def rewrittenWorld : World := { sentWorld with disk := noteDisk [2] 500000000 }

/-- Handled again, the file is taken for the version that was sent. -/
theorem reaches_skipped
    : Reaches (Environment.unfailing noteMd5 "root" (fun _ => False)).sem
        (handle ⟨backupConfig, false⟩ .nothing (.syncFile (backupFile "a"))) rewrittenWorld
        (.done (.ok ())) rewrittenWorld := by
  refine reaches_call (.ok ⟨false, true, 1, 500000000⟩) _ ⟨rfl, rfl⟩ ?_
  refine reaches_call (.ok ⟨false, true, 1, 500000000⟩) _ ⟨rfl, rfl⟩ ?_
  refine reaches_call (.ok ⟨false, true, 1, 500000000⟩) _ ⟨rfl, rfl⟩ ?_
  refine reaches_call (.ok (some ⟨"a", "one", 0⟩)) _ (.inl ⟨rfl, rfl⟩) ?_
  exact reaches_call (some ⟨"1", "root"⟩) _ ⟨by decide, rfl⟩ .refl

/-- The second version is lost: the handling succeeds, and the remote has the first. -/
theorem quick_rewrite_lost
    : ¬ ∀ (begun : List Begun) (w : World) (data : FileData),
          Session (.unfailing noteMd5 "root" (fun _ => False)) ⟨backupConfig, false⟩ .nothing
            unsentWorld begun w
          → (∀ item ∈ begun, item.1 = .task (.syncFile (backupFile "a")))
          → w.disk.node? (backupFile "a") = some (.file data)
          → data.content ≠ []
          → ∀ last,
              Reaches (Environment.unfailing noteMd5 "root" (fun _ => False)).sem
                (handle ⟨backupConfig, false⟩ .nothing (.syncFile (backupFile "a"))) w
                (.done (.ok ())) last
              → last.HoldsCopy "a" data.content := by
  intro claim
  let job : Job := .task (.syncFile (backupFile "a"))
  have sent
      : Session (.unfailing noteMd5 "root" (fun _ => False)) ⟨backupConfig, false⟩ .nothing
          unsentWorld [(job, unsentWorld)] sentWorld := .job .start reaches_sent
  have holds := claim _ _ ⟨[2], 500000000, true⟩ (sent.outside (noteDisk [2] 500000000))
    (by simp [job]) rfl (by decide) rewrittenWorld reaches_skipped
  obtain ⟨entry, item, cached, known, -, kind⟩ := holds
  have entry_eq : entry = ⟨"1", "root"⟩ := by
    simpa [rewrittenWorld, sentWorld, PathCache.lookup_insert] using cached.symm
  subst entry_eq
  have item_eq : item = ⟨"a", "root", .file [1], false⟩ := by
    simpa [rewrittenWorld, sentWorld, Remote.item?_put] using known.symm
  subst item_eq
  cases kind

/-- Handled for the first time, the file is sent as it is. -/
theorem first_version_held
    : ∃ last,
        Reaches (Environment.unfailing noteMd5 "root" (fun _ => False)).sem
          (handle ⟨backupConfig, false⟩ .nothing (.syncFile (backupFile "a"))) unsentWorld
          (.done (.ok ())) last
        ∧ last.HoldsCopy "a" [1] := by
  refine ⟨sentWorld, reaches_sent, ?_⟩
  have fresh := (@written_file_fresh_iff backupPair backupConfig .nothing unsentWorld unsentWorld []
    noteMd5 (fun _ => False) [.utf8 "a"] ⟨[1], 0, true⟩ rfl .start (by simp)
    (fun key entry item found => by cases found) rfl (by decide)
    (IgnoreMatcher.nothing_isIgnored ..)).1 sentWorld reaches_sent rfl
  have key : relKey (Path.trim [.utf8 "a"]) = "a" := by decide +kernel
  rw [key] at fresh
  apply fresh.mpr
  intro mistakes
  obtain ⟨⟨entry, row, -⟩ | ⟨entry, row, -⟩, -⟩ := mistakes
  · cases row
  · cases row

end SyncGDrive
