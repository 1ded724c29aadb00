import SyncGDrive.Engine.Knowledge

/-! What the first phase of a scan makes of the cache. The listed items are entered into the one
that is there, where `rebuild_from_index` empties it first.
-/

namespace SyncGDrive

open Program

-----------------------------------------------------------------------------------------
-- Two ways of filling the cache
-----------------------------------------------------------------------------------------

/-- The cache entries that an index calls for, with their keys: folders first, then files. -/
def RemoteIndex.entries (index : RemoteIndex) : List (String × CacheEntry) :=
  index.dirs.map (fun dir => (dir.relativePath, ⟨dir.driveId, dir.parentId⟩))
  ++ index.files.map (fun file => (file.relativePath, ⟨file.driveId, file.parentId⟩))

/-- The keys of a list of entries are distinct. -/
def DistinctKeys (entries : List (String × CacheEntry)) : Prop := (entries.map Prod.fst).Nodup

namespace PathCache

variable {cache : PathCache} {index : RemoteIndex} {entries : List (String × CacheEntry)}

/-- One entry after the other. -/
def enterAll (cache : PathCache) (entries : List (String × CacheEntry)) : PathCache :=
  entries.foldl (fun cache entry => cache.insert entry.1 entry.2.driveId entry.2.parentId) cache

/-- The cache holds the entries of the index, and none besides. -/
def Agrees (cache : PathCache) (index : RemoteIndex) : Prop :=
  ∀ key entry, cache.lookup key = some entry ↔ (key, entry) ∈ index.entries

theorem rebuildFromIndex_eq : cache.rebuildFromIndex index = enterAll ⟨∅⟩ index.entries := by
  simp only [rebuildFromIndex, enterAll, RemoteIndex.entries, List.foldl_append, List.foldl_map]

/-- What is entered is found under its key, and the rest is as before: by induction on the entries.
-/
theorem lookup_enterAll (distinct : DistinctKeys entries) (key : String) (entry : CacheEntry)
    : (cache.enterAll entries).lookup key = some entry
      ↔ (key, entry) ∈ entries
        ∨ key ∉ entries.map Prod.fst ∧ cache.lookup key = some entry := by
  induction entries generalizing cache with
  | nil => simp [enterAll]
  | cons first rest ih =>
      obtain ⟨key', entry'⟩ := first
      obtain ⟨new, distinct⟩ := List.nodup_cons.mp distinct
      rw [enterAll, List.foldl_cons]
      change (enterAll _ rest).lookup key = _ ↔ _
      rw [ih distinct, lookup_insert]
      by_cases same : key = key'
      · subst same
        have absent (entry : CacheEntry) : (key, entry) ∉ rest :=
          fun member => new (List.mem_map.mpr ⟨_, member, rfl⟩)
        simp only [absent, false_or, new, not_false_eq_true, true_and, if_true, Option.some.injEq,
          List.mem_cons, Prod.mk.injEq, List.map_cons, not_true_eq_false, false_and, or_false]
        exact eq_comm
      · simp [same]

/-- Even of entries that share a key, one is found under it. -/
theorem lookup_enterAll_or (key : String)
    : (∃ entry, (key, entry) ∈ entries ∧ (cache.enterAll entries).lookup key = some entry)
      ∨ key ∉ entries.map Prod.fst
        ∧ (cache.enterAll entries).lookup key = cache.lookup key := by
  induction entries generalizing cache with
  | nil => exact .inr ⟨by simp, rfl⟩
  | cons first rest ih =>
      obtain ⟨key', entry'⟩ := first
      rw [enterAll, List.foldl_cons]
      change (∃ entry, _ ∧ (enterAll _ rest).lookup key = _) ∨ _ ∧ (enterAll _ rest).lookup key = _
      rcases @ih (cache.insert key' entry'.driveId entry'.parentId) with
        ⟨entry, member, found⟩ | ⟨absent, same⟩
      · exact .inl ⟨entry, by simp [member], found⟩
      · rw [same, lookup_insert]
        by_cases here : key = key'
        · exact .inl ⟨entry', by simp [here], by rw [if_pos here]⟩
        · refine .inr ⟨?_, if_neg here⟩
          simpa [here] using absent

/-- A cache emptied first agrees with the index. -/
theorem rebuildFromIndex_agrees (distinct : DistinctKeys index.entries)
    : (cache.rebuildFromIndex index).Agrees index := by
  intro key entry
  rw [rebuildFromIndex_eq, lookup_enterAll distinct]
  simp

/-- One filled up agrees when it had no other keys before. -/
theorem enterAll_agrees_iff (distinct : DistinctKeys index.entries)
    : (cache.enterAll index.entries).Agrees index
      ↔ ∀ key, (cache.lookup key).isSome → key ∈ index.entries.map Prod.fst := by
  constructor
  · intro agrees key known
    by_contra unlisted
    obtain ⟨entry, found⟩ := Option.isSome_iff_exists.mp known
    have kept := (lookup_enterAll distinct key entry).mpr (.inr ⟨unlisted, found⟩)
    exact unlisted (List.mem_map.mpr ⟨_, (agrees key entry).mp kept, rfl⟩)
  · intro fresh key entry
    rw [lookup_enterAll distinct, or_iff_left]
    rintro ⟨unlisted, found⟩
    exact unlisted (fresh key (by simp [found]))

/-- Caches that agree with one index answer alike. -/
theorem Agrees.lookup_eq {cache' : PathCache} (agrees : cache.Agrees index)
    (agrees' : cache'.Agrees index) (key : String)
    : cache.lookup key = cache'.lookup key := by
  apply Option.ext
  intro entry
  exact (agrees key entry).trans (agrees' key entry).symm

end PathCache

-----------------------------------------------------------------------------------------
-- The first phase of a scan
-----------------------------------------------------------------------------------------

section Listing

variable {env : Environment} {w : World} {ctx : EngineContext} {primary : SyncPair}
  {ignore : IgnoreMatcher} {index : RemoteIndex}

/-- A loop of entries fills the cache with all of them, by induction on the items. -/
theorem always_entering {γ : Type} (entry : γ → String × CacheEntry) (items : List γ)
    : Always env.sem (fun _ => True)
        (items.forM (fun item =>
          ask (.insert (entry item).1 (entry item).2.driveId (entry item).2.parentId)))
        w
        (fun result last =>
          result = .ok ()
          ∧ last = { w with pathCache := w.pathCache.enterAll (items.map entry) }) := by
  induction items generalizing w with
  | nil => exact ⟨trivial, rfl, rfl⟩
  | cons item rest ih =>
      refine always_ask_bind.mpr ⟨trivial, ?_⟩
      rintro _ after rfl
      exact ih

/-- The listed items are entered in the order of the index. -/
theorem always_fillCache
    : Always env.sem (fun _ => True) (fillCache index) w
        (fun result last =>
          result = .ok ()
          ∧ last = { w with pathCache := w.pathCache.enterAll index.entries }) := by
  refine (always_entering (fun dir : RemoteDir =>
    (dir.relativePath, ⟨dir.driveId, dir.parentId⟩)) index.dirs).bind ?_ (by rintro _ _ _ ⟨⟨⟩, -⟩)
  rintro _ filled - ⟨-, rfl⟩
  refine (always_entering (fun file : RemoteFile =>
    (file.relativePath, ⟨file.driveId, file.parentId⟩)) index.files).mono ?_
  rintro result last - ⟨fine, rfl⟩
  refine ⟨fine, ?_⟩
  simp only [PathCache.enterAll, RemoteIndex.entries, List.foldl_append]

/-- Listing leaves the cache alone. -/
theorem always_listRemote_cache
    : Always env.sem (fun state => state.pathCache = w.pathCache) (listRemote primary) w
        (fun _ _ => True) := by
  refine uses_listRemote.always ?_ rfl
  rintro op state answer next (looks | rfl) same served
  · exact ((env.sem_keeps served).pathCache (by cases looks <;> simp [Op.writes])).trans same
  · exact ((env.sem_keeps served).pathCache (by simp [Op.writes])).trans same

/-- Nothing is cached but at listed keys. -/
def NothingStale (w : World) (index : RemoteIndex) : Prop :=
  ∀ key, (w.pathCache.lookup key).isSome → key ∈ index.entries.map Prod.fst

/-- After a listing the cache agrees with the index, as `rebuild_from_index` would have made it,
exactly where nothing is cached that is no longer listed. Where this is so, no scan takes a file
that is not listed for present.
-/
theorem listing_rebuilds_iff (configured : ctx.cfg.getPrimaryPair = some primary)
    (answers
      : ∀ folder disk remote answer after,
          env.provider (.listRemote folder) disk remote answer after → answer = .ok index)
    (distinct : DistinctKeys index.entries)
    : Always env.sem (fun _ => True) (listRemote primary >>= fillCache) w
        (fun result last =>
          result = .ok ()
          ∧ (last.pathCache.Agrees index ↔ NothingStale w index)
          ∧ ((∀ key, last.pathCache.lookup key = (w.pathCache.rebuildFromIndex index).lookup key)
              ↔ NothingStale w index))
      ∧ (NothingStale w index
          → ∀ key,
              key ∉ index.entries.map Prod.fst
              → (∀ rel,
                  primary.localPath ++ rel ∈ walkedDirs w.disk primary.localPath ignore
                  → relKey rel ≠ key)
              → Always env.sem (fun state => state.pathCache.lookup key = none)
                  (scan ctx ignore) w (fun _ _ => True)) := by
  have rebuilt : (w.pathCache.rebuildFromIndex index).Agrees index :=
    PathCache.rebuildFromIndex_agrees distinct
  constructor
  · refine (always_listRemote_cache.and (listRemote_returns answers)).seq (fun _ _ => trivial) ?_
      (by rintro _ _ _ ⟨-, ⟨⟩⟩)
    rintro listed' middle ⟨same, -⟩ ⟨-, returned⟩
    cases returned
    refine always_fillCache.mono ?_
    rintro result last - ⟨fine, rfl⟩
    simp only [listed, same]
    have agrees := @PathCache.enterAll_agrees_iff w.pathCache index distinct
    refine ⟨fine, agrees, ?_⟩
    rw [NothingStale, ← agrees]
    constructor
    · intro alike key entry
      rw [alike key]
      exact rebuilt key entry
    · exact fun agrees key => agrees.lookup_eq rebuilt key
  · intro fresh key unlisted notDir
    refine ((scan_knows_only answers configured).weaken ?_).mono (fun _ _ _ _ => trivial)
    intro state knows
    cases found : state.pathCache.lookup key with
    | none => rfl
    | some entry =>
        have listedKey (listed
            : (∃ file ∈ index.files, file.relativePath = key)
              ∨ ∃ dir ∈ index.dirs, dir.relativePath = key)
            : key ∈ index.entries.map Prod.fst := by
          simp only [RemoteIndex.entries, List.map_append, List.map_map, List.mem_append,
            List.mem_map, Function.comp_apply]
          exact listed.symm
        rcases knows key (by simp [found]) with before | file | dir | ⟨rel, walked, same⟩
        · exact absurd (fresh key before) unlisted
        · exact absurd (listedKey (.inl file)) unlisted
        · exact absurd (listedKey (.inr dir)) unlisted
        · exact absurd same (notDir rel walked)

end Listing

-----------------------------------------------------------------------------------------
-- A file that somebody else removed
-----------------------------------------------------------------------------------------

/-- Every listing answers with the index, and nothing else happens to the remote. -/
def Environment.listing (index : RemoteIndex) : Environment where
  md5 _ := ""
  provider
    | .listRemote _, _, remote, answer, after => answer = .ok index ∧ after = remote
    | _, _, remote, _, after => after = remote
  faults _ := False

/-- An earlier scan has cached one file. -/
def cachedWorld : World where
  disk := .backup .empty (fun _ => .special)
  pathCache := ({} : PathCache).insert "a.txt" "1" "root"

/-- The remote is empty by now, and the cache goes on to hold the file. -/
theorem removed_file_stays_cached
    : ¬ ∀ (env : Environment) (primary : SyncPair) (index : RemoteIndex) (w : World),
          (∀ folder disk remote answer after,
              env.provider (.listRemote folder) disk remote answer after → answer = .ok index)
          → DistinctKeys index.entries
          → Always env.sem (fun _ => True) (listRemote primary >>= fillCache) w
              (fun result last => result = .ok () ∧ last.pathCache.Agrees index) := by
  intro claim
  have always := claim (.listing ⟨[], []⟩) backupPair ⟨[], []⟩ cachedWorld
    (fun _ _ _ _ _ answered => answered.1) List.nodup_nil
  have path
      : Reaches (Environment.listing ⟨[], []⟩).sem (listRemote backupPair >>= fillCache) cachedWorld
          (.done (.ok ())) (cachedWorld.report (.status (.scanProgress .remoteListing 0 0
            "listing remote…"))) := by
    refine reaches_call () _ rfl ?_
    exact reaches_call (.ok ⟨[], []⟩) _ ⟨_, ⟨rfl, rfl⟩, rfl⟩ .refl
  have agrees := (always.reaches path).2.2
  have listed := (agrees "a.txt" ⟨"1", "root"⟩).mp (by decide +kernel)
  cases listed

/-- The file is still listed. -/
def cachedIndex : RemoteIndex := ⟨[⟨"a.txt", "1", "root", "h", 1, 0⟩], []⟩

theorem cachedWorld_listed : NothingStale cachedWorld cachedIndex := by
  intro key known
  have found
      : cachedWorld.pathCache.lookup key = if key = "a.txt" then some ⟨"1", "root"⟩ else none :=
    PathCache.lookup_insert ..
  rw [found] at known
  split at known
  · rename_i same
    simp [same, cachedIndex, RemoteIndex.entries]
  · cases known

/-- While the file is listed, the cache is what a rebuilt one would be, and nothing else counts as
present.
-/
theorem listed_file_rebuilt
    : Always (Environment.listing cachedIndex).sem (fun _ => True)
        (listRemote backupPair >>= fillCache) cachedWorld
        (fun result last => result = .ok () ∧ last.pathCache.Agrees cachedIndex)
      ∧ Always (Environment.listing cachedIndex).sem
          (fun state => state.pathCache.lookup "b.txt" = none)
          (scan ⟨backupConfig, false⟩ .nothing) cachedWorld (fun _ _ => True) := by
  obtain ⟨rebuilt, absent⟩ :=
    @listing_rebuilds_iff (.listing cachedIndex) cachedWorld ⟨backupConfig, false⟩ backupPair
      .nothing cachedIndex rfl (fun _ _ _ _ _ answered => answered.1) (List.nodup_singleton _)
  constructor
  · refine rebuilt.mono ?_
    rintro result last - ⟨fine, agrees, -⟩
    exact ⟨fine, agrees.mpr cachedWorld_listed⟩
  · refine absent cachedWorld_listed "b.txt" (by decide) ?_
    intro rel walked
    simp [walkedDirs, cachedWorld, backupPair, Disk.walkDir, Disk.backup_entry?, Node.walk,
      Listing.yielded, Listing.empty] at walked
    rw [walked.2]
    decide

end SyncGDrive
