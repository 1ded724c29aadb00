import SyncGDrive.Engine.Calls
import SyncGDrive.Remote.Subtrees

/-! What the deletion of a path leaves in the two stores: the cache drops the key with
everything below it, the index of files one row.
-/

namespace SyncGDrive

open Program

-----------------------------------------------------------------------------------------
-- Keys at and below a key
-----------------------------------------------------------------------------------------

/-- The other key is `key` or lies below it, component by component. -/
def Covers (key other : String) : Prop :=
  key.toList.splitOn '/' <+: other.toList.splitOn '/'

theorem covers_self (key : String) : Covers key key := List.prefix_rfl

/-- Separated pieces come apart at any of the separators, by induction on the pieces before it. -/
theorem intercalate_append {α : Type} {separator : List α} {front back : List (List α)}
    (pieces : front ≠ []) (more : back ≠ [])
    : separator.intercalate (front ++ back)
      = separator.intercalate front ++ (separator ++ separator.intercalate back) := by
  induction front with
  | nil => exact absurd rfl pieces
  | cons piece rest ih =>
      cases rest with
      | nil =>
          rw [List.singleton_append, List.intercalate_cons_of_ne_nil more,
            List.intercalate_singleton, List.append_assoc]
      | cons next rest =>
          rw [List.cons_append, List.intercalate_cons_of_ne_nil (by simp), ih (by simp),
            List.intercalate_cons_cons]
          simp only [List.append_assoc]

/-- As texts, the keys below are those that go on behind a slash. -/
theorem covers_iff_isBelow {key other : String}
    : Covers key other ↔ other = key ∨ PathCache.isBelow key other = true := by
  rw [PathCache.isBelow, List.isPrefixOf_iff_prefix, String.toList_append]
  change _ ↔ _ ∨ key.toList ++ ['/'] <+: _
  constructor
  · rintro ⟨rest, split⟩
    have text := congrArg (['/'].intercalate ·) split.symm
    simp only [List.intercalate_splitOn] at text
    cases rest with
    | nil =>
        rw [List.append_nil, List.intercalate_splitOn] at text
        exact .inl (String.toList_injective text)
    | cons piece rest =>
        refine .inr ⟨['/'].intercalate (piece :: rest), ?_⟩
        rw [text, intercalate_append (List.splitOn_ne_nil _ _) (by simp),
          List.intercalate_splitOn, List.append_assoc]
  · rintro (rfl | ⟨rest, text⟩)
    · exact covers_self other
    · rw [Covers, ← text, List.append_assoc, List.singleton_append,
        List.splitOn_append_cons_self]
      exact List.prefix_append _ _

-----------------------------------------------------------------------------------------
-- The deletion of a path
-----------------------------------------------------------------------------------------

/-- What the deletion of a path is to do: it drops the key and all keys below it from both stores,
and nothing else; if it fails, and not for SQLite, it leaves both as they were.
-/
structure Cascaded (env : Environment) (key : String) (w : World) (result : Except Error Unit)
    (last : World)
    : Prop where
  gone
    : result = .ok () → ∀ other, Covers key other
        → last.pathCache.lookup other = none ∧ last.db.row other = none
  others
    : result = .ok () → ∀ other, ¬ Covers key other
        → last.pathCache.lookup other = w.pathCache.lookup other
          ∧ last.db.row other = w.db.row other
  failed
    : ∀ error, result = .error error → ¬ env.faults .database
        → last.pathCache = w.pathCache ∧ last.db = w.db

/-- There is no row below the key, and none of the entries below it is cached without one at the
key itself; in a simulation, there is nothing at all to drop.
-/
structure CascadeDue (ctx : EngineContext) (key : String) (w : World) : Prop where
  rows : ∀ other, Covers key other → other ≠ key → w.db.row other = none
  cached
    : w.pathCache.lookup key = none → ∀ other, Covers key other → w.pathCache.lookup other = none
  real : ctx.dryRun = true → w.pathCache.lookup key = none ∧ w.db.row key = none

/-- The item is to be removed, and a shutdown has been requested before. -/
def DeletionStopped (ctx : EngineContext) (key : String) (w : World) : Prop :=
  ctx.dryRun = false ∧ w.shutdown = true ∧ (w.pathCache.lookup key).isSome

section Deletion

variable {env : Environment} {ctx : EngineContext} {ignore : IgnoreMatcher} {primary : SyncPair}
  {w : World} {rel : Path} {key : String}

/-- Attempts to remove an item leave both stores alone. -/
theorem always_attempts {id : DriveId}
    : Always env.sem (fun state => state.pathCache = w.pathCache ∧ state.db = w.db)
        (retry ctx.cfg (ask (.provider (.delete id)))) w (fun _ _ => True) :=
  always_sameTables
    (uses_retry (by simp [Op.writes]) (by simp [Op.writes]) (uses_ask (by simp [Op.writes])))

/-- A row is removed, or SQLite fails. -/
theorem always_deleteRow {post : Except Error Unit → World → Prop}
    (deleted : post (.ok ()) { w with db := w.db.delete key })
    (failed : env.faults .database → ∀ error, post (.error error) w)
    : Always env.sem (fun _ => True)
        (do propagate (← ask (.deleteRow key))) w post := by
  refine always_ask_bind.mpr ⟨trivial, ?_⟩
  rintro answer after (⟨rfl, rfl⟩ | ⟨faulty, ⟨error, rfl⟩, rfl⟩)
  · exact ⟨trivial, deleted⟩
  · exact ⟨trivial, failed faulty error⟩

/-- What `delete` makes of the key once the patterns are passed. -/
theorem always_delete_key {path : Path} {post : Except Error Unit → World → Prop}
    (configured : ctx.cfg.getPrimaryPair = some primary)
    (kept : ignore.isIgnored path (w.disk.isDir path) = false)
    (inRoot : relStr primary.localPath path = .ok key)
    (always
      : Always env.sem (fun _ => True)
          (do
            deleteItem ctx key
            propagate (← ask (.deleteRow key)))
          w post)
    : Always env.sem (fun _ => True) (delete ctx ignore path) w post := by
  unfold delete
  refine always_isDir_bind trivial ?_
  rw [kept]
  simp only [Bool.false_eq_true, if_false, configured, orError, propagate, Prog.ok_bind, inRoot]
  exact always

/-- Where the stores allow it, the deletion cascades in both. -/
theorem CascadeDue.cascaded (due : CascadeDue ctx key w) {path : Path}
    (configured : ctx.cfg.getPrimaryPair = some primary)
    (kept : ignore.isIgnored path (w.disk.isDir path) = false)
    (inRoot : relStr primary.localPath path = .ok key)
    : Always env.sem (fun _ => True) (handle ctx ignore (.delete path)) w
        (Cascaded env key w) := by
  unfold handle
  split
  · rename_i simulated
    obtain ⟨uncached, rowless⟩ := due.real simulated
    refine ⟨trivial, ?_, fun _ _ _ => ⟨rfl, rfl⟩, by rintro _ ⟨⟩⟩
    intro _ other covered
    refine ⟨due.cached uncached other covered, ?_⟩
    by_cases same : other = key
    · rw [same, rowless]
    · exact due.rows other covered same
  refine always_delete_key configured kept inRoot ?_
  have row {state : World} (db : state.db = w.db)
      (gone : ∀ other, Covers key other → state.pathCache.lookup other = none)
      (others
        : ∀ other, ¬ Covers key other
            → state.pathCache.lookup other = w.pathCache.lookup other)
      : Always env.sem (fun _ => True) (do propagate (← ask (.deleteRow key))) state
          (Cascaded env key w) := by
    refine always_deleteRow ?_ (fun faulty error => ?_)
    · refine ⟨fun _ other covered => ⟨gone other covered, ?_⟩,
        fun _ other apart => ⟨others other apart, ?_⟩, by rintro _ ⟨⟩⟩
      · rw [Database.row_delete, db]
        split
        · rfl
        · rename_i differs
          exact due.rows other covered differs
      · rw [Database.row_delete, db, if_neg]
        rintro rfl
        exact apart (covers_self _)
    · exact ⟨by rintro ⟨⟩, by rintro ⟨⟩, fun _ _ reliable => absurd faulty reliable⟩
  simp only [deleteItem, bind_assoc]
  refine always_known (fun _ _ served => served) trivial ?_
  cases found : w.pathCache.lookup key with
  | none => exact row rfl (due.cached found) (fun _ _ => rfl)
  | some entry =>
      simp only [bind_assoc]
      refine always_attempts.seq (fun _ _ => trivial) ?_ ?_
      · rintro _ middle ⟨cache, db⟩ -
        refine always_ask_bind.mpr ⟨trivial, ?_⟩
        rintro _ _ rfl
        refine row db (fun other covered => ?_) (fun other apart => ?_)
        · rw [PathCache.lookup_removeCascades, if_pos (covers_iff_isBelow.mp covered)]
        · rw [PathCache.lookup_removeCascades,
            if_neg (fun below => apart (covers_iff_isBelow.mpr below)),
            cache]
      · rintro error middle same -
        exact ⟨by rintro ⟨⟩, by rintro ⟨⟩, fun _ _ _ => same⟩

/-- A deletion that a shutdown stops leaves both stores alone. -/
theorem DeletionStopped.cascaded (stopped : DeletionStopped ctx key w) {path : Path}
    (configured : ctx.cfg.getPrimaryPair = some primary)
    (kept : ignore.isIgnored path (w.disk.isDir path) = false)
    (inRoot : relStr primary.localPath path = .ok key)
    : Always env.sem (fun _ => True) (handle ctx ignore (.delete path)) w
        (Cascaded env key w) := by
  obtain ⟨real, requested, cached⟩ := stopped
  obtain ⟨entry, found⟩ := Option.isSome_iff_exists.mp cached
  simp only [handle, real, Bool.false_eq_true, if_false]
  refine always_delete_key configured kept inRoot ?_
  simp only [deleteItem, bind_assoc]
  refine always_known (fun _ _ served => served) trivial ?_
  simp only [found, bind_assoc, retry]
  have ended {again : Option (Eff Unit)} {f : Unit → Eff Unit}
      : Always env.sem (fun _ => True)
          (retryAttempt ctx.cfg.retry.initialBackoffMs
            (ask (.provider (.delete entry.driveId))) again >>= f)
          w (Cascaded env key w) := by
    simp only [retryAttempt, bind_assoc]
    refine always_ask_bind.mpr ⟨trivial, ?_⟩
    rintro cancelled after ⟨same | ⟨-, same⟩, rfl⟩
    all_goals
      subst same
      simp only [requested, if_true]
      exact ⟨trivial, by rintro ⟨⟩, by rintro ⟨⟩, fun _ _ _ => ⟨rfl, rfl⟩⟩
  cases ctx.cfg.retry.maxAttempts - 1 <;> exact ended

/-- An execution in which the item is removed, where there is one, and then the row. -/
theorem reaches_deletion {path : Path} (configured : ctx.cfg.getPrimaryPair = some primary)
    (kept : ignore.isIgnored path (w.disk.isDir path) = false)
    (inRoot : relStr primary.localPath path = .ok key) (real : ctx.dryRun = false)
    (running : (w.pathCache.lookup key).isSome → w.shutdown = false)
    : ∃ last,
        Reaches (Environment.steady (fun _ => "")).sem (handle ctx ignore (.delete path)) w
          (.done (.ok ())) last
        ∧ last.db = w.db.delete key
        ∧ last.pathCache
          = if (w.pathCache.lookup key).isSome then w.pathCache.removeCascades key
            else w.pathCache := by
  simp only [handle, real, Bool.false_eq_true, if_false, delete]
  cases found : w.pathCache.lookup key with
  | none =>
      refine ⟨{ w with db := w.db.delete key }, reaches_isDir_bind ?_, rfl, rfl⟩
      rw [kept]
      simp only [Bool.false_eq_true, if_false, configured, orError, propagate, Prog.ok_bind,
        inRoot, deleteItem, bind_assoc]
      refine reaches_call none w ⟨found.symm, rfl⟩ ?_
      exact reaches_call (.ok ()) _ (.inl ⟨rfl, rfl⟩) .refl
  | some entry =>
      have goesOn : w.shutdown = false := running (by simp [found])
      refine ⟨{ w with pathCache := w.pathCache.removeCascades key, db := w.db.delete key },
        reaches_isDir_bind ?_, rfl, rfl⟩
      rw [kept]
      simp only [Bool.false_eq_true, if_false, configured, orError, propagate, Prog.ok_bind,
        inRoot, deleteItem, bind_assoc, retry]
      refine reaches_call (some entry) w ⟨found.symm, rfl⟩ ?_
      cases ctx.cfg.retry.maxAttempts - 1
      all_goals
        refine reaches_call false w ⟨.inl rfl, goesOn.symm⟩ ?_
        refine reaches_call (.ok ()) w ⟨w.remote, trivial, rfl⟩ ?_
        refine reaches_call () _ rfl ?_
        exact reaches_call (.ok ()) _ (.inl ⟨rfl, rfl⟩) .refl

end Deletion

/-- The deletion of a path that is not ignored cascades, whatever the provider does, exactly where
the stores allow it or a shutdown stops it.
-/
theorem deletion_cascades_iff {ctx : EngineContext} {ignore : IgnoreMatcher} {primary : SyncPair}
    {w : World} {rel : Path} (configured : ctx.cfg.getPrimaryPair = some primary)
    (kept
      : ignore.isIgnored (primary.localPath ++ rel)
          (w.disk.isDir (primary.localPath ++ rel)) = false)
    : (∀ env : Environment,
          Always env.sem (fun _ => True)
            (handle ctx ignore (.delete (primary.localPath ++ rel))) w
            (Cascaded env (relKey rel.trim) w))
      ↔ CascadeDue ctx (relKey rel.trim) w ∨ DeletionStopped ctx (relKey rel.trim) w := by
  have inRoot : relStr primary.localPath (primary.localPath ++ rel) = .ok (relKey rel.trim) := by
    simp [relStr]
  constructor
  · intro always
    by_cases stopped : DeletionStopped ctx (relKey rel.trim) w
    · exact .inr stopped
    refine .inl ?_
    cases real : ctx.dryRun with
    | true =>
        have cascaded := (always (.steady (fun _ => ""))).reaches
          (show Reaches _ _ w (.done (.ok ())) w by simpa [handle, real] using .refl)
        have gone := cascaded.2.gone rfl
        refine ⟨fun other covered _ => (gone other covered).2,
          fun _ other covered => (gone other covered).1, fun _ => gone _ (covers_self _)⟩
    | false =>
        have running (known : (w.pathCache.lookup (relKey rel.trim)).isSome)
            : w.shutdown = false := by
          by_contra requested
          exact stopped ⟨real, by simpa using requested, known⟩
        obtain ⟨last, path, db, cache⟩ := reaches_deletion configured kept inRoot real running
        have gone := ((always _).reaches path).2.gone rfl
        refine ⟨fun other covered differs => ?_, fun uncached other covered => ?_,
          fun simulated => absurd (real.symm.trans simulated) (by simp)⟩
        · have rowless := (gone other covered).2
          rwa [db, Database.row_delete, if_neg differs] at rowless
        · have dropped := (gone other covered).1
          rwa [cache, uncached, if_neg (by simp)] at dropped
  · rintro (due | stopped) env
    · exact due.cascaded configured kept inRoot
    · exact stopped.cascaded configured kept inRoot

/-- A folder and a file below it, both cached; the file has a row. -/
def albumWorld : World where
  disk := .backup .empty (fun _ => .special)
  db := ({} : Database).upsert ⟨"album/photo", "h", 1⟩
  pathCache := (({} : PathCache).insert "album" "1" "root").insert "album/photo" "2" "1"

/-- The row of the file outlives the deletion of the folder. -/
theorem album_row_left
    : ¬ ∀ (env : Environment) ctx (ignore : IgnoreMatcher) (primary : SyncPair) (w : World) rel,
          ctx.cfg.getPrimaryPair = some primary
          → ignore.isIgnored (primary.localPath ++ rel)
              (w.disk.isDir (primary.localPath ++ rel)) = false
          → Always env.sem (fun _ => True)
              (handle ctx ignore (.delete (primary.localPath ++ rel))) w
              (Cascaded env (relKey rel) w) := by
  intro claim
  obtain ⟨last, path, db, -⟩ :=
    @reaches_deletion ⟨backupConfig, false⟩ .nothing backupPair albumWorld "album"
      [.utf8 "backup", .utf8 "album"] rfl IgnoreMatcher.nothing_isIgnored rfl rfl
      (fun _ => rfl)
  have cascaded :=
    (claim (.steady (fun _ => "")) ⟨backupConfig, false⟩ .nothing backupPair albumWorld
      [.utf8 "album"] rfl IgnoreMatcher.nothing_isIgnored).reaches path
  have covered : Covers (relKey [.utf8 "album"]) "album/photo" :=
    covers_iff_isBelow.mpr (.inr (by decide +kernel))
  have left := (cascaded.2.gone rfl _ covered).2
  rw [db, Database.row_delete, albumWorld, Database.row_upsert] at left
  simp at left

/-- Without a row below it the folder is dropped with everything below it. -/
theorem album_dropped
    : Always (Environment.calm (fun _ => "") "root").sem (fun _ => True)
        (handle ⟨backupConfig, false⟩ .nothing (.delete [.utf8 "backup", .utf8 "album"]))
        { albumWorld with db := {} }
        (Cascaded (.calm (fun _ => "") "root") "album" { albumWorld with db := {} }) :=
  (@deletion_cascades_iff ⟨backupConfig, false⟩ .nothing backupPair { albumWorld with db := {} }
    [.utf8 "album"] rfl IgnoreMatcher.nothing_isIgnored).mpr
    (.inl ⟨fun _ _ _ => rfl, by rintro ⟨⟩, by rintro ⟨⟩⟩) _

end SyncGDrive
