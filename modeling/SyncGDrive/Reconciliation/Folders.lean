import SyncGDrive.Engine.Completion
import SyncGDrive.Reconciliation.Worker

/-! The first phases of a scan when everything works: the listing makes the cache the map of
the remote items, and every local directory gets its folder.
-/

namespace SyncGDrive

open Program

namespace Setting

variable {s : Setting} {w state : World} {goal : Path → View} {inv : World → Prop}

-----------------------------------------------------------------------------------------
-- Phase 0
-----------------------------------------------------------------------------------------

/-- Whatever the cache knows is on the remote. -/
def Knows (s : Setting) (w : World) : Prop :=
  ∀ key entry,
    w.pathCache.lookup key = some entry
    → ∃ item, w.remote.ItemAt s.folder entry.driveId item key ∧ item.parent = entry.parentId

/-- A cache that knows a right entry for the key of every item is the map of the items. -/
theorem Knows.cached (knows : s.Knows w) (unique : w.remote.UniquePaths s.folder)
    (every
      : ∀ key id item,
          w.remote.ItemAt s.folder id item key → (w.pathCache.lookup key).isSome)
    : s.Cached w := by
  intro key id parent
  constructor
  · exact knows key ⟨id, parent⟩
  · rintro ⟨item, itemAt, rfl⟩
    obtain ⟨⟨id', parent'⟩, found⟩ := Option.isSome_iff_exists.mp (every key id item itemAt)
    obtain ⟨item', itemAt', rfl⟩ := knows key _ found
    obtain rfl := unique _ _ _ _ _ itemAt itemAt'
    rw [found, Option.some.inj (itemAt.1.symm.trans itemAt'.1)]

/-- Entering right entries, each for its key, leaves a cache that knows them all. -/
theorem always_insertAll {γ : Type} {env : Environment} (entries : List γ)
    (key : γ → String) (driveId parentId : γ → DriveId)
    (right
      : ∀ entry ∈ entries, ∃ item, w.remote.ItemAt s.folder (driveId entry) item (key entry)
          ∧ item.parent = parentId entry)
    (knows : s.Knows w)
    : Always env.sem w.Agrees
        (entries.forM (fun entry => ask (.insert (key entry) (driveId entry) (parentId entry)))) w
        (fun result state =>
          result = .ok () ∧ s.Knows state
          ∧ (∀ key, (w.pathCache.lookup key).isSome → (state.pathCache.lookup key).isSome)
          ∧ ∀ entry ∈ entries, (state.pathCache.lookup (key entry)).isSome) := by
  refine always_forM
    (fun rest state =>
      w.Agrees state ∧ s.Knows state
      ∧ (∀ key, (w.pathCache.lookup key).isSome → (state.pathCache.lookup key).isSome)
      ∧ (∀ entry ∈ rest, entry ∈ entries)
      ∧ ∀ entry ∈ entries,
          entry ∈ rest ∨ (state.pathCache.lookup (key entry)).isSome)
    ?kept ?step entries ⟨.refl w, knows, fun _ => id, fun _ => id, fun _ => .inl⟩
  case kept =>
    rintro last ⟨agrees, knows, older, -, every⟩
    exact ⟨agrees, rfl, knows, older, fun entry member =>
      (every entry member).resolve_left List.not_mem_nil⟩
  case step =>
    rintro entry rest middle ⟨agrees, knows, older, coming, every⟩
    refine always_ask.mpr ⟨agrees, ?_⟩
    rintro _ after rfl
    obtain ⟨item, itemAt, parentEq⟩ := right entry (coming entry (by simp))
    have agrees' : w.Agrees { middle with
        pathCache := middle.pathCache.insert (key entry) (driveId entry) (parentId entry) } :=
      ⟨agrees.disk, agrees.db, agrees.remote, agrees.tasks, agrees.running⟩
    refine ⟨agrees', agrees', ?_, ?_, fun entry member => coming entry (by simp [member]), ?_⟩
    · intro other known found
      simp only [PathCache.lookup_insert] at found
      split at found
      · rename_i same
        subst same
        obtain rfl := Option.some.inj found
        exact ⟨item, agrees.remote ▸ itemAt, parentEq⟩
      · exact knows other known found
    · intro other known
      simp only [PathCache.lookup_insert]
      split
      · rfl
      · exact older other known
    · intro other member
      simp only [PathCache.lookup_insert]
      by_cases same : key other = key entry
      · exact .inr (by simp [same])
      · rcases every other member with coming | cached
        · refine .inl ((List.mem_cons.mp coming).resolve_left ?_)
          rintro rfl
          exact same rfl
        · exact .inr (by simpa [same] using cached)

/-- Phase 0 ends with a listing of the remote and a cache that knows every item's key. -/
theorem always_listing_bind {f : RemoteIndex → Eff Unit} {post : Except Error Unit → World → Prop}
    (running : w.shutdown = false) (knows : s.Knows w)
    (keeps : ∀ state, w.Agrees state → inv state)
    (rest
      : ∀ index state,
          w.remote.Lists s.md5 s.folder index → w.Agrees state → s.Knows state
          → (∀ key id item,
              state.remote.ItemAt s.folder id item key → (state.pathCache.lookup key).isSome)
          → Always (Environment.calm s.md5 s.folder).sem inv (f index) state post)
    : Always (Environment.calm s.md5 s.folder).sem inv
        (do
          let index ← listRemote s.primary
          fillCache index
          f index)
        w post := by
  simp only [listRemote, bind_assoc]
  refine always_silent_bind Environment.calm_undisturbed (uses_silent uses_scanProgress)
    (neverFails_ask Environment.calm_undisturbed) running keeps ?_
  intro _ reported agrees same
  refine always_ask_bind.mpr ⟨keeps _ agrees, ?_⟩
  rintro answer listed ⟨remote, answered, rfl⟩
  obtain ⟨rfl, index, rfl, lists⟩ := answered
  replace lists := lists rfl
  simp only [pure_bind]
  have agrees : w.Agrees { reported with remote := reported.remote } := agrees
  rw [agrees.remote] at lists
  have knows : s.Knows { reported with remote := reported.remote } := by
    unfold Knows
    rw [show reported.pathCache = w.pathCache from same, agrees.remote]
    exact knows
  unfold fillCache
  simp only [bind_assoc]
  refine (always_insertAll index.dirs _ _ _ ?_ knows).seq
    (fun state agrees' => keeps _ (agrees.trans agrees')) ?_ ?_
  · intro dir member
    obtain ⟨item, itemAt, parentEq, -⟩ := lists.dirs dir member
    exact ⟨item, agrees.remote ▸ itemAt, parentEq⟩
  · rintro - middle agrees' ⟨-, knows, -, dirs⟩
    have agrees := agrees.trans agrees'
    refine (always_insertAll index.files _ _ _ ?_ knows).seq
      (fun state agrees' => keeps _ (agrees.trans agrees')) ?_ ?_
    · intro file member
      obtain ⟨item, content, itemAt, parentEq, -⟩ := lists.files file member
      exact ⟨item, agrees.remote ▸ itemAt, parentEq⟩
    · rintro - last agrees' ⟨-, knows, older, files⟩
      have agrees := agrees.trans agrees'
      refine rest index last lists agrees knows ?_
      intro key id item itemAt
      rw [agrees.remote] at itemAt
      cases kind : item.kind with
      | folder =>
          obtain ⟨dir, member, -, rfl⟩ := lists.everyDir id item key itemAt kind
          exact older _ (dirs dir member)
      | file content =>
          obtain ⟨file, member, -, rfl⟩ := lists.everyFile id item key content itemAt kind
          exact files file member
    · rintro error last - ⟨same, -⟩
      cases same
  · rintro error middle - ⟨same, -⟩
    cases same

-----------------------------------------------------------------------------------------
-- Phase 2
-----------------------------------------------------------------------------------------

/-- Folders may have been added, and nothing else changed. -/
structure Extends (s : Setting) (w state : World) : Prop where
  disk : state.disk = w.disk
  db : state.db = w.db
  tasks : state.tasks = w.tasks
  running : state.shutdown = w.shutdown
  slots : ∀ rel, s.slot state rel = s.slot w rel
  folders
    : ∀ id key, w.remote.FolderAt s.folder id key → state.remote.FolderAt s.folder id key

theorem Extends.of_agrees (agrees : w.Agrees state) : s.Extends w state where
  disk := agrees.disk
  db := agrees.db
  tasks := agrees.tasks
  running := agrees.running
  slots _ := slot_congr agrees.disk agrees.remote agrees.db
  folders _ _ := agrees.remote ▸ id

theorem Extends.trans {after : World} (first : s.Extends w state) (second : s.Extends state after)
    : s.Extends w after where
  disk := second.disk.trans first.disk
  db := second.db.trans first.db
  tasks := second.tasks.trans first.tasks
  running := second.running.trans first.running
  slots rel := (second.slots rel).trans (first.slots rel)
  folders id key := second.folders id key ∘ first.folders id key

section NewFolder

variable {above : Path} {name : String} {fresh parent : DriveId}
  (unused : w.remote.Unused s.folder fresh)
  (folder : w.remote.FolderAt s.folder parent (relKey above))

include unused folder

/-- A new folder is an extension. -/
theorem Extends.newFolder (rooted : w.remote.Rooted s.folder)
    : s.Extends w
        { w with remote := w.remote.put fresh ⟨name, parent, .folder, false⟩ } where
  disk := rfl
  db := rfl
  tasks := rfl
  running := rfl
  slots rel := by
    have files := @Remote.fileAt_addedFolder w.remote s.folder fresh parent (relKey above) name
      rooted unused folder (relKey rel)
    simp [slot, Remote.contentAt_congr (fun content => @files content)]
  folders id key old := (Remote.folderAt_added rooted unused folder).mpr (.inl old)

/-- A new folder where directories belong keeps the state consistent. -/
theorem Consistent.newFolder (consistent : s.Consistent goal w)
    (plain : Plain (above ++ [.utf8 name])) (notLeaf : ¬ s.leaf (above ++ [.utf8 name]))
    (free : ∀ id item, ¬ w.remote.ItemAt s.folder id item (relKey (above ++ [.utf8 name])))
    : s.Consistent goal
        { w with remote := w.remote.put fresh ⟨name, parent, .folder, false⟩ } := by
  have rooted := consistent.stored.sound.rooted
  have extends_
      : s.Extends w { w with remote := w.remote.put fresh ⟨name, parent, .folder, false⟩ } :=
    Extends.newFolder unused folder rooted
  have pushed := relKey_pushText (PlainNames.append.mp plain.2).1 name
  refine ⟨consistent.fits, consistent.closed, ?_, ?_, ?_⟩
  · refine ⟨consistent.stored.sound.added unused plain folder free, ?_, ?_,
      consistent.stored.rows⟩
    · intro rel id item plain' itemAt
      rw [Remote.itemAt_added rooted unused folder] at itemAt
      rcases itemAt with old | ⟨rfl, rfl, spelled⟩
      · exact consistent.stored.kinds rel id item plain' old
      · rw [← pushed] at spelled
        rw [relKey_inj plain' plain spelled]
        simpa using notLeaf
    · intro rel content plain' found
      rw [Remote.fileAt_addedFolder rooted unused folder] at found
      exact consistent.stored.copies rel content plain' found
  · intro rel plain'
    rw [extends_.slots]
    exact consistent.coherent rel plain'
  · intro rel plain'
    rw [extends_.slots]
    exact consistent.headed rel plain'

end NewFolder

/-- A visible directory and those above it are not used for files. -/
theorem Fits.not_leaf (fits : s.Fits w.disk) {rel rest : Path} {listing : Listing}
    {child : OsString → Node} (names : PlainNames (rel ++ rest)) (nonempty : rel ≠ [])
    (found : w.disk.node? (s.base ++ (rel ++ rest)) = some (.dir listing child))
    : ¬ s.leaf rel := by
  have plain : Plain rel := ⟨nonempty, (PlainNames.append.mp names).1⟩
  cases rest with
  | nil => exact fits.dirs rel listing child plain (by simpa using found)
  | cons name rest =>
      obtain ⟨listing', child', above⟩ := fits.orderly.dir_above names found
      exact fits.dirs rel listing' child' plain above

/-- One name further down a folder is found, or created and cached. -/
theorem always_enterFolder {done : Path} {text : String} {parent : DriveId}
    (consistent : s.Consistent goal w) (cached : s.Cached w) (running : w.shutdown = false)
    (plain : Plain (done ++ [.utf8 text])) (notLeaf : ¬ s.leaf (done ++ [.utf8 text]))
    (folder : w.remote.FolderAt s.folder parent (relKey done))
    : Always (Environment.calm s.md5 s.folder).sem (s.Consistent goal)
        (enterFolder ⟨s.cfg, false⟩ (relKey done, parent) (.utf8 text)) w
        (fun result last =>
          ∃ id,
            result = .ok (relKey (done ++ [.utf8 text]), id)
            ∧ last.remote.FolderAt s.folder id (relKey (done ++ [.utf8 text]))
            ∧ s.Cached last ∧ s.Extends w last) := by
  have pushed : pushKey (relKey done) text = relKey (done ++ [.utf8 text]) :=
    (relKey_pushText (PlainNames.append.mp plain.2).1 text).symm
  unfold enterFolder
  simp only [OsString.toStringLossy]
  generalize same : pushKey (relKey done) text = key
  obtain rfl : key = relKey (done ++ [.utf8 text]) := same.symm.trans pushed
  refine always_known (fun _ _ served => served) consistent ?_
  cases found : w.pathCache.lookup (relKey (done ++ [.utf8 text])) with
  | some entry =>
      obtain ⟨item, itemAt, -⟩ := cached.lookup_some found
      have kind := (consistent.stored.kinds _ _ _ plain itemAt).mpr notLeaf
      exact ⟨consistent, entry.driveId, rfl, itemAt.folderAt kind, cached,
        Extends.of_agrees (.refl w)⟩
  | none =>
      have free := cached.lookup_none found
      simp only [enterFolder.create, Bool.false_eq_true, if_false]
      refine always_retry_bind Environment.calm_undisturbed consistent running ?_
      refine always_ask.mpr ⟨consistent, ?_⟩
      rintro answer after ⟨remote, ⟨fresh, unused, rfl, rfl⟩, rfl⟩
      have none_ : w.remote.folderNamed parent text = none := by
        by_contra some_
        obtain ⟨id, named⟩ := Option.ne_none_iff_exists'.mp some_
        obtain ⟨item, stored, kind, rfl, rfl, live⟩ := Remote.folderNamed_found named
        exact free _ item ⟨stored, live, _, folder, pushed.symm⟩
      simp only [Remote.mkdir, none_]
      have next := consistent.newFolder unused folder plain notLeaf free
      refine ⟨next, fresh, rfl, ?_⟩
      refine always_ask_bind.mpr ⟨next, ?_⟩
      rintro _ _ rfl
      have rooted := consistent.stored.sound.rooted
      refine ⟨next.same rfl rfl rfl, fresh, rfl, ?_, ?_, ?_⟩
      · exact (Remote.folderAt_added rooted unused folder).mpr
          (.inr ⟨rfl, rfl, pushed.symm⟩)
      · exact cached.added rooted rfl plain unused folder free rfl rfl
      · exact (Extends.newFolder unused folder rooted).trans (Extends.of_agrees
          ⟨rfl, rfl, rfl, rfl, rfl⟩)

/-- All the folders on the way to a directory. -/
theorem always_enterFolders {rel : Path} (consistent : s.Consistent goal w)
    (cached : s.Cached w) (running : w.shutdown = false) (names : PlainNames rel)
    (directories : ∀ above rest, rel = above ++ rest → above ≠ [] → ¬ s.leaf above)
    : Always (Environment.calm s.md5 s.folder).sem (s.Consistent goal)
        (rel.foldlM (enterFolder ⟨s.cfg, false⟩) ("", s.folder)) w
        (fun result last =>
          (∃ id, result = .ok (relKey rel, id)
            ∧ last.remote.FolderAt s.folder id (relKey rel))
          ∧ s.Cached last ∧ s.Extends w last) := by
  refine always_foldlM
    (fun rest acc state =>
      ∃ done id,
        rel = done ++ rest ∧ acc = (relKey done, id)
        ∧ state.remote.FolderAt s.folder id (relKey done)
        ∧ s.Consistent goal state ∧ s.Cached state ∧ s.Extends w state)
    ?kept ?step rel ("", s.folder)
    ⟨[], s.folder, rfl, by simp, by simpa using .root, consistent, cached,
      Extends.of_agrees (.refl w)⟩
  case kept =>
    rintro acc last ⟨done, id, spelled, rfl, folder, consistent, cached, extends_⟩
    rw [List.append_nil] at spelled
    subst spelled
    exact ⟨consistent, ⟨id, rfl, folder⟩, cached, extends_⟩
  case step =>
    rintro name rest acc middle ⟨done, id, spelled, rfl, folder, consistent, cached, extends_⟩
    obtain ⟨text, rfl, -⟩ := names name (by simp [spelled])
    have whole : rel = (done ++ [.utf8 text]) ++ rest := by simp [spelled]
    have plain : Plain (done ++ [.utf8 text]) :=
      ⟨by simp, (PlainNames.append.mp (whole ▸ names)).1⟩
    refine (always_enterFolder consistent cached (extends_.running.trans running) plain
      (directories _ rest whole (by simp)) folder).mono ?_
    rintro result last here ⟨id, rfl, folder, cached, extends'⟩
    exact ⟨done ++ [.utf8 text], id, whole, rfl, folder, here, cached, extends_.trans extends'⟩

/-- One local directory gets its folder. -/
theorem always_ensureFolder {rel : Path} {total i : Nat} {listing : Listing}
    {child : OsString → Node} (consistent : s.Consistent goal w) (cached : s.Cached w)
    (running : w.shutdown = false) (plain : Plain rel)
    (found : w.disk.node? (s.base ++ rel) = some (.dir listing child))
    : Always (Environment.calm s.md5 s.folder).sem (s.Consistent goal)
        (ensureFolder ⟨s.cfg, false⟩ s.primary total (s.base ++ rel, i)) w
        (fun result last =>
          result = .ok ()
          ∧ (∃ id, last.remote.FolderAt s.folder id (relKey rel))
          ∧ s.Cached last ∧ s.Extends w last) := by
  refine always_unlessShutdown Environment.calm_undisturbed running ?_
  simp only [show s.primary.localPath = s.base from rfl, plain.clean.stripPrefix]
  refine always_silent_bind Environment.calm_undisturbed (uses_silent uses_scanProgress)
    (neverFails_ask Environment.calm_undisturbed) running
    (fun state agrees => consistent.agrees agrees) ?_
  intro _ state agrees pathCache
  have consistent := consistent.agrees agrees
  have cached := cached.same agrees.remote pathCache
  refine always_known (fun _ _ served => served) consistent ?_
  cases known : state.pathCache.lookup (relKey rel) with
  | some entry =>
      obtain ⟨item, itemAt, -⟩ := cached.lookup_some known
      have notLeaf := consistent.fits.dirs rel listing child plain (agrees.disk ▸ found)
      have kind := (consistent.stored.kinds _ _ _ plain itemAt).mpr notLeaf
      exact ⟨consistent, rfl, ⟨entry.driveId, itemAt.folderAt kind⟩, cached,
        Extends.of_agrees agrees⟩
  | none =>
      have directories (above rest : Path) (whole : rel = above ++ rest) (nonempty : above ≠ [])
          : ¬ s.leaf above := by
        subst whole
        exact consistent.fits.not_leaf plain.2 nonempty (agrees.disk ▸ found)
      refine (always_enterFolders consistent cached (agrees.running.trans running) plain.2
        directories).bind ?_ ?_
      · rintro value last here ⟨⟨id, same, folder⟩, cached, extends_⟩
        exact ⟨here, rfl, ⟨id, folder⟩, cached, (Extends.of_agrees agrees).trans extends_⟩
      · rintro error last - ⟨⟨id, same, -⟩, -⟩
        cases same

/-- Phase 2 gives every local directory its folder. -/
theorem always_createFolders {localDirs : List Path} (consistent : s.Consistent goal w)
    (cached : s.Cached w) (running : w.shutdown = false)
    (walked
      : ∀ dir ∈ localDirs,
          ∃ rel listing child,
            dir = s.base ++ rel ∧ Plain rel
            ∧ w.disk.node? (s.base ++ rel) = some (.dir listing child))
    : Always (Environment.calm s.md5 s.folder).sem (s.Consistent goal)
        (createFolders ⟨s.cfg, false⟩ s.primary localDirs) w
        (fun result last =>
          result = .ok ()
          ∧ (∀ rel, s.base ++ rel ∈ localDirs
              → ∃ id, last.remote.FolderAt s.folder id (relKey rel))
          ∧ s.Cached last ∧ s.Extends w last) := by
  refine always_forM
    (fun rest state =>
      (∀ dir ∈ rest, dir.1 ∈ localDirs)
      ∧ (∀ rel, s.base ++ rel ∈ localDirs
          → (∃ i, (s.base ++ rel, i) ∈ rest)
            ∨ ∃ id, state.remote.FolderAt s.folder id (relKey rel))
      ∧ s.Consistent goal state ∧ s.Cached state ∧ s.Extends w state)
    ?kept ?step _ ⟨?_, ?_, consistent, cached, Extends.of_agrees (.refl w)⟩
  case kept =>
    rintro last ⟨-, every, consistent, cached, extends_⟩
    refine ⟨consistent, rfl, fun rel member => ?_, cached, extends_⟩
    exact (every rel member).resolve_left (by simp)
  case step =>
    rintro ⟨dir, i⟩ rest middle ⟨coming, every, consistent, cached, extends_⟩
    obtain ⟨rel, listing, child, rfl, plain, found⟩ := walked dir (coming (dir, i) (by simp))
    refine (always_ensureFolder consistent cached (extends_.running.trans running) plain
      (extends_.disk ▸ found)).mono ?_
    rintro result last here ⟨rfl, folder, cached, extends'⟩
    refine ⟨fun dir member => coming dir (by simp [member]), ?_, here, cached,
      extends_.trans extends'⟩
    intro rel' member
    by_cases same : rel' = rel
    · exact .inr (same ▸ folder)
    · refine (every rel' member).imp ?_ ?_
      · rintro ⟨j, inside⟩
        refine ⟨j, (List.mem_cons.mp inside).resolve_left ?_⟩
        simp [same]
      · rintro ⟨id, folder⟩
        exact ⟨id, extends'.folders _ _ folder⟩
  · intro dir member
    exact List.fst_mem_of_mem_zipIdx member
  · intro rel member
    obtain ⟨i, found⟩ := List.getElem?_of_mem member
    exact .inl ⟨i, List.mk_mem_zipIdx_iff_getElem?.mpr found⟩

end Setting

end SyncGDrive
