import SyncGDrive.Engine.Sending
import SyncGDrive.Reconciliation.Compare

/-! The plan that a scan makes when everything works: every slot is where its pass ends, or a
task that brings it there waits in the channel.
-/

namespace SyncGDrive

open Program

namespace Setting

variable {s : Setting} {w state : World} {goal : Path → View} {rel : Path}

-----------------------------------------------------------------------------------------
-- Plans
-----------------------------------------------------------------------------------------

/-- A task that brings the slot of its path where its pass ends. -/
def Expected (s : Setting) (goal : Path → View) (state : World) : Task → Prop
  | .syncFile path =>
      ∃ rel content time,
        path = s.base ++ rel ∧ Plain rel ∧ s.visible state.disk rel = some (content, time)
        ∧ vacant content = false
        ∧ (((s.slot state rel).compare s.md5).2 = true ∨ s.slot state rel = goal rel)
        ∧ ∃ id, state.remote.FolderAt s.folder id (relKey rel.dropLast)
  | .delete path =>
      ∃ rel,
        path = s.base ++ rel ∧ Plain rel ∧ s.leaf rel
        ∧ s.ignore.isIgnored (s.base ++ rel) false = false ∧ s.visible state.disk rel = none
  | .rename .. => False

/-- The tasks still to be handled bring every slot where its pass ends. -/
structure Pending (s : Setting) (goal : Path → View) (tasks : List Task) (state : World) : Prop
    where
  consistent : s.Consistent goal state
  cached : s.Cached state
  running : state.shutdown = false
  expected : ∀ task ∈ tasks, s.Expected goal state task
  every
    : ∀ rel,
        Plain rel
        → s.slot state rel = goal rel
          ∨ .syncFile (s.base ++ rel) ∈ tasks ∨ .delete (s.base ++ rel) ∈ tasks

-----------------------------------------------------------------------------------------
-- The local files of an orderly tree
-----------------------------------------------------------------------------------------

/-- The walk finds the visible files. -/
theorem Fits.mem_walkedFiles (fits : s.Fits w.disk) (closed : s.ignore.DownwardClosed)
    {path : Path}
    : path ∈ walkedFiles w.disk s.base s.ignore
      ↔ ∃ rel, path = s.base ++ rel ∧ Plain rel ∧ (s.visible w.disk rel).isSome := by
  rw [SyncGDrive.mem_walkedFiles]
  constructor
  · rintro ⟨data, yielded⟩
    obtain ⟨rel, rfl, names, found, kept⟩ := fits.orderly.of_yields yielded
    have nonempty : rel ≠ [] := by
      rintro rfl
      obtain ⟨listing, child, atRoot, -⟩ := id fits.orderly
      rw [fits.orderly.node? names] at found
      rw [List.append_nil, atRoot] at found
      cases found
    refine ⟨rel, rfl, ⟨nonempty, names⟩, ?_⟩
    have notIgnored : s.ignore.isIgnored (s.base ++ rel) false = false := by
      simpa [IgnoreMatcher.keeps, Node.fileType] using kept
    simp [visible, found, notIgnored]
  · rintro ⟨rel, rfl, plain, shown⟩
    unfold visible at shown
    split at shown
    · rename_i data found
      split at shown
      · cases shown
      · rename_i kept
        refine ⟨data, fits.orderly.yields closed plain found ?_⟩
        simpa [IgnoreMatcher.keeps, Node.fileType] using kept
    · cases shown

/-- The walk finds the directory that holds a visible file. -/
theorem Fits.parent_walked (fits : s.Fits w.disk) (closed : s.ignore.DownwardClosed)
    (plain : Plain rel) (shown : (s.visible w.disk rel).isSome) (nonempty : rel.dropLast ≠ [])
    : s.base ++ rel.dropLast ∈ walkedDirs w.disk s.base s.ignore := by
  obtain ⟨above, name, spelled⟩ := List.eq_nil_or_concat rel |>.resolve_left plain.1
  rw [List.concat_eq_append] at spelled
  subst spelled
  rw [List.dropLast_concat] at nonempty ⊢
  obtain ⟨names, -⟩ := PlainNames.append.mp plain.2
  unfold visible at shown
  split at shown
  · rename_i data found
    split at shown
    · cases shown
    · rename_i kept
      obtain ⟨listing, child, there⟩ := fits.orderly.dir_above plain.2 found
      refine mem_walkedDirs.mpr ⟨⟨listing, child, ?_⟩, ?_⟩
      · refine fits.orderly.yields closed ⟨nonempty, names⟩ there ?_
        have kept : s.ignore.keeps (s.base ++ above ++ name :: []) false = true := by
          simpa [IgnoreMatcher.keeps] using kept
        simpa [Node.fileType] using closed.above kept
      · obtain ⟨first, rest, rfl⟩ := List.exists_cons_of_ne_nil nonempty
        exact ⟨first, rest, rfl⟩
  · cases shown

/-- A walked directory is a plain path below the base. -/
theorem Fits.of_walkedDirs (fits : s.Fits w.disk) {dir : Path}
    (walked : dir ∈ walkedDirs w.disk s.base s.ignore)
    : ∃ rel listing child,
        dir = s.base ++ rel ∧ Plain rel
        ∧ w.disk.node? (s.base ++ rel) = some (.dir listing child) := by
  obtain ⟨⟨listing, child, yielded⟩, name, rest, spelled⟩ := mem_walkedDirs.mp walked
  obtain ⟨rel, same, names, found, -⟩ := fits.orderly.of_yields yielded
  obtain rfl := List.append_cancel_left (spelled.symm.trans same)
  exact ⟨name :: rest, listing, child, spelled, ⟨by simp, names⟩, spelled ▸ found⟩

/-- The key of a plain path is among the local keys exactly where its file is visible. -/
theorem Fits.mem_localKeys (fits : s.Fits w.disk) (closed : s.ignore.DownwardClosed)
    (plain : Plain rel)
    : relKey rel ∈ localKeys s.primary (walkedFiles w.disk s.base s.ignore)
      ↔ (s.visible w.disk rel).isSome := by
  simp only [localKeys, List.mem_filterMap, Option.map_eq_some_iff]
  constructor
  · rintro ⟨path, member, rel', stripped, same⟩
    obtain ⟨rel'', rfl, plain', shown⟩ := (fits.mem_walkedFiles closed).mp member
    obtain rfl := Option.some.inj ((plain'.clean.stripPrefix s.base).symm.trans stripped)
    rw [relKey_inj plain' plain same] at shown
    exact shown
  · intro shown
    exact ⟨s.base ++ rel, (fits.mem_walkedFiles closed).mpr ⟨rel, rfl, plain, shown⟩, rel,
      plain.clean.stripPrefix s.base, rfl⟩

-----------------------------------------------------------------------------------------
-- Phases 3 to 6
-----------------------------------------------------------------------------------------

/-- The files of an index are the copies of the slots. -/
structure Indexes (s : Setting) (w : World) (index : RemoteIndex) : Prop where
  only
    : ∀ file ∈ index.files,
        ∃ rel, file.relativePath = relKey rel ∧ Plain rel ∧ (s.slot w rel).copy ≠ none
  every
    : ∀ rel,
        Plain rel → (s.slot w rel).copy ≠ none
        → ∃ file ∈ index.files, file.relativePath = relKey rel

/-- The database list holds exactly the keys of the recorded slots. -/
structure ListsRows (s : Setting) (w : World) (dbIndex : List String) : Prop where
  only
    : ∀ key ∈ dbIndex,
        ∃ rel,
          key = relKey rel ∧ Plain rel ∧ s.leaf rel
          ∧ s.ignore.isIgnored (s.base ++ rel) false = false
  every : ∀ rel, Plain rel → (relKey rel ∈ dbIndex ↔ (s.slot w rel).record ≠ none)

theorem Stored.listsRows {dbIndex : List String} (stored : s.Stored w)
    (order : dbIndex.Perm w.db.allPaths)
    : s.ListsRows w dbIndex where
  only key member := by
    obtain ⟨rel, plain, same, leaf, kept⟩ :=
      stored.rows key (Database.mem_allPaths.mp (order.mem_iff.mp member))
    exact ⟨rel, same, plain, leaf, kept⟩
  every rel _ := by
    rw [order.mem_iff, Database.mem_allPaths]
    cases row : w.db.row (relKey rel) <;> simp [slot, row]

/-- A path with a remote file is used for files, and is not ignored. -/
theorem Stored.of_copy (stored : s.Stored w) (plain : Plain rel)
    (copied : (s.slot w rel).copy ≠ none)
    : s.leaf rel ∧ s.ignore.isIgnored (s.base ++ rel) false = false := by
  obtain ⟨content, copied⟩ := Option.ne_none_iff_exists'.mp copied
  obtain ⟨id, item, itemAt, kind⟩ := (copy_eq_some stored.sound).mp copied
  refine ⟨?_, stored.copies rel content plain ⟨id, item, itemAt, kind⟩⟩
  by_contra notLeaf
  have folder := (stored.kinds rel id item plain itemAt).mpr notLeaf
  rw [kind] at folder
  cases folder

/-- A slot without anything is where its pass ends when there is no file either. -/
theorem Consistent.at_goal (consistent : s.Consistent goal w) (plain : Plain rel)
    (absent : s.visible w.disk rel = none) (noCopy : (s.slot w rel).copy = none)
    (noRecord : (s.slot w rel).record = none)
    : s.slot w rel = goal rel := by
  have file : (s.slot w rel).file = none := absent
  rw [← consistent.headed rel plain, Mirror.Slot.pass_of_none file, Mirror.Slot.remove]
  rw [← noCopy, ← noRecord]

/-- What is sent after the comparison is a plan. -/
theorem Compared.pending {toSync : List Path} {dbIndex : List String} {index : RemoteIndex}
    {last : World} (consistent : s.Consistent goal state) (cached : s.Cached state)
    (compared : s.Compared goal w toSync state) (stored : s.Stored w)
    (running : w.shutdown = false) (rows : s.ListsRows w dbIndex) (indexes : s.Indexes w index)
    (folders
      : ∀ rel,
          Plain rel → (s.visible w.disk rel).isSome
          → ∃ id, w.remote.FolderAt s.folder id (relKey rel.dropLast))
    (start : w.tasks = [])
    (sends
      : state.Sends
          (toSync.map .syncFile
            ++ (dbIndex.flatMap
                  (rowTasks s.primary (localKeys s.primary (walkedFiles w.disk s.base s.ignore)))
                ++ index.files.flatMap
                    (remoteTasks w.disk s.primary s.ignore
                      (localKeys s.primary (walkedFiles w.disk s.base s.ignore)) dbIndex)))
          last)
    : s.Pending goal last.tasks last := by
  obtain ⟨⟨disk, db, remote, tasks, running'⟩, pathCache⟩ := sends
  simp only at disk db remote tasks running' pathCache
  have slots (rel : Path) : s.slot last rel = s.slot state rel := slot_congr disk remote db
  have fits : s.Fits w.disk := compared.disk ▸ consistent.fits
  have seen {rel : Path} (plain : Plain rel) := fits.mem_localKeys consistent.closed plain
  rw [compared.tasks, start, List.nil_append] at tasks
  refine
    { consistent := consistent.same disk remote db
      cached := cached.same remote pathCache
      running := running'.trans (compared.running.trans running)
      expected := ?_
      every := ?_ }
  · intro task member
    rw [tasks, List.mem_append, List.mem_append] at member
    rcases member with sync | row | orphan
    · obtain ⟨path, toSend, rfl⟩ := List.mem_map.mp sync
      obtain ⟨rel, rfl, plain, content, time, shown, full, sent⟩ := compared.due path toSend
      obtain ⟨id, folder⟩ := folders rel plain (by simp [← compared.disk, shown])
      refine ⟨rel, content, time, rfl, plain, disk ▸ shown, full, .inl (slots rel ▸ sent), id, ?_⟩
      rw [remote, compared.remote]
      exact folder
    · obtain ⟨key, listed, sent⟩ := List.mem_flatMap.mp row
      obtain ⟨rel, rfl, plain, leaf, kept⟩ := rows.only key listed
      unfold rowTasks at sent
      split at sent
      · cases sent
      · rename_i unseen
        obtain rfl := List.mem_singleton.mp sent
        refine ⟨rel, join_relKey s.base plain, plain, leaf, kept, ?_⟩
        rw [disk, compared.disk]
        simpa using mt (seen plain).mpr unseen
    · obtain ⟨file, listed, sent⟩ := List.mem_flatMap.mp orphan
      obtain ⟨rel, spelled, plain, copied⟩ := indexes.only file listed
      obtain ⟨leaf, kept⟩ := stored.of_copy plain copied
      unfold remoteTasks at sent
      simp only [spelled] at sent
      split at sent
      · cases sent
      · rename_i orphaned
        obtain rfl := List.mem_singleton.mp sent
        refine ⟨rel, join_relKey s.base plain, plain, leaf, kept, ?_⟩
        rw [disk, compared.disk]
        simpa using mt (fun shown => Or.inl ((seen plain).mpr shown)) orphaned
  · intro rel plain
    rw [slots, tasks]
    cases shown : s.visible w.disk rel with
    | some file =>
        refine (compared.compared rel plain (by simp [shown])).symm.imp_right (fun toSend => ?_)
        exact .inl (List.mem_append_left _ (List.mem_map_of_mem toSend))
    | none =>
        have unseen : relKey rel ∉ localKeys s.primary (walkedFiles w.disk s.base s.ignore) := by
          rw [seen plain, shown]
          simp
        have same := compared.gone rel plain shown
        have joined : s.primary.localPath.join (relKey rel) = s.base ++ rel :=
          join_relKey s.base plain
        by_cases recorded : (s.slot w rel).record = none
        · by_cases copied : (s.slot w rel).copy = none
          · refine .inl (consistent.at_goal plain (compared.disk ▸ shown) ?_ ?_)
            · rw [same, copied]
            · rw [same, recorded]
          · obtain ⟨leaf, kept⟩ := stored.of_copy plain copied
            obtain ⟨file, listed, spelled⟩ := indexes.every rel plain copied
            have noRow : relKey rel ∉ dbIndex := by simpa [rows.every rel plain] using recorded
            have noDirectory := fits.isDir_leaf plain leaf
            refine .inr (.inr (List.mem_append_right _ (List.mem_append_right _ ?_)))
            refine List.mem_flatMap.mpr ⟨file, listed, ?_⟩
            simp [remoteTasks, spelled, joined, unseen, noRow, noDirectory, kept]
        · refine .inr (.inr (List.mem_append_right _ (List.mem_append_left _ ?_)))
          refine List.mem_flatMap.mpr ⟨relKey rel, (rows.every rel plain).mpr recorded, ?_⟩
          simp [rowTasks, unseen, joined]

/-- A state remains consistent while tasks are sent. -/
theorem Consistent.sending {last : World} (consistent : s.Consistent goal state)
    (sending : state.Sending last)
    : s.Consistent goal last := by
  obtain ⟨sent, agrees, -⟩ := sending
  exact consistent.same agrees.disk agrees.remote agrees.db

/-- Phases 3 to 6 leave a plan in the channel. -/
theorem always_reconcile {index : RemoteIndex} (consistent : s.Consistent goal w)
    (cached : s.Cached w) (running : w.shutdown = false) (indexes : s.Indexes w index)
    (folders
      : ∀ rel,
          Plain rel → (s.visible w.disk rel).isSome
          → ∃ id, w.remote.FolderAt s.folder id (relKey rel.dropLast))
    (start : w.tasks = [])
    : Always (Environment.calm s.md5 s.folder).sem (s.Consistent goal)
        (reconcile ⟨s.cfg, false⟩ s.primary s.ignore index
          (walkedFiles w.disk s.base s.ignore))
        w
        (fun result last => result = .ok () ∧ s.Pending goal last.tasks last) := by
  have quiet : (Environment.calm s.md5 s.folder).Undisturbed := Environment.calm_undisturbed
  unfold reconcile
  refine always_silent_bind quiet (uses_silent uses_scanProgress) (neverFails_ask quiet) running
    (fun _ agrees => consistent.agrees agrees) ?_
  intro _ reported agrees pathCache
  rw [← agrees.disk] at folders ⊢
  rw [← agrees.remote] at folders
  rw [← agrees.running] at running
  rw [← agrees.tasks] at start
  replace indexes : s.Indexes reported index := by
    have slots (rel : Path) : s.slot reported rel = s.slot w rel :=
      slot_congr agrees.disk agrees.remote agrees.db
    exact ⟨by simpa only [slots] using indexes.only, by simpa only [slots] using indexes.every⟩
  replace consistent := consistent.agrees agrees
  replace cached := cached.same agrees.remote pathCache
  refine always_ask_bind.mpr ⟨consistent, ?_⟩
  intro answer listed served
  obtain ⟨⟨dbIndex, order, rfl⟩, rfl⟩ := quiet.sem_allPaths.mp served
  have rows := consistent.stored.listsRows order
  simp only [propagate, Prog.ok_bind]
  refine (always_compareFiles consistent cached running ?_ ?_ ?_).bind ?_ ?_
  · intro rel plain
    rw [Bool.eq_iff_iff, List.contains_iff_mem, rows.every rel plain, Option.isSome_iff_ne_none]
  · exact fun path walked => (consistent.fits.mem_walkedFiles consistent.closed).mp walked
  · exact fun rel plain shown =>
      (consistent.fits.mem_walkedFiles consistent.closed).mpr ⟨rel, rfl, plain, shown⟩
  · rintro toSync compared consistent' ⟨_, same, comparison, cached'⟩
    obtain rfl := Except.ok.inj same
    have running' := comparison.running.trans running
    refine ((always_sendPhases quiet running').weaken (fun _ => consistent'.sending)).mono ?_
    rintro result last - ⟨-, rfl, sent⟩
    rw [comparison.disk, List.append_nil] at sent
    exact ⟨rfl, comparison.pending consistent' cached' consistent.stored running rows indexes
      folders start sent⟩
  · rintro error last - ⟨_, same, -⟩
    cases same

-----------------------------------------------------------------------------------------
-- The scan
-----------------------------------------------------------------------------------------

/-- A listing of the remote indexes the slots. -/
theorem Stored.indexes {index : RemoteIndex} (stored : s.Stored w)
    (lists : w.remote.Lists s.md5 s.folder index)
    : s.Indexes w index where
  only file member := by
    obtain ⟨item, content, itemAt, -, kind, -⟩ := lists.files file member
    obtain ⟨above, plain, spelled, -⟩ := stored.sound.item_key itemAt
    rw [spelled] at itemAt
    have copied := (copy_eq_some stored.sound).mpr ⟨_, item, itemAt, kind⟩
    exact ⟨_, spelled, plain, by simp [copied]⟩
  every rel _ copied := by
    obtain ⟨content, copied⟩ := Option.ne_none_iff_exists'.mp copied
    obtain ⟨id, item, itemAt, kind⟩ := (copy_eq_some stored.sound).mp copied
    obtain ⟨file, member, -, same⟩ := lists.everyFile id item _ content itemAt kind
    exact ⟨file, member, same⟩

/-- A scan that starts with a cache of remote items leaves a plan in the channel, and every
state on its way can start a scan again.
-/
theorem always_scan (consistent : s.Consistent goal w) (knows : s.Knows w)
    (running : w.shutdown = false) (start : w.tasks = [])
    : Always (Environment.calm s.md5 s.folder).sem (s.Consistent goal)
        (scan ⟨s.cfg, false⟩ s.ignore) w
        (fun result last => result = .ok () ∧ s.Pending goal last.tasks last) := by
  have quiet : (Environment.calm s.md5 s.folder).Undisturbed := Environment.calm_undisturbed
  unfold scan
  simp only [orError, s.configured, propagate, Prog.ok_bind]
  refine always_listing_bind running knows (fun _ agrees => consistent.agrees agrees) ?_
  intro index listed lists agrees knows every
  replace running := agrees.running.trans running
  have consistent' := consistent.agrees agrees
  have cached := knows.cached consistent'.stored.sound.unique every
  refine always_takeInventory_bind quiet running (fun _ agrees => consistent'.agrees agrees) ?_
  intro inventory state files dirs agrees' pathCache
  have here := consistent'.agrees agrees'
  replace cached := cached.same agrees'.remote pathCache
  replace running := agrees'.running.trans running
  replace agrees := agrees.trans agrees'
  rw [← agrees'.disk] at files dirs
  refine (always_createFolders here cached running
    (fun dir walked => here.fits.of_walkedDirs (dirs ▸ walked))).bind ?_ ?_
  · rintro ⟨⟩ made here' ⟨-, folders, cached, extends_⟩
    rw [files, ← extends_.disk]
    have indexes : s.Indexes made index := by
      have slots (rel : Path) : s.slot made rel = s.slot w rel :=
        (extends_.slots rel).trans (slot_congr agrees.disk agrees.remote agrees.db)
      have before := consistent.stored.indexes lists
      exact ⟨by simpa only [slots] using before.only, by simpa only [slots] using before.every⟩
    refine always_reconcile here' cached (extends_.running.trans running) indexes ?_ ?_
    · intro rel plain shown
      by_cases top : rel.dropLast = []
      · exact ⟨s.folder, by simpa [top] using .root⟩
      · refine folders _ (dirs ▸ ?_)
        rw [← extends_.disk]
        exact here'.fits.parent_walked here'.closed plain shown top
    · rw [extends_.tasks, agrees.tasks, start]
  · rintro error last - ⟨same, -⟩
    cases same

end Setting

end SyncGDrive
