import SyncGDrive.Engine.Deletions
import SyncGDrive.Engine.Diff

/-! First contact: what a scan makes of local files that have no row. It takes whatever the cache
knows at the path for the file itself, and records the local digest.
-/

namespace SyncGDrive

open Program

-----------------------------------------------------------------------------------------
-- What a scan owes
-----------------------------------------------------------------------------------------

/-- The index has a file at the key with the digest of the content. -/
def RemoteIndex.Carries (env : Environment) (index : RemoteIndex) (key : String)
    (content : List UInt8)
    : Prop :=
  ∃ file ∈ index.files, file.relativePath = key ∧ file.md5 = env.md5 content

/-- Every file without a row is sent, unless it is empty or the remote has it as it is, and no row
is written with another digest than that of the remote file.
-/
structure LocalWins (env : Environment) (primary : SyncPair) (ignore : IgnoreMatcher) (w : World)
    (index : RemoteIndex) (last : World × ScanLog)
    : Prop where
  sent
    : ∀ rel ∈ walkedRels w.disk primary.localPath ignore, ∀ data,
        w.disk.node? (primary.localPath ++ rel) = some (.file data)
        → data.content ≠ []
        → w.db.row (relKey rel) = none
        → ¬ index.Carries env (relKey rel) data.content
        → ∃ sent,
            last.1.tasks = w.tasks ++ sent ∧ .syncFile (primary.localPath ++ rel) ∈ sent
  truthful
    : ∀ entry ∈ last.2.upserts, ∀ file ∈ index.files,
        file.relativePath = entry.path → file.md5 = entry.hash

/-- The file can be read and has this digest, and it has no row or one with the digest and another
time.
-/
def Recordable (env : Environment) (w : World) (path : Path) (key hash : String) : Prop :=
  (w.disk.read path).map env.md5 = some hash
  ∧ ∀ columns ∈ w.db.row key, w.disk.mtimeOf path ≠ columns.mtime ∧ columns.hash = hash

/-- Where the cache knows the key of a file, the remote has the file as it is. -/
structure KnownAsCarried (env : Environment) (primary : SyncPair) (ignore : IgnoreMatcher)
    (w : World) (listing : Except Error RemoteIndex)
    : Prop where
  unrecorded
    : ∀ rel ∈ walkedRels w.disk primary.localPath ignore, ∀ data,
        w.disk.node? (primary.localPath ++ rel) = some (.file data)
        → data.content ≠ []
        → w.db.row (relKey rel) = none
        → KnownKey w listing primary ignore (relKey rel)
        → (listed listing).Carries env (relKey rel) data.content
  recordable
    : ∀ rel ∈ walkedRels w.disk primary.localPath ignore, ∀ hash,
        KnownKey w listing primary ignore (relKey rel)
        → Recordable env w (primary.localPath ++ rel) (relKey rel) hash
        → ∀ file ∈ (listed listing).files, file.relativePath = relKey rel → file.md5 = hash

-----------------------------------------------------------------------------------------
-- The comparison of files that may share a key
-----------------------------------------------------------------------------------------

/-- A row is one of those written, or the one from before. -/
theorem Database.row_upsertAll_cases {db : Database} (entries : List FileEntry) (key : String)
    : (db.upsertAll entries).row key = db.row key
      ∨ ∃ entry ∈ entries,
          entry.path = key
          ∧ (db.upsertAll entries).row key = some ⟨entry.hash, entry.mtime⟩ := by
  induction entries generalizing db with
  | nil => exact Or.inl rfl
  | cons first rest ih =>
      rcases @ih (db.upsert first) with before | ⟨entry, member, same, found⟩
      · by_cases here : first.path = key
        · refine Or.inr ⟨first, List.mem_cons_self, here, ?_⟩
          exact before.trans (by rw [Database.row_upsert, if_pos here.symm])
        · refine Or.inl (before.trans ?_)
          rw [Database.row_upsert, if_neg (Ne.symm here)]
      · exact Or.inr ⟨entry, List.mem_cons_of_mem _ member, same, found⟩

section Comparison

variable {env : Environment} {w : World} {primary : SyncPair} {index : RemoteIndex}
  {done toSync : List Path} {upserts : List FileEntry} {rel : Path}

/-- What the comparison has made of the files done: which digests it has recorded, and which of the
files without a row it will send.
-/
structure Adopted (env : Environment) (w : World) (primary : SyncPair) (done toSync : List Path)
    (upserts : List FileEntry)
    : Prop where
  recorded
    : ∀ key hash,
        (∃ entry ∈ upserts, entry.path = key ∧ entry.hash = hash)
        ↔ ∃ rel ∈ done,
            relKey rel = key ∧ (w.pathCache.lookup key).isSome
            ∧ Recordable env w (primary.localPath ++ rel) key hash
  kept
    : ∀ rel ∈ done,
        w.db.row (relKey rel) = none
        → (primary.localPath ++ rel ∈ toSync ↔ w.pathCache.lookup (relKey rel) = none)
  within : ∀ path ∈ toSync, ∃ rel ∈ done, path = primary.localPath ++ rel

/-- One file more, which may be sent or recorded. -/
theorem Adopted.push {entries : List FileEntry} {sends : Bool}
    (adopted : Adopted env w primary done toSync upserts) (fresh : rel ∉ done)
    (complete
      : ∀ hash,
          (w.pathCache.lookup (relKey rel)).isSome
          → Recordable env w (primary.localPath ++ rel) (relKey rel) hash
          → ∃ entry ∈ upserts ++ entries, entry.path = relKey rel ∧ entry.hash = hash)
    (sound
      : ∀ entry ∈ entries,
          entry.path = relKey rel ∧ (w.pathCache.lookup (relKey rel)).isSome
          ∧ ∃ rel' ∈ done ++ [rel],
              relKey rel' = relKey rel
              ∧ Recordable env w (primary.localPath ++ rel') (relKey rel) entry.hash)
    (sent
      : w.db.row (relKey rel) = none
        → (sends = true ↔ w.pathCache.lookup (relKey rel) = none))
    : Adopted env w primary (done ++ [rel])
        (if sends then toSync ++ [primary.localPath ++ rel] else toSync) (upserts ++ entries) := by
  constructor
  · intro key hash
    constructor
    · rintro ⟨entry, member, rfl, rfl⟩
      rcases List.mem_append.mp member with before | now
      · obtain ⟨rel', earlier, recorded⟩ := (adopted.recorded _ _).mp ⟨entry, before, rfl, rfl⟩
        exact ⟨rel', List.mem_append_left _ earlier, recorded⟩
      · obtain ⟨path, known, rel', earlier, same, recordable⟩ := sound entry now
        rw [path]
        exact ⟨rel', earlier, same, known, recordable⟩
    · rintro ⟨rel', member, rfl, known, recordable⟩
      rcases List.mem_append.mp member with before | now
      · obtain ⟨entry, earlier, recorded⟩ :=
          (adopted.recorded _ _).mpr ⟨rel', before, rfl, known, recordable⟩
        exact ⟨entry, List.mem_append_left _ earlier, recorded⟩
      · obtain rfl := List.mem_singleton.mp now
        exact complete hash known recordable
  · intro rel' member unrecorded
    have other (before : rel' ∈ done) : primary.localPath ++ rel' ≠ primary.localPath ++ rel := by
      intro same
      exact fresh (List.append_cancel_left same ▸ before)
    have unsent : primary.localPath ++ rel ∉ toSync := by
      intro early
      obtain ⟨rel', before, same⟩ := adopted.within _ early
      exact fresh (List.append_cancel_left same ▸ before)
    rcases List.mem_append.mp member with before | now
    · rw [← adopted.kept rel' before unrecorded]
      split
      · simp [other before]
      · exact Iff.rfl
    · obtain rfl := List.mem_singleton.mp now
      rw [← sent unrecorded]
      cases sends
      · simpa using unsent
      · simp
  · intro path member
    have split : path ∈ toSync ∨ path = primary.localPath ++ rel := by
      split at member
      · simpa using member
      · exact Or.inl member
    rcases split with before | rfl
    · obtain ⟨rel', earlier, same⟩ := adopted.within path before
      exact ⟨rel', List.mem_append_left _ earlier, same⟩
    · exact ⟨rel, by simp, rfl⟩

/-- The row that the comparison finds has the digest of the one from before, and is that row unless
the file has been recorded since.
-/
theorem Adopted.current (adopted : Adopted env w primary done toSync upserts)
    {columns : FileColumns}
    (row : w.db.row (relKey rel) = some columns)
    : ∃ time,
        (w.db.upsertAll upserts).row (relKey rel) = some ⟨columns.hash, time⟩
        ∧ (time ≠ columns.mtime
          → ∃ entry ∈ upserts, entry.path = relKey rel ∧ entry.hash = columns.hash) := by
  rcases @Database.row_upsertAll_cases w.db upserts (relKey rel) with before | recorded
  · exact ⟨columns.mtime, before.trans row, fun other => absurd rfl other⟩
  · obtain ⟨entry, member, path, found⟩ := recorded
    obtain ⟨_, -, -, -, -, unchanged⟩ := (adopted.recorded _ _).mp ⟨entry, member, path, rfl⟩
    have hash : columns.hash = entry.hash := (unchanged columns row).2
    rw [hash]
    exact ⟨entry.mtime, found, fun _ => ⟨entry, member, path, rfl⟩⟩

/-- The comparison of a file, after the entries `upserts`, sends it or not and records `entries`. -/
def Compares (env : Environment) (w : World) (primary : SyncPair) (index : RemoteIndex)
    (upserts : List FileEntry) (rel : Path) (sends : Bool) (entries : List FileEntry)
    : Prop :=
  Yields env
    (compareFile (primary.localPath ++ rel) (relKey rel) (w.db.row (relKey rel)).isSome
      (w.pathCache.lookup (relKey rel)).isSome)
    { w with db := w.db.upsertAll upserts } ⟨index, upserts⟩ sends
    { w with db := w.db.upsertAll (upserts ++ entries) } ⟨index, upserts ++ entries⟩

theorem compares_none {sends : Bool}
    (yields
      : Yields env
          (compareFile (primary.localPath ++ rel) (relKey rel) (w.db.row (relKey rel)).isSome
            (w.pathCache.lookup (relKey rel)).isSome)
          { w with db := w.db.upsertAll upserts } ⟨index, upserts⟩ sends
          { w with db := w.db.upsertAll upserts } ⟨index, upserts⟩)
    : Compares env w primary index upserts rel sends [] := by
  simpa [Compares] using yields

theorem compares_one {sends : Bool} {entry : FileEntry}
    (yields
      : Yields env
          (compareFile (primary.localPath ++ rel) (relKey rel) (w.db.row (relKey rel)).isSome
            (w.pathCache.lookup (relKey rel)).isSome)
          { w with db := w.db.upsertAll upserts } ⟨index, upserts⟩ sends
          { w with db := (w.db.upsertAll upserts).upsert entry } ⟨index, upserts ++ [entry]⟩)
    : Compares env w primary index upserts rel sends [entry] := by
  rw [Compares, Database.upsertAll_append]
  exact yields

/-- A file whose key the cache does not know is sent. -/
theorem Adopted.compares_unknown (adopted : Adopted env w primary done toSync upserts)
    (fresh : rel ∉ done) (unknown : w.pathCache.lookup (relKey rel) = none)
    : ∃ sends entries,
        Compares env w primary index upserts rel sends entries
        ∧ Adopted env w primary (done ++ [rel])
            (if sends then toSync ++ [primary.localPath ++ rel] else toSync)
            (upserts ++ entries) := by
  refine ⟨true, [], compares_none ?_, adopted.push fresh ?_ nofun (fun _ => by simp [unknown])⟩
  · simpa [compareFile, unknown] using yields_pure
  · simp [unknown]

/-- One that the cache knows and that has no row is recorded if it can be read. -/
theorem Adopted.compares_unrecorded (quiet : env.Undisturbed)
    (adopted : Adopted env w primary done toSync upserts) (fresh : rel ∉ done)
    (known : (w.pathCache.lookup (relKey rel)).isSome) (row : w.db.row (relKey rel) = none)
    : ∃ sends entries,
        Compares env w primary index upserts rel sends entries
        ∧ Adopted env w primary (done ++ [rel])
            (if sends then toSync ++ [primary.localPath ++ rel] else toSync)
            (upserts ++ entries) := by
  have cached : w.pathCache.lookup (relKey rel) ≠ none := Option.isSome_iff_ne_none.mp known
  cases read : w.disk.read (primary.localPath ++ rel) with
  | none =>
      refine ⟨false, [], compares_none ?_, adopted.push fresh ?_ nofun (fun _ => by simp [cached])⟩
      · simp only [compareFile, row, known, Option.isSome_none, Bool.false_and, Bool.false_eq_true,
          if_false, if_true]
        refine yields_md5 (fun content found => ?_) (fun _ error => yields_pure)
        cases read.symm.trans found
      · intro hash _ recordable
        simp [Recordable, read] at recordable
  | some content =>
      let entry : FileEntry :=
        ⟨relKey rel, env.md5 content, w.disk.mtimeOf (primary.localPath ++ rel)⟩
      have recordable
          : Recordable env w (primary.localPath ++ rel) (relKey rel) (env.md5 content) := by
        simp [Recordable, read, row]
      refine ⟨false, [entry], compares_one ?_, adopted.push fresh ?_ ?_ (fun _ => by simp [cached])⟩
      · simp only [compareFile, row, known, Option.isSome_none, Bool.false_and, Bool.false_eq_true,
          if_false, if_true]
        refine yields_md5 (fun content' found => ?_) (fun unread _ => ?_)
        · cases read.symm.trans found
          exact yields_mtimeOf.bind ((yields_upsert quiet).bind yields_pure)
        · cases read.symm.trans unread
      · intro hash _ recordable
        have same : env.md5 content = hash := by simpa [read] using recordable.1
        exact ⟨entry, by simp, rfl, same⟩
      · intro other member
        obtain rfl := List.mem_singleton.mp member
        exact ⟨rfl, known, rel, by simp, rfl, recordable⟩

/-- What is recorded of a file with a row. -/
theorem recording_of_row {path : Path} {key hash : String} {time : Int}
    (known : (w.pathCache.lookup key).isSome) (row : w.db.row key = some ⟨hash, time⟩)
    (entry : FileEntry)
    : recording env w path key = some entry
      ↔ (w.disk.read path).map env.md5 = some hash
        ∧ w.disk.mtimeOf path ≠ time
        ∧ entry = ⟨key, hash, w.disk.mtimeOf path⟩ := by
  cases read : w.disk.read path with
  | none => simp [recording, read]
  | some content =>
      by_cases digest : env.md5 content = hash
      · subst digest
        by_cases same : w.disk.mtimeOf path = time
        · simp [recording, read, row, same]
        · simp [recording, read, row, known, same, @eq_comm _ entry]
      · simp [recording, read, row, digest]

/-- One with a row is recorded again if it has kept its digest but not its time. -/
theorem Adopted.compares_recorded (quiet : env.Undisturbed)
    (adopted : Adopted env w primary done toSync upserts) (fresh : rel ∉ done)
    (known : (w.pathCache.lookup (relKey rel)).isSome) {columns : FileColumns}
    (row : w.db.row (relKey rel) = some columns)
    : ∃ sends entries,
        Compares env w primary index upserts rel sends entries
        ∧ Adopted env w primary (done ++ [rel])
            (if sends then toSync ++ [primary.localPath ++ rel] else toSync)
            (upserts ++ entries) := by
  obtain ⟨time, current, since⟩ := adopted.current row
  let now : World := { w with db := w.db.upsertAll upserts }
  let path := primary.localPath ++ rel
  have yields := @yields_compareFile env now ⟨index, upserts⟩ path (relKey rel) quiet
  have recording_iff (entry : FileEntry)
      : recording env now path (relKey rel) = some entry
        ↔ (w.disk.read path).map env.md5 = some columns.hash
          ∧ w.disk.mtimeOf path ≠ time
          ∧ entry = ⟨relKey rel, columns.hash, w.disk.mtimeOf path⟩ :=
    @recording_of_row env now path _ _ _ known current entry
  refine ⟨decide (Differs env now path (relKey rel)),
    (recording env now path (relKey rel)).toList, ?_, adopted.push fresh ?_ ?_ ?_⟩
  · rw [Compares, Database.upsertAll_append, row]
    simpa [now, current] using yields
  · intro hash _ recordable
    obtain ⟨other, rfl⟩ := recordable.2 columns row
    by_cases same : w.disk.mtimeOf path = time
    · obtain ⟨entry, member, found⟩ := since (same ▸ other)
      exact ⟨entry, List.mem_append_left _ member, found⟩
    · have recorded := (recording_iff _).mpr ⟨recordable.1, same, rfl⟩
      exact ⟨_, List.mem_append_right _ (Option.mem_toList.mpr recorded), rfl, rfl⟩
  · intro entry member
    obtain ⟨digest, differs, rfl⟩ := (recording_iff entry).mp (Option.mem_toList.mp member)
    refine ⟨rfl, known, ?_⟩
    by_cases same : w.disk.mtimeOf path = columns.mtime
    · obtain ⟨rel', earlier, path', -, recordable⟩ :=
        (adopted.recorded _ _).mp (since (fun equal => differs (same.trans equal.symm)))
      exact ⟨rel', List.mem_append_left _ earlier, path', recordable⟩
    · refine ⟨rel, by simp, rfl, digest, fun columns' found => ?_⟩
      cases row.symm.trans found
      exact ⟨same, rfl⟩
  · intro unrecorded
    cases row.symm.trans unrecorded

/-- One file of phase 3. -/
theorem Adopted.compares (index : RemoteIndex) (quiet : env.Undisturbed)
    (adopted : Adopted env w primary done toSync upserts) (fresh : rel ∉ done)
    : ∃ sends entries,
        Compares env w primary index upserts rel sends entries
        ∧ Adopted env w primary (done ++ [rel])
            (if sends then toSync ++ [primary.localPath ++ rel] else toSync)
            (upserts ++ entries) := by
  cases cached : w.pathCache.lookup (relKey rel) with
  | none => exact adopted.compares_unknown fresh cached
  | some entry =>
      have known : (w.pathCache.lookup (relKey rel)).isSome := by simp [cached]
      cases row : w.db.row (relKey rel) with
      | none => exact adopted.compares_unrecorded quiet fresh known row
      | some columns => exact adopted.compares_recorded quiet fresh known row

/-- All files of phase 3, by induction on those still to come. -/
theorem Adopted.compares_each (index : RemoteIndex) (quiet : env.Undisturbed)
    (running : w.shutdown = false) {dbIndex : List String} (read : dbIndex.Perm w.db.allPaths)
    (total : Nat) (rels : List Path) (place : Nat) (clean : ∀ rel ∈ rels, Clean rel)
    (distinct : (done ++ rels).Nodup)
    (adopted : Adopted env w primary done toSync upserts)
    : ∃ toSync' upserts',
        Yields env
          (((rels.map (primary.localPath ++ ·)).zipIdx place).foldlM
            (compareNext primary dbIndex total) toSync)
          { w with db := w.db.upsertAll upserts } ⟨index, upserts⟩ toSync'
          { w with db := w.db.upsertAll upserts' } ⟨index, upserts'⟩
        ∧ Adopted env w primary (done ++ rels) toSync' upserts' := by
  induction rels generalizing place done toSync upserts with
  | nil => exact ⟨toSync, upserts, yields_pure, by simpa using adopted⟩
  | cons rel rest ih =>
      have fresh : rel ∉ done := by
        intro member
        exact (List.nodup_append.mp distinct).2.2 rel member rel List.mem_cons_self rfl
      have contains : dbIndex.contains (relKey rel) = (w.db.row (relKey rel)).isSome := by
        rw [Bool.eq_iff_iff, List.contains_iff_mem, read.mem_iff, Database.mem_allPaths]
      obtain ⟨sends, entries, compares, pushed⟩ := adopted.compares index quiet fresh
      obtain ⟨toSync', upserts', later, all⟩ := ih (place + 1)
        (fun other member => clean other (List.mem_cons_of_mem _ member)) (by simpa using distinct)
        pushed
      refine ⟨toSync', upserts', ?_, by simpa using all⟩
      rw [List.map_cons, List.zipIdx_cons, List.foldlM_cons]
      refine Yields.bind ?_ later
      refine yields_unlessShutdown quiet running ?_
      simp only [(clean rel (by simp)).stripPrefix, contains]
      refine yields_reportWhen.bind (yields_lookup.bind (Yields.bind compares ?_))
      cases sends <;> exact yields_pure

/-- Phases 3 to 6: what is sent and recorded of the files. -/
theorem always_reconcile_adopted (quiet : env.Undisturbed) (running : w.shutdown = false)
    {cfg : AppConfig} {ignore : IgnoreMatcher} {rels : List Path}
    (clean : ∀ rel ∈ rels, Clean rel) (distinct : rels.Nodup)
    : Always (noted env.sem ScanLog.note) (fun _ => True)
        (reconcile ⟨cfg, false⟩ primary ignore index (rels.map (primary.localPath ++ ·)))
        (w, ⟨index, []⟩)
        (fun result last =>
          result = .ok () ∧ last.1.pathCache = w.pathCache
          ∧ ∃ (toSync : List Path) (deleted : List Path),
              Adopted env w primary rels toSync last.2.upserts
              ∧ last.1.tasks
                = w.tasks
                  ++ (toSync.filter (fun path => 0 < w.disk.sizeOf path)).map .syncFile
                  ++ deleted.map .delete) := by
  have start : Adopted env w primary [] [] [] := ⟨by simp, by simp, by simp⟩
  refine (yields_scanProgress w rfl).bind ?_ (by rintro _ _ - ⟨⟨⟩, -⟩)
  rintro _ ⟨middle, _⟩ - ⟨⟨⟩, same, rfl⟩
  refine always_noted.mpr ⟨trivial, ?_⟩
  intro answer after served
  obtain ⟨⟨order, read, rfl⟩, rfl⟩ := quiet.sem_allPaths.mp served
  rw [(core_parts same).2.1] at read
  obtain ⟨toSync, upserts, compared, adopted⟩ :=
    start.compares_each index quiet running read (rels.map (primary.localPath ++ ·)).length rels 0
      clean (by simpa using distinct)
  let now : World := { w with db := w.db.upsertAll upserts }
  have turn (kept : List Path) (path : Path)
      : Yields env (compareFiles.keepNonEmpty kept path) now ⟨index, upserts⟩
          (if 0 < w.disk.sizeOf path then kept ++ [path] else kept) now ⟨index, upserts⟩ :=
    yields_sizeOf.bind yields_pure
  have kept := yields_foldlM _ turn toSync [] _ rfl
  rw [foldl_keep, List.nil_append] at kept
  refine (compared.bind kept after same).bind ?_ (by rintro _ _ - ⟨⟨⟩, -⟩)
  rintro _ ⟨middle, _⟩ - ⟨⟨⟩, same, rfl⟩
  rw [localKeys_below clean]
  refine (@yields_sendPhases env now ⟨index, upserts⟩ primary ignore rels index order quiet running
    cfg _ middle same).mono ?_
  rintro result ⟨last, _⟩ - ⟨rfl, ended, rfl⟩
  let deleted := (orphanRows rels order ++ orphanFiles w.disk primary ignore rels order index).map
    primary.localPath.join
  refine ⟨rfl, (congrArg World.pathCache ended :), toSync, deleted, adopted,
    (congrArg World.tasks ended :).trans ?_⟩
  simp [World.ordered, World.core, World.queued, now, deleted, Function.comp_def]

/-- Only the disk, the rows and the cache matter to it. -/
theorem Adopted.congr {state : World} (adopted : Adopted env state primary done toSync upserts)
    (disk : state.disk = w.disk) (db : state.db = w.db)
    : Adopted env { w with pathCache := state.pathCache } primary done toSync upserts := by
  obtain ⟨_, _, _, _, _, _, _, _, _⟩ := state
  obtain ⟨⟩ := disk
  obtain ⟨⟩ := db
  exact ⟨adopted.recorded, adopted.kept, adopted.within⟩

/-- A file that is not empty has a size. -/
theorem Disk.sizeOf_pos {disk : Disk} {path : Path} {data : FileData}
    (there : disk.node? path = some (.file data)) (content : data.content ≠ [])
    : 0 < disk.sizeOf path := by
  simpa [Disk.sizeOf, Disk.metadata, there, Node.metadata, List.length_pos_iff] using content

end Comparison

-----------------------------------------------------------------------------------------
-- When local files win
-----------------------------------------------------------------------------------------

section Contact

variable {env : Environment} {w : World} {cfg : AppConfig} {primary : SyncPair}
  {ignore : IgnoreMatcher} {listing : Except Error RemoteIndex} {last : World × ScanLog}

/-- With the keys that the cache knows, what is sent and recorded is as it should be exactly where
the remote has the known files as they are.
-/
theorem Adopted.localWins_iff {toSync deleted : List Path}
    (adopted
      : Adopted env { w with pathCache := last.1.pathCache } primary
          (walkedRels w.disk primary.localPath ignore) toSync last.2.upserts)
    (known
      : ∀ key,
          (last.1.pathCache.lookup key).isSome ↔ KnownKey w listing primary ignore key)
    (tasks
      : last.1.tasks
        = w.tasks ++ (toSync.filter (fun path => 0 < w.disk.sizeOf path)).map .syncFile
          ++ deleted.map .delete)
    : LocalWins env primary ignore w (listed listing) last
      ↔ KnownAsCarried env primary ignore w listing := by
  constructor
  · intro wins
    constructor
    · intro rel walked data there content unrecorded knownKey
      by_contra missing
      obtain ⟨sent, same, member⟩ := wins.sent rel walked data there content unrecorded missing
      have sent : sent = (toSync.filter (fun path => 0 < w.disk.sizeOf path)).map .syncFile
          ++ deleted.map .delete := by
        apply List.append_cancel_left (same.symm.trans tasks |>.trans _)
        exact List.append_assoc ..
      have inSync : primary.localPath ++ rel ∈ toSync := by
        simp only [sent, List.mem_append, List.mem_map, reduceCtorEq, and_false, exists_false,
          or_false] at member
        obtain ⟨path, kept, same⟩ := member
        cases same
        exact (List.mem_filter.mp kept).1
      have unknown := (adopted.kept rel walked unrecorded).mp inSync
      simpa [unknown] using (known _).mpr knownKey
    · intro rel walked hash knownKey recordable file member same
      obtain ⟨entry, written, path, digest⟩ := (adopted.recorded (relKey rel) hash).mpr
        ⟨rel, walked, rfl, (known _).mpr knownKey, recordable⟩
      rw [← digest]
      exact wins.truthful entry written file member (same.trans path.symm)
  · intro carried
    constructor
    · intro rel walked data there content unrecorded missing
      refine ⟨_, tasks.trans (List.append_assoc ..), List.mem_append_left _ ?_⟩
      have unknown : last.1.pathCache.lookup (relKey rel) = none := by
        by_contra cached
        refine missing (carried.unrecorded rel walked data there content unrecorded ?_)
        exact (known _).mp (Option.isSome_iff_ne_none.mpr cached)
      refine List.mem_map_of_mem (List.mem_filter.mpr ⟨?_, ?_⟩)
      · exact (adopted.kept rel walked unrecorded).mpr unknown
      · exact decide_eq_true (Disk.sizeOf_pos there content)
    · intro entry written file member same
      obtain ⟨rel, walked, path, cached, recordable⟩ :=
        (adopted.recorded _ _).mp ⟨entry, written, rfl, rfl⟩
      rw [← path] at cached recordable same
      exact carried.recordable rel walked _ ((known _).mp cached) recordable file member same

/-- The cache of a scan that ends well knows the keys that it knew, those listed and those of the
directories walked.
-/
theorem always_scan_known
    (answers
      : ∀ folder disk remote answer after,
          env.provider (.listRemote folder) disk remote answer after → answer = listing)
    (configured : cfg.getPrimaryPair = some primary)
    : Always env.sem (fun _ => True) (scan ⟨cfg, false⟩ ignore) w
        (fun result last =>
          result = .ok ()
          → ∀ key,
              (last.pathCache.lookup key).isSome ↔ KnownKey w listing primary ignore key) := by
  have all := always_forall (fun key : { key // KnownKey w listing primary ignore key } =>
    @scan_knows_all env w ⟨cfg, false⟩ primary ignore listing key answers configured key.property)
  refine (all.and (@scan_knows_only env w ⟨cfg, false⟩ primary ignore listing answers
    configured)).weaken
    (fun _ _ => trivial) |>.mono ?_
  rintro result last - ⟨⟨-, only⟩, all, -⟩ done key
  exact ⟨only key, fun knownKey => all ⟨key, knownKey⟩ done⟩

/-- What a scan that ends well has sent and recorded of the files. -/
theorem always_scan_adopted (quiet : env.Undisturbed) (running : w.shutdown = false)
    (configured : cfg.getPrimaryPair = some primary)
    : Always (noted env.sem ScanLog.note) (fun _ => True) (scan ⟨cfg, false⟩ ignore) (w, {})
        (fun result last =>
          result = .ok ()
          → ∃ (toSync : List Path) (deleted : List Path),
              Adopted env { w with pathCache := last.1.pathCache } primary
                (walkedRels w.disk primary.localPath ignore) toSync last.2.upserts
              ∧ last.1.tasks
                = w.tasks ++ (toSync.filter (fun path => 0 < w.disk.sizeOf path)).map .syncFile
                  ++ deleted.map .delete) := by
  have distinct : (walkedRels w.disk primary.localPath ignore).Nodup := by
    have paths : (walkedFiles w.disk primary.localPath ignore).Nodup :=
      Disk.walkDir_nodup.sublist (List.filter_sublist.map _)
    rw [walkedFiles_eq] at paths
    exact paths.of_map _
  apply always_scan_compares quiet running configured
  · rintro index ⟨made, log⟩ - ready
    obtain rfl : log = ⟨index, []⟩ := ready.log
    rw [walkedFiles_eq]
    refine (always_reconcile_adopted quiet ready.running
      (fun rel walked => (walkedRels_proper walked).clean) distinct).mono ?_
    rintro result last - ⟨-, cache, toSync, deleted, adopted, tasks⟩ -
    refine ⟨toSync, deleted, ?_, ?_⟩
    · rw [cache]
      exact adopted.congr ready.disk ready.db
    · rw [← ready.disk, ← ready.tasks]
      exact tasks
  · rintro error index last - - ⟨⟩

/-- On first contact local files win exactly where the remote has every file that the cache knows
as it is on the disk.
-/
theorem local_wins_iff (quiet : env.Undisturbed) (running : w.shutdown = false)
    (configured : cfg.getPrimaryPair = some primary)
    (answers
      : ∀ folder disk remote answer after,
          env.provider (.listRemote folder) disk remote answer after → answer = listing)
    : Always (noted env.sem ScanLog.note) (fun _ => True) (scan ⟨cfg, false⟩ ignore) (w, {})
        (fun result last =>
          result = .ok ()
          → (LocalWins env primary ignore w (listed listing) last
            ↔ KnownAsCarried env primary ignore w listing)) := by
  have adopts := @always_scan_adopted env w cfg primary ignore quiet running configured
  have known := @always_scan_known env w cfg primary ignore listing answers configured
  refine (adopts.and (known.observed ({} : ScanLog))).weaken (fun _ _ => trivial) |>.mono ?_
  rintro result last - ⟨-, adopts, known⟩ done
  obtain ⟨toSync, deleted, adopted, tasks⟩ := adopts done
  exact adopted.localWins_iff (known done) tasks

end Contact

-----------------------------------------------------------------------------------------
-- A file of another version
-----------------------------------------------------------------------------------------

/-- One file, without a row. -/
def unrecordedWorld : World where
  disk := .backup (.single (.utf8 "a") OsString.proper_a) (fun _ => .file ⟨[1], 0, true⟩)

/-- The remote has a file of that name. -/
def namesakeIndex (md5 : String) : RemoteIndex := ⟨[⟨"a", "1", "root", md5, 1, 0⟩], []⟩

theorem unrecordedWorld_rels
    : walkedRels unrecordedWorld.disk backupPair.localPath .nothing = [[.utf8 "a"]] := by
  have files : walkedFiles unrecordedWorld.disk backupPair.localPath .nothing
      = [[.utf8 "backup", .utf8 "a"]] := by
    simp [walkedFiles, unrecordedWorld, backupPair, Disk.walkDir, Disk.backup_entry?, Node.walk,
      IgnoreMatcher.keeps, IgnoreMatcher.nothing_isIgnored, Listing.yielded, Listing.single]
  rw [walkedRels, files]
  rfl

/-- Where the remote has the file as it is, nothing is owed to it. -/
theorem carried_file_wins
    : Always (noted (Environment.obliging (fun _ => "new") (.ok (namesakeIndex "new"))).sem
        ScanLog.note)
        (fun _ => True) (scan ⟨backupConfig, false⟩ .nothing) (unrecordedWorld, {})
        (fun result last =>
          result = .ok ()
          → LocalWins (.obliging (fun _ => "new") (.ok (namesakeIndex "new"))) backupPair .nothing
              unrecordedWorld (namesakeIndex "new") last) := by
  have carried : KnownAsCarried (.obliging (fun _ => "new") (.ok (namesakeIndex "new"))) backupPair
      .nothing unrecordedWorld (.ok (namesakeIndex "new")) := by
    constructor
    · intro rel walked data there content unrecorded known
      rw [unrecordedWorld_rels, List.mem_singleton] at walked
      subst walked
      exact ⟨_, List.mem_singleton_self _, by decide, rfl⟩
    · intro rel walked hash known recordable file member same
      obtain rfl := List.mem_singleton.mp member
      have digest := recordable.1
      rw [Option.map_eq_some_iff] at digest
      obtain ⟨content, -, rfl⟩ := digest
      rfl
  refine (local_wins_iff (fun _ => id) rfl rfl (fun _ _ _ _ _ answered => answered)).mono ?_
  intro result last _ wins done
  exact (wins done).mpr carried

/-- The remote has another version of the file: it is not sent, and recorded as if it were there. -/
theorem namesake_adopted
    : ¬ ∀ (env : Environment) (cfg : AppConfig) (primary : SyncPair) (ignore : IgnoreMatcher)
          (w : World) (listing : Except Error RemoteIndex),
          env.Undisturbed
          → w.shutdown = false
          → cfg.getPrimaryPair = some primary
          → (∀ folder disk remote answer after,
              env.provider (.listRemote folder) disk remote answer after → answer = listing)
          → Always (noted env.sem ScanLog.note) (fun _ => True) (scan ⟨cfg, false⟩ ignore) (w, {})
              (fun result last =>
                result = .ok () → LocalWins env primary ignore w (listed listing) last) := by
  intro claim
  let env := Environment.obliging (fun _ => "new") (.ok (namesakeIndex "old"))
  have answers (folder : DriveId) (disk : Disk) (remote : Remote)
      (answer : Except Error RemoteIndex) (after : Remote)
      (answered : env.provider (.listRemote folder) disk remote answer after)
      : answer = .ok (namesakeIndex "old") := answered
  have wins := claim env backupConfig backupPair .nothing unrecordedWorld _ (fun _ => id) rfl rfl
    answers
  have adopts := @always_scan_adopted env unrecordedWorld backupConfig backupPair .nothing
    (fun _ => id) rfl rfl
  have known := @always_scan_known env unrecordedWorld backupConfig backupPair .nothing _ answers
      rfl
  have ends : NeverFails env (scan ⟨backupConfig, false⟩ .nothing) :=
    neverFails_scan (fun _ => id) rfl (fun _ name _ _ _ _ made => ⟨name, made⟩)
  have all := (((wins.and adopts).and ((known.and (ends unrecordedWorld rfl)).observed
    ({} : ScanLog))).weaken (fun _ _ => trivial)).bare
  obtain ⟨result, last, -, -, log, -, ⟨wins, adopts⟩, known, _, done⟩ := obliging_run all
  obtain ⟨toSync, deleted, adopted, tasks⟩ := adopts done
  have carried := (adopted.localWins_iff (known done) tasks).mp (wins done)
  obtain ⟨file, member, -, digest⟩ := carried.unrecorded [.utf8 "a"]
    (by rw [unrecordedWorld_rels]; exact List.mem_singleton_self _) ⟨[1], 0, true⟩ (by rfl)
    (by decide) (by rfl) (.inr (.inl ⟨_, List.mem_singleton_self _, by decide⟩))
  obtain rfl := List.mem_singleton.mp member
  exact absurd digest (by decide)

end SyncGDrive
