import SyncGDrive.Engine.Exclusion
import SyncGDrive.Program.Notes

/-! Folders and files among the identifiers that the provider has given. The cache does not tell
them apart, so a directory in the place of a file has the file's item taken for its folder.
-/

namespace SyncGDrive

open Program

-----------------------------------------------------------------------------------------
-- What the provider has told
-----------------------------------------------------------------------------------------

/-- The identifiers that have been listed or created, as folders and as files. -/
structure Kinds where
  folders : List DriveId := []
  files : List DriveId := []

namespace Kinds

/-- What a listing adds. -/
def list (kinds : Kinds) (index : RemoteIndex) : Kinds where
  folders := kinds.folders ++ index.dirs.map RemoteDir.driveId
  files := kinds.files ++ index.files.map RemoteFile.driveId

/-- What an answer tells. -/
def learn : Noting effects Kinds
  | .provider (.listRemote _), answer, kinds =>
      match answer with
      | .ok index => kinds.list index
      | .error _ => kinds
  | .provider (.mkdir ..), answer, kinds =>
      match answer with
      | .ok id => { kinds with folders := kinds.folders ++ [id] }
      | .error _ => kinds
  | .provider (.upload ..), answer, kinds =>
      match answer with
      | .ok result => { kinds with files := kinds.files ++ [result.driveId] }
      | .error _ => kinds
  | _, _, kinds => kinds

/-- The identifier is the configured one, or has been given to a folder. -/
def Parent (root : DriveId) (kinds : Kinds) (id : DriveId) : Prop := id = root ∨ id ∈ kinds.folders

/-- The parent of the call is a folder, and what it overwrites a file. -/
def Fit (root : DriveId) (kinds : Kinds) : ProviderCall → Prop
  | .mkdir parentId _ => kinds.Parent root parentId
  | .upload _ parentId _ existing =>
      kinds.Parent root parentId ∧ ∀ id, existing = some id → id ∈ kinds.files
  | .rename _ _ parentId => kinds.Parent root parentId
  | _ => True

/-- An operation that is no provider call, or a call that fits. -/
def Fitting (root : DriveId) (op : Op) (here : World × Kinds) : Prop :=
  ∀ call, op = .provider call → here.2.Fit root call

/-- Nothing is forgotten. -/
structure Within (kinds kinds' : Kinds) : Prop where
  folders : kinds.folders ⊆ kinds'.folders
  files : kinds.files ⊆ kinds'.files

theorem Within.refl (kinds : Kinds) : kinds.Within kinds := ⟨fun _ => id, fun _ => id⟩

theorem Within.trans {first second third : Kinds} (head : first.Within second)
    (tail : second.Within third)
    : first.Within third :=
  ⟨fun _ member => tail.folders (head.folders member),
    fun _ member => tail.files (head.files member)⟩

/-- An answer adds to what is known. -/
theorem within_learn (op : Op) (answer : op.Answer) (kinds : Kinds)
    : kinds.Within (learn op answer kinds) := by
  cases op with
  | provider call =>
      cases call with
      | listRemote | mkdir | upload => cases answer <;> constructor <;> simp [learn, list]
      | delete | rename => exact .refl kinds
  | _ => exact .refl kinds

theorem Parent.mono {root : DriveId} {kinds kinds' : Kinds} {id : DriveId}
    (parent : kinds.Parent root id) (grown : kinds.Within kinds')
    : kinds'.Parent root id :=
  parent.imp_right (@grown.folders id)

end Kinds

theorem Op.Local.silent {op : Op} (here : op.Local) : Program.Silent Kinds.learn op := by
  intro answer kinds
  cases op with
  | provider call => exact absurd rfl (here call)
  | _ => rfl

theorem Op.Local.fitting {root : DriveId} {op : Op} {here : World × Kinds} (isLocal : op.Local)
    : Kinds.Fitting root op here :=
  fun call same => absurd same (isLocal call)

/-- Every identifier in the cache has been listed or created. -/
def PathCache.Known (cache : PathCache) (kinds : Kinds) : Prop :=
  ∀ key entry,
    cache.lookup key = some entry → entry.driveId ∈ kinds.folders ∨ entry.driveId ∈ kinds.files

/-- What the cache has at the key is not the item of a file. -/
def PathCache.FolderAt (cache : PathCache) (kinds : Kinds) (key : String) : Prop :=
  ∀ entry, cache.lookup key = some entry → entry.driveId ∈ kinds.files
    → entry.driveId ∈ kinds.folders

/-- What the cache has at the key is not a folder. -/
def PathCache.FileAt (cache : PathCache) (kinds : Kinds) (key : String) : Prop :=
  ∀ entry, cache.lookup key = some entry → entry.driveId ∈ kinds.folders
    → entry.driveId ∈ kinds.files

namespace PathCache

variable {cache : PathCache} {kinds kinds' : Kinds} {key : String}

theorem Known.mono (known : cache.Known kinds) (grown : kinds.Within kinds') : cache.Known kinds' :=
  fun key entry found => (known key entry found).imp (@grown.folders _) (@grown.files _)

theorem Known.insert {id parentId : DriveId} (known : cache.Known kinds)
    (told : id ∈ kinds.folders ∨ id ∈ kinds.files)
    : (cache.insert key id parentId).Known kinds := by
  intro other entry found
  rw [lookup_insert] at found
  split at found
  · cases found
    exact told
  · exact known other entry found

theorem Known.removeCascades (known : cache.Known kinds)
    : (cache.removeCascades key).Known kinds := by
  intro other entry found
  rw [lookup_removeCascades] at found
  split at found
  · cases found
  · exact known other entry found

theorem Known.folder {entry : CacheEntry} (known : cache.Known kinds)
    (found : cache.lookup key = some entry) (folder : cache.FolderAt kinds key)
    : entry.driveId ∈ kinds.folders :=
  (known key entry found).elim id (folder entry found)

theorem Known.file {entry : CacheEntry} (known : cache.Known kinds)
    (found : cache.lookup key = some entry) (file : cache.FileAt kinds key)
    : entry.driveId ∈ kinds.files :=
  (known key entry found).elim (file entry found) id

/-- The items of a list entered one after the other. -/
def insertAll {γ : Type} (cache : PathCache) (entry : γ → String × CacheEntry) (items : List γ)
    : PathCache :=
  items.foldl
    (fun cache item => cache.insert (entry item).1 (entry item).2.driveId (entry item).2.parentId)
    cache

theorem Known.insertAll {γ : Type} {entry : γ → String × CacheEntry} {items : List γ}
    (known : cache.Known kinds)
    (told
      : ∀ item ∈ items,
          (entry item).2.driveId ∈ kinds.folders ∨ (entry item).2.driveId ∈ kinds.files)
    : (cache.insertAll entry items).Known kinds := by
  induction items generalizing cache with
  | nil => exact known
  | cons item rest ih =>
      exact ih (known.insert (told item (by simp)))
        (fun item member => told item (by simp [member]))

end PathCache

/-- The key and the entry of a listed folder. -/
def RemoteDir.entry (dir : RemoteDir) : String × CacheEntry :=
  (dir.relativePath, ⟨dir.driveId, dir.parentId⟩)

/-- The key and the entry of a listed file. -/
def RemoteFile.entry (file : RemoteFile) : String × CacheEntry :=
  (file.relativePath, ⟨file.driveId, file.parentId⟩)

/-- The listed items entered, the folders first. -/
def PathCache.enterListing (cache : PathCache) (index : RemoteIndex) : PathCache :=
  (cache.insertAll RemoteDir.entry index.dirs).insertAll RemoteFile.entry index.files

theorem Kinds.within_list (kinds : Kinds) (index : RemoteIndex) : kinds.Within (kinds.list index) :=
  ⟨by simp [Kinds.list], by simp [Kinds.list]⟩

theorem PathCache.Known.enterListing {cache : PathCache} {kinds : Kinds} (known : cache.Known kinds)
    (index : RemoteIndex)
    : (cache.enterListing index).Known (kinds.list index) := by
  have folders : (cache.insertAll RemoteDir.entry index.dirs).Known (kinds.list index) := by
    refine (known.mono (kinds.within_list index)).insertAll (fun dir member => .inl ?_)
    exact List.mem_append.mpr (.inr (List.mem_map_of_mem member))
  refine folders.insertAll (fun file member => .inr ?_)
  exact List.mem_append.mpr (.inr (List.mem_map_of_mem member))

-----------------------------------------------------------------------------------------
-- Calls that fit
-----------------------------------------------------------------------------------------

/-- Every provider call fits what the provider has told before it. -/
abbrev Fits {α : Type} (env : Environment) (root : DriveId) (program : Eff α)
    (here : World × Kinds) (post : Except Error α → World × Kinds → Prop)
    : Prop :=
  Guarded (noted env.sem Kinds.learn) (Kinds.Fitting root) program here post

section Rules

variable {env : Environment} {root : DriveId} {w : World} {kinds : Kinds} {α β : Type}

/-- An operation of the engine's own. -/
theorem fits_local {op : Op} {f : op.Answer → Eff β} {post : Except Error β → World × Kinds → Prop}
    (here : op.Local)
    (rest
      : ∀ answer after, env.sem op w answer after → Fits env root (f answer) (after, kinds) post)
    : Fits env root (ask op >>= f) (w, kinds) post := by
  refine guarded_noted.mpr ⟨here.fitting, fun answer after served => ?_⟩
  rw [here.silent answer kinds]
  exact rest answer after served

/-- A call that fits, and what its answer tells. -/
theorem fits_call {call : ProviderCall} {f : call.Answer → Eff β}
    {post : Except Error β → World × Kinds → Prop} (fit : kinds.Fit root call)
    (rest
      : ∀ answer remote,
          Fits env root (f answer) ({ w with remote }, Kinds.learn (.provider call) answer kinds)
            post)
    : Fits env root (ask (.provider call) >>= f) (w, kinds) post := by
  refine guarded_noted.mpr ⟨by rintro _ ⟨⟩; exact fit, ?_⟩
  rintro answer after ⟨remote, -, rfl⟩
  exact rest answer remote

/-- A program without provider calls. -/
theorem fits_always {program : Eff α} {inv : World → Prop} {post : Except Error α → World → Prop}
    (always : Always env.sem inv program w post) (uses : Uses Op.Local program)
    : Fits env root program (w, kinds)
        (fun result last => (inv last.1 ∧ post result last.1) ∧ last.2 = kinds) := by
  have guarded
      : Guarded env.sem (fun op _ => op.Local) program w
          (fun result last => inv last ∧ post result last) :=
    (always.mono (fun _ _ => And.intro)).guarded uses (fun _ _ _ isLocal => isLocal)
  exact guarded.noted (uses.mono (fun _ => Op.Local.silent)) (fun _ _ => Op.Local.fitting)

/-- One that leaves the cache alone. -/
theorem fits_aside {program : Eff α}
    (uses : Uses (fun op : Op => op.Local ∧ op.writes ≠ some .pathCache) program)
    : Fits env root program (w, kinds)
        (fun _ last =>
          last.1.disk = w.disk ∧ last.1.pathCache = w.pathCache ∧ last.2 = kinds) := by
  have same := @always_sameFolders env w α program (uses.mono (fun _ => And.right))
  refine (fits_always same (uses.mono (fun _ => And.left))).mono ?_
  rintro _ last ⟨⟨⟨disk, cache⟩, -⟩, same⟩
  exact ⟨disk, cache, same⟩

/-- The rule for `retry`: what a failed attempt keeps. -/
theorem fits_retry {cfg : AppConfig} {γ : Type} {operation : Eff (Except Error γ)}
    {inv : World × Kinds → Prop}
    {post : Except Error γ → World × Kinds → Prop}
    (paused
      : ∀ w kinds after, inv (w, kinds) → env.interrupts w after → inv (after, kinds))
    (failed : ∀ error here, inv here → post (.error error) here)
    (attempt
      : ∀ here,
          inv here
          → Fits env root operation here
              (fun result last =>
                match result with
                | .ok (.ok value) => post (.ok value) last
                | .ok (.error _) => inv last
                | .error error => post (.error error) last))
    {here : World × Kinds} (start : inv here)
    : Fits env root (retry cfg operation) here post := by
  apply guarded_retry (fun _ => inv) (fun _ _ => inv) _ failed _ start
  · rintro left ⟨w, kinds⟩ here
    refine ⟨by rintro _ ⟨⟩, ?_⟩
    rintro cancelled ⟨after, _⟩ ⟨served, rfl⟩
    have here := paused _ _ _ here served.1
    cases cancelled with
    | true => exact failed _ _ here
    | false =>
        apply (attempt _ here).mono
        rintro (error | error | value) last tried <;> exact tried
  · rintro left error ⟨w, kinds⟩ here
    refine ⟨by rintro _ ⟨⟩, ?_⟩
    rintro stopped ⟨after, _⟩ ⟨served, rfl⟩
    have here := paused _ _ _ here served.1
    cases stopped with
    | true => exact failed _ _ here
    | false => exact here

end Rules

-----------------------------------------------------------------------------------------
-- Scans
-----------------------------------------------------------------------------------------

/-- Where a folder has to be made, the cache has no file's item for the directory above. -/
def FoldersAbove (primary : SyncPair) (ignore : IgnoreMatcher) (disk : Disk) (cache : PathCache)
    (kinds : Kinds)
    : Prop :=
  ∀ front name,
    front ≠ [] → primary.localPath ++ (front ++ [name]) ∈ walkedDirs disk primary.localPath ignore
    → cache.lookup (relKey (front ++ [name])) = none → cache.FolderAt kinds (relKey front)

/-- How far phase 2 has come: from the cache that the listing has left, with folders added. -/
structure Filling (disk : Disk) (cache : PathCache) (told : Kinds) (here : World × Kinds)
    : Prop where
  disk : here.1.disk = disk
  told : told.Within here.2
  kept : ∀ key entry, cache.lookup key = some entry → here.1.pathCache.lookup key = some entry
  made
    : ∀ key entry,
        here.1.pathCache.lookup key = some entry
        → cache.lookup key = some entry ∨ entry.driveId ∈ here.2.folders

theorem Filling.known {disk : Disk} {cache : PathCache} {told : Kinds} {here : World × Kinds}
    (filling : Filling disk cache told here) (known : cache.Known told)
    : here.1.pathCache.Known here.2 := by
  intro key entry found
  rcases filling.made key entry found with before | folder
  · exact known.mono filling.told key entry before
  · exact .inl folder

section Scan

variable {env : Environment} {cfg : AppConfig} {primary : SyncPair} {ignore : IgnoreMatcher}
  {disk : Disk} {cache : PathCache} {told : Kinds} {w : World} {kinds : Kinds}

/-- Steps that leave the disk, the cache and the note alone. -/
theorem Filling.aside {after : World} (filling : Filling disk cache told (w, kinds))
    (sameDisk : after.disk = w.disk) (same : after.pathCache = w.pathCache)
    : Filling disk cache told (after, kinds) :=
  ⟨sameDisk.trans filling.disk, filling.told, same ▸ filling.kept, same ▸ filling.made⟩

theorem Filling.grown {kinds' : Kinds} (filling : Filling disk cache told (w, kinds))
    (grown : kinds.Within kinds')
    : Filling disk cache told (w, kinds') :=
  ⟨filling.disk, filling.told.trans grown, filling.kept,
    fun key entry found => (filling.made key entry found).imp_right (@grown.folders _)⟩

/-- A new folder enters the cache. -/
theorem Filling.insert {key : String} {id parentId : DriveId}
    (filling : Filling disk cache told (w, kinds)) (missing : w.pathCache.lookup key = none)
    (folder : id ∈ kinds.folders)
    : Filling disk cache told
        ({ w with pathCache := w.pathCache.insert key id parentId }, kinds) := by
  refine ⟨filling.disk, filling.told, fun other entry found => ?_, fun other entry found => ?_⟩
  · have kept := filling.kept other entry found
    have differs : other ≠ key := by
      rintro rfl
      rw [missing] at kept
      cases kept
    rwa [PathCache.lookup_insert, if_neg differs]
  · rw [PathCache.lookup_insert] at found
    split at found
    · cases found
      exact .inr folder
    · exact filling.made other entry found

/-- The folder of the directory above is known to be one. -/
theorem Filling.parent {front : Path} {name : OsString} {id : DriveId}
    (filling : Filling disk cache told (w, kinds)) (known : cache.Known told)
    (above : FoldersAbove primary ignore disk cache told) (names : ProperNames (front ++ [name]))
    (walked : primary.localPath ++ (front ++ [name]) ∈ walkedDirs disk primary.localPath ignore)
    (folder : w.folderId? primary (relKey front) = some id)
    (missing : w.pathCache.lookup (relKey (front ++ [name])) = none)
    : kinds.Parent primary.remoteFolderId id := by
  rcases List.eq_nil_or_concat front with rfl | ⟨rest, last, rfl⟩
  · left
    simpa [World.folderId?, relKey_nil] using folder.symm
  rw [List.concat_eq_append] at *
  have below : relKey (rest ++ [last]) ≠ "" :=
    relKey_concat_ne_empty (ProperNames.append.mp names).1
  right
  simp only [World.folderId?, if_neg below, Option.map_eq_some_iff] at folder
  obtain ⟨entry, found, rfl⟩ := folder
  rcases filling.made _ _ found with before | made
  · have unlisted : cache.lookup (relKey (rest ++ [last] ++ [name])) = none := by
      cases listed : cache.lookup (relKey (rest ++ [last] ++ [name])) with
      | none => rfl
      | some entry => rw [filling.kept _ _ listed] at missing; cases missing
    exact filling.told.folders (known.folder before (above _ _ (by simp) walked unlisted))
  · exact made

/-- One name further down below walked directories. -/
theorem enterFolder_fits {front : Path} {name : OsString} {id : DriveId}
    (known : cache.Known told) (above : FoldersAbove primary ignore disk cache told)
    (names : ProperNames (front ++ [name]))
    (walked : primary.localPath ++ (front ++ [name]) ∈ walkedDirs disk primary.localPath ignore)
    (filling : Filling disk cache told (w, kinds))
    (folder : w.folderId? primary (relKey front) = some id)
    : Fits env primary.remoteFolderId (enterFolder ⟨cfg, false⟩ (relKey front, id) name) (w, kinds)
        (fun result last =>
          Filling disk cache told last
          ∧ ∀ pair,
              result = .ok pair
              → pair.1 = relKey (front ++ [name])
                ∧ last.1.folderId? primary pair.1 = some pair.2) := by
  have key : pushKey (relKey front) name.toStringLossy = relKey (front ++ [name]) :=
    (relKey_pushProper (ProperNames.append.mp names).1 name).symm
  have below : pushKey (relKey front) name.toStringLossy ≠ "" := key ▸ relKey_concat_ne_empty names
  unfold enterFolder
  refine fits_local (by rintro _ ⟨⟩) ?_
  rintro cached looked ⟨found, rfl⟩
  cases cached with
  | some entry =>
      refine ⟨filling, ?_⟩
      rintro _ ⟨⟩
      exact ⟨key, by simp [World.folderId?, below, ← found]⟩
  | none =>
      have parent := filling.parent known above names walked folder (key ▸ found.symm)
      have created
          : Fits env primary.remoteFolderId
              (enterFolder.create ⟨cfg, false⟩ (relKey front, id)
                (pushKey (relKey front) name.toStringLossy) name.toStringLossy)
              (looked, kinds)
              (fun result last =>
                last.1.disk = looked.disk ∧ last.1.pathCache = looked.pathCache
                ∧ kinds.Within last.2 ∧ ∀ newId, result = .ok newId → newId ∈ last.2.folders) := by
        let untouched (here : World × Kinds) : Prop :=
          here.1.disk = looked.disk ∧ here.1.pathCache = looked.pathCache ∧ here.2 = kinds
        refine @fits_retry env _ cfg DriveId _ untouched _ ?_ ?_ ?_ _ ⟨rfl, rfl, rfl⟩
        · rintro w _ after ⟨sameDisk, same, rfl⟩ (rfl | ⟨-, rfl⟩) <;> exact ⟨sameDisk, same, rfl⟩
        · rintro error ⟨w, _⟩ ⟨sameDisk, same, rfl⟩
          exact ⟨sameDisk, same, .refl _, by rintro _ ⟨⟩⟩
        · rintro ⟨w, _⟩ ⟨sameDisk, same, rfl⟩
          refine guarded_noted.mpr ⟨by rintro _ ⟨⟩; exact parent, ?_⟩
          rintro answer after ⟨remote, -, rfl⟩
          cases answer with
          | error error => exact ⟨sameDisk, same, rfl⟩
          | ok newId =>
              refine ⟨sameDisk, same,
                Kinds.within_learn (.provider (.mkdir id name.toStringLossy)) (.ok newId) _, ?_⟩
              rintro _ ⟨⟩
              simp [Kinds.learn]
      refine created.bind ?_ ?_
      · rintro newId ⟨middle, learnt⟩ ⟨sameDisk, same, grown, made⟩
        refine fits_local (by rintro _ ⟨⟩) ?_
        rintro _ _ rfl
        refine ⟨((filling.grown grown).aside sameDisk same).insert ?_ (made _ rfl), ?_⟩
        · rw [same, ← found]
        rintro _ ⟨⟩
        exact ⟨key, by simp [World.folderId?, below, PathCache.lookup_insert]⟩
      · rintro error ⟨middle, learnt⟩ ⟨sameDisk, same, grown, -⟩
        exact ⟨(filling.grown grown).aside sameDisk same, by rintro _ ⟨⟩⟩

/-- One directory of phase 2. -/
theorem ensureFolder_fits {total place : Nat} {dir : Path} (known : cache.Known told)
    (above : FoldersAbove primary ignore disk cache told)
    (walked : dir ∈ walkedDirs disk primary.localPath ignore)
    (filling : Filling disk cache told (w, kinds))
    : Fits env primary.remoteFolderId (ensureFolder ⟨cfg, false⟩ primary total (dir, place))
        (w, kinds) (fun _ last => Filling disk cache told last) := by
  obtain ⟨-, name, rest, rfl⟩ := mem_walkedDirs.mp walked
  obtain ⟨names, walkedAbove⟩ := walkedDirs_above walked
  have still {op : Op} {v after : World} {answer : op.Answer}
      (filling : Filling disk cache told (v, kinds)) (served : env.sem op v answer after)
      (spares : op.writes ≠ some .pathCache)
      : Filling disk cache told (after, kinds) :=
    filling.aside (env.sem_keeps served).disk ((env.sem_keeps served).pathCache spares)
  refine fits_local (by rintro _ ⟨⟩) (fun cancelled checked served => ?_)
  have filling := still filling served (by simp [Op.writes])
  cases cancelled with
  | true => exact filling
  | false =>
  simp only [Bool.false_eq_true, if_false, names.clean.stripPrefix]
  refine fits_local (by rintro _ ⟨⟩) (fun _ reported served => ?_)
  have filling := still filling served (by simp [Op.writes])
  refine fits_local (by rintro _ ⟨⟩) ?_
  rintro cached looked ⟨-, rfl⟩
  cases cached with
  | some entry => exact filling
  | none =>
      let loop (rest' : Path) (pair : String × DriveId) (here : World × Kinds) : Prop :=
        ∃ front,
          name :: rest = front ++ rest' ∧ pair.1 = relKey front
          ∧ here.1.folderId? primary pair.1 = some pair.2 ∧ Filling disk cache told here
      have entered
          : Fits env primary.remoteFolderId
              ((name :: rest).foldlM (enterFolder ⟨cfg, false⟩) ("", primary.remoteFolderId))
              (looked, kinds) (fun _ last => Filling disk cache told last) := by
        have filled (pair : String × DriveId) (here : World × Kinds) (passed : loop [] pair here)
            : Filling disk cache told here := by
          obtain ⟨_, _, _, _, filling⟩ := passed
          exact filling
        refine guarded_foldlM loop filled ?_ _ _
          ⟨[], rfl, relKey_nil.symm, by simp [World.folderId?], filling⟩
        rintro next rest' ⟨key, id⟩ ⟨middle, learnt⟩ ⟨front, split, rfl, folder, filling⟩
        have split' : name :: rest = (front ++ [next]) ++ rest' := by simpa using split
        have proper := (ProperNames.append.mp (split' ▸ names)).1
        have isWalked := walkedAbove _ _ split' (by simp)
        refine (enterFolder_fits known above proper isWalked filling folder).mono ?_
        rintro (error | pair) last ⟨filling, reached⟩
        · exact filling
        · obtain ⟨key, folder⟩ := reached pair rfl
          exact ⟨front ++ [next], split', key, folder, filling⟩
      exact entered.bind (fun _ _ filling => filling) (fun _ _ filling => filling)

theorem fits_insertAll {γ : Type} {entry : γ → String × CacheEntry} {items : List γ}
    : Fits env primary.remoteFolderId
        (items.forM (fun item =>
          ask (.insert (entry item).1 (entry item).2.driveId (entry item).2.parentId)))
        (w, kinds)
        (fun result last =>
          result = .ok ()
          ∧ last = ({ w with pathCache := w.pathCache.insertAll entry items }, kinds)) := by
  induction items generalizing w with
  | nil => exact ⟨rfl, rfl⟩
  | cons item rest ih =>
      refine fits_local (by rintro _ ⟨⟩) ?_
      rintro _ _ rfl
      exact ih

/-- Phase 0 leaves the cache with the listing entered. -/
theorem fillCache_fits {index : RemoteIndex}
    : Fits env primary.remoteFolderId (fillCache index) (w, kinds)
        (fun result last =>
          result = .ok ()
          ∧ last = ({ w with pathCache := w.pathCache.enterListing index }, kinds)) := by
  refine (@fits_insertAll env primary w kinds _ RemoteDir.entry index.dirs).bind ?_ ?_
  · rintro _ _ ⟨-, rfl⟩
    exact @fits_insertAll env primary _ kinds _ RemoteFile.entry index.files
  · rintro _ _ ⟨⟨⟩, -⟩

/-- The listing tells which items are folders and which are files. -/
theorem listRemote_fits {listing : Except Error RemoteIndex} {md5 : List UInt8 → String}
    : Fits (.unruly md5 listing) primary.remoteFolderId (listRemote primary) (w, kinds)
        (fun result last =>
          result = .ok (listed listing) ∧ last.1.disk = w.disk ∧ last.1.pathCache = w.pathCache
          ∧ last.2 = kinds.list (listed listing)) := by
  refine fits_local (by rintro _ ⟨⟩) ?_
  rintro _ _ rfl
  refine guarded_noted.mpr ⟨by rintro _ ⟨⟩; trivial, ?_⟩
  rintro answer after ⟨remote, rfl, rfl⟩
  cases answer with
  | ok index => exact ⟨rfl, rfl, rfl, rfl⟩
  | error error => exact ⟨rfl, rfl, rfl, by simp [Kinds.learn, Kinds.list, listed]⟩

/-- What only looks, or writes rows and sends tasks, makes no provider calls. -/
theorem Op.Looks.aside {op : Op} (looks : op.Looks) : op.Local ∧ op.writes ≠ some .pathCache := by
  cases looks <;> exact ⟨by rintro _ ⟨⟩, by simp [Op.writes]⟩

/-- A scan makes folders in folders only, where no file's item stands for a directory above. -/
theorem scan_fits {listing : Except Error RemoteIndex} {md5 : List UInt8 → String}
    (configured : cfg.getPrimaryPair = some primary) (known : w.pathCache.Known kinds)
    (above
      : FoldersAbove primary ignore w.disk (w.pathCache.enterListing (listed listing))
          (kinds.list (listed listing)))
    : Fits (.unruly md5 listing) primary.remoteFolderId (scan ⟨cfg, false⟩ ignore) (w, kinds)
        (fun _ last => last.1.pathCache.Known last.2) := by
  have filled := known.enterListing (listed listing)
  have knownMore := known.mono (kinds.within_list (listed listing))
  simp only [scan, configured, orError]
  change Fits _ _ (listRemote primary >>= _) _ _
  refine listRemote_fits.bind ?_ ?_
  rotate_left
  · rintro _ _ ⟨⟨⟩, -⟩
  rintro index ⟨after, told⟩ ⟨⟨⟩, sameDisk, same, rfl⟩
  refine fillCache_fits.bind ?_ ?_
  rotate_left
  · rintro _ _ ⟨⟨⟩, -⟩
  rintro _ _ ⟨-, rfl⟩
  have aside : Uses (fun op : Op => op.Local ∧ op.writes ≠ some .pathCache)
      (takeInventory primary ignore) :=
    uses_takeInventory.mono (fun _ => Op.Looks.aside)
  refine (fits_always
    (takeInventory_finds.and (always_sameFolders (aside.mono (fun _ => And.right))))
    (aside.mono (fun _ => And.left))).bind ?_ ?_
  · rintro inventory ⟨taken, _⟩ ⟨⟨⟨-, here, unchanged⟩, found, -⟩, rfl⟩
    have cache : taken.pathCache = w.pathCache.enterListing (listed listing) :=
      unchanged.trans (congrArg (PathCache.enterListing · _) same)
    have start
        : Filling w.disk (w.pathCache.enterListing (listed listing)) (kinds.list (listed listing))
            (taken, kinds.list (listed listing)) :=
      ⟨here.trans sameDisk, .refl _, fun _ _ found => cache ▸ found,
        fun _ _ found => .inl (cache ▸ found)⟩
    rw [(found _ rfl).2, show ({ after with pathCache := _ } : World).disk = w.disk from sameDisk]
    have folders
        : Fits (.unruly md5 listing) primary.remoteFolderId
            (createFolders ⟨cfg, false⟩ primary (walkedDirs w.disk primary.localPath ignore))
            (taken, kinds.list (listed listing))
            (fun _ last =>
              Filling w.disk (w.pathCache.enterListing (listed listing))
                (kinds.list (listed listing)) last) := by
      refine guarded_forM _ ?_ start
      rintro ⟨dir, place⟩ member ⟨middle, learnt⟩ filling
      have inWalk : dir ∈ walkedDirs w.disk primary.localPath ignore := by
        rw [(List.mem_zipIdx' member).2]
        exact List.getElem_mem _
      exact ensureFolder_fits filled above inWalk filling
    refine folders.bind (fun _ made filling => ?_) (fun _ _ filling => filling.known filled)
    refine (fits_aside (uses_reconcile.mono ?_)).mono ?_
    · rintro op (looks | _ | _)
      · exact looks.aside
      · exact ⟨by rintro _ ⟨⟩, by simp [Op.writes]⟩
      · exact ⟨by rintro _ ⟨⟩, by simp [Op.writes]⟩
    · rintro _ last ⟨-, unchanged, same⟩
      rw [unchanged, same]
      exact filling.known filled
  · rintro error ⟨taken, _⟩ ⟨⟨⟨-, here, unchanged⟩, -, -⟩, rfl⟩
    rw [unchanged]
    exact same ▸ filled

end Scan

-----------------------------------------------------------------------------------------
-- Tasks
-----------------------------------------------------------------------------------------

/-- At the root, or where the cache has no file's item. -/
def ParentAt (cache : PathCache) (kinds : Kinds) (key : String) : Prop :=
  key = "" ∨ cache.FolderAt kinds key

/-- A file that is to be uploaded has no file's item for its folder, and no folder for its own. -/
def UploadApart (md5 : List UInt8 → String) (primary : SyncPair) (ignore : IgnoreMatcher)
    (w : World) (kinds : Kinds) (path : Path)
    : Prop :=
  ∀ data key,
    UploadDue md5 primary ignore w path data key
    → ParentAt w.pathCache kinds (parentRelStr primary.localPath path)
      ∧ w.pathCache.FileAt kinds key

/-- The task finds no item of one kind where it takes it for the other. -/
def Task.Apart (md5 : List UInt8 → String) (primary : SyncPair) (ignore : IgnoreMatcher)
    (w : World) (kinds : Kinds)
    : Task → Prop
  | .syncFile path => UploadApart md5 primary ignore w kinds path
  | .delete _ => True
  | .rename source target =>
      (∀ entry newName newParentId,
        RenameDue primary ignore w source target entry newName newParentId
        → ParentAt w.pathCache kinds (parentRelStr primary.localPath target))
      ∧ ((∀ entry, ¬ SourceKnown primary w source entry)
        → UploadApart md5 primary ignore w kinds target)

section Tasks

variable {env : Environment} {cfg : AppConfig} {primary : SyncPair} {ignore : IgnoreMatcher}
  {w : World} {kinds : Kinds} {path : Path}

/-- The identifier at a key is that of a folder. -/
theorem parent_of_folderId {key : String} {id : DriveId} (known : w.pathCache.Known kinds)
    (apart : ParentAt w.pathCache kinds key) (folder : w.folderId? primary key = some id)
    : kinds.Parent primary.remoteFolderId id := by
  by_cases top : key = ""
  · left
    simpa [World.folderId?, top] using folder.symm
  · right
    simp only [World.folderId?, if_neg top, Option.map_eq_some_iff] at folder
    obtain ⟨entry, found, rfl⟩ := folder
    exact known.folder found (apart.resolve_left top)

/-- What the upload loop leaves, whatever the outcome. -/
def Uploaded (w : World) (kinds : Kinds) (result : Except Error UploadResult)
    (last : World × Kinds)
    : Prop :=
  last.1.pathCache = w.pathCache ∧ kinds.Within last.2
  ∧ ∀ stored, result = .ok stored → stored.driveId ∈ last.2.files

theorem Uploaded.of_within {v : World} {kinds' : Kinds} {result : Except Error UploadResult}
    {last : World × Kinds} (uploaded : Uploaded v kinds' result last)
    (same : v.pathCache = w.pathCache) (grown : kinds.Within kinds')
    : Uploaded w kinds result last :=
  ⟨uploaded.1.trans same, grown.trans uploaded.2.1, uploaded.2.2⟩

theorem Uploaded.failed {v : World} {kinds' : Kinds} {error : Error}
    (same : v.pathCache = w.pathCache) (grown : kinds.Within kinds')
    : Uploaded w kinds (.error error) (v, kinds') :=
  ⟨same, grown, by rintro _ ⟨⟩⟩

theorem interrupts_pathCache {after : World} (may : env.interrupts w after)
    : after.pathCache = w.pathCache := by
  rcases may with rfl | ⟨-, rfl⟩ <;> rfl

/-- One turn of the upload loop, given the next. -/
theorem uploadAttempt_fits {retry : RetryConfig} {root parentId : DriveId} {fileName : String}
    {existing : Option DriveId} {again : Option (Option DriveId → Eff UploadResult)}
    (parent : kinds.Parent root parentId) (file : ∀ id, existing = some id → id ∈ kinds.files)
    (onward
      : ∀ next,
          again = some next
          → ∀ id v kinds',
              v.pathCache = w.pathCache → kinds.Within kinds'
              → (∀ other, id = some other → other ∈ kinds'.files)
              → Fits env root (next id) (v, kinds') (Uploaded w kinds))
    : Fits env root (uploadAttempt retry path parentId fileName existing again) (w, kinds)
        (Uploaded w kinds) := by
  have pause {next : Option DriveId → Eff UploadResult} {id : Option DriveId} {v : World}
      {kinds' : Kinds} (more : again = some next) (same : v.pathCache = w.pathCache)
      (grown : kinds.Within kinds') (file : ∀ other, id = some other → other ∈ kinds'.files)
      : Fits env root (uploadAttempt.pauseThen retry (next id)) (v, kinds') (Uploaded w kinds) := by
    refine fits_local (by rintro _ ⟨⟩) (fun interrupted after served => ?_)
    have same := (interrupts_pathCache served.1).trans same
    split
    · exact .failed same grown
    · exact onward next more id after kinds' same grown file
  unfold uploadAttempt
  refine fits_local (by rintro _ ⟨⟩) (fun cancelled checked served => ?_)
  have same := interrupts_pathCache served.1
  split
  · exact .failed same (.refl _)
  refine fits_call ⟨parent, file⟩ (fun answer remote => ?_)
  cases answer with
  | error error =>
      cases again with
      | none => exact .failed same (.refl _)
      | some next => exact pause rfl same (.refl _) file
  | ok stored =>
      have grown :=
        Kinds.within_learn (.provider (.upload path parentId fileName existing)) (.ok stored) kinds
      have told
          : stored.driveId
            ∈ (Kinds.learn (.provider (.upload path parentId fileName existing)) (.ok stored)
                kinds).files := by
        simp [Kinds.learn]
      have verifies
          : Uses (fun op : Op => op.Local ∧ op.writes ≠ some .pathCache)
              (verifyUpload path stored) := by
        refine Uses.bind (uses_ask ⟨by rintro _ ⟨⟩, by simp [Op.writes]⟩) (fun digest => ?_)
        cases digest with
        | error error => exact uses_pure
        | ok digest => exact .ite (fun _ => uses_pure) (fun _ => uses_pure)
      refine (fits_aside verifies).bind ?_ ?_
      · rintro verdict ⟨v, _⟩ ⟨-, unchanged, rfl⟩
        have same := unchanged.trans same
        split
        · refine ⟨same, grown, ?_⟩
          rintro _ ⟨⟩
          exact told
        · cases again with
          | none => exact .failed same grown
          | some next => exact pause rfl same grown (by rintro _ ⟨⟩; exact told)
      · rintro error ⟨v, _⟩ ⟨-, unchanged, rfl⟩
        exact .failed (unchanged.trans same) grown

/-- The upload loop, by induction on the attempts left. -/
theorem uploadLoop_fits {retry : RetryConfig} {root parentId : DriveId} {fileName : String}
    {existing : Option DriveId} {left : Nat} (parent : kinds.Parent root parentId)
    (file : ∀ id, existing = some id → id ∈ kinds.files)
    : Fits env root (uploadLoop retry path parentId fileName existing left) (w, kinds)
        (Uploaded w kinds) := by
  induction left generalizing existing w kinds with
  | zero => exact uploadAttempt_fits parent file (by rintro _ ⟨⟩)
  | succ left ih =>
      refine uploadAttempt_fits parent file ?_
      rintro _ ⟨⟩ id v kinds' same grown file
      refine (ih (parent.mono grown) file).mono ?_
      exact fun _ _ uploaded => uploaded.of_within same grown

/-- What is uploaded enters the cache as a file. -/
theorem uploading_fits {ctx : EngineContext} {key hash fileName : String} {time : Int}
    {root parentId : DriveId} {existing : Option DriveId} (known : w.pathCache.Known kinds)
    (parent : kinds.Parent root parentId) (file : ∀ id, existing = some id → id ∈ kinds.files)
    : Fits env root (uploading ctx path key hash time parentId fileName existing) (w, kinds)
        (fun _ last => last.1.pathCache.Known last.2) := by
  refine (uploadLoop_fits parent file).bind ?_ ?_
  · rintro stored ⟨v, learnt⟩ ⟨same, grown, told⟩
    refine fits_local (by rintro _ ⟨⟩) ?_
    rintro _ _ rfl
    have known : (v.pathCache.insert key stored.driveId parentId).Known learnt :=
      (same ▸ known.mono grown).insert (.inr (told _ rfl))
    refine fits_local (by rintro _ ⟨⟩) ?_
    rintro (error | _) after (⟨-, rfl⟩ | ⟨-, -, rfl⟩) <;> exact known
  · rintro error ⟨v, learnt⟩ ⟨same, grown, -⟩
    exact same ▸ known.mono grown

/-- `sync_file` uploads files into folders, where the kinds are kept apart. -/
theorem syncFile_fits (configured : cfg.getPrimaryPair = some primary)
    (known : w.pathCache.Known kinds) (apart : UploadApart env.md5 primary ignore w kinds path)
    : Fits env primary.remoteFolderId (syncFile ⟨cfg, false⟩ ignore path) (w, kinds)
        (fun _ last => last.1.pathCache.Known last.2) := by
  have comes : Comes env _ (syncFile ⟨cfg, false⟩ ignore path) w :=
    comes_syncFile_orEnded configured
  refine comes.guarded_noted (fun _ => Op.Local.silent) (fun _ _ => Op.Local.fitting) ?_
  rintro program state ⟨same, stage⟩
  have here : state.pathCache.Known kinds := same ▸ known
  rcases stage with stage | ⟨⟨result, rfl⟩, -⟩
  · cases stage with
    | finished result => exact here
    | uploads due named folder =>
        obtain ⟨parent, file⟩ := apart _ _ due
        refine uploading_fits here (parent_of_folderId known parent folder) ?_
        intro id existing
        obtain ⟨entry, found, rfl⟩ := Option.map_eq_some_iff.mp existing
        exact known.file found file
  · exact here

/-- The rest of a renaming into a folder. -/
theorem movingItem_fits {source target : Path} {id newParentId : DriveId} {newName : String}
    (known : w.pathCache.Known kinds) (parent : kinds.Parent primary.remoteFolderId newParentId)
    (told : id ∈ kinds.folders ∨ id ∈ kinds.files)
    : Fits env primary.remoteFolderId
        (movingItem ⟨cfg, false⟩ primary source target id newParentId newName) (w, kinds)
        (fun _ last => last.1.pathCache.Known last.2) := by
  let untouched (here : World × Kinds) : Prop := here.1.pathCache = w.pathCache ∧ here.2 = kinds
  have moved
      : Fits env primary.remoteFolderId
          (retry cfg (ask (.provider (.rename id newName newParentId)))) (w, kinds)
          (fun _ last => untouched last) := by
    refine @fits_retry env _ cfg Unit _ untouched _ ?_ (fun _ _ same => same) ?_ _ ⟨rfl, rfl⟩
    · rintro v _ after ⟨same, rfl⟩ may
      exact ⟨(interrupts_pathCache may).trans same, rfl⟩
    · rintro ⟨v, _⟩ ⟨same, rfl⟩
      refine guarded_noted.mpr ⟨by rintro _ ⟨⟩; exact parent, ?_⟩
      rintro answer after ⟨remote, -, rfl⟩
      cases answer <;> exact ⟨same, rfl⟩
  refine moved.bind ?_ ?_
  · rintro _ ⟨v, learnt⟩ ⟨same, rfl⟩
    have here : v.pathCache.Known learnt := same ▸ known
    refine fits_local (by rintro _ ⟨⟩) ?_
    rintro _ _ rfl
    refine fits_local (by rintro _ ⟨⟩) ?_
    rintro _ _ rfl
    have known
        : ((v.pathCache.removeCascades (keyOf primary source)).insert (keyOf primary target) id
            newParentId).Known learnt :=
      here.removeCascades.insert told
    refine fits_local (by rintro _ ⟨⟩) ?_
    intro answer after served
    have unchanged := (env.sem_keeps served).pathCache (by simp [Op.writes])
    have known : after.pathCache.Known learnt := by rwa [unchanged]
    cases answer <;> exact known
  · rintro error ⟨v, _⟩ ⟨same, rfl⟩
    exact same ▸ known

/-- `rename` moves items into folders, where the kinds are kept apart. -/
theorem rename_fits {source target : Path} (configured : cfg.getPrimaryPair = some primary)
    (known : w.pathCache.Known kinds)
    (apart : (Task.rename source target).Apart env.md5 primary ignore w kinds)
    : Fits env primary.remoteFolderId (rename ⟨cfg, false⟩ ignore source target) (w, kinds)
        (fun _ last => last.1.pathCache.Known last.2) := by
  have comes : Comes env _ (rename ⟨cfg, false⟩ ignore source target) w :=
    comes_rename_orEnded configured
  refine comes.guarded_noted (fun _ => Op.Local.silent) (fun _ _ => Op.Local.fitting) ?_
  rintro program state ⟨same, stage⟩
  have here : state.pathCache.Known kinds := same ▸ known
  rcases stage with stage | ⟨⟨result, rfl⟩, -⟩
  · cases stage with
    | finished result => exact here
    | renames due =>
        refine movingItem_fits known ?_ (known _ _ due.known.cached)
        exact parent_of_folderId known (apart.1 _ _ _ due) due.folder
    | synchronises seen unknown => exact syncFile_fits configured known (apart.2 unknown)
  · exact here

/-- A deletion tells nothing, and only drops cache entries. -/
structure Op.Sheds (op : Op) : Prop where
  silent : Program.Silent Kinds.learn op
  fitting : ∀ root here, Kinds.Fitting root op here
  drops : op.writes ≠ some .pathCache ∨ ∃ key, op = .removeCascades key

theorem uses_delete_sheds : Uses Op.Sheds (delete ⟨cfg, false⟩ ignore path) := by
  have sheds {op : Op} (here : op.Local)
      (drops : op.writes ≠ some .pathCache ∨ ∃ key, op = .removeCascades key)
      : op.Sheds := ⟨here.silent, fun _ _ => here.fitting, drops⟩
  refine uses_delete_of (fun op observes => ?_) (fun _ key op _ _ removes => ?_)
  · cases observes <;> exact sheds (by rintro _ ⟨⟩) (.inl (by simp [Op.writes]))
  · cases removes with
    | delete id =>
        exact ⟨fun _ _ => rfl, by rintro _ _ _ ⟨⟩; trivial, .inl (by simp [Op.writes])⟩
    | removeCascades => exact sheds (by rintro _ ⟨⟩) (.inr ⟨_, rfl⟩)
    | deleteRow => exact sheds (by rintro _ ⟨⟩) (.inl (by simp [Op.writes]))

theorem delete_fits (known : w.pathCache.Known kinds)
    : Fits env primary.remoteFolderId (delete ⟨cfg, false⟩ ignore path) (w, kinds)
        (fun _ last => last.1.pathCache.Known last.2) := by
  have always
      : Always env.sem (fun state => state.pathCache.Known kinds)
          (delete ⟨cfg, false⟩ ignore path) w (fun _ _ => True) := by
    refine uses_delete_sheds.always ?_ known
    rintro op state answer after sheds known served
    rcases sheds.drops with spares | ⟨key, rfl⟩
    · rwa [(env.sem_keeps served).pathCache spares]
    · obtain rfl : after = _ := served
      exact known.removeCascades
  refine (((always.mono (fun _ _ known _ => known)).guarded uses_delete_sheds
    (fun _ _ _ sheds => sheds)).noted (uses_delete_sheds.mono (fun _ => Op.Sheds.silent))
    (fun op state sheds => sheds.fitting _ _)).mono ?_
  rintro _ last ⟨known, same⟩
  rwa [same]

end Tasks

-----------------------------------------------------------------------------------------
-- Runs of scans and tasks
-----------------------------------------------------------------------------------------

/-- A scan with what its listing answers, or one task. -/
inductive Turn
  | scan (listing : Except Error RemoteIndex)
  | task (order : Task)

namespace Turn

def program (ctx : EngineContext) (ignore : IgnoreMatcher) : Turn → Eff Unit
  | .scan _ => SyncGDrive.scan ctx ignore
  | .task order => handle ctx ignore order

/-- The provider may answer anything else, and anything may go wrong. -/
def environment (md5 : List UInt8 → String) : Turn → Environment
  | .scan listing => .unruly md5 listing
  | .task _ => .lawless md5

/-- Every call of every execution has a folder for its parent, and overwrites a file at most. -/
def FitsKinds (md5 : List UInt8 → String) (ctx : EngineContext) (primary : SyncPair)
    (ignore : IgnoreMatcher) (turn : Turn) (here : World × Kinds)
    : Prop :=
  ∀ call next last,
    Reaches (noted (turn.environment md5).sem Kinds.learn) (turn.program ctx ignore) here
      (.call (.provider call) next) last
    → last.2.Fit primary.remoteFolderId call

/-- The turn finds no item of one kind where it takes it for the other. -/
def Apart (md5 : List UInt8 → String) (primary : SyncPair) (ignore : IgnoreMatcher)
    (here : World × Kinds)
    : Turn → Prop
  | .scan listing =>
      FoldersAbove primary ignore here.1.disk (here.1.pathCache.enterListing (listed listing))
        (here.2.list (listed listing))
  | .task order => order.Apart md5 primary ignore here.1 here.2

end Turn

/-- Scans and tasks one after another, with any change of the disk in between: the turns so far,
each with the state in which it began.
-/
inductive Turns (md5 : List UInt8 → String) (ctx : EngineContext) (ignore : IgnoreMatcher)
    (start : World)
    : List (Turn × World × Kinds) → World × Kinds → Prop
  | start : Turns md5 ctx ignore start [] (start, {})
  | outside {begun : List (Turn × World × Kinds)} {w : World} {kinds : Kinds}
    (run : Turns md5 ctx ignore start begun (w, kinds)) (disk : Disk)
    : Turns md5 ctx ignore start begun ({ w with disk }, kinds)
  | turn {begun : List (Turn × World × Kinds)} {here last : World × Kinds} {turn : Turn}
    {result : Except Error Unit} (run : Turns md5 ctx ignore start begun here)
    (executes
      : Reaches (noted (turn.environment md5).sem Kinds.learn) (turn.program ctx ignore) here
          (.done result) last)
    : Turns md5 ctx ignore start (begun ++ [(turn, here)]) last

section Turns

variable {md5 : List UInt8 → String} {cfg : AppConfig} {primary : SyncPair}
  {ignore : IgnoreMatcher} {start : World} {begun : List (Turn × World × Kinds)}
  {here : World × Kinds}

/-- One turn. -/
theorem Turn.fits (configured : cfg.getPrimaryPair = some primary) {turn : Turn} {w : World}
    {kinds : Kinds} (known : w.pathCache.Known kinds)
    (apart : turn.Apart md5 primary ignore (w, kinds))
    : Fits (turn.environment md5) primary.remoteFolderId (turn.program ⟨cfg, false⟩ ignore)
        (w, kinds) (fun _ last => last.1.pathCache.Known last.2) := by
  cases turn with
  | scan listing => exact scan_fits configured known apart
  | task order =>
      cases order with
      | syncFile path => exact syncFile_fits configured known apart
      | delete path => exact delete_fits known
      | rename source target => exact rename_fits configured known apart

/-- In a run from an empty cache whose turns all keep the kinds apart, every cached identifier has
been listed or created.
-/
theorem Turns.known (configured : cfg.getPrimaryPair = some primary)
    (empty : start.pathCache = {}) (run : Turns md5 ⟨cfg, false⟩ ignore start begun here)
    (apart : ∀ item ∈ begun, item.1.Apart md5 primary ignore item.2)
    : here.1.pathCache.Known here.2 := by
  induction run with
  | start =>
      rw [empty]
      rintro key entry ⟨⟩
  | outside run disk ih => exact ih apart
  | @turn begun here last turn result run executes ih =>
      have known := ih (fun item member => apart item (by simp [member]))
      exact (Turn.fits configured known (apart (turn, here) (by simp))).ends executes

/-- In every run from an empty cache whose turns all keep the kinds apart, every parent is the
configured folder or one that has been listed or created as a folder, and every item that an upload
overwrites has been listed or created as a file.
-/
theorem kinds_fit (md5 : List UInt8 → String) {cfg : AppConfig} {primary : SyncPair}
    {ignore : IgnoreMatcher} {start : World} {begun : List (Turn × World × Kinds)}
    {here : World × Kinds} (configured : cfg.getPrimaryPair = some primary)
    (empty : start.pathCache = {}) (run : Turns md5 ⟨cfg, false⟩ ignore start begun here)
    (apart : ∀ item ∈ begun, item.1.Apart md5 primary ignore item.2)
    : ∀ item ∈ begun, item.1.FitsKinds md5 ⟨cfg, false⟩ primary ignore item.2 := by
  induction run with
  | start => simp
  | outside run disk ih => exact ih apart
  | @turn begun here last turn result run executes ih =>
      have before (item) (member : item ∈ begun) := apart item (by simp [member])
      intro item member
      rcases List.mem_append.mp member with earlier | latest
      · exact ih before item earlier
      · rw [List.mem_singleton.mp latest]
        intro call next last reached
        have fits := Turn.fits configured (run.known configured empty before)
          (apart (turn, here) (by simp))
        exact fits.reaches reached call rfl

end Turns

-----------------------------------------------------------------------------------------
-- A file replaced by a directory
-----------------------------------------------------------------------------------------

/-- `/backup` with a file `a`, not known yet. -/
def fileWorld : World where
  disk := .backup (.single (.utf8 "a") OsString.proper_a) (fun _ => .file ⟨[1], 0, true⟩)

/-- `/backup` with a directory `a`, and a file `x` in it. -/
def directoryDisk : Disk :=
  .backup (.single (.utf8 "a") OsString.proper_a)
    (fun _ => .dir (.single (.utf8 "x") (by decide)) (fun _ => .file ⟨[1], 0, true⟩))

def uploadedPath : Path := [.utf8 "backup", .utf8 "a"]
def innerPath : Path := [.utf8 "backup", .utf8 "a", .utf8 "x"]

/-- The file has been uploaded, and is item `1`. -/
def uploadedWorld : World :=
  { fileWorld with
    pathCache := fileWorld.pathCache.insert "a" "1" "root"
    db := fileWorld.db.upsert ⟨"a", "", 0⟩
    tracker := { currentDir := "/backup", currentName := "a", currentFileSize := 1 } }

theorem file_uploaded
    : Reaches (noted (Environment.lawless (fun _ => "")).sem Kinds.learn)
        (handle ⟨backupConfig, false⟩ .nothing (.syncFile uploadedPath)) (fileWorld, {})
        (.done (.ok ())) (uploadedWorld, ⟨[], ["1"]⟩) := by
  have metadata
      : (Environment.lawless (fun _ => "")).sem (.metadata uploadedPath) fileWorld
          (.ok ⟨false, true, 1, 0⟩) fileWorld := by
    refine ⟨rfl, ?_⟩
    rw [show fileWorld.disk.metadata uploadedPath = some ⟨false, true, 1, 0⟩ by decide +kernel]
  have digest (w : World) (here : w.disk = fileWorld.disk)
      : (Environment.lawless (fun _ => "")).sem (.md5 uploadedPath) w (.ok "") w := by
    refine ⟨rfl, ?_⟩
    rw [here, show fileWorld.disk.read uploadedPath = some [1] by decide +kernel]
    rfl
  refine reaches_noted_call _ _ metadata ?_
  refine reaches_noted_call _ _ metadata ?_
  refine reaches_noted_call _ _ metadata ?_
  refine reaches_noted_call (.ok none) fileWorld (.inl ⟨rfl, rfl⟩) ?_
  refine reaches_noted_call false fileWorld ⟨.inl rfl, rfl⟩ ?_
  refine reaches_noted_call _ _ (digest _ rfl) ?_
  refine reaches_noted_call (.ok none) fileWorld (.inl ⟨rfl, rfl⟩) ?_
  refine reaches_noted_call none fileWorld ⟨rfl, rfl⟩ ?_
  refine reaches_noted_call () _ rfl ?_
  refine reaches_noted_call false _ ⟨.inl rfl, rfl⟩ ?_
  refine reaches_noted_call (.ok ⟨"1", "", 1⟩) _ ⟨{}, trivial, rfl⟩ ?_
  refine reaches_noted_call _ _ (digest _ rfl) ?_
  refine reaches_noted_call () _ rfl ?_
  exact reaches_noted_call (.ok ()) uploadedWorld (.inl ⟨rfl, rfl⟩) .refl

/-- Then a directory takes the file's place, and the file in it is uploaded below the old item. -/
theorem inner_misplaced
    : MayRequest (noted (Environment.lawless (fun _ => "")).sem Kinds.learn)
        (fun op here => ∃ call, op = .provider call ∧ ¬ here.2.Fit "root" call)
        (handle ⟨backupConfig, false⟩ .nothing (.syncFile innerPath))
        ({ uploadedWorld with disk := directoryDisk }, ⟨[], ["1"]⟩) := by
  let world : World := { uploadedWorld with disk := directoryDisk }
  have metadata
      : (Environment.lawless (fun _ => "")).sem (.metadata innerPath) world
          (.ok ⟨false, true, 1, 0⟩) world := by
    refine ⟨rfl, ?_⟩
    rw [show world.disk.metadata innerPath = some ⟨false, true, 1, 0⟩ by decide +kernel]
  have digest
      : (Environment.lawless (fun _ => "")).sem (.md5 innerPath) world (.ok "") world := by
    refine ⟨rfl, ?_⟩
    rw [show world.disk.read innerPath = some [1] by decide +kernel]
    rfl
  refine mayRequest_noted_call _ _ metadata ?_
  refine mayRequest_noted_call _ _ metadata ?_
  refine mayRequest_noted_call _ _ metadata ?_
  refine mayRequest_noted_call (.ok none) world (.inl ⟨rfl, rfl⟩) ?_
  refine mayRequest_noted_call false world ⟨.inl rfl, rfl⟩ ?_
  refine mayRequest_noted_call _ _ digest ?_
  refine mayRequest_noted_call (.ok none) world (.inl ⟨rfl, rfl⟩) ?_
  refine mayRequest_noted_call (some ⟨"1", "root"⟩) world ⟨rfl, rfl⟩ ?_
  refine mayRequest_noted_call none world ⟨rfl, rfl⟩ ?_
  refine mayRequest_noted_call () _ rfl ?_
  refine mayRequest_noted_call false _ ⟨.inl rfl, rfl⟩ (.inl ⟨_, rfl, ?_⟩)
  rintro ⟨same | ⟨⟨⟩⟩, -⟩
  exact absurd same (by decide)

/-- The file is uploaded, replaced, and what replaces it synchronised. -/
theorem replaced_run
    : ∃ here,
        Turns (fun _ => "") ⟨backupConfig, false⟩ .nothing fileWorld
          [(.task (.syncFile uploadedPath), fileWorld, {}),
            (.task (.syncFile innerPath), { uploadedWorld with disk := directoryDisk },
              ⟨[], ["1"]⟩)]
          here := by
  have uploaded
      : Turns (fun _ => "") ⟨backupConfig, false⟩ .nothing fileWorld
          [(.task (.syncFile uploadedPath), fileWorld, {})] (uploadedWorld, ⟨[], ["1"]⟩) :=
    .turn .start file_uploaded
  obtain ⟨result, last, path⟩ :=
    exists_run (Environment.steady_total (fun _ => ""))
      (handle ⟨backupConfig, false⟩ .nothing (.syncFile innerPath))
      { uploadedWorld with disk := directoryDisk }
  obtain ⟨kinds, executes⟩
      : ∃ kinds,
          Reaches (noted (Environment.lawless (fun _ => "")).sem Kinds.learn)
            (handle ⟨backupConfig, false⟩ .nothing (.syncFile innerPath))
            ({ uploadedWorld with disk := directoryDisk }, ⟨[], ["1"]⟩) (.done result)
            (last, kinds) :=
    (path.mono steady_le_lawless).noted _
  exact ⟨(last, kinds), .turn (.outside uploaded directoryDisk) executes⟩

/-- So an upload names the item of a file as its parent. -/
theorem kinds_misfit
    : ¬ ∀ begun here,
        Turns (fun _ => "") ⟨backupConfig, false⟩ .nothing fileWorld begun here
        → ∀ item ∈ begun,
            item.1.FitsKinds (fun _ => "") ⟨backupConfig, false⟩ backupPair .nothing item.2 := by
  intro fits
  obtain ⟨here, run⟩ := replaced_run
  obtain ⟨op, next, last, reached, call, rfl, misfit⟩ := mayRequest_iff_reaches.mp inner_misplaced
  exact misfit (fits _ _ run _ (.tail _ (.head _)) call next last reached)

/-- The upload itself keeps the kinds apart. -/
theorem uploaded_fits
    : Turns (fun _ => "") ⟨backupConfig, false⟩ .nothing fileWorld
        [(.task (.syncFile uploadedPath), fileWorld, {})] (uploadedWorld, ⟨[], ["1"]⟩)
      ∧ ∀ item ∈ [(Turn.task (.syncFile uploadedPath), fileWorld, ({} : Kinds))],
          item.1.FitsKinds (fun _ => "") ⟨backupConfig, false⟩ backupPair .nothing item.2 := by
  have run
      : Turns (fun _ => "") ⟨backupConfig, false⟩ .nothing fileWorld
          [(.task (.syncFile uploadedPath), fileWorld, {})] (uploadedWorld, ⟨[], ["1"]⟩) :=
    .turn .start file_uploaded
  refine ⟨run, kinds_fit (fun _ => "") rfl rfl run ?_⟩
  intro item member
  rw [List.mem_singleton.mp member]
  refine fun data key due => ⟨.inl (by decide +kernel), ?_⟩
  rintro entry ⟨⟩

end SyncGDrive
