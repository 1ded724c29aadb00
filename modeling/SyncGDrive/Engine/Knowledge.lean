import SyncGDrive.Engine.Deletions
import SyncGDrive.Engine.Footprints
import SyncGDrive.Local.Lossy

/-! Which keys the cache knows once a scan has gone through its first phases: those it knew
before, those of the listing, and those of the directories walked.
-/

namespace SyncGDrive

open Program

-----------------------------------------------------------------------------------------
-- Keys of directories
-----------------------------------------------------------------------------------------

/-- A key grows by one name that a directory holds, be it UTF-8 or not. -/
theorem relKey_pushProper {rel : Path} (names : ProperNames rel) (name : OsString)
    : relKey (rel ++ [name]) = pushKey (relKey rel) name.toStringLossy := by
  have pushed := relKey_pushText names.lossy name.toStringLossy
  rw [relKey_lossy] at pushed
  rw [← pushed, ← relKey_lossy (rel ++ [name]), Path.lossy_append]
  rfl

/-- The names that the worker derives from the path of a file. -/
theorem names_of_stripped {root path above : Path} {name : OsString}
    (proper : ProperNames (above ++ [name]))
    (stripped : Path.stripPrefix root path = some (above ++ [name]))
    : path.fileName? = some name.toStringLossy ∧ parentRelStr root path = relKey above := by
  obtain ⟨parent, named⟩ := proper.clean.parent_of_stripPrefix stripped
  constructor
  · have plain := (proper name (by simp)).plainName
    refine named ?_
    intro dots
    rw [dots] at plain
    exact plain.2.2.1 rfl
  · rw [parentRelStr, parent]
    rfl

theorem names_of_proper {above : Path} {name : OsString} (root : Path)
    (proper : ProperNames (above ++ [name]))
    : Path.fileName? (root ++ (above ++ [name])) = some name.toStringLossy
      ∧ parentRelStr root (root ++ (above ++ [name])) = relKey above :=
  names_of_stripped proper (proper.clean.stripPrefix root)

section Walk

variable {disk : Disk} {root path : Path} {keep : Path → Bool → Bool} {listing : Listing}
  {child : OsString → Node}

/-- The directories on the way to one that the walk enters are walked too, by induction on how it
was entered.
-/
theorem Disk.Enters.walked (entered : disk.Enters root keep path listing child)
    : ∃ rel,
        path = root ++ rel ∧ ProperNames rel
        ∧ ∀ front back, rel = front ++ back → front ≠ []
          → ∃ listing child, disk.Yields root keep (root ++ front) (.dir listing child) := by
  induction entered with
  | root | link =>
      refine ⟨[], (List.append_nil root).symm, by simp [ProperNames], ?_⟩
      intro front back split nonempty
      exact absurd (List.append_eq_nil_iff.mp split.symm).1 nonempty
  | @child path listing child name listing' child' above yields found kept ih =>
      obtain ⟨rel, rfl, proper, walked⟩ := ih
      refine ⟨rel ++ [name], List.append_assoc .., ?_, ?_⟩
      · refine ProperNames.append.mpr ⟨proper, ?_⟩
        intro other member
        rw [List.mem_singleton.mp member]
        exact listing.proper name (Listing.mem_names yields)
      · intro front back split nonempty
        rcases List.eq_nil_or_concat back with rfl | ⟨rest, last, rfl⟩
        · rw [List.append_nil] at split
          rw [← split, ← List.append_assoc]
          have yielded := Disk.Yields.child above yields
              (by simpa [found, Node.fileType] using kept)
          rw [found] at yielded
          exact ⟨_, _, yielded⟩
        · rw [List.concat_eq_append, ← List.append_assoc] at split
          exact walked front rest (List.append_inj' split rfl).1 nonempty

variable {ignore : IgnoreMatcher}

/-- A walked directory has proper names, and so are walked the directories on the way to it. -/
theorem walkedDirs_above {rel : Path} (walked : root ++ rel ∈ walkedDirs disk root ignore)
    : ProperNames rel
      ∧ ∀ front back, rel = front ++ back → front ≠ []
        → root ++ front ∈ walkedDirs disk root ignore := by
  obtain ⟨⟨listing, child, yielded⟩, name, rest, inside⟩ := mem_walkedDirs.mp walked
  obtain ⟨rel', same, proper, above⟩
      : ∃ rel',
          root ++ rel = root ++ rel' ∧ ProperNames rel'
          ∧ ∀ front back, rel' = front ++ back → front ≠ []
            → ∃ listing child,
              disk.Yields root ignore.keeps (root ++ front) (.dir listing child) := by
    generalize path : root ++ rel = whole at yielded
    generalize node : Node.dir listing child = found at yielded
    cases yielded with
    | root =>
        rw [path] at inside
        simp at inside
    | child above yields kept =>
        have entered := Disk.Enters.child above yields node.symm
            (by simpa [← node, Node.fileType] using kept)
        exact entered.walked
  obtain rfl := List.append_cancel_left same
  refine ⟨proper, fun front back split nonempty => ?_⟩
  obtain ⟨listing, child, yielded⟩ := above front back split nonempty
  refine mem_walkedDirs.mpr ⟨⟨listing, child, yielded⟩, ?_⟩
  obtain ⟨first, others, rfl⟩ := List.exists_cons_of_ne_nil nonempty
  exact ⟨first, others, rfl⟩

end Walk

-----------------------------------------------------------------------------------------
-- Keys that enter the cache
-----------------------------------------------------------------------------------------

/-- The listed items; a listing that failed counts as empty. -/
def listed : Except Error RemoteIndex → RemoteIndex
  | .ok index => index
  | .error _ => ⟨[], []⟩

/-- The cache knew the key before, the listing has it, or it is that of a directory walked. -/
def KnownKey (w : World) (listing : Except Error RemoteIndex) (primary : SyncPair)
    (ignore : IgnoreMatcher) (key : String)
    : Prop :=
  (w.pathCache.lookup key).isSome
  ∨ (∃ file ∈ (listed listing).files, file.relativePath = key)
  ∨ (∃ dir ∈ (listed listing).dirs, dir.relativePath = key)
  ∨ ∃ rel, primary.localPath ++ rel ∈ walkedDirs w.disk primary.localPath ignore ∧ relKey rel = key

/-- Whatever the operation enters in the cache is allowed. -/
def Op.EntersOnly (allowed : String → Prop) (op : Op) : Prop :=
  ∀ key id parent, op = .insert key id parent → allowed key

/-- The cache knows no other keys. -/
def KnowsOnly (allowed : String → Prop) (state : World) : Prop :=
  ∀ key, (state.pathCache.lookup key).isSome → allowed key

section Entering

variable {env : Environment} {w : World} {ctx : EngineContext} {primary : SyncPair}
  {ignore : IgnoreMatcher} {allowed : String → Prop} {α : Type}

/-- A program that enters allowed keys leaves the cache with such keys. -/
theorem always_knowsOnly {program : Eff α} (uses : Uses (Op.EntersOnly allowed) program)
    (here : KnowsOnly allowed w)
    : Always env.sem (KnowsOnly allowed) program w (fun _ _ => True) := by
  refine uses.always ?_ here
  intro op state answer next enters knows served
  by_cases writes : op.writes = some .pathCache
  · cases op <;> simp [Op.writes] at writes
    · obtain rfl := served
      intro key known
      simp only [PathCache.lookup_insert] at known
      split at known
      · rename_i same
        subst same
        exact enters _ _ _ rfl
      · exact knows key known
    · obtain rfl := served
      intro key known
      simp only [PathCache.lookup_removeCascades] at known
      split at known
      · cases known
      · exact knows key known
  · intro key known
    rw [(env.sem_keeps served).pathCache writes] at known
    exact knows key known

/-- The listing phase returns the listing. -/
theorem listRemote_returns {listing : Except Error RemoteIndex}
    (answers
      : ∀ folder disk remote answer after,
          env.provider (.listRemote folder) disk remote answer after → answer = listing)
    : Always env.sem (fun _ => True) (listRemote primary) w
        (fun result _ => result = .ok (listed listing)) := by
  refine always_ask_bind.mpr ⟨trivial, ?_⟩
  intro _ reported _
  refine always_ask_bind.mpr ⟨trivial, ?_⟩
  rintro answer after ⟨remote, answered, -⟩
  rw [answers _ _ _ _ _ answered]
  cases listing <;> exact ⟨trivial, rfl⟩

theorem Op.Looks.entersOnly {op : Op} (looks : op.Looks) : op.EntersOnly allowed := by
  rintro key id parent rfl
  cases looks

theorem entersOnly_fillCache {index : RemoteIndex}
    (files : ∀ file ∈ index.files, allowed file.relativePath)
    (dirs : ∀ dir ∈ index.dirs, allowed dir.relativePath)
    : Uses (Op.EntersOnly allowed) (fillCache index) := by
  refine Uses.bind (uses_forM _ (fun dir member => uses_ask ?_))
    (fun _ => uses_forM _ (fun file member => uses_ask ?_))
  · rintro key id parent ⟨⟩
    exact dirs dir member
  · rintro key id parent ⟨⟩
    exact files file member

/-- One name further down, and on from the key reached. -/
theorem entersOnly_enterFolder {key : String} {id : DriveId} {name : OsString}
    {f : String × DriveId → Eff α} (here : allowed (pushKey key name.toStringLossy))
    (rest : ∀ id, Uses (Op.EntersOnly allowed) (f (pushKey key name.toStringLossy, id)))
    : Uses (Op.EntersOnly allowed) (enterFolder ctx (key, id) name >>= f) := by
  simp only [enterFolder, bind_assoc]
  refine Uses.bind (uses_ask (by rintro _ _ _ ⟨⟩)) (fun cached => ?_)
  cases cached with
  | some entry => exact rest entry.driveId
  | none =>
      simp only [bind_assoc]
      refine Uses.bind (.ite (fun _ => uses_pure) (fun _ => ?_)) (fun newId => ?_)
      · exact uses_retry (by rintro _ _ _ ⟨⟩) (fun _ => by rintro _ _ _ ⟨⟩)
          (uses_ask (by rintro _ _ _ ⟨⟩))
      · refine Uses.bind (uses_ask ?_) (fun _ => rest newId)
        rintro _ _ _ ⟨⟩
        exact here

/-- One name after the other, by induction on the names. -/
theorem entersOnly_enterFolders {front back : Path} {id : DriveId}
    (names : ProperNames (front ++ back))
    (below
      : ∀ middle rest,
          back = middle ++ rest → middle ≠ [] → allowed (relKey (front ++ middle)))
    : Uses (Op.EntersOnly allowed) (back.foldlM (enterFolder ctx) (relKey front, id)) := by
  induction back generalizing front id with
  | nil => exact uses_pure
  | cons name back ih =>
      have pushed := relKey_pushProper (ProperNames.append.mp names).1 name
      rw [List.foldlM_cons]
      refine entersOnly_enterFolder (pushed ▸ below [name] back rfl (by simp)) (fun id => ?_)
      rw [← pushed]
      refine ih (by simpa using names) (fun middle rest split _ => ?_)
      simpa using below (name :: middle) rest (by rw [split]; rfl) (by simp)

theorem entersOnly_createFolders {disk : Disk}
    (walked
      : ∀ rel,
          primary.localPath ++ rel ∈ walkedDirs disk primary.localPath ignore
          → allowed (relKey rel))
    : Uses (Op.EntersOnly allowed)
        (createFolders ctx primary (walkedDirs disk primary.localPath ignore)) := by
  refine uses_forM _ (fun dir member => ?_)
  have inWalk := List.mem_zipIdx' member
  refine uses_unlessShutdown (by rintro _ _ _ ⟨⟩) ?_
  split
  · exact uses_throw
  · rename_i rel stripped
    refine Uses.bind (uses_ask (by rintro _ _ _ ⟨⟩)) (fun _ => ?_)
    refine Uses.bind (uses_ask (by rintro _ _ _ ⟨⟩)) (fun cached => ?_)
    cases cached with
    | some entry => exact uses_pure
    | none =>
        have isWalked : dir.1 ∈ walkedDirs disk primary.localPath ignore := by
          rw [inWalk.2]
          exact List.getElem_mem _
        obtain ⟨-, first, others, inside⟩ := mem_walkedDirs.mp isWalked
        rw [inside] at isWalked stripped
        obtain ⟨names, above⟩ := walkedDirs_above isWalked
        rw [names.clean.stripPrefix] at stripped
        obtain rfl := Option.some.inj stripped
        refine Uses.map ?_
        rw [← relKey_nil]
        refine entersOnly_enterFolders names (fun front rest split nonempty => ?_)
        exact walked front (above front rest split nonempty)

/-- A scan enters no other keys. -/
theorem scan_knows_only {listing : Except Error RemoteIndex}
    (answers
      : ∀ folder disk remote answer after,
          env.provider (.listRemote folder) disk remote answer after → answer = listing)
    (configured : ctx.cfg.getPrimaryPair = some primary)
    : Always env.sem (KnowsOnly (KnownKey w listing primary ignore)) (scan ctx ignore) w
        (fun _ _ => True) := by
  have here : KnowsOnly (KnownKey w listing primary ignore) w := fun _ => .inl
  simp only [scan, configured, orError]
  change Always env.sem _ (listRemote primary >>= _) w _
  refine (((always_knowsOnly ?_ here).and (always_disk rfl _)).and
    (listRemote_returns answers)).seq (fun _ both => both.1.1) ?_ (fun _ _ _ _ => trivial)
  · exact uses_listRemote.mono (by rintro op (looks | rfl); exact looks.entersOnly; rintro _ _ _ ⟨⟩)
  rintro index listed' ⟨⟨here, disk⟩, -⟩ ⟨-, returned⟩
  cases returned
  refine ((always_knowsOnly ?_ here).and (always_disk disk _)).seq (fun _ both => both.1) ?_
    (fun _ _ _ _ => trivial)
  · exact entersOnly_fillCache (fun file member => .inr (.inl ⟨file, member, rfl⟩))
      (fun dir member => .inr (.inr (.inl ⟨dir, member, rfl⟩)))
  rintro _ filled ⟨here, disk⟩ -
  refine ((always_knowsOnly ?_ here).and takeInventory_finds).seq (fun _ both => both.1) ?_
    (fun _ _ _ _ => trivial)
  · exact uses_takeInventory.mono (fun _ => Op.Looks.entersOnly)
  rintro inventory walked ⟨here, -⟩ ⟨-, found⟩
  rw [disk] at found
  refine (always_knowsOnly (Uses.bind ?_ (fun _ => ?_)) here)
  · rw [(found _ rfl).2]
    exact entersOnly_createFolders (fun rel walked => .inr (.inr (.inr ⟨rel, walked, rfl⟩)))
  · refine uses_reconcile.mono ?_
    rintro op (looks | entry | task)
    · exact looks.entersOnly
    · rintro _ _ _ ⟨⟩
    · rintro _ _ _ ⟨⟩

end Entering

-----------------------------------------------------------------------------------------
-- Keys that the cache comes to know
-----------------------------------------------------------------------------------------

section Knowing

variable {env : Environment} {w : World} {ctx : EngineContext} {primary : SyncPair}
  {ignore : IgnoreMatcher} {α : Type}

/-- A scan forgets no key. -/
theorem always_stays_known {program : Eff α} (uses : Uses Op.OfScan program) {key : String}
    (here : (w.pathCache.lookup key).isSome)
    : Always env.sem (fun state => (state.pathCache.lookup key).isSome) program w
        (fun _ _ => True) := by
  refine uses.always ?_ here
  intro op state answer next scans known served
  by_cases writes : op.writes = some .pathCache
  · cases op <;> simp [Op.writes] at writes
    · obtain rfl := served
      simp only [PathCache.lookup_insert]
      split
      · rfl
      · exact known
    · rcases scans with looks | _
      cases looks
  · rw [(env.sem_keeps served).pathCache writes]
    exact known

/-- What every turn of a loop makes known stays known, by induction on the items. -/
theorem always_knows_each {γ : Type} {body : γ → Eff Unit} {key : γ → String} (items : List γ)
    (uses : ∀ item ∈ items, Uses Op.OfScan (body item))
    (step
      : ∀ item ∈ items, ∀ middle,
          Always env.sem (fun _ => True) (body item) middle
            (fun result last => result = .ok () → (last.pathCache.lookup (key item)).isSome))
    : Always env.sem (fun _ => True) (items.forM body) w
        (fun result last =>
          result = .ok () → ∀ item ∈ items, (last.pathCache.lookup (key item)).isSome) := by
  induction items generalizing w with
  | nil => exact ⟨trivial, by simp⟩
  | cons item rest ih =>
      refine (step item (by simp) w).bind ?_ (by rintro _ _ _ _ ⟨⟩)
      intro _ middle _ known
      have usesRest := uses_forM rest (fun other member => uses other (by simp [member]))
      refine ((ih (fun other member => uses other (by simp [member]))
        (fun other member => step other (by simp [member]))).and
        (always_stays_known usesRest (known rfl))).weaken (fun _ _ => trivial) |>.mono ?_
      rintro result last - ⟨⟨-, stays⟩, later, -⟩ ok other member
      rcases List.mem_cons.mp member with rfl | member
      · exact stays
      · exact later ok other member

/-- An entry makes its key known. -/
theorem insert_knows {key : String} {id parent : DriveId}
    : Always env.sem (fun _ => True) (ask (.insert key id parent)) w
        (fun result last => result = .ok () → (last.pathCache.lookup key).isSome) := by
  refine always_ask.mpr ⟨trivial, ?_⟩
  rintro _ _ rfl
  simp [PathCache.lookup_insert]

/-- One name further down, the key reached is known. -/
theorem enterFolder_knows {key : String} {id : DriveId} {name : OsString}
    : Always env.sem (fun _ => True) (enterFolder ctx (key, id) name) w
        (fun result last =>
          ∀ pair,
            result = .ok pair
            → pair.1 = pushKey key name.toStringLossy
              ∧ (last.pathCache.lookup pair.1).isSome) := by
  refine always_ask_bind.mpr ⟨trivial, ?_⟩
  rintro cached looked ⟨found, rfl⟩
  cases cached with
  | some entry =>
      refine ⟨trivial, ?_⟩
      rintro _ ⟨⟩
      exact ⟨rfl, by rw [← found]; rfl⟩
  | none =>
      refine (always_of_sem (fun _ _ _ _ _ _ => trivial) trivial).bind ?_
        (by rintro _ _ _ _ _ ⟨⟩)
      intro newId created _ _
      refine insert_knows.bind ?_ (by rintro _ _ _ _ _ ⟨⟩)
      intro _ entered _ known
      refine ⟨trivial, ?_⟩
      rintro _ ⟨⟩
      exact ⟨rfl, known rfl⟩

/-- One directory of phase 2: its key is known afterwards. -/
theorem ensureFolder_knows {total place : Nat} {rel : Path} (names : ProperNames rel)
    (nonempty : rel ≠ [])
    : Always env.sem (fun _ => True)
        (ensureFolder ctx primary total (primary.localPath ++ rel, place)) w
        (fun result last => result = .ok () → (last.pathCache.lookup (relKey rel)).isSome) := by
  refine always_ask_bind.mpr ⟨trivial, ?_⟩
  rintro cancelled checked -
  split
  · exact ⟨trivial, by rintro ⟨⟩⟩
  rw [names.clean.stripPrefix]
  refine always_ask_bind.mpr ⟨trivial, ?_⟩
  rintro _ reported -
  refine always_ask_bind.mpr ⟨trivial, ?_⟩
  rintro cached looked ⟨found, rfl⟩
  cases cached with
  | some entry => exact ⟨trivial, fun _ => by rw [← found]; rfl⟩
  | none =>
      -- The names passed, the key that they make, and that it is known once there is one.
      let loop (rest : Path) (pair : String × DriveId) (state : World) : Prop :=
        ∃ front,
          rel = front ++ rest ∧ pair.1 = relKey front
          ∧ (front ≠ [] → (state.pathCache.lookup pair.1).isSome)
      have walked
          : Always env.sem (fun _ => True)
              (rel.foldlM (enterFolder ctx) ("", primary.remoteFolderId)) looked
              (fun result last =>
                ∀ pair, result = .ok pair → (last.pathCache.lookup (relKey rel)).isSome) := by
        refine always_foldlM loop ?_ ?_ rel _
          ⟨[], rfl, relKey_nil.symm, fun empty => absurd rfl empty⟩
        · rintro pair last ⟨front, split, key, known⟩
          rw [List.append_nil] at split
          subst split
          refine ⟨trivial, ?_⟩
          rintro _ ⟨⟩
          exact key ▸ known nonempty
        · rintro name rest ⟨key, id⟩ middle ⟨front, split, rfl, -⟩
          refine enterFolder_knows.mono ?_
          rintro (error | pair) last - entered
          · rintro _ ⟨⟩
          · obtain ⟨key, known⟩ := entered pair rfl
            have proper := (ProperNames.append.mp (split ▸ names)).1
            refine ⟨front ++ [name], by simpa using split, ?_, fun _ => known⟩
            rw [relKey_pushProper proper, key]
      refine always_bind.mpr (walked.mono ?_)
      rintro (error | pair) last - known
      · rintro ⟨⟩
      · exact ⟨trivial, fun _ => known pair rfl⟩

/-- The keys of the listing are known once it is in the cache. -/
theorem fillCache_knows {index : RemoteIndex} {key : String}
    (listed
      : (∃ file ∈ index.files, file.relativePath = key)
        ∨ ∃ dir ∈ index.dirs, dir.relativePath = key)
    : Always env.sem (fun _ => True) (fillCache index) w
        (fun result last => result = .ok () → (last.pathCache.lookup key).isSome) := by
  refine (always_knows_each index.dirs (fun _ _ => uses_ask (.insert ..))
    (fun _ _ _ => insert_knows)).bind ?_ (by rintro _ _ _ _ ⟨⟩)
  intro _ middle _ dirsKnown
  rcases listed with ⟨file, member, rfl⟩ | ⟨dir, member, rfl⟩
  · refine (always_knows_each index.files (fun _ _ => uses_ask (.insert ..))
      (fun _ _ _ => insert_knows)).mono ?_
    exact fun _ _ _ filesKnown ok => filesKnown ok file member
  · refine ((always_stays_known ?_ (dirsKnown rfl dir member)).weaken (fun _ _ => trivial)).mono
      (fun _ _ _ known _ => known.1)
    exact uses_forM _ (fun _ _ => uses_ask (.insert ..))

/-- The keys of the directories are known once these have their folders. -/
theorem createFolders_knows {disk : Disk} {rel : Path}
    (walked : primary.localPath ++ rel ∈ walkedDirs disk primary.localPath ignore)
    : Always env.sem (fun _ => True)
        (createFolders ctx primary (walkedDirs disk primary.localPath ignore)) w
        (fun result last => result = .ok () → (last.pathCache.lookup (relKey rel)).isSome) := by
  let keyOf (dir : Path × Nat) : String :=
    relKey ((Path.stripPrefix primary.localPath dir.1).getD [])
  have each : Always env.sem (fun _ => True)
      (createFolders ctx primary (walkedDirs disk primary.localPath ignore)) w
      (fun result last =>
        result = .ok ()
        → ∀ dir ∈ (walkedDirs disk primary.localPath ignore).zipIdx,
            (last.pathCache.lookup (keyOf dir)).isSome) := by
    refine always_knows_each _ (fun _ _ => uses_ensureFolder_scan) ?_
    rintro ⟨dir, place⟩ member middle
    have inWalk : dir ∈ walkedDirs disk primary.localPath ignore := by
      rw [(List.mem_zipIdx' member).2]
      exact List.getElem_mem _
    obtain ⟨-, name, rest, rfl⟩ := mem_walkedDirs.mp inWalk
    have names := (walkedDirs_above inWalk).1
    simp only [keyOf, names.clean.stripPrefix, Option.getD_some]
    exact ensureFolder_knows names (by simp)
  refine each.mono (fun result last _ known ok => ?_)
  obtain ⟨place, inRange, atPlace⟩ := List.getElem_of_mem walked
  have known := known ok (primary.localPath ++ rel, place)
    (by rw [List.mem_zipIdx_iff_getElem?, ← atPlace]; exact List.getElem?_eq_getElem inRange)
  simpa [keyOf, (walkedDirs_above walked).1.clean.stripPrefix] using known

/-- A scan that ends well knows every key that it was to enter. -/
theorem scan_knows_all {listing : Except Error RemoteIndex} {key : String}
    (answers
      : ∀ folder disk remote answer after,
          env.provider (.listRemote folder) disk remote answer after → answer = listing)
    (configured : ctx.cfg.getPrimaryPair = some primary)
    (knownKey : KnownKey w listing primary ignore key)
    : Always env.sem (fun _ => True) (scan ctx ignore) w
        (fun result last => result = .ok () → (last.pathCache.lookup key).isSome) := by
  -- Once the key is known it stays known through what is left of the scan.
  have settled {program : Eff Unit} {state : World} (uses : Uses Op.OfScan program)
      (known : (state.pathCache.lookup key).isSome)
      : Always env.sem (fun _ => True) program state
          (fun result last => result = .ok () → (last.pathCache.lookup key).isSome) :=
    ((always_stays_known uses known).weaken (fun _ _ => trivial)).mono
      (fun _ _ _ known _ => known.1)
  rcases knownKey with before | later
  · exact settled uses_scan before
  simp only [scan, configured, orError]
  change Always env.sem _ (listRemote primary >>= _) w _
  refine ((always_disk rfl _).and (listRemote_returns answers)).seq (fun _ _ => trivial) ?_
    (by rintro _ _ _ _ ⟨⟩)
  rintro index listed' ⟨disk, -⟩ ⟨-, returned⟩
  cases returned
  rw [← or_assoc] at later
  rcases later with inListing | ⟨rel, walked, rfl⟩
  · refine (fillCache_knows inListing).bind ?_ (by rintro _ _ _ _ ⟨⟩)
    intro _ filled _ known
    refine settled ?_ (known rfl)
    refine Uses.bind (uses_takeInventory.mono (fun _ => .looks)) (fun inventory => ?_)
    exact Uses.bind uses_createFolders_scan (fun _ => uses_reconcile_scan)
  · refine (always_disk disk _).seq (fun _ _ => trivial) ?_ (by rintro _ _ _ _ ⟨⟩)
    intro _ filled disk _
    refine takeInventory_finds.seq (fun _ _ => trivial) ?_ (by rintro _ _ _ _ ⟨⟩)
    intro inventory taken _ found
    rw [(found _ rfl).2, disk]
    refine (createFolders_knows walked).bind ?_ (by rintro _ _ _ _ ⟨⟩)
    intro _ created _ known
    exact settled uses_reconcile_scan (known rfl)

end Knowing

end SyncGDrive
