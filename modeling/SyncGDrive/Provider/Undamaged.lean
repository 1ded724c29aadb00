import SyncGDrive.Provider.OverHttp

/-! What no job does, however its exchanges go: items do not vanish from the store, files are there
with whole contents only, and whatever the cache tells is there.
-/

namespace SyncGDrive

open Program GDriveProvider

-----------------------------------------------------------------------------------------
-- The store
-----------------------------------------------------------------------------------------

/-- A later store: the items are still there and of their kind, and every content has been there
before or is the whole one of a local file.
-/
structure Remote.Undamaged (disk : Disk) (before after : Remote) : Prop where
  kept
    : ∀ id item,
        before.item? id = some item
        → ∃ now, after.item? id = some now ∧ (now.kind = .folder ↔ item.kind = .folder)
  whole
    : ∀ id item content,
        after.item? id = some item
        → item.kind = .file content
        → (∃ old, before.item? id = some old ∧ old.kind = .file content)
          ∨ ∃ path, disk.read path = some content

/-- The identifiers of the store, and that of the folder that is synchronised. -/
def Remote.Knows (remote : Remote) (root id : DriveId) : Prop :=
  id = root ∨ (remote.item? id).isSome = true

section Store

variable {disk : Disk} {root : DriveId} {before middle after : Remote} {id : DriveId}

theorem Remote.Undamaged.refl (disk : Disk) (remote : Remote) : remote.Undamaged disk remote where
  kept _ item found := ⟨item, found, Iff.rfl⟩
  whole _ item _ found kind := .inl ⟨item, found, kind⟩

theorem Remote.Undamaged.trans (first : Remote.Undamaged disk before middle)
    (second : Remote.Undamaged disk middle after)
    : Remote.Undamaged disk before after where
  kept id item found := by
    obtain ⟨now, there, same⟩ := first.kept id item found
    obtain ⟨last, still, same'⟩ := second.kept id now there
    exact ⟨last, still, same'.trans same⟩
  whole id item content found kind := by
    rcases second.whole id item content found kind with ⟨old, there, kind⟩ | read
    · exact first.whole id old content there kind
    · exact .inr read

/-- Writing an item does no damage where it keeps its kind, and brings a content from before or that
of a file.
-/
theorem Remote.Undamaged.put {item : RemoteItem}
    (kind : ∀ old, before.item? id = some old → (item.kind = .folder ↔ old.kind = .folder))
    (content
      : ∀ content,
          item.kind = .file content
          → (∃ old, before.item? id = some old ∧ old.kind = .file content)
            ∨ ∃ path, disk.read path = some content)
    : Remote.Undamaged disk before (before.put id item) where
  kept other old found := by
    rw [Remote.item?_put]
    by_cases same : other = id
    · subst same
      exact ⟨item, if_pos rfl, kind old found⟩
    · exact ⟨old, by rw [if_neg same, found], Iff.rfl⟩
  whole other now bytes found now_kind := by
    rw [Remote.item?_put] at found
    split at found
    · rename_i same
      obtain rfl := Option.some.inj found
      exact same ▸ content bytes now_kind
    · exact .inl ⟨now, found, now_kind⟩

theorem Remote.Undamaged.knows (undamaged : Remote.Undamaged disk before after)
    (known : before.Knows root id)
    : after.Knows root id := by
  rcases known with home | there
  · exact .inl home
  · obtain ⟨item, found⟩ := Option.isSome_iff_exists.mp there
    obtain ⟨now, still, -⟩ := undamaged.kept id item found
    exact .inr (by rw [still]; rfl)

theorem Remote.knows_put (remote : Remote) (item : RemoteItem)
    : (remote.put id item).Knows root id :=
  .inr (by simp)

end Store

-----------------------------------------------------------------------------------------
-- Calls
-----------------------------------------------------------------------------------------

section Calls

variable {md5 : List UInt8 → String} {root : DriveId} {disk : Disk} {remote after : Remote}

/-- An item that is new is of no kind yet. -/
theorem Remote.Undamaged.fresh {fresh : DriveId} {item : RemoteItem}
    (unused : remote.Unused root fresh)
    (content : ∀ content, item.kind = .file content → ∃ path, disk.read path = some content)
    : Remote.Undamaged disk remote (remote.put fresh item) :=
  .put (fun old found => by rw [unused.unknown] at found; cases found)
    (fun bytes kind => .inr (content bytes kind))

/-- An item that is changed keeps its kind. -/
theorem Remote.Undamaged.change {id : DriveId} {old item : RemoteItem}
    (found : remote.item? id = some old) (same : item.kind = old.kind)
    : Remote.Undamaged disk remote (remote.put id item) :=
  .put
    (fun other there => by
      obtain rfl := Option.some.inj (found.symm.trans there)
      rw [same])
    (fun bytes kind => .inl ⟨old, found, same ▸ kind⟩)

/-- What a call of the honest provider answers is known afterwards, and it has done no damage. -/
theorem honest_undamaged (known : DriveId → Prop) {call : ProviderCall} {answer : call.Answer}
    (answered : honestProvider md5 root call disk remote answer after)
    : Remote.Undamaged disk remote after
      ∧ (call.Names known root → call.Tells (after.Knows root) answer) := by
  cases call with
  | listRemote folder =>
      obtain ⟨rfl, index, rfl, lists⟩ := answered
      refine ⟨.refl disk after, ?_⟩
      intro names told same
      obtain rfl := Except.ok.inj same
      have lists := lists names
      have parent {id : DriveId} {item : RemoteItem} {key : String}
          (itemAt : after.ItemAt root id item key)
          : after.Knows root id ∧ after.Knows root item.parent := by
        obtain ⟨found, -, above, folderAt, -⟩ := itemAt
        refine ⟨.inr (by rw [found]; rfl), ?_⟩
        cases folderAt with
        | root => exact .inl rfl
        | child there _ _ _ => exact .inr (by rw [there]; rfl)
      constructor
      · intro file member
        obtain ⟨item, content, itemAt, same, -⟩ := lists.files file member
        exact same ▸ parent itemAt
      · intro dir member
        obtain ⟨item, itemAt, same, -⟩ := lists.dirs dir member
        exact same ▸ parent itemAt
  | mkdir parent name =>
      obtain ⟨fresh, unused, rfl, rfl⟩ := answered
      unfold Remote.mkdir
      cases named : remote.folderNamed parent name with
      | some id =>
          refine ⟨.refl disk remote, ?_⟩
          intro _ told same
          obtain rfl := Except.ok.inj same
          obtain ⟨item, found, -⟩ := Remote.folderNamed_found named
          exact .inr (by rw [found]; rfl)
      | none =>
          refine ⟨.fresh unused (by simp), ?_⟩
          intro _ told same
          obtain rfl := Except.ok.inj same
          exact Remote.knows_put remote _
  | upload path parent name existing =>
      simp only [honestProvider] at answered
      cases read : disk.read path with
      | none =>
          simp only [read] at answered
          obtain ⟨⟨error, rfl⟩, rfl⟩ := answered
          exact ⟨.refl disk after, by simp [ProviderCall.Tells]⟩
      | some content =>
          simp only [read] at answered
          obtain ⟨fresh, unused, rfl, rfl⟩ := answered
          cases existing with
          | none =>
              refine ⟨.fresh unused ?_, ?_⟩
              · intro bytes kind
                obtain rfl := ItemKind.file.inj kind
                exact ⟨path, read⟩
              · intro _ told same
                obtain rfl := Except.ok.inj same
                exact Remote.knows_put remote _
          | some id =>
              cases found : remote.item? id with
              | none =>
                  simp only [Remote.upload, found]
                  exact ⟨.refl disk remote, by simp [ProviderCall.Tells, Except.map]⟩
              | some item =>
                  obtain ⟨given, standing, kind, trashed⟩ := item
                  cases kind with
                  | folder =>
                      simp only [Remote.upload, found]
                      exact ⟨.refl disk remote, by simp [ProviderCall.Tells, Except.map]⟩
                  | file old =>
                      simp only [Remote.upload, found]
                      refine ⟨.put ?_ ?_, ?_⟩
                      · intro other there
                        obtain rfl := Option.some.inj (found.symm.trans there)
                        simp
                      · intro bytes kind
                        obtain rfl := ItemKind.file.inj kind
                        exact .inr ⟨path, read⟩
                      · intro _ told same
                        obtain rfl := Except.ok.inj same
                        exact Remote.knows_put remote _
  | delete id =>
      obtain ⟨rfl, rfl⟩ := Prod.mk.inj answered
      refine ⟨?_, fun _ => trivial⟩
      cases found : remote.item? id with
      | none => exact .refl disk remote
      | some item => exact .change found rfl
  | rename id name parent =>
      obtain ⟨rfl, rfl⟩ := Prod.mk.inj answered
      refine ⟨?_, fun _ => trivial⟩
      cases found : remote.item? id with
      | none => exact .refl disk remote
      | some item => exact .change found rfl

/-- And so it is where the call may fail. -/
theorem faulty_undamaged (known : DriveId → Prop) {call : ProviderCall} {answer : call.Answer}
    (answered : faultyProvider (honestProvider md5 root) call disk remote answer after)
    : Remote.Undamaged disk remote after
      ∧ (call.Names known root → call.Tells (after.Knows root) answer) := by
  rcases answered with served | ⟨failed, effect⟩
  · exact honest_undamaged known served
  · constructor
    · rcases effect with rfl | ⟨told, served⟩
      · exact .refl disk after
      · exact (honest_undamaged known served).1
    · intro _
      cases call with
      | listRemote _ | mkdir _ _ | upload _ _ _ _ =>
          obtain ⟨error, rfl⟩ := failed
          simp [ProviderCall.Tells]
      | delete _ | rename _ _ _ => trivial

end Calls

-----------------------------------------------------------------------------------------
-- Whole runs
-----------------------------------------------------------------------------------------

/-- No damage was done since the start, and whatever the cache tells is there. -/
structure World.Sound (start : World) (root : DriveId) (w : World) : Prop where
  undamaged : Remote.Undamaged start.disk start.remote w.remote
  live : w.pathCache.Tells (w.remote.Knows root)

section Runs

variable {service : DriveService} {faults : Fault → Prop} {w after : World}

theorem PathCache.Tells.mono {known known' : DriveId → Prop} {cache : PathCache}
    (tells : cache.Tells known) (more : ∀ id, known id → known' id)
    : cache.Tells known' := by
  intro key entry found
  obtain ⟨own, parent⟩ := tells key entry found
  exact ⟨more _ own, more _ parent⟩

/-- No operation does damage. -/
theorem faulty_step_undamaged {op : Op} {answer : op.Answer}
    (served : (service.faulty faults).sem op w answer after)
    : Remote.Undamaged w.disk w.remote after.remote := by
  by_cases calls : op.writes = some .remote
  · cases op with
    | provider call =>
        obtain ⟨remote, answered, rfl⟩ := served
        exact (faulty_undamaged (fun _ => True) answered.1).1
    | _ => simp [Op.writes] at calls
  · rw [(Environment.sem_keeps served).remote calls]
    exact .refl _ _

/-- The environment keeps its side of the contract for whatever is known when an operation is over.
-/
theorem faulty_told {known : DriveId → Prop} {op : Op} {answer : op.Answer}
    (names : op.Names known service.root) (tells : w.pathCache.Tells known)
    (straight : w.disk.Straight) (within : ∀ id, after.remote.Knows service.root id → known id)
    (served : (service.faulty faults).sem op w answer after)
    : told known op answer ∧ after.pathCache.Tells known := by
  have keeps := Environment.sem_keeps served
  have still : op.writes ≠ some .pathCache → after.pathCache.Tells known := by
    intro quiet
    rw [keeps.pathCache quiet]
    exact tells
  cases op with
  | insert key id parentId =>
      obtain rfl : after = _ := served
      refine ⟨trivial, ?_⟩
      intro other entry found
      rw [PathCache.lookup_insert] at found
      split at found
      · obtain rfl := Option.some.inj found
        exact names
      · exact tells other entry found
  | removeCascades key =>
      obtain rfl : after = _ := served
      refine ⟨trivial, ?_⟩
      intro other entry found
      rw [PathCache.lookup_removeCascades] at found
      split at found
      · cases found
      · exact tells other entry found
  | lookup key =>
      refine ⟨?_, still (by simp [Op.writes])⟩
      obtain ⟨rfl, rfl⟩ := served
      exact tells key
  | walkDir root keep =>
      refine ⟨?_, still (by simp [Op.writes])⟩
      obtain ⟨rfl, rfl⟩ := served
      exact straight root keep
  | provider call =>
      refine ⟨?_, still (by simp [Op.writes])⟩
      obtain ⟨remote, answered, rfl⟩ := served
      have known_after := (faulty_undamaged known answered.1).2 names
      cases call with
      | listRemote root =>
          intro index same
          obtain ⟨files, dirs⟩ := known_after index same
          exact ⟨fun file member => (files file member).imp (within _) (within _),
            fun dir member => (dirs dir member).imp (within _) (within _)⟩
      | mkdir parentId name => exact fun id same => within id (known_after id same)
      | upload path parentId name existing =>
          exact fun result same => within _ (known_after result same)
      | delete _ | rename _ _ _ => trivial
  | _ => exact ⟨trivial, still (by simp [Op.writes])⟩

/-- A program that keeps the contract, whatever is known, does no damage and leaves nothing in the
cache that is not there.
-/
theorem always_sound {α : Type} {program : Eff α}
    (relies
      : ∀ known,
          known service.root
          → Relies (told known) (Op.Names known service.root) (fun _ => True) program)
    (straight : w.disk.Straight) (live : w.pathCache.Tells (w.remote.Knows service.root))
    : Always (service.faulty faults).sem (w.Sound service.root) program w (fun _ _ => True) := by
  have undamaged
      : Always (service.faulty faults).sem
          (fun state => state.disk = w.disk ∧ Remote.Undamaged w.disk w.remote state.remote)
          program w (fun _ _ => True) := by
    apply always_of_sem
    · intro op state answer next sound served
      have disk := (Environment.sem_keeps served).disk
      refine ⟨disk.trans sound.1, sound.2.trans ?_⟩
      exact sound.1 ▸ faulty_step_undamaged served
    · exact ⟨rfl, .refl _ _⟩
  apply always_of_reaches
  intro rest last reached
  refine ⟨(undamaged.reaches reached).here.2, ?_⟩
  -- what the last state knows bounds what every state before it knows
  let known := last.remote.Knows service.root
  let within (state : World) := ∀ id, state.remote.Knows service.root id → known id
  have step (op : Op) (state : World) (answer : op.Answer) (after : World)
      (served : (service.faulty faults).sem op state answer after) (later : within after)
      : within state :=
    fun id here => later id ((faulty_step_undamaged served).knows here)
  have honours (op : Op) (state : World) (answer : op.Answer) (after : World)
      (names : op.Names known service.root)
      (here : state.pathCache.Tells known ∧ state.disk.Straight) (later : within after)
      (served : (service.faulty faults).sem op state answer after)
      : told known op answer ∧ after.pathCache.Tells known ∧ after.disk.Straight := by
    obtain ⟨fine, tells⟩ := faulty_told names here.1 here.2 later served
    exact ⟨fine, tells, (Environment.sem_keeps served).disk ▸ here.2⟩
  have bounded : within w := reached.backwards step (fun _ here => here)
  have kept := (relies known (.inl rfl)).reaches step honours ⟨live.mono bounded, straight⟩ reached
    (fun _ here => here)
  exact kept.1

end Runs

/-- No job destroys an item, leaves one with part of a file or keeps an identifier that is not
there, between any two exchanges and whatever is lost of them.
-/
theorem jobs_do_no_damage {cfg : AdvancedSettings} {service : DriveService} {faults : Fault → Prop}
    {ctx : EngineContext} {ignore : IgnoreMatcher} {jobs : List Job} {here : Wire}
    (served : ServedBy cfg service) (earnest : ctx.dryRun = false)
    (homed
      : ∀ primary,
          ctx.cfg.getPrimaryPair = some primary → primary.remoteFolderId = service.root)
    (root : SafeId service.root) (tame : here.Tame) (straight : here.world.disk.Straight)
    (live : here.world.pathCache.Tells (here.world.remote.Knows service.root))
    : Always (service.sem (service.faulty faults))
        (fun now => now.Tame ∧ here.world.Sound service.root now.world)
        ((Job.inOrder ctx ignore jobs).inline (carryOutAll cfg)) here (fun _ _ => True) := by
  have plain : here.world.pathCache.Tells SafeId := by
    apply live.mono
    intro id known
    rcases known with rfl | there
    · exact root
    · obtain ⟨item, found⟩ := Option.isSome_iff_exists.mp there
      exact (tame.ids id item found).1
  have sound
      : Always (service.faulty faults).sem (here.world.Sound service.root)
          (Job.inOrder ctx ignore jobs) here.world (fun _ _ => True) :=
    always_sound (fun known home => relies_inOrder earnest homed home) straight live
  exact relies_over_http (relies_inOrder earnest homed root) served tame plain straight sound

theorem first_scan_does_no_damage
    : Always (plainService.sem (plainService.faulty (fun _ => True)))
        (fun now => now.Tame ∧ unrecordedWorld.Sound "root" now.world)
        ((Job.inOrder { cfg := backupConfig } .nothing
          [.scan, .task (.syncFile (backupPair.localPath.join "a"))]).inline (carryOutAll {}))
        { world := unrecordedWorld } (fun _ _ => True) := by
  have live : unrecordedWorld.pathCache.Tells (unrecordedWorld.remote.Knows "root") := by
    intro key entry found
    cases found
  exact @jobs_do_no_damage {} plainService (fun _ => True) { cfg := backupConfig } .nothing _
    { world := unrecordedWorld } served_plainService rfl backupConfig_homed safe_root
    unrecordedWorld_tame (Disk.straight_of_modest unrecordedWorld_modest) live

end SyncGDrive
