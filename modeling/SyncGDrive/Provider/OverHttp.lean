import SyncGDrive.Engine.Adoption
import SyncGDrive.Engine.Calm
import SyncGDrive.Provider.Drive
import SyncGDrive.Provider.Permits

/-! The engine over HTTP: whatever holds of scans and workers with the provider of the trait holds
of them when every call is carried out as exchanges with the service.
-/

namespace SyncGDrive

open Program GDriveProvider

-----------------------------------------------------------------------------------------
-- The calls
-----------------------------------------------------------------------------------------

/-- The provider is configured for the service, and deletes into the trash. -/
structure ServedBy (cfg : AdvancedSettings) (service : DriveService) : Prop where
  api : cfg.apiBase = service.apiBase
  uploads : cfg.uploadBase = service.uploadBase
  trash : cfg.deleteMode ≠ "permanent"
  tells : service.TellsParents

section Calls

variable {cfg : AdvancedSettings} {service : DriveService} {faults : Fault → Prop}

/-- What a call has come to is what the faulty provider allows. -/
theorem CallDone.overWire {call : ProviderCall} {here after : Wire} {answer : call.Answer}
    (done : CallDone service call here answer after) (tame : after.Tame)
    : overWire (service.faulty faults) (.provider call) here answer after :=
  ⟨⟨after.world.remote, ⟨done.answered, done.plain⟩, done.world⟩, tame⟩

/-- A local operation changes neither the store nor the disk. -/
theorem Wire.Tame.local {env : Environment} {op : Op} {here : Wire} {answer : op.Answer}
    {after : World} (tame : here.Tame) (served : env.sem op here.world answer after)
    (quiet : op.writes ≠ some .remote)
    : ({ here with world := after } : Wire).Tame where
  ids := by
    have same : after.remote = here.world.remote := (Environment.sem_keeps served).remote quiet
    simpa [same] using tame.ids
  sizes := by
    have same : after.disk = here.world.disk := (Environment.sem_keeps served).disk
    simpa [same] using tame.sizes

/-- A listing changes nothing in the store. -/
theorem DriveService.faulty_listing {root : DriveId} {disk : Disk} {remote after : Remote}
    {answer : (ProviderCall.listRemote root).Answer}
    (answered : (service.faulty faults).provider (.listRemote root) disk remote answer after)
    : after = remote := by
  rcases answered.1 with ⟨same, -⟩ | ⟨-, same | ⟨told, same, -⟩⟩
  · exact same
  · exact same
  · exact same

/-- An operation that stays one is served as it is. -/
theorem DriveService.always_kept {op : Op} {here : Wire} (tame : here.Tame)
    (kept
      : ∀ answer after,
          (service.faulty faults).sem op here.world answer after
          → ({ here with world := after } : Wire).Tame)
    : Always (service.sem (service.faulty faults)) Wire.Tame
        (@perform drives Error (.client (.engine op))) here
        (fun result after =>
          ∃ answer,
            result = .ok answer
              ∧ SyncGDrive.overWire (service.faulty faults) op here answer after) := by
  refine ⟨tame, ?_⟩
  intro answer after served
  obtain ⟨step, same⟩ := served
  have later := kept answer after.world step
  rw [← same] at later
  exact ⟨later, answer, rfl, step, later⟩

/-- The exchanges of the provider implement what the engine may see of it. -/
theorem drive_implements (served : ServedBy cfg service)
    : Implements (service.sem (service.faulty faults)) Wire.Tame (Op.Names SafeId service.root)
        (carryOutAll cfg)
        (overWire (service.faulty faults)) := by
  intro op here named tame
  cases op with
  | provider call =>
      cases call with
      | listRemote root =>
          apply DriveService.always_kept tame
          intro answer after step
          obtain ⟨remote, answered, rfl⟩ := step
          obtain rfl := DriveService.faulty_listing answered
          exact ⟨tame.ids, tame.sizes⟩
      | mkdir parentId name =>
          apply always_lift.mpr
          apply always_outcome.mpr
          rw [served.api]
          apply (DriveService.always_mkdir tame named.1 named.2).mono
          intro result after kept done
          exact ⟨result, rfl, done.overWire kept⟩
      | upload path parentId name existing =>
          apply always_outcome.mpr
          apply (DriveService.always_upload served.uploads tame named.1 named.2).mono
          intro result after kept done
          exact ⟨result, rfl, done.overWire kept⟩
      | delete id =>
          apply always_outcome.mpr
          apply (DriveService.always_delete served.api served.uploads served.trash tame named).mono
          intro result after kept done
          exact ⟨result, rfl, done.overWire kept⟩
      | rename id name newParent =>
          apply always_lift.mpr
          apply always_outcome.mpr
          rw [served.api]
          apply (DriveService.always_rename served.tells tame named.1 named.2).mono
          intro result after kept done
          exact ⟨result, rfl, done.overWire kept⟩
  | _ =>
      exact DriveService.always_kept tame
        (fun answer after step => tame.local step (by simp [Op.writes]))

end Calls

/-- The environment keeps its side as long as the engine keeps its own. -/
theorem faulty_honours (service : DriveService) (faults : Fault → Prop)
    : Honours (overWire (service.faulty faults))
        (fun here => here.world.pathCache.Tells SafeId ∧ here.world.disk.Straight) (told SafeId)
        (Op.Names SafeId service.root) := by
  intro op here answer after names inv served
  obtain ⟨plain, straight⟩ := inv
  have keeps := Environment.sem_keeps served.1
  have same : after.world.disk = here.world.disk := keeps.disk
  have still : op.writes ≠ some .pathCache → after.world.pathCache.Tells SafeId := by
    intro quiet
    rw [keeps.pathCache quiet]
    exact plain
  cases op with
  | insert key id parentId =>
      have stepped : after.world = _ := served.1
      refine ⟨trivial, ?_, same ▸ straight⟩
      intro other entry found
      rw [stepped, PathCache.lookup_insert] at found
      split at found
      · obtain rfl := Option.some.inj found
        exact names
      · exact plain other entry found
  | removeCascades key =>
      have stepped : after.world = _ := served.1
      refine ⟨trivial, ?_, same ▸ straight⟩
      intro other entry found
      rw [stepped, PathCache.lookup_removeCascades] at found
      split at found
      · cases found
      · exact plain other entry found
  | lookup key =>
      refine ⟨?_, still (by simp [Op.writes]), same ▸ straight⟩
      intro entry told
      have looked : answer = here.world.pathCache.lookup key := served.1.1
      exact plain key entry (looked ▸ told)
  | walkDir root keep =>
      refine ⟨?_, still (by simp [Op.writes]), same ▸ straight⟩
      have walked : answer = here.world.disk.walkDir root keep := served.1.1
      exact walked ▸ straight root keep
  | provider call =>
      obtain ⟨⟨remote, answered, -⟩, -⟩ := served
      exact ⟨answered.2, still (by simp [Op.writes]), same ▸ straight⟩
  | _ => exact ⟨trivial, still (by simp [Op.writes]), same ▸ straight⟩

-----------------------------------------------------------------------------------------
-- All the way through a call
-----------------------------------------------------------------------------------------

/-- The operations with which the provider carries out a call. -/
inductive DriveOp.CarriesOut : DriveOp → Prop
  | metadata (path : Path) : CarriesOut (.client (.engine (.metadata path)))
  | http (op : HttpOp) : CarriesOut (.client (.http op))
  | transfer (op : TransferOp) : CarriesOut (.transfer op)

/-- What the discipline of the provider accepts carries out a call. -/
theorem carriesOut_of_accepts {α : Type} {program : Drive α} {here : Allowance}
    (accepts : Accepts permits program here (fun _ _ => True))
    : Uses DriveOp.CarriesOut program := by
  apply accepts.uses.mono
  intro op permitted
  obtain ⟨here, permitted⟩ := permitted
  cases op with
  | transfer op => exact .transfer op
  | client op =>
      cases op with
      | http op => exact .http op
      | engine op =>
          obtain ⟨⟨path, rfl⟩, -⟩ := permitted
          exact .metadata path

/-- Each of them may be answered without an effect on the world. -/
theorem DriveOp.CarriesOut.mute {service : DriveService} {env : Environment} {op : DriveOp}
    (carries : op.CarriesOut) (here : Wire)
    : ∃ answer after, service.sem env op here answer after ∧ after.world = here.world := by
  cases carries with
  | metadata path =>
      cases found : here.world.disk.metadata path with
      | some metadata => exact ⟨.ok metadata, here, ⟨⟨rfl, by simp [found]⟩, rfl⟩, rfl⟩
      | none => exact ⟨.error ⟨[]⟩, here, ⟨⟨rfl, by simp [found]⟩, rfl⟩, rfl⟩
  | http op =>
      cases op with
      | acquire | handleRateLimit _ | sleep _ => exact ⟨(), here, rfl, rfl⟩
      | getToken => exact ⟨.error ⟨[]⟩, here, rfl, rfl⟩
      | send request => exact ⟨.error ⟨[]⟩, here, ⟨_, .missed ⟨[]⟩, rfl⟩, rfl⟩
  | transfer op =>
      cases op with
      | readFile path =>
          cases read : here.world.disk.read path with
          | some content =>
              exact ⟨.ok content, here, ⟨rfl, by simp [read]⟩, rfl⟩
          | none => exact ⟨.error ⟨[]⟩, here, ⟨rfl, by simp [read]⟩, rfl⟩
      | openFile path =>
          cases read : here.world.disk.read path with
          | some content =>
              refine ⟨.ok (), { here with reading := content }, ?_, rfl⟩
              simp [DriveService.sem, DriveService.transfers, read]
          | none =>
              refine ⟨.error ⟨[]⟩, here, ?_, rfl⟩
              simp [DriveService.sem, DriveService.transfers, read]
      | readBlock size => exact ⟨.error ⟨[]⟩, here, .inl ⟨⟨_, rfl⟩, rfl⟩, rfl⟩
      | pull | isCancelled | grant _ => exact ⟨false, here, rfl, rfl⟩
      | recordBytes _ => exact ⟨(), here, rfl, rfl⟩
      | send request => exact ⟨.error ⟨[]⟩, here, .missed ⟨[]⟩, rfl⟩
      | race request => exact ⟨none, here, ⟨_, .missed ⟨[]⟩, .inr rfl⟩, rfl⟩

/-- What is seen of the world before a call and after it is seen between any two of its exchanges:
from each of them on, all others may be missed.
-/
theorem drive_implements_throughout {cfg : AdvancedSettings} {service : DriveService}
    {faults : Fault → Prop} (served : ServedBy cfg service) (seen : World → Prop)
    : ImplementsThroughout (service.sem (service.faulty faults)) Wire.Tame
        (fun here => seen here.world) (Op.Names SafeId service.root) (carryOutAll cfg)
        (overWire (service.faulty faults)) := by
  intro op here named tame visible later
  have carried
      : Always (service.sem (service.faulty faults)) Wire.Tame (carryOutAll cfg op) here
          (fun result after =>
            ∃ answer, result = .ok answer
              ∧ overWire (service.faulty faults) op here answer after) :=
    drive_implements served op here named tame
  have through (accepts : Accepts permits (carryOutAll cfg op) {} (fun _ _ => True))
      : Always (service.sem (service.faulty faults))
          (fun here => here.Tame ∧ seen here.world) (carryOutAll cfg op) here
          (fun result after =>
            ∃ answer, result = .ok answer
              ∧ overWire (service.faulty faults) op here answer after) := by
    apply carried.throughout (carriesOut_of_accepts accepts)
    · intro op here carries
      obtain ⟨answer, after, step, same⟩ := carries.mute here
      exact ⟨answer, after, step, fun visible => same ▸ visible⟩
    · intro result last ended
      obtain ⟨answer, -, step⟩ := ended
      exact later answer last step
  -- an operation that stays one has nothing between
  have single (same : carryOutAll cfg op = @perform drives Error (.client (.engine op)))
      : Always (service.sem (service.faulty faults))
          (fun here => here.Tame ∧ seen here.world) (carryOutAll cfg op) here
          (fun result after =>
            ∃ answer, result = .ok answer
              ∧ overWire (service.faulty faults) op here answer after) := by
    rw [same] at carried ⊢
    refine ⟨⟨tame, visible⟩, ?_⟩
    intro answer after served
    obtain ⟨still, told, same, step⟩ := carried.2 answer after served
    exact ⟨⟨still, later told after step⟩, told, same, step⟩
  cases op with
  | provider call =>
      cases call with
      | listRemote root => exact single rfl
      | mkdir parentId name =>
          exact through (accepts_lift.mpr (accepts_outcome.mpr
            ((accepts_mkdir parentId name).mono (fun _ _ _ => trivial))))
      | upload path parentId name existing =>
          exact through (accepts_outcome.mpr (accepts_upload.mono (fun _ _ _ => trivial)))
      | delete id =>
          exact through (accepts_outcome.mpr ((accepts_delete id).mono (fun _ _ _ => trivial)))
      | rename id name newParent =>
          exact through (accepts_lift.mpr (accepts_outcome.mpr
            ((accepts_rename id (some name) (some newParent)).mono (fun _ _ _ => trivial))))
  | _ => exact single rfl

-----------------------------------------------------------------------------------------
-- Whole runs
-----------------------------------------------------------------------------------------

/-- What holds of a program in the engine's own world holds of it as seen over the wire. -/
theorem always_overWire {α : Type} {env : Environment} {inv : World → Prop} {program : Eff α}
    {here : Wire} {post : Except Error α → World → Prop} (tame : here.Tame)
    (always : Always env.sem inv program here.world post)
    : Always (overWire env) (fun here => here.Tame ∧ inv here.world) program here
        (fun result last => post result last.world) := by
  induction program generalizing here with
  | done result => exact ⟨⟨tame, always.1⟩, always.2⟩
  | call op next ih =>
      refine ⟨⟨tame, always.1⟩, ?_⟩
      intro answer after served
      exact ih answer served.2 (always.2 answer after.world served.1)

/-- What a program under the contract keeps where the provider may fail at any call, it keeps with
every call carried out over HTTP.
-/
theorem relies_over_http {α : Type} {cfg : AdvancedSettings} {service : DriveService}
    {faults : Fault → Prop} {program : Eff α} {here : Wire} {inv : World → Prop}
    {post : Except Error α → World → Prop}
    (relies : Relies (told SafeId) (Op.Names SafeId service.root) (fun _ => True) program)
    (served : ServedBy cfg service) (tame : here.Tame)
    (plain : here.world.pathCache.Tells SafeId) (straight : here.world.disk.Straight)
    (always : Always (service.faulty faults).sem inv program here.world post)
    : Always (service.sem (service.faulty faults)) (fun here => here.Tame ∧ inv here.world)
        (program.inline (carryOutAll cfg)) here (fun result last => post result last.world) := by
  have guarded := relies.guarded (faulty_honours service faults) ⟨plain, straight⟩
  exact Always.inline_guarded (drive_implements_throughout served inv) guarded
    (always_overWire tame always)

/-- Whatever jobs keep and come to with a provider that may fail at any call, they keep between any
two exchanges and come to with every call carried out over HTTP, through lost answers, refusals and
interrupted uploads.
-/
theorem jobs_over_http {cfg : AdvancedSettings} {service : DriveService} {faults : Fault → Prop}
    {ctx : EngineContext} {ignore : IgnoreMatcher} {jobs : List Job} {here : Wire}
    {inv : World → Prop} {post : Except Error (List (Except Error Unit)) → World → Prop}
    (served : ServedBy cfg service) (earnest : ctx.dryRun = false)
    (homed
      : ∀ primary,
          ctx.cfg.getPrimaryPair = some primary → primary.remoteFolderId = service.root)
    (root : SafeId service.root)
    (tame : here.Tame) (plain : here.world.pathCache.Tells SafeId)
    (straight : here.world.disk.Straight)
    (always
      : Always (service.faulty faults).sem inv (Job.inOrder ctx ignore jobs) here.world post)
    : Always (service.sem (service.faulty faults)) (fun here => here.Tame ∧ inv here.world)
        ((Job.inOrder ctx ignore jobs).inline (carryOutAll cfg)) here
        (fun result last => post result last.world) :=
  relies_over_http (relies_inOrder earnest homed root) served tame plain straight always

/-- A service that refuses nothing that it can serve. -/
def plainService : DriveService where
  apiBase := "https://www.googleapis.com/drive/v3"
  uploadBase := "https://www.googleapis.com/upload/drive/v3"
  md5 content := toString content.length
  root := "root"
  refuses _ _ := False

theorem served_plainService : ServedBy {} plainService where
  api := rfl
  uploads := rfl
  trash := by decide
  tells _ _ refused := refused.elim

theorem unrecordedWorld_modest : unrecordedWorld.disk.root.Modest := by
  simp [unrecordedWorld, Disk.backup, Listing.single, Node.Modest, OsString.toStringLossy,
    UInt64.size]

theorem unrecordedWorld_tame : Wire.Tame { world := unrecordedWorld } where
  ids _ _ found := by cases found
  sizes _ _ := Disk.sizes_of_modest unrecordedWorld_modest

theorem safe_root : SafeId "root" := by decide +kernel

theorem backupConfig_homed (primary : SyncPair)
    (configured : backupConfig.getPrimaryPair = some primary)
    : primary.remoteFolderId = plainService.root := by
  obtain rfl := Option.some.inj configured
  rfl

theorem first_scan_over_http
    : Always (plainService.sem (plainService.faulty (fun _ => True)))
        (fun here => here.Tame ∧ here.world.disk = unrecordedWorld.disk)
        ((Job.inOrder { cfg := backupConfig } .nothing
          [.scan, .task (.syncFile (backupPair.localPath.join "a"))]).inline (carryOutAll {}))
        { world := unrecordedWorld } (fun _ _ => True) := by
  have plain : unrecordedWorld.pathCache.Tells SafeId := by
    intro key entry found
    cases found
  have straight := Disk.straight_of_modest unrecordedWorld_modest
  have kept
      : Always (plainService.faulty (fun _ => True)).sem (fun w => w.disk = unrecordedWorld.disk)
          (Job.inOrder { cfg := backupConfig } .nothing
            [.scan, .task (.syncFile (backupPair.localPath.join "a"))])
          unrecordedWorld (fun _ _ => True) :=
    always_disk rfl _
  exact jobs_over_http served_plainService rfl backupConfig_homed safe_root unrecordedWorld_tame
    plain
    straight kept

end SyncGDrive
