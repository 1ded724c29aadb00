import SyncGDrive.Provider.Contract
import SyncGDrive.Provider.Demands
import SyncGDrive.Remote.Listing

/-! The provider over HTTP refines the provider that the engine is written against: a call that
succeeds has done what the trait promises, and one that fails has done it as well or nothing.
-/

namespace SyncGDrive

open Program GDriveProvider

-----------------------------------------------------------------------------------------
-- The provider of the engine
-----------------------------------------------------------------------------------------

def ProviderCall.Fails : (call : ProviderCall) → call.Answer → Prop
  | .listRemote _, answer => ∃ error, answer = .error error
  | .mkdir .., answer => ∃ error, answer = .error error
  | .upload .., answer => ∃ error, answer = .error error
  | .delete _, answer => ∃ error, answer = .error error
  | .rename .., answer => ∃ error, answer = .error error

/-- A provider whose calls may fail, before their effect or after it. -/
def faultyProvider
    (provider : (call : ProviderCall) → Disk → Remote → call.Answer → Remote → Prop)
    (call : ProviderCall) (disk : Disk) (remote : Remote) (answer : call.Answer) (after : Remote)
    : Prop :=
  provider call disk remote answer after
  ∨ call.Fails answer ∧ (after = remote ∨ ∃ told, provider call disk remote told after)

/-- The outside of the engine where the provider may fail at any call. -/
def DriveService.faulty (service : DriveService) (faults : Fault → Prop) : Environment where
  md5 := service.md5
  provider call disk remote answer after :=
    faultyProvider (honestProvider service.md5 service.root) call disk remote answer after
    ∧ call.Tells SafeId answer
  faults

/-- The store holds plain identifiers, and the sizes of local files fit in 64 bits. -/
structure Wire.Tame (here : Wire) : Prop where
  ids : ∀ id item, here.world.remote.item? id = some item → SafeId id ∧ SafeId item.parent
  sizes
    : ∀ path content, here.world.disk.read path = some content → content.length < UInt64.size

/-- What the engine sees of the wire. -/
def overWire (env : Environment) : Semantics effects Wire :=
  fun op here answer after => env.sem op here.world answer after.world ∧ after.Tame

-----------------------------------------------------------------------------------------
-- Exchanges
-----------------------------------------------------------------------------------------

/-- A program without transfers is run by the operations of the client alone. -/
def clientPart {State : Type} (sem : Semantics drives State) : Semantics exchanges State :=
  fun op => sem (.client op)

theorem always_lift {State α : Type} {sem : Semantics drives State} {inv : State → Prop}
    {program : Client α} {state : State} {post : Except Error α → State → Prop}
    : Always sem inv program.lift state post ↔ Always (clientPart sem) inv program state post := by
  induction program generalizing state with
  | done result => exact Iff.rfl
  | call op next ih =>
      apply and_congr_right'
      apply forall_congr'
      intro answer
      apply forall_congr'
      intro after
      exact imp_congr_right (fun _ => ih answer)

section Rules

variable {service : DriveService} {env : Environment} {asked : Demand} {here : Wire}
  {inv : Wire → Prop} {α : Type}

/-- What is behind an answer that counts as a success: the demand was served. -/
structure Demand.Served (service : DriveService) (asked : Demand) (here : Wire) (reply : Reply)
    (after : Wire)
    : Prop where
  success : reply.isSuccess = true
  done
    : ∃ told,
        asked.Done service.md5 service.root here told after
        ∧ (reply = told ∨ reply = { told with body := none })

/-- A failed exchange has had its effect or none. -/
def Demand.Failed (service : DriveService) (asked : Demand) (here after : Wire) : Prop :=
  after = here ∨ ∃ told, asked.Done service.md5 service.root here told after

/-- The ways an exchange about a known demand can go. -/
theorem Exchanged.cases {demand : Option Demand} {answer : Except Error Reply} {after : Wire}
    (exchanged : Exchanged service demand here answer after) (read : demand = some asked)
    : (∃ error, answer = .error error) ∧ asked.Failed service here after
      ∨ ∃ reply,
          answer = .ok reply
          ∧ (reply.isSuccess = false ∧ after = here
                ∧ (service.refuses asked reply.status
                  ∨ ∀ reply after, ¬ asked.Done service.md5 service.root here reply after)
              ∨ asked.Served service here reply after) := by
  cases exchanged with
  | served known success done =>
      obtain rfl := Option.some.inj (known.symm.trans read)
      exact .inr ⟨_, rfl, .inr ⟨success, _, done, .inl rfl⟩⟩
  | refused refusal allowed => exact .inr ⟨_, rfl, .inl ⟨refusal, rfl, allowed _ read⟩⟩
  | missed error => exact .inl ⟨⟨error, rfl⟩, .inl rfl⟩
  | lost error known done =>
      obtain rfl := Option.some.inj (known.symm.trans read)
      exact .inl ⟨⟨error, rfl⟩, .inr ⟨_, done⟩⟩
  | garbled known success done =>
      obtain rfl := Option.some.inj (known.symm.trans read)
      exact .inr ⟨_, rfl, .inr ⟨success, _, done, .inr rfl⟩⟩

/-- Punishing the limiter changes nothing behind the wire. -/
theorem DriveService.punishes : Punishes (clientPart (service.sem env)) :=
  fun _ _ _ _ served => served

/-- A check of an answer changes nothing, and fails on a 429 only. -/
theorem always_checked {response : Response} {context : String} (start : inv here)
    : Always (clientPart (service.sem env)) inv (checkRateLimit response context) here
        (fun result after =>
          after = here ∧ ((∃ error, result = .error error) → response.isSuccess = false)) := by
  have checked
      : Always (clientPart (service.sem env)) inv
          (checkRateLimit response context >>= fun _ => pure ()) here
          (fun result after =>
            after = here ∧ ((∃ error, result = .error error) → response.isSuccess = false)) := by
    apply always_checkRateLimit DriveService.punishes start
    · intro error punished
      refine ⟨rfl, fun _ => ?_⟩
      simp [Response.isSuccess, punished]
    · intro unpunished
      refine ⟨start, rfl, fun failed => ?_⟩
      obtain ⟨error, same⟩ := failed
      cases same
  exact (bind_pure (checkRateLimit response context)) ▸ checked

/-- Nothing but a success goes on. -/
theorem always_accept {res : Reply} {context failure : String} {f : Unit → Drive α}
    {post : Except Error α → Wire → Prop} (start : inv here)
    (failed : res.isSuccess = false → ∀ error, post (.error error) here)
    (passed : res.isSuccess = true → Always (service.sem env) inv (f ()) here post)
    : Always (service.sem env) inv (accept res context failure >>= f) here post := by
  rw [accept, bind_assoc]
  apply (always_lift.mpr (always_checked start)).bind
  · intro _ middle _ checked
    obtain rfl := checked.1
    cases success : res.isSuccess with
    | true => exact passed success
    | false => exact ⟨start, failed success _⟩
  · intro error middle _ checked
    obtain rfl := checked.1
    exact failed (checked.2 ⟨error, rfl⟩) error

/-- The body of an answer is read or ends the call. -/
theorem always_body {res : Reply} {f : Json → Drive α} {post : Except Error α → Wire → Prop}
    (start : inv here) (failed : ∀ error, res.body = none → post (.error error) here)
    (read : ∀ data, res.body = some data → Always (service.sem env) inv (f data) here post)
    : Always (service.sem env) inv (Client.lift (readJson res.toResponse) >>= f) here post := by
  unfold readJson
  cases body : res.body with
  | none => exact ⟨start, failed _ body⟩
  | some data => exact read data body

/-- An answer with its body lost is no less a success. -/
theorem Demand.Served.failed {reply : Reply} {after : Wire}
    (served : asked.Served service here reply after)
    : asked.Failed service here after := by
  obtain ⟨told, done, -⟩ := served.done
  exact .inr ⟨told, done⟩

/-- A body that can be read is the one that was told. -/
theorem Demand.Served.told {reply : Reply} {after : Wire} {data : Json}
    (served : asked.Served service here reply after) (body : reply.body = some data)
    : asked.Done service.md5 service.root here reply after := by
  obtain ⟨told, done, same | garbled⟩ := served.done
  · exact same ▸ done
  · rw [garbled] at body
    cases body

end Rules

-----------------------------------------------------------------------------------------
-- What a call leaves
-----------------------------------------------------------------------------------------

/-- The call has gone as it may with the faulty provider, and nothing else has changed. -/
structure CallDone (service : DriveService) (call : ProviderCall) (here : Wire)
    (answer : call.Answer) (after : Wire)
    : Prop where
  answered
    : faultyProvider (honestProvider service.md5 service.root) call here.world.disk
        here.world.remote answer after.world.remote
  plain : call.Tells SafeId answer
  world : after.world = { here.world with remote := after.world.remote }

section Calls

variable {service : DriveService} {env : Environment} {here : Wire} {parentId name : String}

theorem Wire.Tame.put {id : DriveId} {item : RemoteItem} (tame : here.Tame)
    (safe : SafeId id ∧ SafeId item.parent)
    : (here.setRemote (here.world.remote.put id item)).Tame where
  ids other found known := by
    have known : (here.world.remote.put id item).item? other = some found := known
    rw [Remote.item?_put] at known
    split at known
    · rename_i same
      obtain rfl := Option.some.inj known
      exact same ▸ safe
    · exact tame.ids other found known
  sizes := tame.sizes

theorem Remote.head?_foldersNamed (remote : Remote) (parent : DriveId) (name : String)
    : (remote.foldersNamed parent name).head? = remote.folderNamed parent name := by
  rw [foldersNamed, folderNamed, List.head?_map, List.head?_filter]

/-- A search finds the first folder of the name, or ends the call. -/
theorem DriveService.always_searchFolder (tame : here.Tame) (safe : SafeId parentId)
    (straight : '\\' ∉ name.toList) (token : String)
    : Always (clientPart (service.sem env)) Wire.Tame
        (searchFolder service.apiBase token parentId name) here
        (fun result after =>
          after = here
          ∧ ∀ found, result = .ok found → found = here.world.remote.folderNamed parentId name) := by
  have read := searchRequest_demand service.apiBase token straight safe
  refine ⟨tame, ?_⟩
  intro answer after sent
  obtain ⟨brought, exchanged, rfl⟩ := sent
  -- a search changes nothing, whatever becomes of its answer
  have still : ∀ told after,
      (Demand.search parentId name).Done service.md5 service.root here told after → after = here :=
    fun _ _ done => done.1
  rcases exchanged.cases read with ⟨⟨error, rfl⟩, failed⟩ | ⟨reply, rfl, refused | served⟩
  · have same : after = here := by
      rcases failed with same | ⟨told, done⟩
      · exact same
      · exact still _ _ done
    subst same
    exact ⟨tame, rfl, by simp⟩
  · obtain ⟨refusal, rfl, -⟩ := refused
    apply always_checkRateLimit DriveService.punishes tame (by simp)
    intro _
    have refusal : reply.toResponse.isSuccess = false := refusal
    simp only [refusal]
    exact ⟨tame, rfl, by simp⟩
  · obtain ⟨told, done, -⟩ := served.done
    obtain rfl := still _ _ done
    apply always_checkRateLimit DriveService.punishes tame (by simp)
    intro _
    have success : reply.toResponse.isSuccess = true := served.success
    simp only [success]
    apply always_readJson tame (by simp)
    intro data body
    obtain ⟨-, data', files, same, listed, ids⟩ := served.told body
    obtain rfl : data = data' := Option.some.inj (body.symm.trans same)
    refine ⟨tame, rfl, ?_⟩
    intro found told
    obtain rfl := Except.ok.inj told
    rw [← Remote.head?_foldersNamed]
    have first := congrArg List.head? ids
    rw [List.head?_map, List.head?_map] at first
    unfold firstFileId
    rw [listed]
    cases files with
    | nil =>
        cases names : (Remote.foldersNamed _ _ _ : List DriveId).head? with
        | none => rfl
        | some id => simp [names] at first
    | cons file rest =>
        cases names : (Remote.foldersNamed _ _ _ : List DriveId).head? with
        | none => simp [names] at first
        | some id =>
            simp only [names, List.head?_cons, Option.map_some, Option.some.injEq] at first
            simp [Json.asArray, first, Json.asStr]

/-- Carrying out the demand carries out the call. -/
def Demand.Carries (service : DriveService) (asked : Demand) (call : ProviderCall) (here : Wire)
    : Prop :=
  ∀ told after,
    asked.Done service.md5 service.root here told after
    → after.Tame
      ∧ after.world = { here.world with remote := after.world.remote }
      ∧ ∃ answer,
          honestProvider service.md5 service.root call here.world.disk here.world.remote answer
            after.world.remote

/-- A failure tells no identifier. -/
theorem ProviderCall.Fails.plain {call : ProviderCall} {answer : call.Answer}
    (fails : call.Fails answer)
    : call.Tells SafeId answer := by
  cases call with
  | listRemote rootId =>
      obtain ⟨error, rfl⟩ := fails
      intro index told
      cases told
  | mkdir parentId name =>
      obtain ⟨error, rfl⟩ := fails
      intro id told
      cases told
  | upload path parentId name existing =>
      obtain ⟨error, rfl⟩ := fails
      intro result told
      cases told
  | delete id => trivial
  | rename id name parent => trivial

/-- A failure that has changed nothing but what is behind the wire. -/
theorem CallDone.idle {call : ProviderCall} {answer : call.Answer} {after : Wire}
    (fails : call.Fails answer) (same : after.world = here.world)
    : CallDone service call here answer after where
  answered := .inr ⟨fails, .inl (by rw [same])⟩
  plain := fails.plain
  world := by rw [same]

/-- A failure before anything was sent. -/
theorem CallDone.early {call : ProviderCall} {answer : call.Answer} (fails : call.Fails answer)
    : CallDone service call here answer here :=
  .idle fails rfl

/-- A failure after the effect. -/
theorem CallDone.late {call : ProviderCall} {answer told : call.Answer} {after : Wire}
    (fails : call.Fails answer)
    (honest
      : honestProvider service.md5 service.root call here.world.disk here.world.remote told
          after.world.remote)
    (world : after.world = { here.world with remote := after.world.remote })
    : CallDone service call here answer after where
  answered := .inr ⟨fails, .inr ⟨told, honest⟩⟩
  plain := fails.plain
  world := world

/-- A failure on the way to the service or back. -/
theorem Demand.Carries.failed {asked : Demand} {call : ProviderCall} {after : Wire}
    (carries : asked.Carries service call here) (tame : here.Tame)
    (failed : asked.Failed service here after)
    : after.Tame ∧ ∀ answer, call.Fails answer → CallDone service call here answer after := by
  rcases failed with rfl | ⟨told, done⟩
  · exact ⟨tame, fun answer fails => .early fails⟩
  · obtain ⟨kept, world, answered⟩ := carries told after done
    obtain ⟨told, honest⟩ := answered
    exact ⟨kept, fun answer fails => .late fails honest world⟩

/-- Creating a folder adds one under a new identifier. -/
theorem DriveService.create_carries (service : DriveService) (tame : here.Tame)
    (safe : SafeId parentId)
    (absent : here.world.remote.folderNamed parentId name = none)
    : (Demand.create parentId name).Carries service (.mkdir parentId name) here := by
  intro told after done
  obtain ⟨fresh, data, unused, plain, rfl, -, -⟩ := done
  refine ⟨tame.put ⟨plain, safe⟩, rfl, .ok fresh, fresh, unused, ?_⟩
  simp [Remote.mkdir, absent, Wire.setRemote]

/-- The creation of `mkdir`, where the search has found no folder. -/
theorem DriveService.always_createFolder (tame : here.Tame) (safe : SafeId parentId)
    (absent : here.world.remote.folderNamed parentId name = none) (token : String)
    : Always (clientPart (service.sem env)) Wire.Tame
        (createFolder service.apiBase token parentId name) here
        (CallDone service (.mkdir parentId name) here) := by
  have read := createRequest_demand service.apiBase token parentId name
  have carries := create_carries service tame safe absent
  refine ⟨tame, ?_⟩
  intro _ middle acquired
  obtain rfl : middle = here := acquired
  refine ⟨tame, ?_⟩
  intro answer after sent
  obtain ⟨brought, exchanged, rfl⟩ := sent
  rcases exchanged.cases read with ⟨⟨error, rfl⟩, failed⟩ | ⟨reply, rfl, refused | served⟩
  · obtain ⟨kept, fails⟩ := carries.failed tame failed
    exact ⟨kept, fails _ ⟨error, rfl⟩⟩
  · obtain ⟨refusal, rfl, -⟩ := refused
    have refusal : reply.toResponse.isSuccess = false := refusal
    apply always_checkRateLimit DriveService.punishes tame
    · intro error _
      exact .early ⟨error, rfl⟩
    · intro _
      simp only [refusal]
      exact ⟨tame, .early ⟨_, rfl⟩⟩
  · obtain ⟨kept, fails⟩ := carries.failed tame served.failed
    have success : reply.toResponse.isSuccess = true := served.success
    apply always_checkRateLimit DriveService.punishes kept
    · intro error _
      exact fails _ ⟨error, rfl⟩
    · intro _
      simp only [success]
      apply always_readJson kept
      · intro error _
        exact fails _ ⟨error, rfl⟩
      · intro data body
        obtain ⟨fresh, data', unused, plain, rfl, same, told⟩ := served.told body
        obtain rfl : data = data' := Option.some.inj (body.symm.trans same)
        simp only [told, Json.asStr, orError]
        refine ⟨kept, .inl ⟨fresh, unused, ?_⟩, ?_, rfl⟩
        · simp [Remote.mkdir, absent, Wire.setRemote]
        · intro id same
          obtain rfl := Except.ok.inj same
          exact plain

/-- `mkdir` over HTTP. -/
theorem DriveService.always_mkdir (tame : here.Tame) (safe : SafeId parentId)
    (straight : '\\' ∉ name.toList)
    : Always (clientPart (service.sem env)) Wire.Tame (mkdir service.apiBase parentId name) here
        (CallDone service (.mkdir parentId name) here) := by
  refine ⟨tame, ?_⟩
  intro _ middle acquired
  obtain rfl : middle = here := acquired
  refine ⟨tame, ?_⟩
  intro answer after told
  obtain rfl : after = middle := told
  cases answer with
  | error error => exact ⟨tame, .early ⟨error, rfl⟩⟩
  | ok token =>
      apply (always_searchFolder tame safe straight token).bind
      · intro found middle _ searched
        obtain ⟨rfl, named⟩ := searched
        have named := named found rfl
        cases found with
        | some id =>
            refine ⟨tame, .inl ?_, ?_, rfl⟩
            · obtain ⟨fresh, unused⟩ := Remote.exists_unused middle.world.remote service.root
              refine ⟨fresh, unused, ?_⟩
              simp [Remote.mkdir, ← named]
            · intro id' same
              obtain rfl := Except.ok.inj same
              obtain ⟨item, found, -⟩ := Remote.folderNamed_found named.symm
              exact (tame.ids _ _ found).1
        | none => exact always_createFolder tame safe named.symm token
      · intro error middle _ searched
        obtain rfl := searched.1
        exact .early ⟨error, rfl⟩

-----------------------------------------------------------------------------------------
-- Moves and deletions
-----------------------------------------------------------------------------------------

/-- The service tells the parents of the items that it has, unless it asks for a pause. -/
def DriveService.TellsParents (service : DriveService) : Prop :=
  ∀ id status, service.refuses (.parents id) status → status = 429

/-- What `rename` is to add to its update, for the item as it stands. -/
inductive MoveFrom (remote : Remote) (id newParent : DriveId) : List (String × String) → Prop
  | known {item : RemoteItem} (found : remote.item? id = some item)
    : MoveFrom remote id newParent [("addParents", newParent), ("removeParents", item.parent)]
  | unknown (absent : remote.item? id = none) : MoveFrom remote id newParent []

section Moves

variable {id newParent : DriveId}

/-- The parents are told of every item there is. -/
theorem parents_told (service : DriveService) {item : RemoteItem}
    (found : here.world.remote.item? id = some item)
    : ∃ reply, (Demand.parents id).Done service.md5 service.root here reply here := by
  refine ⟨{ status := 200, body := some (.object [("parents", .array [.string item.parent])]) },
    rfl,
    item, _, found, rfl, ?_⟩
  simp [Json.field]

/-- Asking for the parents changes nothing, and an answer that lets the call go on tells the one
folder of the item.
-/
theorem DriveService.always_moveParams (newParent : DriveId) (tells : service.TellsParents)
    (tame : here.Tame) (safe : SafeId id) (token : String)
    : Always (clientPart (service.sem env)) Wire.Tame
        (moveParams service.apiBase token id newParent) here
        (fun result after =>
          after = here
          ∧ ∀ params, result = .ok params → MoveFrom here.world.remote id newParent params) := by
  have read := parentsRequest_demand service.apiBase token safe
  refine ⟨tame, ?_⟩
  intro _ middle acquired
  obtain rfl : middle = here := acquired
  refine ⟨tame, ?_⟩
  intro answer after sent
  obtain ⟨brought, exchanged, rfl⟩ := sent
  rcases exchanged.cases read with ⟨⟨error, rfl⟩, failed⟩ | ⟨reply, rfl, refused | served⟩
  · have same : after = middle := by
      rcases failed with same | ⟨told, done⟩
      · exact same
      · exact done.1
    subst same
    exact ⟨tame, rfl, by simp⟩
  · obtain ⟨refusal, rfl, why⟩ := refused
    have refusal : reply.toResponse.isSuccess = false := refusal
    apply always_checkRateLimit DriveService.punishes tame (by simp)
    intro unpunished
    simp only [refusal]
    refine ⟨tame, rfl, ?_⟩
    intro params told
    obtain rfl := Except.ok.inj told
    rcases why with refuses | never
    · exact absurd (tells id _ refuses) unpunished
    · apply MoveFrom.unknown
      cases found : after.world.remote.item? id with
      | none => rfl
      | some item =>
          obtain ⟨told, done⟩ := parents_told service found
          exact absurd done (never told after)
  · obtain ⟨told, done, -⟩ := served.done
    obtain rfl := done.1
    have success : reply.toResponse.isSuccess = true := served.success
    apply always_checkRateLimit DriveService.punishes tame (by simp)
    intro _
    simp only [success, if_true]
    apply always_readJson tame (by simp)
    intro data body
    obtain ⟨-, item, data', found, same, parents⟩ := served.told body
    obtain rfl : data = data' := Option.some.inj (body.symm.trans same)
    simp only [parents, Json.asArray]
    refine ⟨tame, rfl, ?_⟩
    intro params told
    obtain rfl := Except.ok.inj told
    have known : MoveFrom _ id newParent _ := .known found
    simpa [Json.asStr] using known

/-- An update with the new name and the new parent moves the item. -/
theorem DriveService.move_carries (service : DriveService) (name : String) {item : RemoteItem}
    (tame : here.Tame) (safe : SafeId newParent) (found : here.world.remote.item? id = some item)
    : (Demand.update id (some name) (some (newParent, [item.parent])) none).Carries service
        (.rename id name newParent) here := by
  intro told after done
  obtain ⟨item', found', -, rfl⟩ := done
  obtain rfl := Option.some.inj (found.symm.trans found')
  refine ⟨tame.put ⟨(tame.ids _ _ found).1, safe⟩, rfl, .ok (), ?_⟩
  simp [honestProvider, Remote.rename, found, Wire.setRemote]

/-- The update that ends a move. -/
theorem DriveService.always_update {request : Request} {asked : Demand} (tame : here.Tame)
    (read : request.demand service.apiBase = some asked)
    (carries : asked.Carries service (.rename id name newParent) here)
    (moved
      : ∀ told after,
          asked.Done service.md5 service.root here told after
          → honestProvider service.md5 service.root (.rename id name newParent) here.world.disk
              here.world.remote (.ok ()) after.world.remote)
    : Always (clientPart (service.sem env)) Wire.Tame
        (do
          let res ← propagate (← http (.send request))
          checkRateLimit res "rename patch"
          if !res.isSuccess then throw (.msg ("Erreur API (renommage) : " ++ res.statusText))
          else return ())
        here (CallDone service (.rename id name newParent) here) := by
  refine ⟨tame, ?_⟩
  intro answer after sent
  obtain ⟨brought, exchanged, rfl⟩ := sent
  rcases exchanged.cases read with ⟨⟨error, rfl⟩, failed⟩ | ⟨reply, rfl, refused | served⟩
  · obtain ⟨kept, fails⟩ := carries.failed tame failed
    exact ⟨kept, fails _ ⟨error, rfl⟩⟩
  · obtain ⟨refusal, rfl, -⟩ := refused
    have refusal : reply.toResponse.isSuccess = false := refusal
    apply always_checkRateLimit DriveService.punishes tame
    · intro error _
      exact .early ⟨error, rfl⟩
    · intro _
      simp only [refusal]
      exact ⟨tame, .early ⟨_, rfl⟩⟩
  · obtain ⟨kept, fails⟩ := carries.failed tame served.failed
    have success : reply.toResponse.isSuccess = true := served.success
    apply always_checkRateLimit DriveService.punishes kept
    · intro error _
      exact fails _ ⟨error, rfl⟩
    · intro _
      simp only [success]
      obtain ⟨told, done, -⟩ := served.done
      obtain ⟨-, world, -⟩ := carries told after done
      exact ⟨kept, .inl (moved told after done), trivial, world⟩

/-- `rename` over HTTP. -/
theorem DriveService.always_rename (tells : service.TellsParents) (tame : here.Tame)
    (safe : SafeId id) (target : SafeId newParent)
    : Always (clientPart (service.sem env)) Wire.Tame
        (GDriveProvider.rename service.apiBase id (some name) (some newParent)) here
        (CallDone service (.rename id name newParent) here) := by
  refine ⟨tame, ?_⟩
  intro answer after told
  obtain rfl : after = here := told
  cases answer with
  | error error => exact ⟨tame, .early ⟨error, rfl⟩⟩
  | ok token =>
      apply (always_moveParams newParent tells tame safe token).bind
      · intro params middle _ told
        obtain ⟨rfl, adds⟩ := told
        refine ⟨tame, ?_⟩
        intro _ here acquired
        obtain rfl : here = middle := acquired
        cases adds params rfl with
        | @known item found =>
            have carries := move_carries service name tame target found
            apply always_update tame
              (moveRequest_demand _ _ _ _ safe (tame.ids _ _ found).2) carries
            intro told after done
            obtain ⟨item', found', -, rfl⟩ := done
            obtain rfl := Option.some.inj (found.symm.trans found')
            simp [honestProvider, Remote.rename, found, Wire.setRemote]
        | unknown absent =>
            have never : ∀ told after,
                ¬ (Demand.update id (some name) none none).Done service.md5 service.root here told
                    after := by
              intro told after done
              obtain ⟨item, found, -, -⟩ := done
              rw [absent] at found
              cases found
            apply always_update tame (renameRequest_demand _ _ _ safe)
            · intro told after done
              exact absurd done (never told after)
            · intro told after done
              exact absurd done (never told after)
      · intro error middle _ told
        obtain rfl := told.1
        exact .early ⟨error, rfl⟩

end Moves

-----------------------------------------------------------------------------------------
-- Deletions
-----------------------------------------------------------------------------------------

theorem Wire.Tame.of_world {after : Wire} (tame : here.Tame) (same : after.world = here.world)
    : after.Tame where
  ids := by rw [same]; exact tame.ids
  sizes := by rw [same]; exact tame.sizes

/-- An answer is received: a failed exchange ends the call, a served demand goes on. -/
theorem DriveService.always_received {α : Type} {asked : Demand} {demand : Option Demand}
    {brought received : Except Error Reply} {after : Wire} {context failure : String}
    {k : Reply → Drive α} {post : Except Error α → Wire → Prop}
    (exchanged : Exchanged service demand here brought after) (read : demand = some asked)
    (same : ∃ change, received = brought.mapError change)
    (failed
      : ∀ last, asked.Failed service here last → last.Tame ∧ ∀ error, post (.error error) last)
    (served
      : ∀ reply,
          asked.Served service here reply after
          → Always (service.sem env) Wire.Tame (k reply) after post)
    : Always (service.sem env) Wire.Tame
        (propagate received >>= fun res => accept res context failure >>= fun _ => k res) after
        post := by
  obtain ⟨change, rfl⟩ := same
  rcases exchanged.cases read with ⟨⟨error, rfl⟩, unsent⟩ | ⟨reply, rfl, refused | success⟩
  · obtain ⟨kept, fails⟩ := failed after unsent
    exact ⟨kept, fails _⟩
  · obtain ⟨refusal, rfl, -⟩ := refused
    obtain ⟨kept, fails⟩ := failed after (.inl rfl)
    apply always_accept kept (fun _ => fails)
    intro success
    rw [refusal] at success
    cases success
  · obtain ⟨kept, fails⟩ := failed after success.failed
    exact always_accept kept (fun _ => fails) (fun _ => served reply success)

/-- Putting an item into the trash deletes it, as long as deletions are not for good. -/
theorem DriveService.trash_carries (service : DriveService) (id : DriveId) (tame : here.Tame)
    : (Demand.update id none none (some true)).Carries service (.delete id) here := by
  intro told after done
  obtain ⟨item, found, -, rfl⟩ := done
  refine ⟨?_, rfl, .ok (), ?_⟩
  · apply tame.put
    exact tame.ids id item found
  · simp [honestProvider, Remote.delete, found, Wire.setRemote]

/-- `delete` over HTTP, into the trash. -/
theorem DriveService.always_delete {cfg : AdvancedSettings} {id : DriveId}
    (api : cfg.apiBase = service.apiBase) (uploads : cfg.uploadBase = service.uploadBase)
    (trash : cfg.deleteMode ≠ "permanent") (tame : here.Tame) (safe : SafeId id)
    : Always (service.sem env) Wire.Tame (GDriveProvider.delete cfg id) here
        (CallDone service (.delete id) here) := by
  have carries := trash_carries service id tame
  refine ⟨tame, ?_⟩
  intro _ middle acquired
  obtain rfl : middle = here := acquired
  refine ⟨tame, ?_⟩
  intro answer after told
  obtain rfl : after = middle := told
  cases answer with
  | error error => exact ⟨tame, .early ⟨error, rfl⟩⟩
  | ok token =>
      refine ⟨tame, ?_⟩
      intro brought last exchanged
      have read := deleteRequest_demand cfg token safe
      rw [if_neg trash, api, uploads] at read
      have ends
          : (fun res : Reply => accept res "delete" "suppression")
            = fun res => accept res "delete" "suppression" >>= fun _ => pure () := by
        funext res
        exact (bind_pure _).symm
      change Always _ _ (propagate brought >>= fun res => accept res "delete" "suppression") _ _
      rw [ends]
      apply always_received exchanged read ⟨fun error => error, by cases brought <;> rfl⟩
      · intro last failed
        obtain ⟨kept, fails⟩ := carries.failed tame failed
        exact ⟨kept, fun error => fails _ ⟨error, rfl⟩⟩
      · intro reply served
        obtain ⟨told, done, -⟩ := served.done
        obtain ⟨kept, world, -⟩ := carries told last done
        obtain ⟨item, found, -, rfl⟩ := done
        refine ⟨kept, .inl ?_, trivial, world⟩
        simp [honestProvider, Remote.delete, found, Wire.setRemote]

-----------------------------------------------------------------------------------------
-- Uploads
-----------------------------------------------------------------------------------------

section Sizes

/-- A size is read as it was spelled. -/
theorem parseU64_toString {size : Nat} (fits : size < UInt64.size)
    : parseU64 (toString size).toList = some size := by
  have spelled : (toString size).toList = Nat.toDigits 10 size := Nat.toList_repr
  have digits : ∀ c ∈ Nat.toDigits 10 size, c.isDigit = true :=
    fun c member => Nat.isDigit_of_mem_toDigits (by decide) (by decide) member
  have unsigned : (Nat.toDigits 10 size).head? ≠ some '+' := by
    intro plus
    have digit := digits '+' (List.mem_of_mem_head? plus)
    revert digit
    decide
  have value
      : (Nat.toDigits 10 size).foldl
          (fun value digit => 10 * value + (digit.toNat - '0'.toNat)) 0 = size :=
    Nat.ofDigitChars_ten_toDigits
  rw [spelled, parseU64]
  simp only [if_neg unsigned, value]
  rw [if_pos ⟨Nat.toDigits_ne_nil, List.all_eq_true.mpr digits, fits⟩]

end Sizes

variable {cfg : AdvancedSettings} {path : Path} {existing : Option DriveId}

/-- The description of a file is read as it was told. -/
theorem parseUploadResult_described {md5 : List UInt8 → String} {id : DriveId}
    {content : List UInt8} {data : Json} (fits : content.length < UInt64.size)
    (described : Described md5 id content data)
    : parseUploadResult data = ⟨id, md5 content, content.length⟩ := by
  simp only [parseUploadResult, textOf, described.id, described.md5, described.size, Json.asStr,
    Option.getD_some, parseU64_toString fits]

/-- A file that exists stays in its folder, whichever folder is named. -/
theorem Remote.upload_existing (remote : Remote) (fresh : DriveId) (content : List UInt8)
    : remote.upload fresh (if existing.isSome then "" else parentId) name existing content
      = remote.upload fresh parentId name existing content := by
  cases existing with
  | none => rfl
  | some id => rfl

/-- An upload leaves plain identifiers, and tells one. -/
theorem Wire.Tame.upload {fresh id : DriveId} {content : List UInt8} (tame : here.Tame)
    (plain : SafeId fresh) (safe : SafeId parentId)
    (stored : (here.world.remote.upload fresh parentId name existing content).1 = .ok id)
    : (here.setRemote (here.world.remote.upload fresh parentId name existing content).2).Tame
      ∧ SafeId id := by
  cases existing with
  | none =>
      obtain rfl := Except.ok.inj stored
      exact ⟨tame.put ⟨plain, safe⟩, plain⟩
  | some target =>
      simp only [Remote.upload] at stored ⊢
      split
      · rename_i standing found
        have stays := tame.ids _ _ found
        rw [found] at stored
        obtain rfl := Except.ok.inj stored
        exact ⟨tame.put stays, stays.1⟩
      · rename_i other
        split at stored
        · rename_i standing found
          exact absurd found (other _ _ _ _)
        · cases stored

/-- Storing the content of a file carries out its upload. -/
theorem DriveService.stored_carries {content : List UInt8} {told : Reply} {after : Wire}
    (tame : here.Tame) (safe : SafeId parentId) (read : here.world.disk.read path = some content)
    (stored
      : Stored service.md5 service.root (if existing.isSome then "" else parentId) name existing
          content here told after)
    : after.Tame
      ∧ after.world = { here.world with remote := after.world.remote }
      ∧ ∃ data,
          told.body = some data
          ∧ SafeId (parseUploadResult data).driveId
          ∧ honestProvider service.md5 service.root (.upload path parentId name existing)
              here.world.disk here.world.remote (.ok (parseUploadResult data))
              after.world.remote := by
  obtain ⟨fresh, id, data, unused, plain, accepted, rfl, body, described⟩ := stored
  have result := parseUploadResult_described (tame.sizes path content read) described
  rw [Remote.upload_existing] at accepted ⊢
  obtain ⟨kept, told⟩ := tame.upload plain safe accepted
  refine ⟨kept, rfl, data, body, result ▸ told, ?_⟩
  simp only [honestProvider, read]
  refine ⟨fresh, unused, ?_, rfl⟩
  rw [accepted, result]
  rfl

/-- Waiting for the uplink changes nothing. -/
theorem DriveService.always_awaitUplink {α : Type} {limit size : Nat} {f : Unit → Drive α}
    {post : Except Error α → Wire → Prop} (tame : here.Tame)
    (failed : ∀ error, post (.error error) here)
    (passed : Always (service.sem env) Wire.Tame (f ()) here post)
    : Always (service.sem env) Wire.Tame (awaitUplink limit size >>= f) here post := by
  unfold awaitUplink
  split
  · refine ⟨tame, ?_⟩
    intro granted after waited
    obtain rfl : after = here := waited
    cases granted with
    | true => exact passed
    | false => exact ⟨tame, failed _⟩
  · refine ⟨tame, ?_⟩
    intro cancelled after asked
    obtain rfl : after = here := asked
    cases cancelled with
    | true => exact ⟨tame, failed _⟩
    | false => exact passed

/-- What was sent beside a shutdown is received, or the call ends with the effect of it or none. -/
theorem DriveService.always_raced {α : Type} {asked : Demand} {request : Transfer}
    {context cancelled checked failure : String} {k : Reply → Drive α}
    {post : Except Error α → Wire → Prop} (tame : here.Tame)
    (read : request.demand service.apiBase service.uploadBase = some asked)
    (failed
      : ∀ last, asked.Failed service here last → last.Tame ∧ ∀ error, post (.error error) last)
    (served
      : ∀ reply after,
          asked.Served service here reply after
          → Always (service.sem env) Wire.Tame (k reply) after post)
    : Always (service.sem env) Wire.Tame
        (transfer (.race request) >>= fun answer =>
          raced answer context cancelled >>= fun res =>
            accept res checked failure >>= fun _ => k res)
        here post := by
  refine ⟨tame, ?_⟩
  intro answer after sent
  obtain ⟨brought, exchanged, rfl | rfl⟩ := sent
  · exact always_received exchanged read ⟨_, rfl⟩ failed (fun reply => served reply after)
  · have unsent : asked.Failed service here after := by
      rcases exchanged.cases read with ⟨-, failed⟩ | ⟨reply, -, ⟨-, same, -⟩ | served⟩
      · exact failed
      · exact .inl same
      · exact served.failed
    obtain ⟨kept, fails⟩ := failed after unsent
    exact ⟨kept, fails _⟩

/-- `upload_simple` over HTTP. -/
theorem DriveService.always_uploadSimple (uploads : cfg.uploadBase = service.uploadBase)
    (tame : here.Tame) (safe : SafeId parentId) (target : ∀ id ∈ existing, SafeId id)
    : Always (service.sem env) Wire.Tame (uploadSimple cfg path parentId name existing) here
        (CallDone service (.upload path parentId name existing) here) := by
  refine ⟨tame, ?_⟩
  intro _ middle acquired
  obtain rfl : middle = here := acquired
  refine ⟨tame, ?_⟩
  intro answer after told
  obtain rfl : after = middle := told
  cases answer with
  | error error => exact ⟨tame, .early ⟨error, rfl⟩⟩
  | ok token =>
      refine ⟨tame, ?_⟩
      intro answer last got
      obtain ⟨rfl, got⟩ := got
      cases read : last.world.disk.read path with
      | none =>
          rw [read] at got
          obtain ⟨error, rfl⟩ := got
          exact ⟨tame, .early ⟨_, rfl⟩⟩
      | some content =>
          rw [read] at got
          obtain rfl := got
          have demand
              : (formRequest cfg.uploadBase token parentId name existing content).demand
                  service.apiBase service.uploadBase
                = some
                    (.form (if existing.isSome then "" else parentId) name existing content) := by
            rw [← uploads]
            exact formRequest_demand _ _ _ _ _ target content
          apply always_awaitUplink tame
          · intro error
            exact .early ⟨error, rfl⟩
          · apply always_raced tame demand
            · intro after failed
              rcases failed with rfl | ⟨told, done⟩
              · exact ⟨tame, fun error => .early ⟨error, rfl⟩⟩
              · obtain ⟨kept, world, data, -, -, honest⟩ := stored_carries tame safe read done
                exact ⟨kept, fun error => .late ⟨error, rfl⟩ honest world⟩
            · intro reply after served
              obtain ⟨told, done, garbled⟩ := served.done
              obtain ⟨kept, world, data, body, plain, honest⟩ :=
                stored_carries tame safe read done
              refine ⟨kept, ?_⟩
              intro _ last recorded
              obtain rfl : last = after := recorded
              apply always_body kept
              · intro error _
                exact .late ⟨error, rfl⟩ honest world
              · intro data' body'
                have same : reply = told := by
                  rcases garbled with same | lost
                  · exact same
                  · rw [lost] at body'
                    cases body'
                subst same
                obtain rfl : data = data' := Option.some.inj (body.symm.trans body')
                refine ⟨kept, .inl honest, ?_, world⟩
                intro result told
                obtain rfl := Except.ok.inj told
                exact plain

/-- Opening a session leaves it behind, and nothing else. -/
theorem DriveService.always_openSession (uploads : cfg.uploadBase = service.uploadBase)
    (tame : here.Tame) (target : ∀ id ∈ existing, SafeId id)
    : Always (service.sem env) Wire.Tame (openSession cfg parentId name existing) here
        (fun result after =>
          after.world = here.world
          ∧ ∀ uri,
              result = .ok uri
              → after.sessions.lookup uri
                = some ⟨if existing.isSome then "" else parentId, name, existing⟩) := by
  refine ⟨tame, ?_⟩
  intro _ middle acquired
  obtain rfl : middle = here := acquired
  refine ⟨tame, ?_⟩
  intro answer after told
  obtain rfl : after = middle := told
  cases answer with
  | error error => exact ⟨tame, rfl, by simp⟩
  | ok token =>
      refine ⟨tame, ?_⟩
      intro brought last exchanged
      have demand
          : (sessionRequest cfg.uploadBase token parentId name existing).demand service.apiBase
              service.uploadBase
            = some (.session (if existing.isSome then "" else parentId) name existing) := by
        rw [← uploads]
        exact sessionRequest_demand _ _ _ _ _ target
      apply always_received exchanged demand ⟨_, rfl⟩
      · intro last failed
        have same : last.world = after.world := by
          rcases failed with rfl | ⟨told, uri, value, -, -, rfl⟩
          · rfl
          · rfl
        exact ⟨tame.of_world same, fun error => ⟨same, by simp⟩⟩
      · intro reply served
        obtain ⟨told, ⟨uri, value, location, text, rfl⟩, same⟩ := served.done
        have located : reply.location = some value := by
          rcases same with rfl | rfl
          · exact location
          · exact location
        unfold sessionUri
        simp only [located, orError, propagate, Prog.ok_bind, text]
        refine ⟨tame.of_world ?_, rfl, ?_⟩
        · rfl
        · intro uri' told
          obtain rfl := Except.ok.inj told
          simp [String.ofList_toList]

/-- So much was taken from the file that is being read, and nothing else has changed. -/
structure Wire.Took (here : Wire) (taken : List UInt8) (after : Wire) : Prop where
  world : after.world = here.world
  sessions : after.sessions = here.sessions
  whole : taken ++ after.reading = here.reading

theorem Wire.Took.nothing : here.Took [] here := ⟨rfl, rfl, rfl⟩

theorem Wire.Took.trans {middle after : Wire} {first second : List UInt8}
    (head : here.Took first middle) (tail : middle.Took second after)
    : here.Took (first ++ second) after where
  world := tail.world.trans head.world
  sessions := tail.sessions.trans head.sessions
  whole := by rw [List.append_assoc, tail.whole, head.whole]

/-- A block is what the file goes on with; without one, nothing is taken from the file. -/
theorem DriveService.always_nextBlock (limit : Nat) (tame : here.Tame)
    : Always (service.sem env) Wire.Tame (nextBlock limit) here
        (fun result after =>
          after.world = here.world
          ∧ ∀ block, result = .ok block → here.Took (block.getD []) after) := by
  refine ⟨tame, ?_⟩
  intro answer after got
  rcases got with ⟨⟨error, rfl⟩, rfl⟩ | ⟨block, rest, rfl, whole, -, -, rfl⟩
  · exact ⟨tame, rfl, by simp⟩
  · have kept : ({ here with reading := rest } : Wire).Tame := tame.of_world rfl
    have took : here.Took block { here with reading := rest } := ⟨rfl, rfl, whole.symm⟩
    change Always _ _ (ite _ _ _) _ _
    by_cases empty : block = []
    · subst empty
      rw [if_pos rfl]
      refine ⟨kept, rfl, ?_⟩
      intro block told
      obtain rfl := Except.ok.inj told
      exact took
    · rw [if_neg empty]
      have recorded
          : Always (service.sem env) Wire.Tame
              (do transfer (.recordBytes block.length); return some block)
              { here with reading := rest }
              (fun result after =>
                after.world = here.world
                ∧ ∀ block, result = .ok block → here.Took (block.getD []) after) := by
        refine ⟨kept, ?_⟩
        intro _ last told
        obtain rfl := told
        refine ⟨kept, rfl, ?_⟩
        intro found told
        obtain rfl := Except.ok.inj told
        exact took
      by_cases limited : limit > 0
      · rw [if_pos limited]
        refine ⟨kept, ?_⟩
        intro granted last waited
        obtain rfl := waited
        cases granted with
        | true => exact recorded
        | false => exact ⟨kept, rfl, by simp⟩
      · rw [if_neg limited]
        exact recorded

/-- The blocks that were pulled are the file as far as it was read, by induction on how many the
transport may still ask for.
-/
theorem DriveService.always_pullBlocks (limit left : Nat) (blocks : List (List UInt8))
    (tame : here.Tame)
    : Always (service.sem env) Wire.Tame (pullBlocks limit left blocks) here
        (fun result after =>
          after.world = here.world
          ∧ ∀ pulled,
              result = .ok pulled
              → ∃ taken, pulled.flatten = blocks.flatten ++ taken ∧ here.Took taken after) := by
  induction left generalizing blocks here with
  | zero =>
      refine ⟨tame, rfl, ?_⟩
      intro pulled told
      obtain rfl := Except.ok.inj told
      exact ⟨[], (List.append_nil _).symm, .nothing⟩
  | succ left ih =>
      refine ⟨tame, ?_⟩
      intro wanted middle asked
      obtain rfl : middle = here := asked
      cases wanted with
      | false =>
          refine ⟨tame, rfl, ?_⟩
          intro pulled told
          obtain rfl := Except.ok.inj told
          exact ⟨[], (List.append_nil _).symm, .nothing⟩
      | true =>
          apply (always_nextBlock limit tame).bind
          · intro found after kept got
            have took := got.2 found rfl
            cases found with
            | none =>
                refine ⟨kept, got.1, ?_⟩
                intro pulled told
                obtain rfl := Except.ok.inj told
                exact ⟨[], (List.append_nil _).symm, took⟩
            | some block =>
                apply (ih (blocks ++ [block]) kept).mono
                intro result last _ held
                refine ⟨held.1.trans got.1, ?_⟩
                intro pulled told
                obtain ⟨taken, pulled, later⟩ := held.2 pulled told
                refine ⟨block ++ taken, ?_, took.trans later⟩
                rw [pulled]
                simp
          · intro error after _ got
            exact ⟨got.1, by simp⟩

/-- Sending the blocks of a session carries out the upload it was opened for. -/
theorem DriveService.put_carries {uri : String} {content : List UInt8} {blocks : List (List UInt8)}
    {told : Reply} {middle after : Wire} (tame : here.Tame) (safe : SafeId parentId)
    (read : here.world.disk.read path = some content) (world : middle.world = here.world)
    (session
      : middle.sessions.lookup uri
        = some ⟨if existing.isSome then "" else parentId, name, existing⟩)
    (taken : blocks.flatten ++ middle.reading = content)
    (done
      : (Demand.put uri content.length blocks.flatten).Done service.md5 service.root middle told
          after)
    : after.Tame
      ∧ after.world = { here.world with remote := after.world.remote }
      ∧ ∃ data,
          told.body = some data
          ∧ SafeId (parseUploadResult data).driveId
          ∧ honestProvider service.md5 service.root (.upload path parentId name existing)
              here.world.disk here.world.remote (.ok (parseUploadResult data))
              after.world.remote := by
  obtain ⟨found, known, length, stored⟩ := done
  obtain rfl := Option.some.inj (session.symm.trans known)
  -- so many bytes as the file has can only be the file
  have whole : blocks.flatten = content := by
    have sizes := congrArg List.length taken
    rw [List.length_append, length] at sizes
    have rest : middle.reading = [] := List.eq_nil_of_length_eq_zero (by omega)
    rw [rest, List.append_nil] at taken
    exact taken
  rw [whole] at stored
  have carried := stored_carries (tame.of_world world) safe (world ▸ read) stored
  rw [world] at carried
  exact carried

/-- `upload_resumable` over HTTP, of a file under its own size. -/
theorem DriveService.always_uploadResumable (uploads : cfg.uploadBase = service.uploadBase)
    (tame : here.Tame) (safe : SafeId parentId) (target : ∀ id ∈ existing, SafeId id) {size : Nat}
    (sized : ∀ content, here.world.disk.read path = some content → size = content.length)
    : Always (service.sem env) Wire.Tame (uploadResumable cfg path parentId name existing size) here
        (CallDone service (.upload path parentId name existing) here) := by
  apply (always_openSession uploads tame target).bind
  · intro uri middle kept opened
    obtain ⟨world, session⟩ := opened
    have session := session uri rfl
    refine ⟨kept, ?_⟩
    intro answer after got
    cases read : here.world.disk.read path with
    | none =>
        have unread : middle.world.disk.read path = none := world ▸ read
        simp only [DriveService.sem, DriveService.transfers, unread] at got
        obtain ⟨⟨error, rfl⟩, rfl⟩ := got
        exact ⟨kept, .idle ⟨error, rfl⟩ world⟩
    | some content =>
        have readable : middle.world.disk.read path = some content := world ▸ read
        simp only [DriveService.sem, DriveService.transfers, readable] at got
        obtain ⟨rfl, rfl⟩ := got
        obtain rfl := sized content read
        have opened : ({ middle with reading := content } : Wire).Tame := kept.of_world rfl
        refine ⟨opened, ?_⟩
        intro _ last acquired
        obtain rfl := acquired
        apply (always_pullBlocks cfg.uploadLimitKbps content.length [] opened).bind
        · intro blocks pulled kept held
          obtain ⟨taken, flat, took⟩ := held.2 blocks rfl
          have world : pulled.world = here.world := took.world.trans world
          have whole : blocks.flatten ++ pulled.reading = content := by
            rw [flat]
            exact took.whole
          have session
              : pulled.sessions.lookup uri
                = some ⟨if existing.isSome then "" else parentId, name, existing⟩ := by
            rw [took.sessions]
            exact session
          apply always_raced kept
            (putRequest_demand service.apiBase service.uploadBase uri _ blocks)
          · intro last failed
            rcases failed with rfl | ⟨told, done⟩
            · exact ⟨kept, fun error => .idle ⟨error, rfl⟩ world⟩
            · obtain ⟨kept, world, data, -, -, honest⟩ :=
                put_carries tame safe read world session whole done
              exact ⟨kept, fun error => .late ⟨error, rfl⟩ honest world⟩
          · intro reply after served
            obtain ⟨told, done, garbled⟩ := served.done
            obtain ⟨kept, world, data, body, plain, honest⟩ :=
              put_carries tame safe read world session whole done
            apply always_body kept
            · intro error _
              exact .late ⟨error, rfl⟩ honest world
            · intro data' body'
              have same : reply = told := by
                rcases garbled with same | lost
                · exact same
                · rw [lost] at body'
                  cases body'
              subst same
              obtain rfl : data = data' := Option.some.inj (body.symm.trans body')
              refine ⟨kept, .inl honest, ?_, world⟩
              intro result told
              obtain rfl := Except.ok.inj told
              exact plain
        · intro error last kept held
          exact .idle ⟨error, rfl⟩ (held.1.trans world)
  · intro error middle _ opened
    exact .idle ⟨error, rfl⟩ opened.1

/-- The size of a file that can be read is the number of its bytes. -/
theorem Disk.len_of_read {disk : Disk} {metadata : Metadata} {content : List UInt8}
    (found : disk.metadata path = some metadata) (read : disk.read path = some content)
    : metadata.len = content.length := by
  unfold Disk.metadata at found
  unfold Disk.read at read
  cases node : disk.node? path with
  | none => simp [node] at found
  | some node' =>
      rw [node] at found read
      cases node' with
      | file data =>
          obtain rfl := Option.some.inj found
          simp only at read
          split at read
          · obtain rfl := Option.some.inj read
            rfl
          · cases read
      | dir listing child => cases read
      | symlink target => cases read
      | brokenLink => cases read
      | special => cases read

/-- `upload` over HTTP, small or large. -/
theorem DriveService.always_upload (uploads : cfg.uploadBase = service.uploadBase)
    (tame : here.Tame) (safe : SafeId parentId) (target : ∀ id ∈ existing, SafeId id)
    : Always (service.sem env) Wire.Tame (GDriveProvider.upload cfg path parentId name existing)
        here (CallDone service (.upload path parentId name existing) here) := by
  refine ⟨tame, ?_⟩
  intro answer after asked
  obtain ⟨⟨world, told⟩, same⟩ := asked
  obtain rfl : after = here := by rw [same, world]
  cases found : after.world.disk.metadata path with
  | none =>
      rw [found] at told
      obtain ⟨error, rfl⟩ := told
      exact ⟨tame, .early ⟨_, rfl⟩⟩
  | some metadata =>
      rw [found] at told
      obtain rfl := told
      change Always _ _ (ite _ _ _) _ _
      split
      · exact always_uploadSimple uploads tame safe target
      · apply always_uploadResumable uploads tame safe target
        intro content read
        exact Disk.len_of_read found read

end Calls

end SyncGDrive
