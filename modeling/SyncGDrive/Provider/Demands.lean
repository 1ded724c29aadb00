import SyncGDrive.Provider.Service

/-! What the service makes of the requests that the provider sends: each is read as the demand it
was written for.
-/

namespace SyncGDrive

open Program GDriveProvider

-----------------------------------------------------------------------------------------
-- Identifiers and addresses
-----------------------------------------------------------------------------------------

section Reading

variable {id parentId name params : String}

/-- A character of an identifier is none that an address, a query or a list would stop at. -/
theorem SafeId.char {c : Char} (safe : SafeId id) (member : c ∈ id.toList)
    : c ≠ '\'' ∧ c ≠ '\\' ∧ c ≠ '?' ∧ c ≠ ',' := by
  refine ⟨?_, ?_, ?_, ?_⟩
  all_goals
    intro same
    subst same
    have kind := safe _ member
    revert kind
    decide

theorem SafeId.plain (safe : SafeId id) : PlainId id :=
  fun _ member => ⟨(safe.char member).1, (safe.char member).2.1⟩

/-- An identifier is read up to the parameters. -/
theorem readFileUrl_id (base : String) (safe : SafeId id) (params : String)
    (starts : ∀ c ∈ params.toList.head?, c = '?')
    : readFileUrl base (base ++ "/files/" ++ id ++ params) = some (some id, params) := by
  have spelled
      : (base ++ "/files/" ++ id ++ params).toList
        = (base ++ "/files").toList ++ '/' :: (id.toList ++ params.toList) := by
    simp only [String.toList_append, List.append_assoc]
    rfl
  have within : ∀ c ∈ id.toList, decide (c ≠ '?') = true := by
    intro c member
    exact decide_eq_true (safe.char member).2.2.1
  have taken : (id.toList ++ params.toList).takeWhile (· ≠ '?') = id.toList := by
    rw [List.takeWhile_append_of_pos within]
    cases rest : params.toList with
    | nil => simp
    | cons c rest =>
        have mark : c = '?' := starts c (by simp [rest])
        simp [mark]
  have dropped : (id.toList ++ params.toList).dropWhile (· ≠ '?') = params.toList := by
    rw [List.dropWhile_append_of_pos within]
    cases rest : params.toList with
    | nil => rfl
    | cons c rest =>
        have mark : c = '?' := starts c (by simp [rest])
        simp [mark]
  unfold readFileUrl
  rw [spelled, List.dropPrefix?_append_of_beq _ (beq_self_eq_true _)]
  simp only [taken, dropped, String.ofList_toList]

/-- An address without an identifier. -/
theorem readFileUrl_none (base params : String)
    (starts : ∀ c ∈ params.toList.head?, c = '?')
    : readFileUrl base (base ++ "/files" ++ params) = some (none, params) := by
  have spelled
      : (base ++ "/files" ++ params).toList = (base ++ "/files").toList ++ params.toList := by
    simp only [String.toList_append, List.append_assoc]
  unfold readFileUrl
  rw [spelled, List.dropPrefix?_append_of_beq _ (beq_self_eq_true _)]
  cases rest : params.toList with
  | nil =>
      have blank : params = "" := String.toList_inj.mp (by simp [rest])
      simp [blank]
  | cons c tail =>
      have mark : c = '?' := starts c (by simp [rest])
      subst mark
      have same : String.ofList ('?' :: tail) = params := by rw [← rest, String.ofList_toList]
      simp [same]

end Reading

-----------------------------------------------------------------------------------------
-- Requests of the client
-----------------------------------------------------------------------------------------

section Requests

variable {id parentId name : String} {existing : Option DriveId}

theorem readFileUrl_bare (base : String) (safe : SafeId id)
    : readFileUrl base (base ++ "/files/" ++ id) = some (some id, "") := by
  have read := readFileUrl_id base safe "" (by simp)
  rwa [String.append_empty] at read

theorem readFileUrl_files (base : String)
    : readFileUrl base (base ++ "/files") = some (none, "") := by
  have read := readFileUrl_none base "" (by simp)
  rwa [String.append_empty] at read

/-- A search is read as it was meant, for a name without backslashes. -/
theorem readSearch_exact (straight : '\\' ∉ name.toList) (safe : SafeId parentId)
    : readSearch (searchQuery parentId name) = some (name, parentId) := by
  rw [readSearch, searchQuery_toList, List.dropPrefix?_append_of_beq _ (beq_self_eq_true _)]
  simp only [Option.bind_eq_bind, Option.bind_some, readLiteral_escaped straight]
  rw [List.dropPrefix?_append_of_beq _ (beq_self_eq_true _)]
  simp only [Option.bind_some, readLiteral_of_plain safe.plain, if_true, String.ofList_toList]

theorem searchRequest_demand (apiBase token : String) (straight : '\\' ∉ name.toList)
    (safe : SafeId parentId)
    : (searchRequest apiBase token parentId name).demand apiBase
        = some (.search parentId name) := by
  simp only [Request.demand, searchRequest, readFileUrl_files, List.lookup_cons, beq_self_eq_true,
    Option.bind_some, readSearch_exact straight safe, Option.map_some]

theorem createRequest_demand (apiBase token parentId name : String)
    : (createRequest apiBase token parentId name).demand apiBase
        = some (.create parentId name) := by
  simp [Request.demand, createRequest, readCreation, Json.field, Json.asStr, List.lookup_cons]

theorem parentsRequest_demand (apiBase token : String) (safe : SafeId id)
    : (parentsRequest apiBase token id).demand apiBase = some (.parents id) := by
  simp only [Request.demand, parentsRequest]
  rw [readFileUrl_id apiBase safe "?fields=parents" (by simp)]
  simp

/-- A move from one folder to another. -/
theorem moveRequest_demand (apiBase token name : String) {parent : DriveId} (newParent : DriveId)
    (safe : SafeId id) (from_ : SafeId parent)
    : (renameRequest apiBase token id
        [("addParents", newParent), ("removeParents", parent)] (some name)).demand apiBase
      = some (.update id (some name) (some (newParent, [parent])) none) := by
  have alone : readIds parent = [parent] := by
    have separable : Separable [parent] := by
      intro other member comma
      obtain rfl := List.mem_singleton.mp member
      exact (from_.char comma).2.2.2 rfl
    simpa using readIds_intercalate separable (by simp)
  simp [Request.demand, renameRequest, readUpdate, readFileUrl_bare _ safe, readMove, alone,
    Json.field, Json.asStr, Json.asBool, List.lookup_cons]

/-- A new name without a move. -/
theorem renameRequest_demand (apiBase token name : String) (safe : SafeId id)
    : (renameRequest apiBase token id [] (some name)).demand apiBase
      = some (.update id (some name) none none) := by
  simp [Request.demand, renameRequest, readUpdate, readFileUrl_bare _ safe, readMove, Json.field,
    Json.asStr, Json.asBool, List.lookup_cons]

-----------------------------------------------------------------------------------------
-- Transfers
-----------------------------------------------------------------------------------------

theorem readMetadata_exact (parentId name : String) (existing : Option DriveId)
    : readMetadata (uploadMetadata parentId name existing) existing
      = some (if existing.isSome then "" else parentId, name) := by
  cases existing <;> simp [readMetadata, uploadMetadata, Json.field, Json.asStr, List.lookup_cons]

/-- An upload goes where it was meant to. -/
theorem readFileUrl_upload (uploadBase params : String) (safe : ∀ id ∈ existing, SafeId id)
    (starts : ∀ c ∈ params.toList.head?, c = '?')
    : readFileUrl uploadBase (uploadUrl uploadBase existing params) = some (existing, params) := by
  cases existing with
  | none => exact readFileUrl_none uploadBase params starts
  | some id => exact readFileUrl_id uploadBase (safe id rfl) params starts

theorem formRequest_demand (apiBase uploadBase token parentId name : String)
    (safe : ∀ id ∈ existing, SafeId id) (content : List UInt8)
    : (formRequest uploadBase token parentId name existing content).demand apiBase uploadBase
      = some (.form (if existing.isSome then "" else parentId) name existing content) := by
  have read := readFileUrl_upload uploadBase formParams safe (by simp [formParams])
  cases existing <;>
    simp [Transfer.demand, formRequest, readUpload, read, uploadVerb, readMetadata_exact]

theorem sessionRequest_demand (apiBase uploadBase token parentId name : String)
    (safe : ∀ id ∈ existing, SafeId id)
    : (sessionRequest uploadBase token parentId name existing).demand apiBase uploadBase
      = some (.session (if existing.isSome then "" else parentId) name existing) := by
  have read := readFileUrl_upload uploadBase "?uploadType=resumable" safe (by simp)
  cases existing <;>
    simp [Transfer.demand, sessionRequest, readUpload, read, uploadVerb, readMetadata_exact]

theorem putRequest_demand (apiBase uploadBase uri : String) (contentLength : Nat)
    (blocks : List (List UInt8))
    : (putRequest uri contentLength blocks).demand apiBase uploadBase
      = some (.put uri contentLength blocks.flatten) := rfl

/-- A deletion in the mode of the configuration. -/
theorem deleteRequest_demand (cfg : AdvancedSettings) (token : String) (safe : SafeId id)
    : (deleteRequest cfg token id).demand cfg.apiBase cfg.uploadBase
      = some (if cfg.deleteMode = "permanent" then .remove id else .update id none none (some true))
    := by
  by_cases permanent : cfg.deleteMode = "permanent"
  · simp [Transfer.demand, deleteRequest, permanent, readFileUrl_bare _ safe]
  · have unnamed (existing : Option DriveId)
        : readMetadata (.object [("trashed", .bool true)]) existing = none := by
      simp [readMetadata, Json.field, Json.asStr, List.lookup_cons]
    have other
        : readUpload cfg.uploadBase
            { verb := .patch
              url := cfg.apiBase ++ "/files/" ++ id
              bearer := some token
              body := .json (.object [("trashed", .bool true)]) }
          = none := by
      simp only [readUpload, unnamed]
      cases readFileUrl cfg.uploadBase (cfg.apiBase ++ "/files/" ++ id) <;> simp
    simp [Transfer.demand, deleteRequest, permanent, other, readUpdate, readFileUrl_bare _ safe,
      readMove, Json.field, Json.asStr, Json.asBool, List.lookup_cons]

end Requests

end SyncGDrive
