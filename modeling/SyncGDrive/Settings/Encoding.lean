import Mathlib.Data.List.Forall2
import SyncGDrive.Settings.File

/-! The settings as they are written to the configuration file, and that they are read back from it.
The syntax of TOML still belongs to the `toml` crate, which may put the keys of a table in another
order.
-/

namespace SyncGDrive

-----------------------------------------------------------------------------------------
-- Values
-----------------------------------------------------------------------------------------

namespace Toml

/-- The integers of the crate have 64 bits, and a table has each of its keys once. Floats and dates
are of the given texts.
-/
inductive Within (literal : String → Prop) : Toml → Prop
  | string {text : String} : Within literal (.string text)
  | integer {value : Int} : -2 ^ 63 ≤ value → value < 2 ^ 63 → Within literal (.integer value)
  | float {text : String} : literal text → Within literal (.float text)
  | boolean {value : Bool} : Within literal (.boolean value)
  | datetime {text : String} : literal text → Within literal (.datetime text)
  | array {items : List Toml}
      : (∀ item ∈ items, Within literal item) → Within literal (.array items)
  | table {entries : List (String × Toml)}
      : (entries.map Prod.fst).Nodup
        → (∀ entry ∈ entries, Within literal entry.2)
        → Within literal (.table entries)

/-- Two values that tell the same, whatever the order of their keys. -/
inductive Alike : Toml → Toml → Prop
  | string {text : String} : Alike (.string text) (.string text)
  | integer {value : Int} : Alike (.integer value) (.integer value)
  | float {text : String} : Alike (.float text) (.float text)
  | boolean {value : Bool} : Alike (.boolean value) (.boolean value)
  | datetime {text : String} : Alike (.datetime text) (.datetime text)
  | array {items others : List Toml}
      : List.Forall₂ Alike items others → Alike (.array items) (.array others)
  | table {entries others : List (String × Toml)}
      : (∀ key, Option.Rel Alike (entries.lookup key) (others.lookup key))
        → Alike (.table entries) (.table others)

theorem mem_of_lookup {key : String} {value : Toml} {entries : List (String × Toml)}
    (found : entries.lookup key = some value)
    : (key, value) ∈ entries := by
  induction entries with
  | nil => cases found
  | cons entry entries ih =>
      obtain ⟨other, held⟩ := entry
      rw [List.lookup_cons] at found
      by_cases same : key = other
      · subst same
        simp only [beq_self_eq_true, Option.some.injEq] at found
        simp [found]
      · rw [show (key == other) = false by simpa using same] at found
        exact List.mem_cons_of_mem _ (ih found)

/-- A value is like itself, by recursion on it. -/
theorem alike_refl : (value : Toml) → value.Alike value
  | .string _ => .string
  | .integer _ => .integer
  | .float _ => .float
  | .boolean _ => .boolean
  | .datetime _ => .datetime
  | .array items => by
      apply Alike.array
      apply List.forall₂_same.mpr
      intro item mem
      have smaller := List.sizeOf_lt_of_mem mem
      exact alike_refl item
  | .table entries => by
      apply Alike.table
      intro key
      cases found : entries.lookup key with
      | none => exact .none
      | some held =>
          have smaller : SizeOf.sizeOf held < SizeOf.sizeOf entries := by
            have inside := List.sizeOf_lt_of_mem (mem_of_lookup found)
            simp only [Prod.mk.sizeOf_spec] at inside
            omega
          exact .some (alike_refl held)
termination_by value => SizeOf.sizeOf value

/-- The decoder gives a value of whatever is like what was written. -/
def Decodes {α : Type} (read : Toml → Except Error α) (written : Toml) (value : α) : Prop :=
  ∀ other, other.Alike written → read other = .ok value

section Decoding

variable {α : Type} {read : Toml → Except Error α} {entries others : List (String × Toml)}

theorem decodes_unsigned {bits value : Nat} (fits : value < 2 ^ bits)
    : Decodes (unsigned bits) (.integer value) value := by
  intro other alike
  cases alike
  have small : (value : Int) < 2 ^ bits := by exact_mod_cast fits
  simp [unsigned, small]

theorem decodes_i32 {value : Int} (fits : -2 ^ 31 ≤ value ∧ value < 2 ^ 31)
    : Decodes i32 (.integer value) value := by
  intro other alike
  cases alike
  simp only [i32, if_pos fits]

theorem decodes_bool (value : Bool) : Decodes bool (.boolean value) value := by
  intro other alike
  cases alike
  rfl

theorem decodes_str (text : String) : Decodes str (.string text) text := by
  intro other alike
  cases alike
  rfl

/-- A list is read item by item, by induction on what was written. -/
theorem decodes_list {write : α → Toml} {values : List α}
    (each : ∀ value ∈ values, Decodes read (write value) value)
    : Decodes (list read) (.array (values.map write)) values := by
  intro other alike
  cases alike with
  | @array items _ same =>
      have through : items.mapM read = .ok values := by
        induction values generalizing items with
        | nil =>
            cases same
            rfl
        | cons value values ih =>
            cases same with
            | @cons item _ items _ first rest =>
                have head := each value (List.mem_cons_self ..) item first
                have tail := ih (fun value mem => each value (List.mem_cons_of_mem _ mem)) rest
                rw [List.mapM_cons, head, tail]
                rfl
      exact through

/-- Such a value is a table too. -/
theorem table_of_alike {other : Toml} (alike : other.Alike (table entries))
    : ∃ others, other = table others ∧ (table others).Alike (table entries) := by
  cases alike with
  | table same => exact ⟨_, rfl, .table same⟩

/-- What a key leads to is alike. -/
theorem lookup_of_alike {key : String} {written : Toml}
    (alike : (table others).Alike (table entries)) (found : entries.lookup key = some written)
    : ∃ other, others.lookup key = some other ∧ other.Alike written := by
  cases alike with
  | table same =>
      have here := same key
      rw [found] at here
      cases there : others.lookup key with
      | none =>
          rw [there] at here
          cases here
      | some other =>
          rw [there] at here
          cases here with
          | some like => exact ⟨other, rfl, like⟩

/-- A field that was written is read, and its default does not matter. -/
theorem field_of_alike (key : String) {written : Toml} {value default : α}
    (alike : (table others).Alike (table entries)) (found : entries.lookup key = some written)
    (decodes : Decodes read written value)
    : field others key read default = .ok value := by
  obtain ⟨other, there, like⟩ := lookup_of_alike alike found
  simp only [field, there, decodes other like]

theorem required_of_alike (key : String) {written : Toml} {value : α}
    (alike : (table others).Alike (table entries)) (found : entries.lookup key = some written)
    (decodes : Decodes read written value)
    : required others key read = .ok value := by
  obtain ⟨other, there, like⟩ := lookup_of_alike alike found
  simp only [required, there, decodes other like]

end Decoding

end Toml

-----------------------------------------------------------------------------------------
-- Settings
-----------------------------------------------------------------------------------------

def RetryConfig.serialize (retry : RetryConfig) : Toml :=
  .table
    [("max_attempts", .integer retry.maxAttempts),
      ("initial_backoff_ms", .integer retry.initialBackoffMs),
      ("max_backoff_ms", .integer retry.maxBackoffMs)]

def AdvancedSettings.serialize (advanced : AdvancedSettings) : Toml :=
  .table
    [("debounce_ms", .integer advanced.debounceMs),
      ("health_check_interval_secs", .integer advanced.healthCheckIntervalSecs),
      ("max_concurrent_ls", .integer advanced.maxConcurrentLs),
      ("shutdown_timeout_secs", .integer advanced.shutdownTimeoutSecs),
      ("log_retention_days", .integer advanced.logRetentionDays),
      ("engine_channel_capacity", .integer advanced.engineChannelCapacity),
      ("notification_timeout_ms", .integer advanced.notificationTimeoutMs),
      ("resumable_upload_threshold", .integer advanced.resumableUploadThreshold),
      ("upload_limit_kbps", .integer advanced.uploadLimitKbps),
      ("api_rate_limit_rps", .integer advanced.apiRateLimitRps),
      ("delete_mode", .string advanced.deleteMode),
      ("symlink_mode", .string advanced.symlinkMode),
      ("api_base", .string advanced.apiBase),
      ("upload_base", .string advanced.uploadBase),
      ("chunk_threshold", .integer advanced.chunkThreshold)]

def PairSettings.serialize (pair : PairSettings) : Toml :=
  .table
    [("name", .string pair.name),
      ("local_path", .string pair.localPath),
      ("remote_folder_id", .string pair.remoteFolderId),
      ("provider", .string pair.provider),
      ("active", .boolean pair.active),
      ("ignore_patterns", .array (pair.ignorePatterns.map .string))]

def Settings.entries (settings : Settings) : List (String × Toml) :=
  [("max_workers", .integer settings.maxWorkers),
    ("notifications", .boolean settings.notifications),
    ("rescan_interval_min", .integer settings.rescanIntervalMin),
    ("retry", settings.retry.serialize),
    ("advanced", settings.advanced.serialize),
    ("sync_pairs", .array (settings.syncPairs.map PairSettings.serialize))]

def Settings.serialize (settings : Settings) : Toml := .table settings.entries

-----------------------------------------------------------------------------------------
-- What is written is read back
-----------------------------------------------------------------------------------------

/-- A number that both its own type and an integer of the file can hold. -/
def Writable (bits value : Nat) : Prop := value < 2 ^ bits ∧ value < 2 ^ 63

instance (bits value : Nat) : Decidable (Writable bits value) :=
  inferInstanceAs (Decidable (value < 2 ^ bits ∧ value < 2 ^ 63))

structure RetryConfig.InRange (retry : RetryConfig) : Prop where
  maxAttempts : Writable 32 retry.maxAttempts
  initialBackoffMs : Writable 64 retry.initialBackoffMs
  maxBackoffMs : Writable 64 retry.maxBackoffMs

structure AdvancedSettings.InRange (advanced : AdvancedSettings) : Prop where
  debounceMs : Writable 64 advanced.debounceMs
  healthCheckIntervalSecs : Writable 64 advanced.healthCheckIntervalSecs
  maxConcurrentLs : Writable 64 advanced.maxConcurrentLs
  shutdownTimeoutSecs : Writable 64 advanced.shutdownTimeoutSecs
  logRetentionDays : Writable 64 advanced.logRetentionDays
  engineChannelCapacity : Writable 64 advanced.engineChannelCapacity
  notificationTimeoutMs
    : -2 ^ 31 ≤ advanced.notificationTimeoutMs ∧ advanced.notificationTimeoutMs < 2 ^ 31
  resumableUploadThreshold : Writable 64 advanced.resumableUploadThreshold
  uploadLimitKbps : Writable 64 advanced.uploadLimitKbps
  apiRateLimitRps : Writable 32 advanced.apiRateLimitRps
  chunkThreshold : Writable 64 advanced.chunkThreshold

/-- Every number of the settings is one that a file can hold. -/
structure Settings.InRange (settings : Settings) : Prop where
  maxWorkers : Writable 64 settings.maxWorkers
  rescanIntervalMin : Writable 64 settings.rescanIntervalMin
  retry : settings.retry.InRange
  advanced : settings.advanced.InRange

open Toml

theorem RetryConfig.decodes {retry : RetryConfig} (inRange : retry.InRange)
    : Decodes RetryConfig.deserialize retry.serialize retry := by
  intro other alike
  obtain ⟨others, rfl, alike⟩ := table_of_alike alike
  simp only [RetryConfig.deserialize, struct, bind, Except.bind,
    field_of_alike "max_attempts" alike rfl (decodes_unsigned inRange.maxAttempts.1),
    field_of_alike "initial_backoff_ms" alike rfl (decodes_unsigned inRange.initialBackoffMs.1),
    field_of_alike "max_backoff_ms" alike rfl (decodes_unsigned inRange.maxBackoffMs.1)]
  rfl

theorem AdvancedSettings.decodes {advanced : AdvancedSettings} (inRange : advanced.InRange)
    : Decodes AdvancedSettings.deserialize advanced.serialize advanced := by
  intro other alike
  obtain ⟨others, rfl, alike⟩ := table_of_alike alike
  simp only [AdvancedSettings.deserialize, struct, bind, Except.bind,
    field_of_alike "debounce_ms" alike rfl (decodes_unsigned inRange.debounceMs.1),
    field_of_alike "health_check_interval_secs" alike rfl
      (decodes_unsigned inRange.healthCheckIntervalSecs.1),
    field_of_alike "max_concurrent_ls" alike rfl (decodes_unsigned inRange.maxConcurrentLs.1),
    field_of_alike "shutdown_timeout_secs" alike rfl
      (decodes_unsigned inRange.shutdownTimeoutSecs.1),
    field_of_alike "log_retention_days" alike rfl (decodes_unsigned inRange.logRetentionDays.1),
    field_of_alike "engine_channel_capacity" alike rfl
      (decodes_unsigned inRange.engineChannelCapacity.1),
    field_of_alike "notification_timeout_ms" alike rfl (decodes_i32 inRange.notificationTimeoutMs),
    field_of_alike "resumable_upload_threshold" alike rfl
      (decodes_unsigned inRange.resumableUploadThreshold.1),
    field_of_alike "upload_limit_kbps" alike rfl (decodes_unsigned inRange.uploadLimitKbps.1),
    field_of_alike "api_rate_limit_rps" alike rfl (decodes_unsigned inRange.apiRateLimitRps.1),
    field_of_alike "delete_mode" alike rfl (decodes_str advanced.deleteMode),
    field_of_alike "symlink_mode" alike rfl (decodes_str advanced.symlinkMode),
    field_of_alike "api_base" alike rfl (decodes_str advanced.apiBase),
    field_of_alike "upload_base" alike rfl
      (decodes_str advanced.uploadBase),
    field_of_alike "chunk_threshold" alike rfl (decodes_unsigned inRange.chunkThreshold.1)]
  rfl

theorem PairSettings.decodes (pair : PairSettings)
    : Decodes PairSettings.deserialize pair.serialize pair := by
  intro other alike
  obtain ⟨others, rfl, alike⟩ := table_of_alike alike
  simp only [PairSettings.deserialize, struct, bind, Except.bind,
    required_of_alike "name" alike rfl (decodes_str pair.name),
    required_of_alike "local_path" alike rfl (decodes_str pair.localPath),
    field_of_alike "remote_folder_id" alike rfl (decodes_str pair.remoteFolderId),
    field_of_alike "provider" alike rfl (decodes_str pair.provider),
    field_of_alike "active" alike rfl (decodes_bool pair.active),
    field_of_alike "ignore_patterns" alike rfl
      (decodes_list (fun pattern (_ : pattern ∈ pair.ignorePatterns) => decodes_str pattern))]
  rfl

/-- What is written of settings is read back as those settings. -/
theorem Settings.decodes {settings : Settings} (inRange : settings.InRange)
    : Decodes Settings.deserialize settings.serialize settings := by
  intro other alike
  obtain ⟨others, rfl, alike⟩ := table_of_alike alike
  simp only [Settings.deserialize, struct, bind, Except.bind,
    field_of_alike "max_workers" alike rfl (decodes_unsigned inRange.maxWorkers.1),
    field_of_alike "notifications" alike rfl (decodes_bool settings.notifications),
    field_of_alike "rescan_interval_min" alike rfl (decodes_unsigned inRange.rescanIntervalMin.1),
    field_of_alike "retry" alike rfl (RetryConfig.decodes inRange.retry),
    field_of_alike "advanced" alike rfl (AdvancedSettings.decodes inRange.advanced),
    field_of_alike "sync_pairs" alike rfl
      (decodes_list (fun pair (_ : pair ∈ settings.syncPairs) => pair.decodes))]
  rfl

-----------------------------------------------------------------------------------------
-- What is written is a value of the crate
-----------------------------------------------------------------------------------------

variable {literal : String → Prop}

theorem within_unsigned {bits value : Nat} (fits : Writable bits value)
    : Within literal (.integer value) := by
  apply Within.integer
  · omega
  · exact_mod_cast fits.2

/-- A table with known keys, as one looks at its entries one by one. -/
theorem within_entries {entries : List (String × Toml)} (keys : (entries.map Prod.fst).Nodup)
    (each : entries.Forall (fun entry => Within literal entry.2))
    : Within literal (.table entries) :=
  .table keys (List.forall_iff_forall_mem.mp each)

theorem RetryConfig.serialize_within {retry : RetryConfig} (inRange : retry.InRange)
    : Within literal retry.serialize := by
  apply within_entries (by simp)
  exact ⟨within_unsigned inRange.maxAttempts, within_unsigned inRange.initialBackoffMs,
    within_unsigned inRange.maxBackoffMs⟩

theorem AdvancedSettings.serialize_within {advanced : AdvancedSettings}
    (inRange : advanced.InRange)
    : Within literal advanced.serialize := by
  have timeout : Within literal (.integer advanced.notificationTimeoutMs) := by
    obtain ⟨lower, upper⟩ := inRange.notificationTimeoutMs
    exact .integer (by omega) (by omega)
  apply within_entries (by simp)
  exact ⟨within_unsigned inRange.debounceMs, within_unsigned inRange.healthCheckIntervalSecs,
    within_unsigned inRange.maxConcurrentLs, within_unsigned inRange.shutdownTimeoutSecs,
    within_unsigned inRange.logRetentionDays, within_unsigned inRange.engineChannelCapacity,
    timeout, within_unsigned inRange.resumableUploadThreshold,
    within_unsigned inRange.uploadLimitKbps, within_unsigned inRange.apiRateLimitRps,
    .string, .string, .string, .string, within_unsigned inRange.chunkThreshold⟩

theorem PairSettings.serialize_within (pair : PairSettings) : Within literal pair.serialize := by
  have patterns : Within literal (.array (pair.ignorePatterns.map .string)) := by
    apply Within.array
    intro item mem
    obtain ⟨pattern, -, rfl⟩ := List.mem_map.mp mem
    exact .string
  apply within_entries (by simp)
  exact ⟨.string, .string, .string, .string, .boolean, patterns⟩

/-- What is written of settings has no number that the file cannot hold. -/
theorem Settings.serialize_within {settings : Settings} (inRange : settings.InRange)
    : Within literal settings.serialize := by
  have pairs : Within literal (.array (settings.syncPairs.map PairSettings.serialize)) := by
    apply Within.array
    intro item mem
    obtain ⟨pair, -, rfl⟩ := List.mem_map.mp mem
    exact pair.serialize_within
  apply within_entries (by simp [entries])
  exact ⟨within_unsigned inRange.maxWorkers, .boolean, within_unsigned inRange.rescanIntervalMin,
    RetryConfig.serialize_within inRange.retry,
    AdvancedSettings.serialize_within inRange.advanced, pairs⟩

-----------------------------------------------------------------------------------------
-- What is read can be written
-----------------------------------------------------------------------------------------

/-- A sequence of readings is through when both its parts are. -/
theorem reading_eq_ok {α β : Type} {first : Except Error α} {rest : α → Except Error β} {last : β}
    : first >>= rest = .ok last ↔ ∃ middle, first = .ok middle ∧ rest middle = .ok last := by
  cases first <;> simp [bind, Except.bind]

/-- What holds of a default and of whatever is read holds of a field. -/
theorem field_satisfies {α : Type} {read : Toml → Except Error α} {key : String}
    {default value : α} {entries : List (String × Toml)} {post : α → Prop}
    (done : field entries key read default = .ok value)
    (within : ∀ entry ∈ entries, Within literal entry.2) (absent : post default)
    (present : ∀ held, Within literal held → read held = .ok value → post value)
    : post value := by
  unfold field at done
  cases found : entries.lookup key with
  | none =>
      rw [found] at done
      cases done
      exact absent
  | some held =>
      rw [found] at done
      exact present held (within _ (mem_of_lookup found)) done

theorem unsigned_writable {bits value : Nat} {held : Toml} (within : Within literal held)
    (done : unsigned bits held = .ok value)
    : Writable bits value := by
  cases within with
  | @integer number _ upper =>
      by_cases range : 0 ≤ number ∧ number < 2 ^ bits
      · simp only [unsigned, if_pos range, Except.ok.injEq] at done
        have same : (value : Int) = number := done ▸ Int.toNat_of_nonneg range.1
        constructor
        · exact_mod_cast same ▸ range.2
        · exact_mod_cast same ▸ upper
      · simp only [unsigned, if_neg range] at done
        cases done
  | _ => cases done

/-- The fields of an unsigned type, one after another. -/
theorem field_writable {key : String} {bits default value : Nat} {entries : List (String × Toml)}
    (within : ∀ entry ∈ entries, Within literal entry.2)
    (done : field entries key (unsigned bits) default = .ok value)
    (absent : Writable bits default)
    : Writable bits value :=
  field_satisfies done within absent (fun _ => unsigned_writable)

theorem i32_inRange {value : Int} {held : Toml} (done : i32 held = .ok value)
    : -2 ^ 31 ≤ value ∧ value < 2 ^ 31 := by
  cases held with
  | integer number =>
      by_cases range : -2 ^ 31 ≤ number ∧ number < 2 ^ 31
      · simp only [i32, if_pos range, Except.ok.injEq] at done
        exact done ▸ range
      · simp only [i32, if_neg range] at done
        cases done
  | _ => cases done

theorem field_i32 {key : String} {default value : Int} {entries : List (String × Toml)}
    (within : ∀ entry ∈ entries, Within literal entry.2)
    (done : field entries key i32 default = .ok value)
    (absent : -2 ^ 31 ≤ default ∧ default < 2 ^ 31)
    : -2 ^ 31 ≤ value ∧ value < 2 ^ 31 :=
  @field_satisfies _ _ _ _ _ _ _ (fun number => -2 ^ 31 ≤ number ∧ number < 2 ^ 31) done within
    absent (fun _ _ => i32_inRange)

/-- The fields of a structure are parts of its value. -/
theorem struct_within {fields : List String} {value : Toml} {entries : List (String × Toml)}
    (within : Within literal value) (done : value.struct fields = .ok entries)
    : ∀ entry ∈ entries, Within literal entry.2 := by
  cases within with
  | table _ each =>
      cases done
      exact each
  | array each =>
      cases done
      intro entry mem
      exact each entry.2 (List.of_mem_zip mem).2
  | datetime =>
      cases done
      intro entry mem
      obtain rfl := List.mem_singleton.mp mem
      exact .string
  | _ => cases done

theorem RetryConfig.deserialize_inRange {retry : RetryConfig} {value : Toml}
    (within : Within literal value) (done : RetryConfig.deserialize value = .ok retry)
    : retry.InRange := by
  simp only [RetryConfig.deserialize, reading_eq_ok] at done
  obtain ⟨entries, split, attempts, first, initial, second, maximal, third, done⟩ := done
  cases done
  have within := struct_within within split
  exact ⟨field_writable within first (by decide), field_writable within second (by decide),
    field_writable within third (by decide)⟩

theorem AdvancedSettings.deserialize_inRange {advanced : AdvancedSettings} {value : Toml}
    (within : Within literal value) (done : AdvancedSettings.deserialize value = .ok advanced)
    : advanced.InRange := by
  simp only [AdvancedSettings.deserialize, reading_eq_ok] at done
  obtain ⟨entries, split, debounce, debounceRead, health, healthRead, ls, lsRead, shutdown,
    shutdownRead, retention, retentionRead, capacity, capacityRead, timeout, timeoutRead,
    threshold, thresholdRead, limit, limitRead, rate, rateRead, delete, -, symlink, -, api, -,
    upload, -, chunk, chunkRead, done⟩ := done
  cases done
  have within := struct_within within split
  exact {
    debounceMs := field_writable within debounceRead (by decide)
    healthCheckIntervalSecs := field_writable within healthRead (by decide)
    maxConcurrentLs := field_writable within lsRead (by decide)
    shutdownTimeoutSecs := field_writable within shutdownRead (by decide)
    logRetentionDays := field_writable within retentionRead (by decide)
    engineChannelCapacity := field_writable within capacityRead (by decide)
    notificationTimeoutMs := field_i32 within timeoutRead (by decide)
    resumableUploadThreshold := field_writable within thresholdRead (by decide)
    uploadLimitKbps := field_writable within limitRead (by decide)
    apiRateLimitRps := field_writable within rateRead (by decide)
    chunkThreshold := field_writable within chunkRead (by decide) }

theorem RetryConfig.default_inRange : RetryConfig.InRange {} :=
  ⟨by decide, by decide, by decide⟩

theorem AdvancedSettings.default_inRange : AdvancedSettings.InRange {} := by
  constructor <;> decide

/-- Settings that were read from a file can be written to one. -/
theorem Settings.deserialize_inRange {settings : Settings} {value : Toml}
    (within : Within literal value) (done : Settings.deserialize value = .ok settings)
    : settings.InRange := by
  simp only [Settings.deserialize, reading_eq_ok] at done
  obtain ⟨entries, split, workers, workersRead, notifications, -, rescan, rescanRead, retry,
    retryRead, advanced, advancedRead, pairs, -, done⟩ := done
  cases done
  have within := struct_within within split
  exact {
    maxWorkers := field_writable within workersRead (by decide)
    rescanIntervalMin := field_writable within rescanRead (by decide)
    retry :=
      field_satisfies retryRead within RetryConfig.default_inRange
        (fun _ => RetryConfig.deserialize_inRange)
    advanced :=
      field_satisfies advancedRead within AdvancedSettings.default_inRange
        (fun _ => AdvancedSettings.deserialize_inRange) }

end SyncGDrive
