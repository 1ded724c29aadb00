import SyncGDrive.Local.Disk
import SyncGDrive.Settings.Outcome

/-! The configuration file: what it may say, how it is read and migrated, and what is checked
before the engine starts. The syntax of TOML belongs to the `toml` crate.
-/

namespace SyncGDrive

-----------------------------------------------------------------------------------------
-- Values of a file
-----------------------------------------------------------------------------------------

/-- `toml::Value`. -/
inductive Toml
  | string (text : String)
  | integer (value : Int)
  | float (text : String)
  | boolean (value : Bool)
  | datetime (text : String)
  | array (items : List Toml)
  | table (entries : List (String × Toml))

namespace Toml

def get (key : String) : Toml → Option Toml
  | .table entries => entries.lookup key
  | _ => none

def asStr : Toml → Option String
  | .string text => some text
  | _ => none

def asArray : Toml → Option (List Toml)
  | .array items => some items
  | _ => none

/-- An unsigned integer type of the given width. -/
def unsigned (bits : Nat) : Toml → Except Error Nat
  | .integer value =>
      if 0 ≤ value ∧ value < 2 ^ bits then .ok value.toNat else .error (.msg "invalid value")
  | _ => .error (.msg "invalid type")

def i32 : Toml → Except Error Int
  | .integer value =>
      if -2 ^ 31 ≤ value ∧ value < 2 ^ 31 then .ok value else .error (.msg "invalid value")
  | _ => .error (.msg "invalid type")

def bool : Toml → Except Error Bool
  | .boolean value => .ok value
  | _ => .error (.msg "invalid type")

def str : Toml → Except Error String
  | .string text => .ok text
  | _ => .error (.msg "invalid type")

def list {α : Type} (read : Toml → Except Error α) : Toml → Except Error (List α)
  | .array items => items.mapM read
  | _ => .error (.msg "invalid type")

/-- The entries of a structure with the given fields. The items of an array are fields in their
order, what is beyond them is not looked at; a date-time is a table with one key of the crate.
-/
def struct (fields : List String) : Toml → Except Error (List (String × Toml))
  | .table entries => .ok entries
  | .array items => .ok (fields.zip items)
  | .datetime text => .ok [("$__toml_private_datetime", .string text)]
  | _ => .error (.msg "invalid type")

/-- A field with a default. -/
def field {α : Type} (entries : List (String × Toml)) (key : String)
    (read : Toml → Except Error α) (default : α)
    : Except Error α :=
  match entries.lookup key with
  | some value => read value
  | none => .ok default

/-- A field without one. -/
def required {α : Type} (entries : List (String × Toml)) (key : String)
    (read : Toml → Except Error α)
    : Except Error α :=
  match entries.lookup key with
  | some value => read value
  | none => .error (.msg ("missing field `" ++ key ++ "`"))

end Toml

-----------------------------------------------------------------------------------------
-- Settings
-----------------------------------------------------------------------------------------

/-- `AdvancedConfig`, in full. -/
structure AdvancedSettings where
  debounceMs : Nat := 500
  healthCheckIntervalSecs : Nat := 30
  maxConcurrentLs : Nat := 8
  shutdownTimeoutSecs : Nat := 3
  logRetentionDays : Nat := 7
  engineChannelCapacity : Nat := 1024
  notificationTimeoutMs : Int := 6000
  resumableUploadThreshold : Nat := 5242880
  uploadLimitKbps : Nat := 0
  apiRateLimitRps : Nat := 10
  deleteMode : String := "trash"
  symlinkMode : String := "ignore"
  apiBase : String := "https://www.googleapis.com/drive/v3"
  uploadBase : String := "https://www.googleapis.com/upload/drive/v3"
  chunkThreshold : Nat := 5 * 1024 * 1024
  deriving DecidableEq

/-- `SyncPair`, in full: its path is the text of the file. -/
structure PairSettings where
  name : String
  localPath : String
  remoteFolderId : String := ""
  provider : String := "GoogleDrive"
  active : Bool := true
  ignorePatterns : List String := []
  deriving DecidableEq

/-- `AppConfig`, in full. -/
structure Settings where
  maxWorkers : Nat := 4
  notifications : Bool := false
  rescanIntervalMin : Nat := 30
  retry : RetryConfig := {}
  advanced : AdvancedSettings := {}
  syncPairs : List PairSettings := []
  deriving DecidableEq

def RetryConfig.deserialize (value : Toml) : Except Error RetryConfig := do
  let entries ← value.struct ["max_attempts", "initial_backoff_ms", "max_backoff_ms"]
  return {
    maxAttempts := ← Toml.field entries "max_attempts" (Toml.unsigned 32) 3
    initialBackoffMs := ← Toml.field entries "initial_backoff_ms" (Toml.unsigned 64) 300
    maxBackoffMs := ← Toml.field entries "max_backoff_ms" (Toml.unsigned 64) 8000 }

/-- The fields of `AdvancedConfig`, in their order. -/
def AdvancedSettings.fields : List String :=
  ["debounce_ms", "health_check_interval_secs", "max_concurrent_ls", "shutdown_timeout_secs",
    "log_retention_days", "engine_channel_capacity", "notification_timeout_ms",
    "resumable_upload_threshold", "upload_limit_kbps", "api_rate_limit_rps", "delete_mode",
    "symlink_mode", "api_base", "upload_base", "chunk_threshold"]

def AdvancedSettings.deserialize (value : Toml) : Except Error AdvancedSettings := do
  let entries ← value.struct AdvancedSettings.fields
  return {
    debounceMs := ← Toml.field entries "debounce_ms" (Toml.unsigned 64) 500
    healthCheckIntervalSecs :=
      ← Toml.field entries "health_check_interval_secs" (Toml.unsigned 64) 30
    maxConcurrentLs := ← Toml.field entries "max_concurrent_ls" (Toml.unsigned 64) 8
    shutdownTimeoutSecs := ← Toml.field entries "shutdown_timeout_secs" (Toml.unsigned 64) 3
    logRetentionDays := ← Toml.field entries "log_retention_days" (Toml.unsigned 64) 7
    engineChannelCapacity := ← Toml.field entries "engine_channel_capacity" (Toml.unsigned 64) 1024
    notificationTimeoutMs := ← Toml.field entries "notification_timeout_ms" Toml.i32 6000
    resumableUploadThreshold :=
      ← Toml.field entries "resumable_upload_threshold" (Toml.unsigned 64) 5242880
    uploadLimitKbps := ← Toml.field entries "upload_limit_kbps" (Toml.unsigned 64) 0
    apiRateLimitRps := ← Toml.field entries "api_rate_limit_rps" (Toml.unsigned 32) 10
    deleteMode := ← Toml.field entries "delete_mode" Toml.str "trash"
    symlinkMode := ← Toml.field entries "symlink_mode" Toml.str "ignore"
    apiBase := ← Toml.field entries "api_base" Toml.str "https://www.googleapis.com/drive/v3"
    uploadBase :=
      ← Toml.field entries "upload_base" Toml.str "https://www.googleapis.com/upload/drive/v3"
    chunkThreshold := ← Toml.field entries "chunk_threshold" (Toml.unsigned 64) (5 * 1024 * 1024) }

example
    : AdvancedSettings.deserialize (.array [.integer 500, .integer 0])
      = .ok { debounceMs := 500, healthCheckIntervalSecs := 0 } :=
  rfl

def PairSettings.deserialize (value : Toml) : Except Error PairSettings := do
  let entries ←
    value.struct
      ["name", "local_path", "remote_folder_id", "provider", "active", "ignore_patterns"]
  return {
    name := ← Toml.required entries "name" Toml.str
    localPath := ← Toml.required entries "local_path" Toml.str
    remoteFolderId := ← Toml.field entries "remote_folder_id" Toml.str ""
    provider := ← Toml.field entries "provider" Toml.str "GoogleDrive"
    active := ← Toml.field entries "active" Toml.bool true
    ignorePatterns := ← Toml.field entries "ignore_patterns" (Toml.list Toml.str) [] }

def Settings.deserialize (value : Toml) : Except Error Settings := do
  let entries ←
    value.struct
      ["max_workers", "notifications", "rescan_interval_min", "retry", "advanced", "sync_pairs"]
  return {
    maxWorkers := ← Toml.field entries "max_workers" (Toml.unsigned 64) 4
    notifications := ← Toml.field entries "notifications" Toml.bool false
    rescanIntervalMin := ← Toml.field entries "rescan_interval_min" (Toml.unsigned 64) 30
    retry := ← Toml.field entries "retry" RetryConfig.deserialize {}
    advanced := ← Toml.field entries "advanced" AdvancedSettings.deserialize {}
    syncPairs := ← Toml.field entries "sync_pairs" (Toml.list PairSettings.deserialize) [] }

/-- The first active pair. -/
def Settings.getPrimaryPair (settings : Settings) : Option PairSettings :=
  settings.syncPairs.find? (·.active)

/-- What the engine reads of the settings; a relative path starts at the working directory, and two
spellings of one path are equal.
-/
def Settings.toAppConfig (settings : Settings) (cwd : Path) : AppConfig where
  maxWorkers := settings.maxWorkers
  rescanIntervalMin := settings.rescanIntervalMin
  retry := settings.retry
  advanced := { debounceMs := settings.advanced.debounceMs }
  syncPairs :=
    settings.syncPairs.map (fun pair =>
      ⟨cwd.resolve pair.localPath, pair.remoteFolderId, pair.active, pair.ignorePatterns⟩)

/-- The engine takes the same pair for the primary one. -/
theorem Settings.toAppConfig_primary (settings : Settings) (cwd : Path)
    : (settings.toAppConfig cwd).getPrimaryPair
      = settings.getPrimaryPair.map (fun pair =>
          ⟨cwd.resolve pair.localPath, pair.remoteFolderId, pair.active, pair.ignorePatterns⟩) := by
  simp only [AppConfig.getPrimaryPair, toAppConfig, getPrimaryPair, List.find?_map]
  rfl

-----------------------------------------------------------------------------------------
-- Validation
-----------------------------------------------------------------------------------------

inductive ConfigError
  | noPairsConfigured
  | pairNameEmpty (index : Nat)
  | pairLocalEmpty (index : Nat)
  | pairLocalMissing (index : Nat) (path : String)
  | invalidAdvanced (message : String)
  deriving DecidableEq

def ConfigError.display : ConfigError → String
  | .noPairsConfigured =>
      "aucune paire de synchronisation n'est configurée — ouvrez les réglages"
  | .pairNameEmpty index => "la paire #" ++ toString index ++ " a un nom vide"
  | .pairLocalEmpty index => "la paire #" ++ toString index ++ " a un chemin local vide"
  | .pairLocalMissing index path =>
      "la paire #" ++ toString index ++ " a un chemin local '" ++ path
        ++ "' qui n'existe pas ou n'est pas un répertoire"
  | .invalidAdvanced message => "configuration avancée invalide: " ++ message

/-- `AdvancedConfig::validate`. -/
def AdvancedSettings.validate (advanced : AdvancedSettings) : Except ConfigError Unit :=
  if advanced.engineChannelCapacity = 0 then
    .error (.invalidAdvanced "engine_channel_capacity doit être > 0")
  else if advanced.maxConcurrentLs = 0 then
    .error (.invalidAdvanced "max_concurrent_ls doit être > 0")
  else if advanced.apiRateLimitRps = 0 then
    .error (.invalidAdvanced "api_rate_limit_rps doit être > 0")
  else .ok ()

/-- `char::is_whitespace`. -/
def isWhitespace (char : Char) : Bool :=
  let code := char.toNat
  (0x9 ≤ code && code ≤ 0xD) || code = 0x20 || code = 0x85 || code = 0xA0 || code = 0x1680
    || (0x2000 ≤ code && code ≤ 0x200A) || code = 0x2028 || code = 0x2029 || code = 0x202F
    || code = 0x205F || code = 0x3000

/-- Nothing remains of the text once it is trimmed. -/
def isBlank (text : String) : Bool := text.toList.all isWhitespace

/-- The checks on one pair. -/
def PairSettings.validate (cwd : Path) (disk : Disk) (index : Nat) (pair : PairSettings)
    : Except ConfigError Unit :=
  if isBlank pair.name then .error (.pairNameEmpty index)
  else if pair.localPath = "" then .error (.pairLocalEmpty index)
  else if pair.active && !disk.isDir (cwd.resolve pair.localPath) then
    .error (.pairLocalMissing index pair.localPath)
  else .ok ()

/-- `AppConfig::validate`. -/
def Settings.validate (cwd : Path) (disk : Disk) (settings : Settings)
    : Except ConfigError Unit := do
  settings.advanced.validate
  if settings.syncPairs = [] then throw .noPairsConfigured
  settings.syncPairs.zipIdx.forM (fun (pair, index) => pair.validate cwd disk index)

-----------------------------------------------------------------------------------------
-- Loading
-----------------------------------------------------------------------------------------

/-- `PathBuf::join`, on texts. -/
def joinText (base text : String) : String :=
  if text.toList.head? = some '/' then text
  else if base = "" ∨ base.toList.getLast? = some '/' then base ++ text
  else base ++ "/" ++ text

/-- `expand_tilde`: what follows the first two bytes is joined to the home directory. The
slice panics when there are fewer.
-/
def expandTilde (home : Option String) (path : String) : Outcome String :=
  if "~/".toList.isPrefixOf path.toList ∨ path = "~" then
    if path.utf8ByteSize < 2 then .panicked
    else .done (joinText (home.getD ".") (String.ofList (path.toList.drop 2)))
  else .done path

/-- The expansion of one pair's path. -/
def PairSettings.expandTilde (home : Option String) (pair : PairSettings)
    : Outcome PairSettings := do
  let localPath ← SyncGDrive.expandTilde home pair.localPath
  return { pair with localPath }

/-- `expand_tildes`. -/
def Settings.expandTildes (home : Option String) (settings : Settings) : Outcome Settings := do
  let syncPairs ← settings.syncPairs.mapM (PairSettings.expandTilde home)
  return { settings with syncPairs }

/-- `parse_and_migrate`, with the crate's reading of the text. A file of the first version has
no pairs, but a local root.
-/
def parseAndMigrate (toml : String → Except Error Toml) (raw : String)
    : Except Error (Settings × Bool) := do
  let value ← (toml raw).mapError (Error.context "Fichier TOML invalide")
  let hasV2Pairs := ((value.get "sync_pairs").bind Toml.asArray).any (fun items => !items.isEmpty)
  let settings ← Settings.deserialize value
  if hasV2Pairs then return (settings, false)
  match (value.get "local_root").bind Toml.asStr with
  | some localRoot =>
      if isBlank localRoot then return (settings, false)
      let remoteFolderId := ((value.get "remote_root").bind Toml.asStr).getD ""
      return ({ settings with
        syncPairs :=
          settings.syncPairs
            ++ [{ name := "Sync principal", localPath := localRoot, remoteFolderId }] }, true)
  | none => return (settings, false)

/-- `load_from_path`, for a file that is there and reads so. A migrated file is saved, with a
backup; `saved` tells how that ends.
-/
def loadFromPath (toml : String → Except Error Toml) (home : Option String)
    (saved : Except Error Unit) (raw : String)
    : Outcome Settings := do
  let (settings, migrated) ← Outcome.ofExcept (parseAndMigrate toml raw)
  if migrated then Outcome.ofExcept saved
  settings.expandTildes home

end SyncGDrive
