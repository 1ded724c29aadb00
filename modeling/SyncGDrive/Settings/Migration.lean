import SyncGDrive.Settings.Encoding
import SyncGDrive.Settings.Exclusions
import SyncGDrive.Settings.Startup

/-! The migration of a file of the first version: what the new configuration keeps of it, when it
is saved, and when it is loaded again.
-/

namespace SyncGDrive

-----------------------------------------------------------------------------------------
-- Files of the first version
-----------------------------------------------------------------------------------------

/-- The patterns of a file of the first version, which has one list for its one folder. -/
def Toml.v1IgnorePatterns (value : Toml) : List String :=
  (((value.get "ignore_patterns").bind Toml.asArray).bind (List.mapM Toml.asStr)).getD []

/-- The remote root of such a file, if it has one. -/
def Toml.v1RemoteRoot (value : Toml) : String :=
  ((value.get "remote_root").bind Toml.asStr).getD ""

/-- A file of the first version: there are no pairs, but a local root. -/
structure Toml.FirstVersion (value : Toml) (localRoot : String) : Prop where
  root : (value.get "local_root").bind Toml.asStr = some localRoot
  written : isBlank localRoot = false
  pairless : value.get "sync_pairs" = none

/-- The patterns compile, and what they give ignores the path. -/
def Excludes (patterns : List String) (path : Path) (isDir : Bool) : Prop :=
  ∃ ignore, IgnoreMatcher.fromPatterns patterns = .ok ignore ∧ ignore.isIgnored path isDir = true

/-- No patterns exclude nothing. -/
theorem not_excludes_nil (path : Path) (isDir : Bool) : ¬ Excludes [] path isDir := by
  intro ⟨ignore, compiled, ignored⟩
  cases compiled
  simp [IgnoreMatcher.isIgnored] at ignored

-----------------------------------------------------------------------------------------
-- Saving
-----------------------------------------------------------------------------------------

/-- `save_to_path`, up to the text that is put into the file. -/
def Settings.saveToPath (print : Toml → Except Error String) (settings : Settings)
    : Except Error String :=
  (print settings.serialize).mapError (Error.context "Erreur sérialisation V2")

/-- The crate prints a value without floats and dates as a text that it reads as the same value,
whatever the order of the keys.
-/
def PrintsBack (toml : String → Except Error Toml) (print : Toml → Except Error String)
    (value : Toml)
    : Prop :=
  value.Within (fun _ => False)
    → ∃ text other, print value = .ok text ∧ toml text = .ok other ∧ other.Alike value

variable {toml : String → Except Error Toml} {print : Toml → Except Error String}
  {home : Option String} {raw localRoot : String} {value : Toml} {cfg : Settings} {migrated : Bool}

/-- The detector of the format recognises what the encoder writes. -/
theorem parseAndMigrate_alike {text : String} {other : Toml} (read : toml text = .ok other)
    (alike : other.Alike cfg.serialize) (inRange : cfg.InRange) (paired : cfg.syncPairs ≠ [])
    : parseAndMigrate toml text = .ok (cfg, false) := by
  have decoded := Settings.decodes inRange other alike
  obtain ⟨others, rfl, alike⟩ := Toml.table_of_alike alike
  obtain ⟨held, found, pairs⟩ := @Toml.lookup_of_alike _ _ "sync_pairs" _ alike rfl
  cases pairs with
  | @array items _ same =>
      have occupied : items.isEmpty = false := by
        obtain ⟨pair, rest, split⟩ := List.exists_cons_of_ne_nil paired
        rw [split, List.map_cons] at same
        cases same
        rfl
      have recognised
          : (((Toml.table others).get "sync_pairs").bind Toml.asArray).any
              (fun items => !items.isEmpty) = true := by
        simp [Toml.get, found, Toml.asArray, occupied]
      simp [parseAndMigrate, read, Except.mapError, bind, Except.bind, decoded, recognised, pure,
        Except.pure]

-----------------------------------------------------------------------------------------
-- Migration
-----------------------------------------------------------------------------------------

/-- The pair that a migration adds. -/
def Toml.v1Pair (value : Toml) (localRoot : String) : PairSettings :=
  { name := "Sync principal", localPath := localRoot, remoteFolderId := value.v1RemoteRoot }

theorem Toml.FirstVersion.deserialize_syncPairs {settings : Settings}
    (first : value.FirstVersion localRoot) (done : Settings.deserialize value = .ok settings)
    : settings.syncPairs = [] := by
  simp only [Settings.deserialize, reading_eq_ok] at done
  obtain ⟨entries, split, workers, -, notifications, -, rescan, -, retry, -, advanced, -, pairs,
    pairsRead, done⟩ := done
  cases done
  have absent : entries.lookup "sync_pairs" = none := by
    cases value with
    | table _ =>
        cases split
        exact first.pairless
    | _ => cases first.root
  simp only [Toml.field, absent, Except.ok.injEq] at pairsRead
  exact pairsRead.symm

/-- What the migration makes of an accepted file: the rest of the settings, and its one pair. -/
theorem Toml.FirstVersion.migrates (first : value.FirstVersion localRoot)
    (read : toml raw = .ok value) (accepted : parseAndMigrate toml raw = .ok (cfg, migrated))
    : migrated = true ∧ cfg.syncPairs = [value.v1Pair localRoot]
      ∧ ∃ settings, Settings.deserialize value = .ok settings
        ∧ cfg = { settings with syncPairs := cfg.syncPairs } := by
  simp only [parseAndMigrate, read, Except.mapError, bind, Except.bind, first.pairless,
    Option.bind_none, Option.any_none, first.root, first.written] at accepted
  cases decoded : Settings.deserialize value with
  | error error => simp [decoded] at accepted
  | ok settings =>
      simp only [decoded, Bool.false_eq_true, if_false, pure, Except.pure, Except.ok.injEq,
        Prod.mk.injEq, first.deserialize_syncPairs decoded, List.nil_append] at accepted
      obtain ⟨rfl, rfl⟩ := accepted
      exact ⟨rfl, rfl, settings, rfl, rfl⟩

/-- What a migration gives can be written. -/
theorem Toml.FirstVersion.inRange (first : value.FirstVersion localRoot)
    (within : value.Within (fun _ => True)) (read : toml raw = .ok value)
    (accepted : parseAndMigrate toml raw = .ok (cfg, migrated))
    : cfg.InRange := by
  obtain ⟨-, -, settings, decoded, same⟩ := first.migrates read accepted
  have inRange := Settings.deserialize_inRange within decoded
  rw [same]
  exact ⟨inRange.maxWorkers, inRange.rescanIntervalMin, inRange.retry, inRange.advanced⟩

/-- The tildes are expanded unless the local root is a lone one. -/
theorem expandTildes_lone (paired : cfg.syncPairs = [value.v1Pair localRoot])
    : (∃ loaded, cfg.expandTildes home = .done loaded) ↔ localRoot ≠ "~" := by
  have safe := @expandTildes_safe cfg home
  have never (error : Error) : cfg.expandTildes home ≠ .failed error := by
    intro failed
    rcases (value.v1Pair localRoot).expandTilde_cases home with ⟨-, _, done⟩ | ⟨-, panics⟩
    · simp [Settings.expandTildes, paired, done] at failed
    · simp [Settings.expandTildes, paired, panics] at failed
  rw [paired, List.forall_mem_singleton] at safe
  rw [show localRoot ≠ "~" ↔ (value.v1Pair localRoot).localPath ≠ "~" from Iff.rfl, ← safe]
  cases expanded : cfg.expandTildes home with
  | done loaded => simp [Outcome.Safe]
  | failed error => exact absurd expanded (never error)
  | overflowed => simp [Outcome.Safe]
  | panicked => simp [Outcome.Safe]

-----------------------------------------------------------------------------------------
-- What the migration keeps
-----------------------------------------------------------------------------------------

/-- A file of the first version gives one active pair with its local root and its remote root, which
excludes what the file excluded. It is saved, read back without a migration, and loaded again as
it was loaded.
-/
structure MeaningKept (toml : String → Except Error Toml) (print : Toml → Except Error String)
    (home : Option String) (raw : String) (value : Toml) (localRoot : String) (cfg : Settings)
    (migrated : Bool)
    : Prop where
  migrates : migrated = true
  pair
    : ∃ pair,
        cfg.syncPairs = [pair] ∧ pair.active = true ∧ pair.localPath = localRoot
        ∧ pair.remoteFolderId = value.v1RemoteRoot
        ∧ ∀ path isDir,
            Excludes value.v1IgnorePatterns path isDir
            → Excludes pair.ignorePatterns path isDir
  reloads
    : ∃ text loaded,
        cfg.saveToPath print = .ok text
        ∧ parseAndMigrate toml text = .ok (cfg, false)
        ∧ loadFromPath toml home ((cfg.saveToPath print).map (fun _ => ())) raw = .done loaded
        ∧ loadFromPath toml home (.ok ()) text = .done loaded

/-- That is so exactly when the file excludes nothing, and its local root is not a lone `~`. -/
theorem migration_keeps_meaning_iff (toml : String → Except Error Toml)
    (print : Toml → Except Error String) (home : Option String) (raw : String) (value : Toml)
    (localRoot : String) (cfg : Settings) (migrated : Bool)
    (read : toml raw = .ok value) (within : value.Within (fun _ => True))
    (first : value.FirstVersion localRoot)
    (accepted : parseAndMigrate toml raw = .ok (cfg, migrated))
    (printsBack : PrintsBack toml print cfg.serialize)
    : MeaningKept toml print home raw value localRoot cfg migrated
      ↔ localRoot ≠ "~"
        ∧ ∀ path isDir, ¬ Excludes value.v1IgnorePatterns path isDir := by
  obtain ⟨rfl, paired, -⟩ := first.migrates read accepted
  have inRange := first.inRange within read accepted
  obtain ⟨text, other, printed, again, alike⟩ := printsBack (Settings.serialize_within inRange)
  have saved : cfg.saveToPath print = .ok text := by
    simp only [Settings.saveToPath, printed, Except.mapError]
  have reparsed := parseAndMigrate_alike again alike inRange (by simp [paired])
  have loads
      : loadFromPath toml home ((cfg.saveToPath print).map (fun _ => ())) raw
        = cfg.expandTildes home := by
    simp [loadFromPath, accepted, saved, Outcome.ofExcept, Except.map]
  have reloads : loadFromPath toml home (.ok ()) text = cfg.expandTildes home := by
    simp [loadFromPath, reparsed, Outcome.ofExcept]
  constructor
  · intro kept
    obtain ⟨pair, same, -, -, -, excluded⟩ := kept.pair
    obtain ⟨-, loaded, -, -, done, -⟩ := kept.reloads
    obtain rfl : pair = value.v1Pair localRoot := List.singleton_inj.mp (same.symm.trans paired)
    exact ⟨(expandTildes_lone paired).mp ⟨loaded, loads ▸ done⟩,
      fun path isDir excludes => not_excludes_nil path isDir (excluded path isDir excludes)⟩
  · intro both
    obtain ⟨long, harmless⟩ := both
    obtain ⟨loaded, done⟩ := (@expandTildes_lone home _ _ _ paired).mpr long
    exact {
      migrates := rfl
      pair := ⟨_, paired, rfl, rfl, rfl, fun path isDir excludes =>
        absurd excludes (harmless path isDir)⟩
      reloads := ⟨text, loaded, saved, reparsed, loads.trans done, reloads.trans done⟩ }

/-- A file of the first version, with a list of patterns. -/
def projectsFile (patterns : String) : String :=
  "local_root = \"/home/user/Projets\"\nremote_root = \"gdrive:/MonDrive/Backup\"\n"
    ++ "max_workers = 2\nignore_patterns = [" ++ patterns ++ "]\n"

/-- Its table. -/
def projectsTable (patterns : List String) : Toml :=
  .table
    [("ignore_patterns", .array (patterns.map .string)),
      ("local_root", .string "/home/user/Projets"), ("max_workers", .integer 2),
      ("remote_root", .string "gdrive:/MonDrive/Backup")]

/-- What the migration makes of it. -/
def projectsSettings : Settings :=
  { maxWorkers := 2
    syncPairs :=
      [{ name := "Sync principal", localPath := "/home/user/Projets",
          remoteFolderId := "gdrive:/MonDrive/Backup" }] }

/-- The text of these settings. -/
def projectsSaved : String :=
  "max_workers = 2\nnotifications = false\nrescan_interval_min = 30\n\n[retry]\n"
    ++ "max_attempts = 3\ninitial_backoff_ms = 300\nmax_backoff_ms = 8000\n\n[advanced]\n"
    ++ "debounce_ms = 500\nhealth_check_interval_secs = 30\nmax_concurrent_ls = 8\n"
    ++ "shutdown_timeout_secs = 3\nlog_retention_days = 7\nengine_channel_capacity = 1024\n"
    ++ "notification_timeout_ms = 6000\nresumable_upload_threshold = 5242880\n"
    ++ "upload_limit_kbps = 0\napi_rate_limit_rps = 10\ndelete_mode = \"trash\"\n"
    ++ "symlink_mode = \"ignore\"\napi_base = \"https://www.googleapis.com/drive/v3\"\n"
    ++ "upload_base = \"https://www.googleapis.com/upload/drive/v3\"\n"
    ++ "chunk_threshold = 5242880\n\n[[sync_pairs]]\nname = \"Sync principal\"\n"
    ++ "local_path = \"/home/user/Projets\"\nremote_folder_id = \"gdrive:/MonDrive/Backup\"\n"
    ++ "provider = \"GoogleDrive\"\nactive = true\nignore_patterns = []\n"

/-- How the crate reads these texts. -/
def projectsToml (raw : String) : Except Error Toml :=
  if raw = projectsFile "" then .ok (projectsTable [])
  else if raw = projectsFile "\"**/private/**\"" then .ok (projectsTable ["**/private/**"])
  else if raw = projectsSaved then .ok projectsSettings.serialize
  else .error (.msg "expected `=`")

theorem projectsTable_firstVersion (patterns : List String)
    : (projectsTable patterns).FirstVersion "/home/user/Projets" :=
  ⟨rfl, by decide, rfl⟩

theorem projectsToml_bare : projectsToml (projectsFile "") = .ok (projectsTable []) := by
  simp only [projectsToml, if_true]

theorem projectsToml_private
    : projectsToml (projectsFile "\"**/private/**\"") = .ok (projectsTable ["**/private/**"]) := by
  have other : projectsFile "\"**/private/**\"" ≠ projectsFile "" := by decide +kernel
  simp only [projectsToml, if_neg other, if_true]

theorem projectsToml_saved : projectsToml projectsSaved = .ok projectsSettings.serialize := by
  have bare : projectsSaved ≠ projectsFile "" := by decide +kernel
  have secret : projectsSaved ≠ projectsFile "\"**/private/**\"" := by decide +kernel
  simp only [projectsToml, if_neg bare, if_neg secret, if_true]

/-- Without patterns, the file keeps its meaning. -/
theorem projects_kept
    : MeaningKept projectsToml (fun _ => .ok projectsSaved) (some "/home/user") (projectsFile "")
        (projectsTable []) "/home/user/Projets" projectsSettings true := by
  have within : (projectsTable []).Within (fun _ => True) := by
    apply within_entries (by decide)
    exact ⟨.array (by simp), .string, .integer (by decide) (by decide), .string⟩
  have accepted
      : parseAndMigrate projectsToml (projectsFile "") = .ok (projectsSettings, true) := by
    simp only [parseAndMigrate, projectsToml_bare]
    rfl
  have kept :=
    migration_keeps_meaning_iff projectsToml (fun _ => .ok projectsSaved) (some "/home/user")
      (projectsFile "") (projectsTable []) "/home/user/Projets" projectsSettings true
      projectsToml_bare within (projectsTable_firstVersion []) accepted
      (fun _ => ⟨projectsSaved, _, rfl, projectsToml_saved, Toml.alike_refl _⟩)
  apply kept.mpr
  exact ⟨by decide, not_excludes_nil⟩

/-- With the pattern for directories named `private`, such a directory is no longer excluded. -/
theorem private_directory_forgotten
    : projectsToml (projectsFile "\"**/private/**\"") = .ok (projectsTable ["**/private/**"])
      ∧ (projectsTable ["**/private/**"]).FirstVersion "/home/user/Projets"
      ∧ parseAndMigrate projectsToml (projectsFile "\"**/private/**\"")
          = .ok (projectsSettings, true)
      ∧ ¬ MeaningKept projectsToml (fun _ => .ok projectsSaved) (some "/home/user")
          (projectsFile "\"**/private/**\"") (projectsTable ["**/private/**"])
          "/home/user/Projets" projectsSettings true := by
  have accepted
      : parseAndMigrate projectsToml (projectsFile "\"**/private/**\"")
        = .ok (projectsSettings, true) := by
    simp only [parseAndMigrate, projectsToml_private]
    rfl
  refine ⟨projectsToml_private, projectsTable_firstVersion _, accepted, ?_⟩
  intro kept
  obtain ⟨pair, same, -, -, -, excluded⟩ := kept.pair
  cases same
  have before
      : Excludes (projectsTable ["**/private/**"]).v1IgnorePatterns
          [.utf8 "home", .utf8 "user", .utf8 "Projets", .utf8 "private"] true :=
    ⟨_, rfl, by decide +kernel⟩
  exact not_excludes_nil _ true (excluded _ true before)

end SyncGDrive
