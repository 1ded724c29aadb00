import SyncGDrive.Settings.Migration
import SyncGDrive.Settings.Window

/-! The configuration from one start of the program to the next: the file is loaded, migrated or
created at a start, and written by the settings window.
-/

namespace SyncGDrive

-----------------------------------------------------------------------------------------
-- Starts and clicks
-----------------------------------------------------------------------------------------

/-- `AppConfig::default`, which is derived: its numbers are zero, whatever a file without them
would be read as.
-/
def Settings.default : Settings := { maxWorkers := 0, rescanIntervalMin := 0 }

/-- What the file holds, and the configuration that the program has. -/
structure Configured where
  file : String
  cfg : Settings

/-- `load_from_path`, with what it leaves in the file. One that is not there is created, and one of
the first version is saved in the new format before its tildes are expanded.
-/
inductive Starts (toml : String → Except Error Toml) (print : Toml → Except Error String)
    (home : Option String)
    : Option String → Configured → Prop
  | created {text : String} (saved : Settings.default.saveToPath print = .ok text)
    : Starts toml print home none ⟨text, Settings.default⟩
  | loaded {raw : String} {settings cfg : Settings}
    (parsed : parseAndMigrate toml raw = .ok (settings, false))
    (loads : loadFromPath toml home (.ok ()) raw = .done cfg)
    : Starts toml print home (some raw) ⟨raw, cfg⟩
  | migrated {raw text : String} {settings cfg : Settings}
    (parsed : parseAndMigrate toml raw = .ok (settings, true))
    (saved : settings.saveToPath print = .ok text)
    (loads : loadFromPath toml home (.ok ()) raw = .done cfg)
    : Starts toml print home (some raw) ⟨text, cfg⟩

/-- The first start, then clicks on the button of the settings window and further starts. -/
inductive Lives (toml : String → Except Error Toml) (print : Toml → Except Error String)
    (home : Option String) (adjustment : Nat → Nat → Nat → Nat) (file : Option String)
    : Configured → Prop
  | started {here : Configured} (starts : Starts toml print home file here)
    : Lives toml print home adjustment file here
  | restarted {here after : Configured} (lives : Lives toml print home adjustment file here)
    (starts : Starts toml print home (some here.file) after)
    : Lives toml print home adjustment file after
  | clicked {here : Configured} {primary : PairSettings} {initial form : SettingsForm}
    {cwd : Path} {disk : Disk} {value : Nat} {cfg : Settings} {text : String}
    (lives : Lives toml print home adjustment file here)
    (opened : openSettings adjustment here.cfg = .ok (primary, initial))
    (shown : form.workersRow = adjustment value 1 16)
    (applied
      : saveSettings cwd disk
          (fun settings => (settings.saveToPath print).map (fun _ => ())) primary
          form here.cfg
        = .applied cfg)
    (saved : cfg.saveToPath print = .ok text)
    : Lives toml print home adjustment file ⟨text, cfg⟩

/-- The values of the crate have its integers and each key once. -/
def ReadsValues (toml : String → Except Error Toml) : Prop :=
  ∀ text value, toml text = .ok value → value.Within (fun _ => True)

/-- What the crate has printed of a value without floats and dates, it reads as that value, whatever
the order of the keys.
-/
def ReadsBack (toml : String → Except Error Toml) (print : Toml → Except Error String) : Prop :=
  ∀ value text, value.Within (fun _ => False) → print value = .ok text
    → ∃ other, toml text = .ok other ∧ other.Alike value

/-- A home directory has an absolute path. -/
def AbsoluteHome (home : Option String) : Prop :=
  ∀ directory, home = some directory → directory.toList.head? = some '/'

variable {toml : String → Except Error Toml} {print : Toml → Except Error String}
  {home : Option String} {settings cfg : Settings} {text : String}

-----------------------------------------------------------------------------------------
-- Tildes
-----------------------------------------------------------------------------------------

/-- A path without a tilde in front is left as it is. -/
theorem expandTilde_plain {path : String} (plain : path.toList.head? ≠ some '~')
    : expandTilde home path = .done path := by
  unfold expandTilde
  apply if_neg
  intro tilde
  rcases tilde with starts | lone
  · obtain ⟨rest, same⟩ := List.isPrefixOf_iff_prefix.mp starts
    rw [← same] at plain
    exact plain rfl
  · subst lone
    exact plain rfl

/-- What is joined to an absolute path, or to the dot, has no tilde in front. -/
theorem joinText_plain {base rest : String}
    (rooted : base.toList.head? = some '/' ∨ base = ".")
    : (joinText base rest).toList.head? ≠ some '~' := by
  have front : ∃ first, base.toList.head? = some first ∧ first ≠ '~' := by
    rcases rooted with slash | dot
    · exact ⟨'/', slash, by decide⟩
    · subst dot
      exact ⟨'.', rfl, by decide⟩
  obtain ⟨first, head, other⟩ := front
  unfold joinText
  split
  · rename_i absolute
    rw [absolute]
    decide
  · split
    · simp [String.toList_append, List.head?_append, head, other]
    · simp [String.toList_append, List.head?_append, head, other]

/-- An expanded path is not expanded further. -/
theorem expandTilde_expanded (absolute : AbsoluteHome home) {path expanded : String}
    (done : expandTilde home path = .done expanded)
    : expandTilde home expanded = .done expanded := by
  unfold expandTilde at done
  split at done
  · split at done
    · cases done
    · obtain rfl := Outcome.done.inj done
      apply expandTilde_plain
      apply joinText_plain
      cases home with
      | none => exact .inr rfl
      | some directory => exact .inl (absolute directory rfl)
  · rename_i plain
    obtain rfl := Outcome.done.inj done
    exact if_neg plain

theorem PairSettings.expandTilde_expanded (absolute : AbsoluteHome home)
    {pair expanded : PairSettings} (done : pair.expandTilde home = .done expanded)
    : expanded.expandTilde home = .done expanded := by
  obtain ⟨localPath, path, same⟩ := Outcome.bind_eq_done.mp done
  obtain rfl := Outcome.done.inj same
  simp only [PairSettings.expandTilde, SyncGDrive.expandTilde_expanded absolute path,
    Outcome.done_bind, Outcome.pure_eq]

/-- So it is with every pair, by induction on them. -/
theorem mapM_expanded (absolute : AbsoluteHome home) {pairs expanded : List PairSettings}
    (done : pairs.mapM (PairSettings.expandTilde home) = .done expanded)
    : expanded.mapM (PairSettings.expandTilde home) = .done expanded := by
  induction pairs generalizing expanded with
  | nil =>
      obtain rfl := Outcome.done.inj done
      rfl
  | cons pair pairs ih =>
      rw [List.mapM_cons] at done
      obtain ⟨first, one, done⟩ := Outcome.bind_eq_done.mp done
      obtain ⟨rest, others, done⟩ := Outcome.bind_eq_done.mp done
      obtain rfl := Outcome.done.inj done
      rw [List.mapM_cons, PairSettings.expandTilde_expanded absolute one, Outcome.done_bind,
        ih others, Outcome.done_bind, Outcome.pure_eq]

/-- The expansion changes nothing but the pairs, and nothing the second time. -/
theorem expandTildes_expanded (absolute : AbsoluteHome home)
    (done : settings.expandTildes home = .done cfg)
    : cfg = { settings with syncPairs := cfg.syncPairs } ∧ cfg.expandTildes home = .done cfg := by
  obtain ⟨pairs, expanded, same⟩ := Outcome.bind_eq_done.mp done
  obtain rfl := Outcome.done.inj same
  refine ⟨rfl, ?_⟩
  simp only [Settings.expandTildes, mapM_expanded absolute expanded, Outcome.done_bind,
    Outcome.pure_eq]

-----------------------------------------------------------------------------------------
-- Saved files
-----------------------------------------------------------------------------------------

theorem Settings.InRange.withPairs (inRange : settings.InRange) (pairs : List PairSettings)
    : Settings.InRange { settings with syncPairs := pairs } :=
  ⟨inRange.maxWorkers, inRange.rescanIntervalMin, inRange.retry, inRange.advanced⟩

theorem Settings.default_inRange : Settings.default.InRange :=
  ⟨by decide, by decide, RetryConfig.default_inRange, AdvancedSettings.default_inRange⟩

/-- The detector of the first version finds nothing in what is saved without pairs. -/
theorem parseAndMigrate_pairless {other : Toml} (read : toml text = .ok other)
    (alike : other.Alike cfg.serialize) (inRange : cfg.InRange) (pairless : cfg.syncPairs = [])
    : parseAndMigrate toml text = .ok (cfg, false) := by
  have decoded := Settings.decodes inRange other alike
  obtain ⟨others, rfl, alike⟩ := Toml.table_of_alike alike
  obtain ⟨held, found, pairs⟩ := @Toml.lookup_of_alike _ _ "sync_pairs" _ alike rfl
  have rootless : others.lookup "local_root" = none := by
    cases alike with
    | table same =>
        have here := same "local_root"
        rw [show cfg.entries.lookup "local_root" = none from rfl] at here
        cases there : others.lookup "local_root" with
        | none => rfl
        | some value =>
            rw [there] at here
            cases here
  cases pairs with
  | @array items _ same =>
      have empty : items = [] := by
        rw [pairless] at same
        exact List.forall₂_nil_right_iff.mp same
      subst empty
      simp [parseAndMigrate, read, Except.mapError, bind, Except.bind, decoded, Toml.get, found,
        rootless, Toml.asArray, pure, Except.pure]

/-- What has been saved is parsed as what it was, and not migrated. -/
theorem parseAndMigrate_saved (readsBack : ReadsBack toml print) (inRange : cfg.InRange)
    (saved : cfg.saveToPath print = .ok text)
    : parseAndMigrate toml text = .ok (cfg, false) := by
  have printed : print cfg.serialize = .ok text := by
    unfold Settings.saveToPath at saved
    cases printing : print cfg.serialize with
    | error error => simp [printing, Except.mapError] at saved
    | ok text' =>
        simp only [printing, Except.mapError, Except.ok.injEq] at saved
        rw [saved]
  obtain ⟨other, read, alike⟩ := readsBack _ _ (Settings.serialize_within inRange) printed
  by_cases pairless : cfg.syncPairs = []
  · exact parseAndMigrate_pairless read alike inRange pairless
  · exact parseAndMigrate_alike read alike inRange pairless

/-- What is loaded of a file has been parsed and expanded. -/
theorem loadFromPath_parsed {saved : Except Error Unit} {raw : String} {migrated : Bool}
    (parsed : parseAndMigrate toml raw = .ok (settings, migrated))
    (accepted : migrated = true → saved = .ok ())
    : loadFromPath toml home saved raw = settings.expandTildes home := by
  unfold loadFromPath
  rw [parsed]
  cases migrated with
  | false => simp [Outcome.ofExcept]
  | true => simp [Outcome.ofExcept, accepted rfl]

/-- What a file is parsed as can be written. -/
theorem parseAndMigrate_inRange (readsValues : ReadsValues toml) {raw : String} {migrated : Bool}
    (parsed : parseAndMigrate toml raw = .ok (settings, migrated))
    : settings.InRange := by
  unfold parseAndMigrate at parsed
  obtain ⟨value, read, parsed⟩ := reading_eq_ok.mp parsed
  obtain ⟨first, decoded, parsed⟩ := reading_eq_ok.mp parsed
  have within : value.Within (fun _ => True) := by
    cases reading : toml raw with
    | error error => simp [reading, Except.mapError] at read
    | ok value' =>
        simp only [reading, Except.mapError, Except.ok.injEq] at read
        exact read ▸ readsValues raw value' reading
  have inRange := Settings.deserialize_inRange within decoded
  split at parsed
  · cases parsed
    exact inRange
  · split at parsed
    · split at parsed
      · cases parsed
        exact inRange
      · cases parsed
        exact inRange.withPairs _
    · cases parsed
      exact inRange

-----------------------------------------------------------------------------------------
-- Runs
-----------------------------------------------------------------------------------------

/-- The file is in the new format and gives the configuration, which has nothing left to expand. -/
structure Configured.Lasts (toml : String → Except Error Toml) (home : Option String)
    (here : Configured)
    : Prop where
  parses : ∃ settings, parseAndMigrate toml here.file = .ok (settings, false)
    ∧ settings.expandTildes home = .done here.cfg
  inRange : here.cfg.InRange
  expanded : here.cfg.expandTildes home = .done here.cfg

theorem Starts.lasts {file : Option String} {here : Configured} (absolute : AbsoluteHome home)
    (readsValues : ReadsValues toml) (readsBack : ReadsBack toml print)
    (starts : Starts toml print home file here)
    : here.Lasts toml home := by
  cases starts with
  | created saved =>
      have unchanged : Settings.default.expandTildes home = .done Settings.default := rfl
      exact {
        parses := ⟨_, parseAndMigrate_saved readsBack Settings.default_inRange saved, unchanged⟩
        inRange := Settings.default_inRange
        expanded := unchanged }
  | loaded parsed loads =>
      rw [loadFromPath_parsed parsed (fun _ => rfl)] at loads
      obtain ⟨same, unchanged⟩ := expandTildes_expanded absolute loads
      exact {
        parses := ⟨_, parsed, loads⟩
        inRange := by
          rw [same]
          exact (parseAndMigrate_inRange readsValues parsed).withPairs _
        expanded := unchanged }
  | migrated parsed saved loads =>
      have inRange := parseAndMigrate_inRange readsValues parsed
      rw [loadFromPath_parsed parsed (fun _ => rfl)] at loads
      obtain ⟨same, unchanged⟩ := expandTildes_expanded absolute loads
      exact {
        parses := ⟨_, parseAndMigrate_saved readsBack inRange saved, loads⟩
        inRange := by
          rw [same]
          exact inRange.withPairs _
        expanded := unchanged }

/-- A click keeps the pairs, and the number of workers is one of the adjustment. -/
theorem Configured.Lasts.clicked {here : Configured} {adjustment : Nat → Nat → Nat → Nat}
    (clamps : Clamps adjustment) (readsBack : ReadsBack toml print) (lasts : here.Lasts toml home)
    {primary : PairSettings} {initial form : SettingsForm} {cwd : Path} {disk : Disk} {value : Nat}
    {write : Settings → Except Error Unit}
    (opened : openSettings adjustment here.cfg = .ok (primary, initial))
    (shown : form.workersRow = adjustment value 1 16)
    (applied : saveSettings cwd disk write primary form here.cfg = .applied cfg)
    (saved : cfg.saveToPath print = .ok text)
    : Configured.Lasts toml home ⟨text, cfg⟩ := by
  obtain rfl := saveSettings_eq_applied (openSettings_eq_ok opened).1 applied
  have few : form.workersRow ≤ 16 := by
    rw [shown, clamps _ _ _ (by decide)]
    omega
  have inRange
      : Settings.InRange
          { here.cfg with maxWorkers := form.workersRow, notifications := form.notifRow } := {
    maxWorkers := ⟨few.trans_lt (by decide), few.trans_lt (by decide)⟩
    rescanIntervalMin := lasts.inRange.rescanIntervalMin
    retry := lasts.inRange.retry
    advanced := lasts.inRange.advanced }
  have unchanged
      : Settings.expandTildes home
          { here.cfg with maxWorkers := form.workersRow, notifications := form.notifRow }
        = .done
            { here.cfg with maxWorkers := form.workersRow, notifications := form.notifRow } := by
    obtain ⟨pairs, expanded, same⟩ := Outcome.bind_eq_done.mp lasts.expanded
    have kept : pairs = here.cfg.syncPairs := congrArg Settings.syncPairs (Outcome.done.inj same)
    simp only [Settings.expandTildes, expanded, kept, Outcome.done_bind, Outcome.pure_eq]
  exact ⟨⟨_, parseAndMigrate_saved readsBack inRange saved, unchanged⟩, inRange, unchanged⟩

/-- Whatever the file was at first, and however often the program is started and its settings are
saved: the next start gives the configuration that the program has, without another migration.
-/
theorem configuration_lasts {adjustment : Nat → Nat → Nat → Nat} {file : Option String}
    {here : Configured} (clamps : Clamps adjustment) (absolute : AbsoluteHome home)
    (readsValues : ReadsValues toml) (readsBack : ReadsBack toml print)
    (lives : Lives toml print home adjustment file here)
    : (∃ settings, parseAndMigrate toml here.file = .ok (settings, false))
      ∧ ∀ saved, loadFromPath toml home saved here.file = .done here.cfg := by
  have lasts : here.Lasts toml home := by
    induction lives with
    | started starts => exact starts.lasts absolute readsValues readsBack
    | restarted lives starts ih => exact starts.lasts absolute readsValues readsBack
    | clicked lives opened shown applied saved ih =>
        exact ih.clicked clamps readsBack opened shown applied saved
  obtain ⟨settings, parsed, expands⟩ := lasts.parses
  refine ⟨⟨settings, parsed⟩, fun saved => ?_⟩
  rw [loadFromPath_parsed parsed (fun migrated => absurd migrated (by decide))]
  exact expands

/-- A disk with the local root of the example. -/
def projectsDisk : Disk :=
  ⟨.dir (.single (.utf8 "home") (by decide)) (fun _ =>
    .dir (.single (.utf8 "user") (by decide)) (fun _ =>
      .dir (.single (.utf8 "Projets") (by decide)) (fun _ => .dir .empty (fun _ => .special))))⟩

open Classical in
/-- How the crate prints the migrated settings. -/
noncomputable def projectsPrint (value : Toml) : Except Error String :=
  if value = projectsSettings.serialize then .ok projectsSaved else .error (.msg "unsupported")

theorem projectsSettings_saved : projectsSettings.saveToPath projectsPrint = .ok projectsSaved := by
  simp [Settings.saveToPath, projectsPrint, Except.mapError]

theorem projectsSettings_inRange : projectsSettings.InRange :=
  ⟨by decide, by decide, RetryConfig.default_inRange, AdvancedSettings.default_inRange⟩

theorem projects_readsValues : ReadsValues projectsToml := by
  have table (patterns : List String) : (projectsTable patterns).Within (fun _ => True) := by
    apply within_entries (by simp)
    exact ⟨.array (by simp +contextual [Toml.Within.string]), .string,
      .integer (by decide) (by decide), .string⟩
  intro text value read
  unfold projectsToml at read
  split at read
  · exact Except.ok.inj read ▸ table _
  · split at read
    · exact Except.ok.inj read ▸ table _
    · split at read
      · exact Except.ok.inj read ▸ Settings.serialize_within projectsSettings_inRange
      · cases read

theorem projects_readsBack : ReadsBack projectsToml projectsPrint := by
  intro value text within printed
  unfold projectsPrint at printed
  split at printed
  · rename_i same
    obtain rfl := Except.ok.inj printed
    exact ⟨_, projectsToml_saved, same ▸ Toml.alike_refl _⟩
  · cases printed

/-- A file of the first version is migrated, the settings are saved from the window, and the program
is started again.
-/
theorem migrated_configuration_lasts
    : loadFromPath projectsToml (some "/home/user") (.ok ()) projectsSaved
      = .done projectsSettings := by
  have adjusts : Clamps (fun value lower upper => max lower (min value upper)) :=
    fun _ _ _ _ => rfl
  have parsed : parseAndMigrate projectsToml (projectsFile "") = .ok (projectsSettings, true) := by
    simp only [parseAndMigrate, projectsToml_bare]
    rfl
  have loads
      : loadFromPath projectsToml (some "/home/user") (.ok ()) (projectsFile "")
        = .done projectsSettings := by
    rw [loadFromPath_parsed parsed (fun _ => rfl)]
    rfl
  have valid : projectsSettings.validate [] projectsDisk = .ok () := by
    rfl
  have applied
      : saveSettings [] projectsDisk
          (fun settings => (settings.saveToPath projectsPrint).map (fun _ => ()))
          ⟨"Sync principal", "/home/user/Projets", "gdrive:/MonDrive/Backup", "GoogleDrive", true,
            []⟩
          ⟨"/home/user/Projets", "gdrive:/MonDrive/Backup", [], 2, false⟩ projectsSettings
        = .applied projectsSettings := by
    have paired : projectsSettings.syncPairs ≠ [] := by decide
    have unedited
        : ({ projectsSettings with
            syncPairs := projectsSettings.syncPairs, maxWorkers := 2, notifications := false }
            : Settings)
          = projectsSettings := rfl
    simp only [saveSettings, if_neg paired, unedited, valid, projectsSettings_saved, Except.map]
  have lives
      : Lives projectsToml projectsPrint (some "/home/user")
          (fun value lower upper => max lower (min value upper)) (some (projectsFile ""))
          ⟨projectsSaved, projectsSettings⟩ :=
    .clicked (.started (.migrated parsed projectsSettings_saved loads)) rfl
      (show _ = max 1 (min 2 16) from rfl) applied projectsSettings_saved
  exact (configuration_lasts adjusts
    (by simp [AbsoluteHome]) projects_readsValues projects_readsBack
    lives).2 (.ok ())

end SyncGDrive
