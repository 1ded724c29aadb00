import SyncGDrive.Settings.File

/-! The settings window: its entries are filled from the configuration, and a click on its button
saves one. The widgets belong to GTK; the range of the number of workers is that of its adjustment.
-/

namespace SyncGDrive

-----------------------------------------------------------------------------------------
-- The window
-----------------------------------------------------------------------------------------

/-- What the entries of the window hold; a pattern has a row of the list for itself. -/
structure SettingsForm where
  localRow : String
  remoteRow : String
  ignoreRows : List String
  workersRow : Nat
  notifRow : Bool
  deriving DecidableEq

/-- `collect_patterns`. -/
def SettingsForm.collectPatterns (form : SettingsForm) : List String :=
  form.ignoreRows.filter (fun title => title ≠ "")

/-- An adjustment keeps the value between its bounds. -/
def Clamps (adjustment : Nat → Nat → Nat → Nat) : Prop :=
  ∀ value lower upper, lower ≤ upper → adjustment value lower upper = max lower (min value upper)

/-- `open`: the pair that a click will edit, and the entries as they are filled. The folder and
its remote id are those of the first pair, whether it is active or not.
-/
def openSettings (adjustment : Nat → Nat → Nat → Nat) (cfg : Settings)
    : Except Error (PairSettings × SettingsForm) := do
  let primary ← orError "Pas de dossier configuré" cfg.getPrimaryPair
  return (primary, {
    localRow := (cfg.syncPairs.head?.map (·.localPath)).getD ""
    remoteRow := (cfg.syncPairs.head?.map (·.remoteFolderId)).getD ""
    ignoreRows := primary.ignorePatterns
    workersRow := adjustment cfg.maxWorkers 1 16
    notifRow := cfg.notifications })

/-- What a click on the button ends in: a message, or a configuration that is written to the file,
kept as the current one, and sent to the engine.
-/
inductive SaveOutcome
  | toast (title : String)
  | applied (newCfg : Settings)
  deriving DecidableEq

/-- The click on the button. The pair that it edits is a copy, which ends with the click. -/
def saveSettings (cwd : Path) (disk : Disk) (write : Settings → Except Error Unit)
    (primary : PairSettings) (form : SettingsForm) (current : Settings)
    : SaveOutcome :=
  let patterns := form.collectPatterns
  let (newPairs, mutPrimary) :=
    if current.syncPairs = [] then
      ([{ name := "Sync principal", localPath := form.localRow, remoteFolderId := form.remoteRow }],
        primary)
    else
      (current.syncPairs,
        { primary with localPath := form.localRow, remoteFolderId := form.remoteRow })
  let _mutPrimary := { mutPrimary with ignorePatterns := patterns }
  let newCfg :=
    { current with
      syncPairs := newPairs, maxWorkers := form.workersRow, notifications := form.notifRow }
  match newCfg.validate cwd disk with
  | .error error => .toast error.display
  | .ok () =>
      match write newCfg with
      | .error error => .toast ("Erreur sauvegarde : " ++ error.display)
      | .ok () => .applied newCfg

-----------------------------------------------------------------------------------------
-- Edited configurations
-----------------------------------------------------------------------------------------

/-- The first active pair edited, the others as they are. -/
def editPrimary (edit : PairSettings → PairSettings) : List PairSettings → List PairSettings
  | [] => []
  | pair :: pairs => if pair.active then edit pair :: pairs else pair :: editPrimary edit pairs

/-- What the window shows of a pair, put into it. -/
def PairSettings.filledFrom (form : SettingsForm) (pair : PairSettings) : PairSettings :=
  { pair with
    localPath := form.localRow
    remoteFolderId := form.remoteRow
    ignorePatterns := form.ignoreRows }

/-- The configuration that the window shows: what it does not show is as it was. -/
def Settings.edited (cfg : Settings) (form : SettingsForm) : Settings :=
  { cfg with
    syncPairs := editPrimary (PairSettings.filledFrom form) cfg.syncPairs
    maxWorkers := form.workersRow
    notifications := form.notifRow }

/-- The edit changes nothing exactly when the first active pair is as edited, by induction on the
pairs in front of it.
-/
theorem editPrimary_eq_self {edit : PairSettings → PairSettings} {pairs : List PairSettings}
    {primary : PairSettings} (first : pairs.find? (·.active) = some primary)
    : editPrimary edit pairs = pairs ↔ edit primary = primary := by
  induction pairs with
  | nil => cases first
  | cons pair pairs ih =>
      by_cases active : pair.active = true
      · obtain rfl : pair = primary := by simpa [active] using first
        simp [editPrimary, active]
      · have later : pairs.find? (·.active) = some primary := by simpa [active] using first
        simp [editPrimary, active, ih later]

theorem PairSettings.filledFrom_eq_self {form : SettingsForm} {pair : PairSettings}
    : pair.filledFrom form = pair
      ↔ form.localRow = pair.localPath ∧ form.remoteRow = pair.remoteFolderId
        ∧ form.ignoreRows = pair.ignorePatterns := by
  obtain ⟨name, localPath, remoteFolderId, provider, active, ignorePatterns⟩ := pair
  simp [filledFrom]

-----------------------------------------------------------------------------------------
-- What a click saves
-----------------------------------------------------------------------------------------

theorem openSettings_eq_ok {adjustment : Nat → Nat → Nat → Nat} {cfg : Settings}
    {primary : PairSettings} {initial : SettingsForm}
    (opened : openSettings adjustment cfg = .ok (primary, initial))
    : cfg.getPrimaryPair = some primary ∧ initial.workersRow = adjustment cfg.maxWorkers 1 16
      ∧ initial.notifRow = cfg.notifications := by
  unfold openSettings at opened
  cases found : cfg.getPrimaryPair with
  | none => simp [found, orError, bind, Except.bind] at opened
  | some pair =>
      simp only [found, orError, bind, Except.bind, pure, Except.pure, Except.ok.injEq,
        Prod.mk.injEq] at opened
      obtain ⟨rfl, rfl⟩ := opened
      exact ⟨rfl, rfl, rfl⟩

/-- The pairs are saved as they were. -/
theorem saveSettings_eq_applied {cwd : Path} {disk : Disk} {write : Settings → Except Error Unit}
    {primary : PairSettings} {form : SettingsForm} {cfg saved : Settings}
    (configured : cfg.getPrimaryPair = some primary)
    (clicked : saveSettings cwd disk write primary form cfg = .applied saved)
    : saved = { cfg with maxWorkers := form.workersRow, notifications := form.notifRow } := by
  have pairs : cfg.syncPairs ≠ [] := by
    intro none_
    simp [Settings.getPrimaryPair, none_] at configured
  simp only [saveSettings, if_neg pairs] at clicked
  split at clicked
  · cases clicked
  · split at clicked
    · cases clicked
    · exact (SaveOutcome.applied.inj clicked).symm

/-- A click saves what the window shows, and nothing else where nothing was edited, exactly when
the folder, its remote id and its patterns are those of the primary pair already, and an unedited
number of workers is one that the window can show.
-/
theorem settings_saved_iff {adjustment : Nat → Nat → Nat → Nat} (clamps : Clamps adjustment)
    {cfg : Settings} {primary : PairSettings} {initial : SettingsForm}
    (opened : openSettings adjustment cfg = .ok (primary, initial)) {cwd : Path} {disk : Disk}
    {write : Settings → Except Error Unit} {form : SettingsForm} {saved : Settings}
    (clicked : saveSettings cwd disk write primary form cfg = .applied saved)
    : (saved = cfg.edited form ∧ (form = initial → saved = cfg))
      ↔ (form.localRow = primary.localPath ∧ form.remoteRow = primary.remoteFolderId
          ∧ form.ignoreRows = primary.ignorePatterns)
        ∧ (form = initial → 1 ≤ cfg.maxWorkers ∧ cfg.maxWorkers ≤ 16) := by
  obtain ⟨configured, workers, notifications⟩ := openSettings_eq_ok opened
  obtain rfl := saveSettings_eq_applied configured clicked
  have edits
      : { cfg with maxWorkers := form.workersRow, notifications := form.notifRow } = cfg.edited form
        ↔ cfg.syncPairs = editPrimary (PairSettings.filledFrom form) cfg.syncPairs := by
    simp [Settings.edited]
  have unedited (same : form = initial)
      : { cfg with maxWorkers := form.workersRow, notifications := form.notifRow } = cfg
        ↔ 1 ≤ cfg.maxWorkers ∧ cfg.maxWorkers ≤ 16 := by
    subst same
    rw [workers, notifications, clamps _ _ _ (by decide)]
    constructor
    · intro kept
      have value : max 1 (min cfg.maxWorkers 16) = cfg.maxWorkers :=
        congrArg Settings.maxWorkers kept
      omega
    · intro range
      have value : max 1 (min cfg.maxWorkers 16) = cfg.maxWorkers := by omega
      rw [value]
  rw [edits, eq_comm, editPrimary_eq_self configured, PairSettings.filledFrom_eq_self]
  exact and_congr_right fun _ => forall_congr' fun same => unedited same

/-- One active pair. -/
def windowSettings : Settings :=
  { syncPairs := [{ name := "Sauvegarde", localPath := "/backup", remoteFolderId := "root" }] }

/-- The number of workers of that configuration is edited, and saved. -/
theorem workers_saved
    : let form : SettingsForm := ⟨"/backup", "root", [], 2, true⟩
      { windowSettings with maxWorkers := 2, notifications := true } = windowSettings.edited form :=
  ((@settings_saved_iff (fun value lower upper => max lower (min value upper))
    (fun _ _ _ _ => rfl) windowSettings _ ⟨"/backup", "root", [], 4, false⟩ rfl [] (.backup .empty
      (fun _ => .special)) (fun _ => .ok ()) ⟨"/backup", "root", [], 2, true⟩
    { windowSettings with maxWorkers := 2, notifications := true } (by decide +kernel)).mpr
      ⟨⟨rfl, rfl, rfl⟩, fun same => absurd same (by decide)⟩).1

/-- Its folder is edited, and the click looks like a success; but the pair is saved as it was. -/
theorem edited_folder_discarded
    : let form : SettingsForm := ⟨"/", "root", ["**/private/**"], 4, false⟩
      openSettings (fun value lower upper => max lower (min value upper)) windowSettings
          = .ok (⟨"Sauvegarde", "/backup", "root", "GoogleDrive", true, []⟩,
            ⟨"/backup", "root", [], 4, false⟩)
        ∧ saveSettings [] (.backup .empty (fun _ => .special)) (fun _ => .ok ())
            ⟨"Sauvegarde", "/backup", "root", "GoogleDrive", true, []⟩ form windowSettings
          = .applied windowSettings
        ∧ windowSettings ≠ windowSettings.edited form := by
  intro form
  refine ⟨rfl, ?_, ?_⟩
  · decide +kernel
  · decide

end SyncGDrive
