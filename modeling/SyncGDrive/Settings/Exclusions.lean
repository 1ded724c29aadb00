import SyncGDrive.Config
import SyncGDrive.Local.Disk
import SyncGDrive.Text.Glob

/-! The directories that the settings window excludes: how a chosen directory becomes a pattern, and
what the compiled patterns ignore.
-/

namespace SyncGDrive

-----------------------------------------------------------------------------------------
-- Compiled patterns
-----------------------------------------------------------------------------------------

/-- A path as it is matched, with a final `/` or not. -/
def Path.spelled (path : Path) (slash : Bool) : List Char :=
  path.display.toList ++ if slash then ['/'] else []

/-- One pattern, or the error that names it. -/
def compilePattern (pattern : String) : Except Error (List Glob.Token) :=
  (Glob.parse pattern.toList).mapError
    (fun fault => Error.msg ("Pattern glob invalide '" ++ pattern ++ "': " ++ fault.description))

/-- `IgnoreMatcher::from_patterns`. -/
def IgnoreMatcher.fromPatterns (patterns : List String) : Except Error IgnoreMatcher := do
  let set ← patterns.mapM compilePattern
  return ⟨fun path slash => set.any (fun glob => Glob.isMatch glob (path.spelled slash))⟩

-----------------------------------------------------------------------------------------
-- A chosen directory
-----------------------------------------------------------------------------------------

/-- `strip_prefix` with the text of the local root: nothing is stripped for an empty text, and a
relative one is no prefix of a chosen path, which is absolute.
-/
def stripLocalRoot (localRootText : String) (selected : Path) : Option String :=
  if localRootText = "" then some selected.display
  else if localRootText.toList.head? = some '/' then
    (Path.stripPrefix (Path.join [] localRootText) selected).map relKey
  else none

/-- `path_to_glob`. -/
def pathToGlob (disk : Disk) (localRootText : String) (selected : Path) : String :=
  let name := selected.fileName?.getD ""
  if name = "" then ""
  else
    match stripLocalRoot localRootText selected with
    | some relStr =>
        if disk.isDir selected then "**/" ++ relStr ++ "/**" else "**/" ++ relStr
    | none => if disk.isDir selected then "**/" ++ name ++ "/**" else "**/" ++ name

/-- What a pattern has of a chosen path: all that lies below the root, or its last name. -/
def exclusionText (localRootText : String) (selected : Path) : String :=
  (stripLocalRoot localRootText selected).getD (selected.fileName?.getD "")

/-- With the pattern of a chosen directory in a list that compiles otherwise, the list compiles, and
ignores the directory and every path below it.
-/
def ExclusionKept (disk : Disk) (localRootText : String) (selected : Path) : Prop :=
  ∀ patterns, (∃ ignore, IgnoreMatcher.fromPatterns patterns = .ok ignore)
    → ∃ ignore,
        IgnoreMatcher.fromPatterns (patterns ++ [pathToGlob disk localRootText selected])
          = .ok ignore
        ∧ ignore.isIgnored selected true = true
        ∧ ∀ below isDir, below ≠ [] → ignore.isIgnored (selected ++ below) isDir = true

/-- Between `**/` and `/**`, the text is a glob that matches what lies in the directory. -/
def ReadAsItself (text : String) (selected : Path) : Prop :=
  ∃ glob, Glob.parse ("**/" ++ text ++ "/**").toList = .ok glob
    ∧ Glob.isMatch glob (selected.spelled true) = true

variable {patterns : List String} {pattern text localRootText : String} {ignore : IgnoreMatcher}
  {glob : List Glob.Token} {disk : Disk} {cwd front rel selected below : Path} {isDir : Bool}

theorem compilePattern_eq_ok
    : compilePattern pattern = .ok glob ↔ Glob.parse pattern.toList = .ok glob := by
  unfold compilePattern
  cases Glob.parse pattern.toList <;> simp [Except.mapError]

theorem fromPatterns_eq_ok
    : IgnoreMatcher.fromPatterns patterns = .ok ignore
      ↔ ∃ set, patterns.mapM compilePattern = .ok set
          ∧ ignore =
            ⟨fun path slash => set.any (fun glob => Glob.isMatch glob (path.spelled slash))⟩ := by
  unfold IgnoreMatcher.fromPatterns
  cases patterns.mapM compilePattern with
  | error error => simp [bind, Except.bind]
  | ok set => simp [bind, Except.bind, pure, Except.pure, eq_comm]

/-- One more pattern. -/
theorem fromPatterns_concat (compiled : IgnoreMatcher.fromPatterns patterns = .ok ignore)
    (parsed : Glob.parse pattern.toList = .ok glob)
    : IgnoreMatcher.fromPatterns (patterns ++ [pattern])
      = .ok ⟨fun path slash =>
          ignore.isMatch path slash || Glob.isMatch glob (path.spelled slash)⟩ := by
  obtain ⟨set, through, rfl⟩ := fromPatterns_eq_ok.mp compiled
  apply fromPatterns_eq_ok.mpr
  refine ⟨set ++ [glob], ?_, ?_⟩
  · rw [List.mapM_append, through]
    simp [compilePattern_eq_ok.mpr parsed, bind, Except.bind, pure, Except.pure]
  · simp

theorem fromPatterns_single
    : IgnoreMatcher.fromPatterns [pattern] = .ok ignore
      ↔ ∃ glob, Glob.parse pattern.toList = .ok glob
          ∧ ignore = ⟨fun path slash => Glob.isMatch glob (path.spelled slash)⟩ := by
  rw [fromPatterns_eq_ok]
  cases compiled : compilePattern pattern with
  | error error =>
      have fails (glob : List Glob.Token) : Glob.parse pattern.toList ≠ .ok glob := by
        intro parsed
        rw [compilePattern_eq_ok.mpr parsed] at compiled
        cases compiled
      simp [compiled, fails, bind, Except.bind]
  | ok glob =>
      have parsed := compilePattern_eq_ok.mp compiled
      simp [compiled, parsed, bind, Except.bind, pure, Except.pure]

-----------------------------------------------------------------------------------------
-- Spellings
-----------------------------------------------------------------------------------------

/-- What is below a path is spelled behind it. -/
theorem display_append {front back : Path} (filled : front ≠ []) (more : back ≠ [])
    : (front ++ back).display = front.display ++ "/" ++ relKey back := by
  simp only [Path.display, relKey, List.map_append]
  rw [String.intercalate_append_of_ne_nil (by simpa using filled) (by simpa using more)]
  simp [String.append_assoc]

/-- A path ends with the text of its last names, behind a separator. -/
theorem display_ends {front back : Path} (more : back ≠ [])
    : ∃ path, (front ++ back).display.toList = path ++ ['/'] ++ (relKey back).toList := by
  by_cases filled : front = []
  · subst filled
    exact ⟨[], by simp [Path.display]⟩
  · exact ⟨front.display.toList, by simp [display_append filled more]⟩

/-- The last name of a path below the root. -/
theorem fileName?_below (plain : Plain rel)
    : ∃ name, (front ++ rel).fileName? = some name ∧ name ≠ "" ∧ relKey [.utf8 name] = name
      ∧ ∃ above, front ++ rel = above ++ [.utf8 name] := by
  obtain ⟨filled, names⟩ := plain
  obtain ⟨above, last, rfl⟩ := List.eq_nil_or_concat' rel |>.resolve_left filled
  obtain ⟨text, rfl, ordinary⟩ := names last (by simp)
  refine ⟨text, ?_, ordinary.1, by simp [OsString.toStringLossy], front ++ above, by simp⟩
  have ended := (front ++ above).trimEnd_concat (names.clean (.utf8 text) (by simp))
  rw [Path.fileName?, ← List.append_assoc, ended]
  simp [ordinary.2.2.1, OsString.toStringLossy]

theorem pathToGlob_eq (plain : Plain rel) (dir : disk.isDir (front ++ rel) = true)
    : pathToGlob disk localRootText (front ++ rel)
      = "**/" ++ exclusionText localRootText (front ++ rel) ++ "/**" := by
  obtain ⟨name, last, filled, -, -⟩ := @fileName?_below front rel plain
  unfold pathToGlob exclusionText
  simp only [last, Option.getD_some, if_neg filled, dir, if_true]
  cases stripLocalRoot localRootText (front ++ rel) <;> rfl

/-- The text of the pattern is the end of the path, at the start of a component. -/
theorem exclusionText_ends (below : selected = cwd.resolve localRootText ++ rel) (plain : Plain rel)
    : ∃ front, (front = [] ∨ ∃ path, front = path ++ ['/'])
      ∧ selected.display.toList = front ++ (exclusionText localRootText selected).toList := by
  have behind {front back : Path} (split : selected = front ++ back) (filled : back ≠ [])
      (text : exclusionText localRootText selected = relKey back)
      : ∃ front, (front = [] ∨ ∃ path, front = path ++ ['/'])
        ∧ selected.display.toList = front ++ (exclusionText localRootText selected).toList := by
    obtain ⟨path, ends⟩ := @display_ends front back filled
    rw [text, split]
    exact ⟨_, .inr ⟨path, rfl⟩, ends⟩
  by_cases empty : localRootText = ""
  · refine ⟨[], .inl rfl, ?_⟩
    simp [exclusionText, stripLocalRoot, empty]
  by_cases absolute : localRootText.toList.head? = some '/'
  · have atRoot
        : Path.named (cwd.resolve localRootText) = Path.named (Path.join [] localRootText) := by
      rw [Path.resolve, (clean_named _).named, Path.join, Path.join, if_pos absolute,
        if_pos absolute]
    apply behind below plain.1
    simp only [exclusionText, stripLocalRoot, if_neg empty, if_pos absolute, below,
      Path.stripPrefix_named atRoot, plain.clean.trim, Option.map_some, Option.getD_some]
  · obtain ⟨name, last, -, key, above, split⟩ := @fileName?_below
      (cwd.resolve localRootText) rel plain
    rw [← below] at last split
    apply behind split (by simp)
    simp only [exclusionText, stripLocalRoot, if_neg empty, if_neg absolute, last, Option.getD_none,
      Option.getD_some, key]

/-- A text without special characters is read as itself. -/
theorem readAsItself_ordinary (below : selected = cwd.resolve localRootText ++ rel)
    (plain : Plain rel)
    (ordinary : ∀ c ∈ (exclusionText localRootText selected).toList, c ∉ Glob.special)
    : ReadAsItself (exclusionText localRootText selected) selected := by
  obtain ⟨front, start, ends⟩ := exclusionText_ends below plain
  obtain ⟨glob, parsed, matched⟩ := Glob.parse_ordinary start ordinary
  refine ⟨glob, by simpa using parsed, ?_⟩
  simp only [Path.spelled, if_true, ends]
  exact matched

-----------------------------------------------------------------------------------------
-- Excluded directories
-----------------------------------------------------------------------------------------

/-- What matches the content of a directory matches every path below it. -/
theorem isMatch_below (parsed : Glob.parse ("**/" ++ text ++ "/**").toList = .ok glob)
    (filled : selected ≠ []) (matched : Glob.isMatch glob (selected.spelled true) = true)
    (more : below ≠ [])
    : Glob.isMatch glob ((selected ++ below).spelled false) = true := by
  have opened : Glob.Open glob := by
    apply @Glob.open_of_parse _ ("**/" ++ text).toList
    simpa using parsed
  have longer := @Glob.Open.isMatch_append _ _ (relKey below).toList opened matched
  simpa [Path.spelled, display_append filled more] using longer

/-- Such a pattern matches a directory as its content, if at all. -/
theorem isMatch_slash (parsed : Glob.parse ("**/" ++ text ++ "/**").toList = .ok glob)
    (matched : Glob.isMatch glob (selected.spelled false) = true)
    : Glob.isMatch glob (selected.spelled true) = true := by
  have opened : Glob.Open glob := by
    apply @Glob.open_of_parse _ ("**/" ++ text).toList
    simpa using parsed
  simpa [Path.spelled] using @Glob.Open.isMatch_append _ _ ['/'] opened matched

/-- A directory below the local root is excluded exactly when the text of its pattern is a glob that
matches what lies in it, as is every text without brackets, braces and backslashes.
-/
theorem exclusion_kept_iff (disk : Disk) (cwd : Path) (localRootText : String) (selected rel : Path)
    (below : selected = cwd.resolve localRootText ++ rel) (plain : Plain rel)
    (_names : Utf8Path selected) (dir : disk.isDir selected = true)
    : (ExclusionKept disk localRootText selected
        ↔ ReadAsItself (exclusionText localRootText selected) selected)
      ∧ ((∀ c ∈ (exclusionText localRootText selected).toList, c ∉ ['[', '{', '}', '\\'])
        → ExclusionKept disk localRootText selected) := by
  have pattern
      : pathToGlob disk localRootText selected
        = "**/" ++ exclusionText localRootText selected ++ "/**" := by
    rw [below] at dir ⊢
    exact pathToGlob_eq plain dir
  have filled : selected ≠ [] := by simp [below, plain.1]
  have enough (read : ReadAsItself (exclusionText localRootText selected) selected)
      : ExclusionKept disk localRootText selected := by
    obtain ⟨glob, parsed, matched⟩ := read
    intro patterns ⟨ignore, compiled⟩
    rw [pattern]
    refine ⟨_, fromPatterns_concat compiled parsed, ?_, ?_⟩
    · simp [IgnoreMatcher.isIgnored, matched]
    · intro path isDir more
      simp [IgnoreMatcher.isIgnored, isMatch_below parsed filled matched more]
  constructor
  · constructor
    · intro kept
      obtain ⟨ignore, compiled, itself, -⟩ := kept [] ⟨_, rfl⟩
      rw [List.nil_append, pattern] at compiled
      obtain ⟨glob, parsed, rfl⟩ := fromPatterns_single.mp compiled
      refine ⟨glob, parsed, ?_⟩
      by_cases direct : Glob.isMatch glob (selected.spelled false) = true
      · exact isMatch_slash parsed direct
      · simpa [IgnoreMatcher.isIgnored, direct] using itself
    · exact enough
  · intro ordinary
    exact enough (readAsItself_ordinary below plain ordinary)

/-- The directory `/backup` with one directory in it. -/
def backupOf (name : String) (plain : PlainName name) : Disk :=
  .backup (.single (.utf8 name) plain) (fun _ => .dir .empty (fun _ => .special))

/-- A directory whose name has no special character is excluded. -/
theorem photos_excluded
    : ExclusionKept (backupOf "Photos" (by decide)) "/backup/"
        [.utf8 "backup", .utf8 "Photos"] := by
  have names : Utf8Path [.utf8 "backup", .utf8 "Photos"] := by
    apply PlainNames.utf8Path
    intro name mem
    simp only [List.mem_cons, List.not_mem_nil, or_false] at mem
    rcases mem with rfl | rfl
    · exact ⟨_, rfl, by decide⟩
    · exact ⟨_, rfl, by decide⟩
  have plain : Plain [.utf8 "Photos"] := ⟨by simp, plainNames_singleton.mpr (by decide)⟩
  have text : exclusionText "/backup/" [.utf8 "backup", .utf8 "Photos"] = "Photos" := by
    decide +kernel
  apply (exclusion_kept_iff (backupOf "Photos" (by decide)) [] "/backup/"
    [.utf8 "backup", .utf8 "Photos"] [.utf8 "Photos"] (by decide +kernel) plain names
    (by decide +kernel)).2
  rw [text]
  simp

/-- The brackets of a name are read as a class of characters, and the directory is not excluded. -/
theorem bracketed_directory_kept
    : (backupOf "[perso]" (by decide)).isDir [.utf8 "backup", .utf8 "[perso]"] = true
      ∧ pathToGlob (backupOf "[perso]" (by decide)) "/backup" [.utf8 "backup", .utf8 "[perso]"]
          = "**/[perso]/**"
      ∧ ¬ ExclusionKept (backupOf "[perso]" (by decide)) "/backup"
          [.utf8 "backup", .utf8 "[perso]"] := by
  have pattern
      : pathToGlob (backupOf "[perso]" (by decide)) "/backup" [.utf8 "backup", .utf8 "[perso]"]
        = "**/[perso]/**" := by
    decide +kernel
  refine ⟨by decide +kernel, pattern, ?_⟩
  intro kept
  obtain ⟨ignore, compiled, itself, -⟩ := kept [] ⟨_, rfl⟩
  rw [List.nil_append, pattern] at compiled
  obtain ⟨glob, parsed, rfl⟩ := fromPatterns_single.mp compiled
  have fails
      : ((Glob.parse "**/[perso]/**".toList).toOption.any (fun glob =>
          IgnoreMatcher.isIgnored ⟨fun path slash => Glob.isMatch glob (path.spelled slash)⟩
            [.utf8 "backup", .utf8 "[perso]"] true)) = false := by
    decide +kernel
  rw [parsed] at fails
  exact absurd itself (by simpa [Except.toOption] using fails)

end SyncGDrive
