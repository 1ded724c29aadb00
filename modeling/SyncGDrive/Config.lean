import Mathlib.Algebra.Group.Int.Defs
import Mathlib.Algebra.Group.Nat.Defs
import Mathlib.Algebra.GroupWithZero.Nat
import Mathlib.Data.List.Infix
import SyncGDrive.Local.Path

/-! What the engine is configured with: errors, retry settings, sync pairs and patterns. -/

namespace SyncGDrive

-----------------------------------------------------------------------------------------
-- Errors
-----------------------------------------------------------------------------------------

/-- `anyhow::Error`: the messages of its chain, outermost first. -/
structure Error where
  chain : List String
  deriving DecidableEq

/-- `anyhow::bail!`. -/
def Error.msg (message : String) : Error := ⟨[message]⟩

/-- `Context::context`: a new outermost message. -/
def Error.context (message : String) (error : Error) : Error := ⟨message :: error.chain⟩

/-- How an error is displayed: its outermost message. -/
def Error.display (error : Error) : String := error.chain.head?.getD ""

/-- `Option::context`. -/
def orError (message : String) : Option α → Except Error α
  | some value => .ok value
  | none => .error (.msg message)

/-- Engine errors that stand for a shutdown, recognised by their texts. -/
def isShutdownErr (error : Error) : Bool :=
  error.chain.any (fun text =>
    "shutdown".toList <:+: text.toList || "interrupted".toList <:+: text.toList)

-----------------------------------------------------------------------------------------
-- Configuration
-----------------------------------------------------------------------------------------

structure RetryConfig where
  maxAttempts : Nat := 3
  initialBackoffMs : Nat := 300
  maxBackoffMs : Nat := 8000
  deriving DecidableEq

structure AdvancedConfig where
  debounceMs : Nat := 500
  deriving DecidableEq

/-- A local directory, by the pieces that name something, and the remote folder it is saved to. -/
structure SyncPair where
  localPath : Path
  remoteFolderId : String := ""
  active : Bool := true
  ignorePatterns : List String := []
  deriving DecidableEq

structure AppConfig where
  maxWorkers : Nat := 4
  rescanIntervalMin : Nat := 30
  retry : RetryConfig := {}
  advanced : AdvancedConfig := {}
  syncPairs : List SyncPair := []
  deriving DecidableEq

/-- The first active pair. -/
def AppConfig.getPrimaryPair (cfg : AppConfig) : Option SyncPair :=
  cfg.syncPairs.find? (·.active)

/-- The directory `/backup`, saved to one folder. -/
def backupPair : SyncPair := { localPath := [.utf8 "backup"], remoteFolderId := "root" }

/-- A configuration that saves one directory. -/
def backupConfig : AppConfig := { syncPairs := [backupPair] }

-----------------------------------------------------------------------------------------
-- Ignore patterns
-----------------------------------------------------------------------------------------

/-- A compiled set of globs: whether it matches a path, spelled with a final `/` or not.
The glob syntax itself belongs to the `globset` crate.
-/
structure IgnoreMatcher where
  isMatch : Path → Bool → Bool

/-- No patterns at all. -/
def IgnoreMatcher.nothing : IgnoreMatcher := ⟨fun _ _ => false⟩

/-- A directory is also tried with a final `/`, for patterns such as `**/target/**`. -/
def IgnoreMatcher.isIgnored (ignore : IgnoreMatcher) (path : Path) (isDirectory : Bool) : Bool :=
  if ignore.isMatch path false then true
  else if isDirectory then ignore.isMatch path true
  else false

/-- What the walk of a scan keeps. -/
def IgnoreMatcher.keeps (ignore : IgnoreMatcher) (path : Path) (isDirectory : Bool) : Bool :=
  !ignore.isIgnored path isDirectory

theorem IgnoreMatcher.nothing_isIgnored {path : Path} {isDirectory : Bool}
    : IgnoreMatcher.nothing.isIgnored path isDirectory = false := by
  simp [IgnoreMatcher.isIgnored, nothing]

end SyncGDrive
