import SyncGDrive.Auth.Token
import SyncGDrive.Engine.Adoption
import SyncGDrive.Engine.Backoff
import SyncGDrive.Engine.Cascades
import SyncGDrive.Engine.Creation
import SyncGDrive.Engine.Deletions
import SyncGDrive.Engine.Diff
import SyncGDrive.Engine.Duplicates
import SyncGDrive.Engine.Freshness
import SyncGDrive.Engine.HandsOff
import SyncGDrive.Engine.Integrity
import SyncGDrive.Engine.Keys
import SyncGDrive.Engine.Kinds
import SyncGDrive.Engine.Phases
import SyncGDrive.Engine.Relisting
import SyncGDrive.Engine.Renames
import SyncGDrive.Engine.Rewriting
import SyncGDrive.Engine.Shutdowns
import SyncGDrive.Reconciliation.Directories
import SyncGDrive.Reconciliation.Newcomers
import SyncGDrive.Reconciliation.Recovery
import SyncGDrive.Reconciliation.Fixpoint
import SyncGDrive.Realtime.Agreement
import SyncGDrive.Realtime.Debounce
import SyncGDrive.Realtime.Modifications
import SyncGDrive.Loop.Deadlock
import SyncGDrive.Loop.Display
import SyncGDrive.Loop.Overflow
import SyncGDrive.Loop.Pairs
import SyncGDrive.Loop.Reconnection
import SyncGDrive.Loop.DryRun
import SyncGDrive.Remote.Mirror
import SyncGDrive.Remote.Refinement
import SyncGDrive.Database.Refinement
import SyncGDrive.Provider.Folders
import SyncGDrive.Provider.Moves
import SyncGDrive.Provider.Queries
import SyncGDrive.Provider.Traversal
import SyncGDrive.Pacing.Poison
import SyncGDrive.Pacing.Bandwidth
import SyncGDrive.Settings.Window
import SyncGDrive.Settings.Encoding
import SyncGDrive.Settings.Migration
import SyncGDrive.Settings.Lasting
import SyncGDrive.Settings.Exclusions
import SyncGDrive.Provider.Undamaged
import SyncGDrive.Provider.Permits
import SyncGDrive.Provider.Uplink
import SyncGDrive.Loop.Turns
import SyncGDrive.Loop.Stopping
import SyncGDrive.Auth.Genuine
