import SyncGDrive.Engine.Exclusion
import SyncGDrive.Program.Notes
import SyncGDrive.Program.Runs
import SyncGDrive.Realtime.Relocation

/-! Reported modifications that have not been sent yet, and how far they survive moves of their
files: a renaming sends a content in one of its branches only.
-/

namespace SyncGDrive

open Program

-----------------------------------------------------------------------------------------
-- A provider that never fails
-----------------------------------------------------------------------------------------

/-- Every call succeeds; an upload gives back the digest of what it has read. -/
def Environment.willing (md5 : List UInt8 → String) : Environment where
  md5
  provider
    | .listRemote _, _, _, answer, _ => ∃ index, answer = .ok index
    | .mkdir .., _, _, answer, _ => ∃ id, answer = .ok id
    | .upload path .., disk, _, answer, _ =>
        ∃ result : UploadResult,
          answer = .ok result ∧ ∀ content, disk.read path = some content
            → result.md5Checksum = md5 content
    | .delete _, _, _, answer, _ => answer = .ok ()
    | .rename .., _, _, answer, _ => answer = .ok ()
  faults _ := False

theorem Environment.willing_quiet (md5 : List UInt8 → String)
    : (Environment.willing md5).Undisturbed := fun _ disturbed => disturbed

/-- The files whose content has been uploaded, under the paths that they had then. -/
def sentFiles : Noting effects (List Path)
  | .provider (.upload path ..), answer, sent =>
      match answer with
      | .ok _ => sent ++ [path]
      | .error _ => sent
  | _, _, sent => sent

theorem Op.Local.unsent {op : Op} (here : op.Local) : Program.Silent sentFiles op := by
  intro answer sent
  cases op with
  | provider call => exact absurd rfl (here call)
  | _ => rfl

theorem subset_sentFiles (op : Op) (answer : op.Answer) (sent : List Path)
    : sent ⊆ sentFiles op answer sent := by
  cases op with
  | provider call =>
      cases call with
      | upload => cases answer <;> simp [sentFiles]
      | listRemote | mkdir | delete | rename => exact fun _ => id
  | _ => exact fun _ => id

/-- What has been sent stays so, by induction on the program. -/
theorem guarded_sent {α : Type} {env : Environment} {program : Eff α} {w : World}
    {sent : List Path} {path : Path} (member : path ∈ sent)
    : Guarded (noted env.sem sentFiles) (fun _ _ => True) program (w, sent)
        (fun _ last => path ∈ last.2) := by
  induction program generalizing w sent with
  | done result => exact member
  | call op next ih =>
      refine guarded_noted.mpr ⟨trivial, fun answer after _ => ?_⟩
      exact ih answer (subset_sentFiles op answer sent member)

-----------------------------------------------------------------------------------------
-- Modifications that have not been sent
-----------------------------------------------------------------------------------------

/-- Where a file that was there before may be after what is reported. -/
inductive WatchEvent.Brings : WatchEvent → Path → Path → Prop
  | modified {changed path : Path} : WatchEvent.Brings (.modified changed) path path
  | deleted {gone path : Path} (spared : ¬ gone <+: path)
    : WatchEvent.Brings (.deleted gone) path path
  | moved {source target : Path} (rest : Path) (apart : ¬ source <+: target ++ rest)
    : WatchEvent.Brings (.renamed source target) (source ++ rest) (target ++ rest)
  | stays {source target path : Path} (spared : ¬ source <+: path)
    : WatchEvent.Brings (.renamed source target) path path

/-- A regular file with the content lies at the path itself, no link being followed. -/
def Disk.Stores (disk : Disk) (path : Path) (content : List UInt8) : Prop :=
  ∃ data, disk.root.descend path = some (.file data) ∧ data.content = content

/-- A change of the disk is reported when it is made: contents are new only at a modified path, or
in a directory that arrives there, and move only as reported.
-/
def WatchEvent.Made (event : WatchEvent) (disk disk' : Disk) : Prop :=
  ∀ path content,
    disk'.Stores path content
    → (∃ changed, event = .modified changed ∧ changed <+: path)
      ∨ ∃ before, event.Brings before path ∧ disk.Stores before content

/-- What a report makes of the files with a modification that has not been sent: a deletion takes
the file with it, a move brings it to its new path.
-/
def WatchEvent.unsent (event : WatchEvent) (paths : Set Path) : Set Path :=
  {path | event = .modified path ∨ ∃ before ∈ paths, event.Brings before path}

/-- There is a file to be synchronised at the path. -/
def World.Shows (w : World) (ignore : IgnoreMatcher) (path : Path) : Prop :=
  ∃ data, w.disk.node? path = some (.file data) ∧ ignore.isIgnored path false = false

theorem World.Shows.congr {w v : World} {ignore : IgnoreMatcher} {path : Path}
    (shows : w.Shows ignore path) (disk : v.disk = w.disk)
    : v.Shows ignore path := by
  obtain ⟨data, file, kept⟩ := shows
  exact ⟨data, disk ▸ file, kept⟩

/-- The file at the path has the content that is recorded under the key. -/
def World.UpToDate (md5 : List UInt8 → String) (w : World) (path : Path) (key : String) : Prop :=
  ∃ data,
    w.disk.node? path = some (.file data)
      ∧ w.Recorded key (fun entry => entry.hash = md5 data.content)

/-- The task finds the file at its path unchanged. A renaming of a known source takes the record
along.
-/
def Task.FindsUnchanged (md5 : List UInt8 → String) (primary : SyncPair) (w : World) : Task → Prop
  | .syncFile path => w.UpToDate md5 path (keyOf primary path)
  | .delete _ => False
  | .rename source target =>
      ((∃ entry, SourceKnown primary w source entry)
        → w.UpToDate md5 target (keyOf primary source))
      ∧ ((∀ entry, ¬ SourceKnown primary w source entry)
        → w.UpToDate md5 target (keyOf primary target))

/-- The task uploads the file at its path. A renaming does so only if its source is not known. -/
def Task.Uploads (md5 : List UInt8 → String) (primary : SyncPair) (ignore : IgnoreMatcher)
    (w : World)
    : Task → Prop
  | .syncFile path => ∃ data key, UploadDue md5 primary ignore w path data key
  | .delete _ => False
  | .rename source target =>
      (∀ entry, ¬ SourceKnown primary w source entry)
      ∧ ∃ data key, UploadDue md5 primary ignore w target data key

-----------------------------------------------------------------------------------------
-- Runs
-----------------------------------------------------------------------------------------

/-- What happens: a change of the disk with its report, and what the engine does. -/
inductive Live.Event
  | report (event : WatchEvent)
  | receive
  | tick
  | handle (task : Task) (sent : List Path)

/-- How the reports and the engine move on, the provider never failing. -/
inductive Live.Moves (md5 : List UInt8 → String) (ctx : EngineContext) (primary : SyncPair)
    (ignore : IgnoreMatcher)
    : Program.Moves Live Live.Event
  | report {live : Live} {event : WatchEvent} {disk : Disk} (made : event.Made live.world.disk disk)
    : Live.Moves md5 ctx primary ignore live (.report event)
        { live with world := { live.world with disk }, inbox := live.inbox ++ [event] }
  | receive {live : Live} {event : WatchEvent} {rest : List WatchEvent} {after : World}
    (reported : live.inbox = event :: rest)
    (dispatches
      : Reaches (Environment.willing md5).sem (dispatchEvent primary.localPath event) live.world
          (.done (.ok true)) after)
    : Live.Moves md5 ctx primary ignore live .receive
        ⟨after, rest, live.pending.note live.now event, live.now⟩
  | tick {live : Live} {now : Nat} {ready : List Path} {after : World} (later : live.now ≤ now)
    (order : ready.Perm (live.pending.ready now ctx.cfg.advanced.debounceMs))
    (dispatches
      : Reaches (Environment.willing md5).sem (dispatchAll primary.localPath ready) live.world
          (.done (.ok true)) after)
    : Live.Moves md5 ctx primary ignore live .tick
        ⟨after, live.inbox, live.pending.without ready, now⟩
  | handle {live : Live} {task : Task} {rest : List Task} {result : Except Error Unit}
    {after : World} {sent : List Path} (queued : live.world.tasks = task :: rest)
    (handles
      : Reaches (noted (Environment.willing md5).sem sentFiles) (handle ctx ignore task)
          ({ live.world with tasks := rest }, []) (.done result) (after, sent))
    : Live.Moves md5 ctx primary ignore live (.handle task sent) { live with world := after }

/-- The files with a reported modification since which their content has neither been sent, nor been
found to be the recorded one, nor been deleted.
-/
def unsentAfter (md5 : List UInt8 → String) (primary : SyncPair) : Watch Live Live.Event (Set Path)
  | paths, _, .report event, _ => event.unsent paths
  | paths, live, .handle task sent, _ =>
      {path ∈ paths |
        path ∉ sent ∧ ¬ (path = task.subject ∧ task.FindsUnchanged md5 primary live.world)}
  | paths, _, _, _ => paths

/-- The requests that a task stands for, with those of a renaming: that its source be gone, and its
target there.
-/
def Task.mentions : Task → List (Path × Duty)
  | .syncFile path => [(path, .synchronise)]
  | .delete path => [(path, .remove)]
  | .rename source target => [(source, .remove), (target, .synchronise)]

def WatchEvent.mentions : WatchEvent → List (Path × Duty)
  | .modified path => [(path, .synchronise)]
  | .deleted path => [(path, .remove)]
  | .renamed source target => [(source, .remove), (target, .synchronise)]

/-- The last of the requests for a path that are left. -/
def Live.due (live : Live) (path : Path) : Option Duty :=
  lastFor path
    (live.world.tasks.flatMap Task.mentions
      ++ (live.pending.keys.map (fun path => (path, .synchronise))
        ++ live.inbox.flatMap WatchEvent.mentions))

/-- No file with a modification still to be sent comes to a path that the report does not name, as
it does with a directory that moves; and a task that is the last one for such a file of its path
uploads it, or finds it unchanged.
-/
def Careful (md5 : List UInt8 → String) (primary : SyncPair) (ignore : IgnoreMatcher)
    : Discipline Live Live.Event (Set Path)
  | paths, live, .report event, next =>
      ∀ path ∈ event.unsent paths,
        (path, .synchronise) ∉ event.mentions → next.world.Shows ignore path
        → path ∈ paths ∧ live.world.Shows ignore path
  | paths, live, .handle task _, next =>
      task.subject ∈ paths → next.due task.subject = none → live.world.Shows ignore task.subject
      → task.Uploads md5 primary ignore live.world ∨ task.FindsUnchanged md5 primary live.world
  | _, _, _, _ => True

-----------------------------------------------------------------------------------------
-- What the workers send
-----------------------------------------------------------------------------------------

section Sending

variable {md5 : List UInt8 → String} {cfg : AppConfig} {primary : SyncPair}
  {ignore : IgnoreMatcher} {w : World} {path : Path} {sent : List Path}

/-- An upload loop that nothing stops sends its file. -/
theorem uploading_sends {key hash fileName : String} {time : Int} {parentId : DriveId}
    {existing : Option DriveId} (running : w.shutdown = false)
    : Guarded (noted (Environment.willing md5).sem sentFiles) (fun _ _ => True)
        (uploading ⟨cfg, false⟩ path key hash time parentId fileName existing) (w, sent)
        (fun _ last => path ∈ last.2) := by
  refine (comes_uploading (Environment.willing_quiet md5) running).guarded_noted
    (fun _ => Op.Local.unsent) (fun _ _ _ => trivial) ?_
  rintro program state ⟨next, rfl⟩
  refine guarded_noted.mpr ⟨trivial, ?_⟩
  rintro answer after ⟨remote, ⟨result, rfl, -⟩, -⟩
  exact guarded_sent (by simp [sentFiles])

theorem syncFile_sends (configured : cfg.getPrimaryPair = some primary)
    (running : w.shutdown = false) {data : FileData} {key : String}
    (due : UploadDue md5 primary ignore w path data key)
    : Guarded (noted (Environment.willing md5).sem sentFiles) (fun _ _ => True)
        (syncFile ⟨cfg, false⟩ ignore path) (w, sent) (fun _ last => path ∈ last.2) := by
  have comes : Comes (.willing md5) _ (syncFile ⟨cfg, false⟩ ignore path) w :=
    comes_syncFile (Environment.willing_quiet md5) running configured
  refine comes.guarded_noted (fun _ => Op.Local.unsent) (fun _ _ _ => trivial) ?_
  rintro program state (⟨result, notDue⟩ | ⟨-, -, -, running⟩)
  · exact absurd due (notDue _ _)
  · exact uploading_sends running

/-- What is to be uploaded depends on the disk, the rows and the cache. -/
theorem Task.Uploads.congr {task : Task} {v : World} (uploads : task.Uploads md5 primary ignore w)
    (disk : v.disk = w.disk) (db : v.db = w.db) (pathCache : v.pathCache = w.pathCache)
    : task.Uploads md5 primary ignore v := by
  have recorded {key : String} {test : FileEntry → Bool}
      : v.Recorded key test ↔ w.Recorded key test := by
    simp [World.Recorded, db, pathCache]
  have due {path : Path} {data : FileData} {key : String}
      (due : UploadDue md5 primary ignore w path data key)
      : UploadDue md5 primary ignore v path data key :=
    { due with
      file := disk ▸ due.file
      newTime := fun there => due.newTime (recorded.mp there)
      newContent := fun there => due.newContent (recorded.mp there)
      folder := by
        rw [World.folderId?_congr pathCache]
        exact due.folder }
  cases task with
  | syncFile path => exact uploads.imp (fun _ => Exists.imp (fun _ => due))
  | delete path => exact uploads
  | rename source target =>
      obtain ⟨unknown, uploads⟩ := uploads
      refine ⟨fun entry known => unknown entry ⟨?_, ?_⟩,
        uploads.imp (fun _ => Exists.imp (fun _ => due))⟩
      · exact pathCache ▸ known.cached
      · exact db ▸ known.row

/-- A task that uploads the file at its path has sent it when it ends. -/
theorem Task.Uploads.sends {task : Task} (configured : cfg.getPrimaryPair = some primary)
    (running : w.shutdown = false) (uploads : task.Uploads md5 primary ignore w)
    : Guarded (noted (Environment.willing md5).sem sentFiles) (fun _ _ => True)
        (handle ⟨cfg, false⟩ ignore task) (w, sent) (fun _ last => task.subject ∈ last.2) := by
  cases task with
  | syncFile path =>
      obtain ⟨data, key, due⟩ := uploads
      exact syncFile_sends configured running due
  | delete path => exact uploads.elim
  | rename source target =>
      obtain ⟨unknown, data, key, due⟩ := uploads
      have comes : Comes (.willing md5) _ (SyncGDrive.rename ⟨cfg, false⟩ ignore source target) w :=
        comes_rename (Environment.willing_quiet md5) configured
      refine comes.guarded_noted (fun _ => Op.Local.unsent) (fun _ _ _ => trivial) ?_
      intro program state stage
      have there : w.disk.isFile target = true := by
        simp [Disk.isFile, Disk.metadata, due.file, Node.metadata]
      have kept : ignore.isIgnored target (w.disk.isDir target) = false := by
        simpa [Disk.isDir, Disk.metadata, due.file, Node.metadata] using due.kept
      cases stage with
      | finished result settled =>
          rcases settled with both | ⟨⟨entry, known⟩, -⟩ | ⟨-, absent | ignored⟩
          · have excluded : ignore.isIgnored target (w.disk.isDir target) = true := both.2
            rw [kept] at excluded
            cases excluded
          · exact absurd known (unknown entry)
          · rw [there] at absent
            cases absent
          · rw [kept] at ignored
            cases ignored
      | renames due => exact absurd due.known (unknown _)
      | synchronises => exact syncFile_sends configured running due

end Sending

-----------------------------------------------------------------------------------------
-- Requests move on
-----------------------------------------------------------------------------------------

section Moving

variable {live : Live} {after : World} {path : Path}

theorem Live.due_eq
    : live.due path
      = (lastFor path (live.inbox.flatMap WatchEvent.mentions)).or
          ((if path ∈ live.pending then some .synchronise else none).or
            (lastFor path (live.world.tasks.flatMap Task.mentions))) := by
  rw [Live.due, lastFor_append, lastFor_append, lastFor_map, Option.or_assoc]
  simp only [AList.mem_keys]

theorem Live.due_report {world : World} {event : WatchEvent}
    (tasks : world.tasks = live.world.tasks)
    : (Live.mk world (live.inbox ++ [event]) live.pending live.now).due path
      = (lastFor path event.mentions).or (live.due path) := by
  simp [Live.due_eq, tasks, lastFor_append, Option.or_assoc]

theorem Live.due_receive {event : WatchEvent} {rest : List WatchEvent}
    (reported : live.inbox = event :: rest)
    (tasks : after.tasks = live.world.tasks ++ event.tasks)
    : (Live.mk after rest (live.pending.note live.now event) live.now).due path
        = live.due path := by
  rw [Live.due_eq, Live.due_eq, reported, tasks]
  cases event with
  | modified other =>
      by_cases same : path = other
      · simp [WatchEvent.mentions, WatchEvent.tasks, lastFor, Pending.note, same]
      · simp [WatchEvent.mentions, WatchEvent.tasks, lastFor, Pending.note, same, Ne.symm same]
  | deleted other =>
      by_cases same : path = other
      · simp [WatchEvent.mentions, WatchEvent.tasks, Task.mentions, lastFor, lastFor_append,
          Pending.note, same]
      · simp [WatchEvent.mentions, WatchEvent.tasks, Task.mentions, lastFor, lastFor_append,
          Pending.note, same, Ne.symm same]
  | renamed source target =>
      by_cases here : path = target
      · simp [WatchEvent.mentions, WatchEvent.tasks, Task.mentions, lastFor, lastFor_append,
          Pending.note, here]
      · by_cases there : path = source
        · simp [WatchEvent.mentions, WatchEvent.tasks, Task.mentions, lastFor, lastFor_append,
            Pending.note, there]
        · simp [WatchEvent.mentions, WatchEvent.tasks, Task.mentions, lastFor, lastFor_append,
            Pending.note, here, Ne.symm here, there, Ne.symm there]

theorem flatMap_syncFile (paths : List Path)
    : (paths.map Task.syncFile).flatMap Task.mentions
      = paths.map (fun path => (path, .synchronise)) := by
  induction paths with
  | nil => rfl
  | cons path rest ih => simpa [Task.mentions] using ih

theorem Live.due_tick {ready : List Path} {now : Nat}
    (waiting : ∀ path ∈ ready, path ∈ live.pending)
    (tasks : after.tasks = live.world.tasks ++ ready.map .syncFile)
    : (Live.mk after live.inbox (live.pending.without ready) now).due path = live.due path := by
  rw [Live.due_eq, Live.due_eq]
  simp only [tasks, List.flatMap_append, lastFor_append, flatMap_syncFile, lastFor_map,
    Pending.mem_without]
  by_cases due : path ∈ ready
  · simp [due, waiting path due]
  · simp [due]

theorem Live.due_handle {task : Task} {rest : List Task} (queued : live.world.tasks = task :: rest)
    (tasks : after.tasks = rest)
    : live.due path
        = (Live.due { live with world := after } path).or (lastFor path task.mentions) := by
  rw [Live.due_eq, Live.due_eq]
  simp [queued, tasks, lastFor_append, Option.or_assoc]

end Moving

-----------------------------------------------------------------------------------------
-- Every modification is still requested
-----------------------------------------------------------------------------------------

/-- Every modification that has not been sent is the last request for its path, if the file is
there.
-/
structure Live.Requested (ignore : IgnoreMatcher) (live : Live) (paths : Set Path) : Prop where
  due : ∀ path ∈ paths, live.world.Shows ignore path → live.due path = some .synchronise
  running : live.world.shutdown = false
  online : live.world.offline = false

section Requests

variable {md5 : List UInt8 → String} {cfg : AppConfig} {primary : SyncPair}
  {ignore : IgnoreMatcher} {live next : Live} {paths : Set Path}

/-- What is brought somewhere is not where the report says that nothing is left. -/
theorem WatchEvent.unsent_mentions {event : WatchEvent} {path : Path}
    (member : path ∈ event.unsent paths)
    : lastFor path event.mentions
      = if (path, .synchronise) ∈ event.mentions then some .synchronise else none := by
  rcases member with rfl | ⟨before, _, brings⟩
  · simp [WatchEvent.mentions, lastFor]
  · cases brings with
    | @modified changed =>
        by_cases same : changed = path
        · simp [WatchEvent.mentions, lastFor, same]
        · simp [WatchEvent.mentions, lastFor, same, Ne.symm same]
    | @deleted gone _ spared =>
        have differs : gone ≠ path := by
          rintro rfl
          exact spared List.prefix_rfl
        simp [WatchEvent.mentions, lastFor, differs]
    | @moved source target rest apart =>
        have fromSource : source ≠ target ++ rest := by
          intro same
          exact apart (same ▸ List.prefix_rfl)
        cases rest with
        | nil => simp [WatchEvent.mentions, lastFor]
        | cons name rest => simp [WatchEvent.mentions, lastFor, fromSource]
    | @stays source target _ spared =>
        have fromSource : source ≠ path := by
          rintro rfl
          exact spared List.prefix_rfl
        by_cases same : target = path
        · simp [WatchEvent.mentions, lastFor, same]
        · simp [WatchEvent.mentions, lastFor, fromSource, same, Ne.symm same]

/-- A report requests what it adds, and leaves the other requests. -/
theorem Live.Requested.reported (requested : live.Requested ignore paths) {event : WatchEvent}
    {disk : Disk}
    (named
      : ∀ path ∈ event.unsent paths,
          (path, .synchronise) ∉ event.mentions
          → World.Shows { live.world with disk } ignore path
          → path ∈ paths ∧ live.world.Shows ignore path)
    : Live.Requested ignore
        { live with world := { live.world with disk }, inbox := live.inbox ++ [event] }
        (event.unsent paths) := by
  refine ⟨fun path member there => ?_, requested.running, requested.online⟩
  refine (Live.due_report rfl).trans ?_
  rw [WatchEvent.unsent_mentions member]
  by_cases mentioned : (path, Duty.synchronise) ∈ event.mentions
  · rw [if_pos mentioned, Option.some_or]
  · rw [if_neg mentioned, Option.none_or]
    obtain ⟨before, showed⟩ := named path member mentioned there
    exact requested.due path before showed

/-- A task answers a request only for its subject. -/
theorem Task.lastFor_mentions {task : Task} {path : Path}
    (requests : lastFor path task.mentions = some .synchronise)
    : path = task.subject := by
  cases task with
  | syncFile other =>
      by_cases here : other = path
      · exact here.symm
      · simp [Task.mentions, lastFor, here] at requests
  | delete other =>
      by_cases same : other = path <;> simp [Task.mentions, lastFor, same] at requests
  | rename source target =>
      by_cases here : target = path
      · exact here.symm
      · by_cases there : source = path <;>
          simp [Task.mentions, lastFor, here, there] at requests

/-- One move of a careful run. -/
theorem Live.Requested.kept (configured : cfg.getPrimaryPair = some primary)
    (requested : live.Requested ignore paths) {label : Live.Event}
    (moved : Live.Moves md5 ⟨cfg, false⟩ primary ignore live label next)
    (careful : Careful md5 primary ignore paths live label next)
    : next.Requested ignore (unsentAfter md5 primary paths live label next) := by
  have quiet := Environment.willing_quiet md5
  cases moved with
  | report made => exact requested.reported careful
  | receive reported dispatches =>
      obtain ⟨-, sent, -⟩ := ((always_dispatchEvent quiet requested.online).reaches dispatches).2
      obtain ⟨running, online⟩ :=
        ((always_flags quiet _ requested.running requested.online).reaches dispatches).here
      have disk := ((always_disk rfl _).reaches dispatches).here
      refine ⟨fun path member there => ?_, running, online⟩
      have showed := there.congr disk.symm
      exact (Live.due_receive reported sent.tasks).trans (requested.due path member showed)
  | tick later order dispatches =>
      obtain ⟨-, sent, -⟩ :=
        ((always_dispatchAll quiet requested.running requested.online).reaches dispatches).2
      obtain ⟨running, online⟩ :=
        ((always_flags quiet _ requested.running requested.online).reaches dispatches).here
      have disk := ((always_disk rfl _).reaches dispatches).here
      refine ⟨fun path member there => ?_, running, online⟩
      have showed := there.congr disk.symm
      have waiting (path) (ready : path ∈ _) := Pending.mem_of_ready (order.mem_iff.mp ready)
      exact (Live.due_tick waiting sent.tasks).trans (requested.due path member showed)
  | @handle _ task rest result after sent queued handles =>
      let w : World := { live.world with tasks := rest }
      have tasks : after.tasks = rest := (always_handle_tasks.reaches handles.bare).here
      have flags : Always (Environment.willing md5).sem _ (handle ⟨cfg, false⟩ ignore task) w _ :=
        always_flags quiet _ requested.running requested.online
      obtain ⟨running, online⟩ := (flags.reaches handles.bare).here
      have disk : after.disk = live.world.disk := ((always_disk rfl _).reaches handles.bare).here
      refine ⟨fun path member there => ?_, running, online⟩
      have showed := there.congr disk.symm
      obtain ⟨before, unsent, notUnchanged⟩ := member
      have due := requested.due path before showed
      rw [Live.due_handle queued tasks] at due
      cases later : Live.due { live with world := after } path with
      | some duty => simpa [later] using due
      | none =>
          rw [later, Option.none_or] at due
          obtain rfl := Task.lastFor_mentions due
          rcases careful before later showed with uploads | unchanged
          · have uploads : task.Uploads md5 primary ignore w := uploads.congr rfl rfl rfl
            have sends := @Task.Uploads.sends _ _ _ _ w [] _ configured requested.running uploads
            exact absurd (sends.ends handles) unsent
          · exact absurd ⟨rfl, unchanged⟩ notUnchanged

end Requests

end SyncGDrive
