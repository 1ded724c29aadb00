import SyncGDrive.Engine.Completion

/-! What the sending phases of a scan put into the channel where the environment is
undisturbed: one task for each file to synchronise, and one for each orphan.
-/

namespace SyncGDrive

open Program

variable {env : Environment} {w state : World} {cfg : AppConfig} {primary : SyncPair}
  {ignore : IgnoreMatcher} {localRelSet dbIndex : List String}

-----------------------------------------------------------------------------------------
-- Sending
-----------------------------------------------------------------------------------------

/-- The tasks have been sent, and nothing else that a scan works on has changed. -/
def World.Sends (w : World) (sent : List Task) (state : World) : Prop :=
  World.Agrees { w with tasks := w.tasks ++ sent } state ∧ state.pathCache = w.pathCache

theorem World.Sends.of_agrees (agrees : w.Agrees state) (same : state.pathCache = w.pathCache)
    : w.Sends [] state :=
  ⟨⟨agrees.disk, agrees.db, agrees.remote, agrees.tasks.trans (List.append_nil _).symm,
    agrees.running⟩, same⟩

theorem World.Sends.trans {first second : List Task} {after : World}
    (before : w.Sends first state) (next : state.Sends second after)
    : w.Sends (first ++ second) after := by
  obtain ⟨⟨disk, db, remote, tasks, running⟩, cache⟩ := before
  obtain ⟨⟨disk', db', remote', tasks', running'⟩, cache'⟩ := next
  refine ⟨⟨disk'.trans disk, db'.trans db, remote'.trans remote, ?_, running'.trans running⟩,
    cache'.trans cache⟩
  rw [show after.tasks = state.tasks ++ second from tasks',
    show state.tasks = w.tasks ++ first from tasks, List.append_assoc]

/-- Some tasks have been sent. -/
def World.Sending (w state : World) : Prop := ∃ sent, w.Sends sent state

/-- A loop sends what its turns send, by induction on the items. -/
theorem always_sendEach {γ : Type} {body : γ → Eff Unit} (plan : γ → List Task) (items : List γ)
    (running : w.shutdown = false)
    (step
      : ∀ item state,
          w.Sending state → state.shutdown = false
          → Always env.sem state.Sending (body item) state
              (fun result last => result = .ok () ∧ state.Sends (plan item) last))
    : Always env.sem w.Sending (items.forM body) w
        (fun result last => result = .ok () ∧ w.Sends (items.flatMap plan) last) := by
  refine always_forM
    (fun rest state =>
      state.shutdown = false
      ∧ ∃ done, items = done ++ rest ∧ w.Sends (done.flatMap plan) state)
    ?kept ?step items ⟨running, [], rfl, .of_agrees (.refl w) rfl⟩
  case kept =>
    rintro last ⟨-, done, spelled, sends⟩
    rw [List.append_nil] at spelled
    exact ⟨⟨_, sends⟩, rfl, spelled ▸ sends⟩
  case step =>
    rintro item rest middle ⟨running, done, rfl, sends⟩
    refine ((step item middle ⟨_, sends⟩ running).weaken ?_).mono ?_
    · rintro state ⟨sent, sends'⟩
      exact ⟨_, sends.trans sends'⟩
    · rintro result last - ⟨-, rfl, sends'⟩
      refine ⟨sends'.1.running.trans running, done ++ [item], by simp, ?_⟩
      simpa using sends.trans sends'

/-- What is sent from a later state is sent after what had been sent before. -/
theorem always_sends_after {α : Type} {program : Eff α} {sent : List Task}
    (post : Except Error α → List Task → Prop) (before : w.Sends sent state)
    (always
      : Always env.sem state.Sending program state
          (fun result last => ∃ more, post result more ∧ state.Sends more last))
    : Always env.sem w.Sending program state
        (fun result last => ∃ more, post result more ∧ w.Sends (sent ++ more) last) := by
  refine (always.weaken ?_).mono ?_
  · rintro last ⟨more, sends⟩
    exact ⟨_, before.trans sends⟩
  · rintro result last - ⟨-, more, holds, sends⟩
    exact ⟨more, holds, before.trans sends⟩

/-- A part that sends, and then another. -/
theorem always_send_bind {first : Eff Unit} {second : Unit → Eff Unit} {sent more : List Task}
    (always
      : Always env.sem w.Sending first w (fun result last => result = .ok () ∧ w.Sends sent last))
    (rest
      : ∀ state,
          w.Sends sent state
          → Always env.sem state.Sending (second ()) state
              (fun result last => result = .ok () ∧ state.Sends more last))
    : Always env.sem w.Sending (first >>= second) w
        (fun result last => result = .ok () ∧ w.Sends (sent ++ more) last) := by
  refine always.bind ?_ ?_
  · rintro ⟨⟩ state - ⟨-, before⟩
    refine ((rest state before).weaken ?_).mono ?_
    · rintro last ⟨others, sends⟩
      exact ⟨_, before.trans sends⟩
    · rintro result last - ⟨-, rfl, sends⟩
      exact ⟨rfl, before.trans sends⟩
  · rintro error state - ⟨same, -⟩
    cases same

section Phases

variable (quiet : env.Undisturbed)

include quiet

/-- Looking and reporting between sends. -/
theorem always_look_bind {α : Type} {program : Eff α} {f : α → Eff Unit}
    {post : Except Error Unit → World → Prop} (silent : Uses Op.Silent program)
    (never : NeverFails env program) (running : w.shutdown = false)
    (rest
      : ∀ value state,
          w.Sends [] state → state.shutdown = false
          → Always env.sem w.Sending (f value) state post)
    : Always env.sem w.Sending (program >>= f) w post := by
  refine ((always_agrees quiet silent).and (never w running)).seq ?_ ?_ ?_
  · rintro state ⟨⟨agrees, same⟩, -⟩
    exact ⟨[], .of_agrees agrees same⟩
  · rintro value state ⟨⟨agrees, same⟩, running⟩ -
    exact rest value state (.of_agrees agrees same) running
  · rintro error state - ⟨-, value, same⟩
    cases same

/-- Enqueueing after looking. -/
theorem always_enqueue_sends {task : Task} (before : w.Sends [] state)
    : Always env.sem w.Sending (enqueue task) state
        (fun result last => result = .ok () ∧ w.Sends [task] last) := by
  have sends : w.Sends [task] { state with tasks := state.tasks ++ [task] } :=
    before.trans ⟨.refl _, rfl⟩
  exact always_enqueue quiet ⟨[], before⟩ ⟨⟨_, sends⟩, rfl, sends⟩

/-- One file to synchronise is sent. -/
theorem always_sendFile {total : Nat} {file : Path × Nat} (running : w.shutdown = false)
    : Always env.sem w.Sending (sendFile ⟨cfg, false⟩ total file) w
        (fun result last => result = .ok () ∧ w.Sends [.syncFile file.1] last) := by
  refine always_unlessShutdown quiet running ?_
  refine always_look_bind quiet (uses_silent uses_scanProgress) (neverFails_ask quiet) running ?_
  intro _ state before _
  exact always_enqueue_sends quiet before

/-- Phase 4 sends the files in their order. -/
theorem always_sendFiles {toSync : List Path} (running : w.shutdown = false)
    : Always env.sem w.Sending (sendFiles ⟨cfg, false⟩ toSync) w
        (fun result last => result = .ok () ∧ w.Sends (toSync.map .syncFile) last) := by
  unfold sendFiles
  refine always_look_bind quiet ?_ ?_ running ?_
  · exact uses_foldlM _ _ fun bytes path _ =>
      (uses_silent uses_sizeOf).bind (fun _ => uses_pure)
  · exact neverFails_foldlM _ _ fun bytes path _ =>
      NeverFails.bind (neverFails_sizeOf quiet) (fun _ => neverFails_pure)
  intro bytes state before running
  have sends
      : Always env.sem state.Sending
          (do
            unlessDryRun ⟨cfg, false⟩ (ask (.report (.storeTotals toSync.length bytes)))
            toSync.zipIdx.forM (sendFile ⟨cfg, false⟩ toSync.length))
          state
          (fun result last =>
            ∃ more,
              (result = .ok () ∧ more = toSync.map .syncFile) ∧ state.Sends more last) := by
    refine always_look_bind quiet (uses_ask rfl) (neverFails_ask quiet) running ?_
    intro _ reported before running
    refine (always_sends_after (fun result more => result = .ok () ∧ more = toSync.map .syncFile)
      before ?_).mono ?_
    · refine (always_sendEach (fun file => [.syncFile file.1]) _ running
        (fun file state _ running => always_sendFile quiet running)).mono ?_
      rintro result last - ⟨rfl, sends⟩
      refine ⟨_, ⟨rfl, ?_⟩, sends⟩
      rw [← List.map_eq_flatMap, ← Function.comp_def Task.syncFile Prod.fst, ← List.map_map,
        List.zipIdx_map_fst]
    · rintro result last - ⟨more, holds, sends⟩
      exact ⟨more, holds, by simpa using sends⟩
  refine (always_sends_after _ before sends).mono ?_
  rintro result last - ⟨_, ⟨rfl, rfl⟩, sends⟩
  exact ⟨rfl, by simpa using sends⟩

/-- The task that phase 5 sends for a row. -/
def rowTasks (primary : SyncPair) (localRelSet : List String) (dbPath : String) : List Task :=
  if dbPath ∈ localRelSet then [] else [.delete (primary.localPath.join dbPath)]

/-- The task that phase 6 sends for a remote file. -/
def remoteTasks (disk : Disk) (primary : SyncPair) (ignore : IgnoreMatcher)
    (localRelSet dbIndex : List String) (file : RemoteFile)
    : List Task :=
  let localPath := primary.localPath.join file.relativePath
  if file.relativePath ∈ localRelSet ∨ disk.isDir localPath = true
      ∨ file.relativePath ∈ dbIndex ∨ ignore.isIgnored localPath false = true then []
  else [.delete localPath]

/-- Ordering a deletion. -/
theorem always_sendDelete {path : Path} (before : w.Sends [] state)
    : Always env.sem w.Sending (sendDelete ⟨cfg, false⟩ path) state
        (fun result last => result = .ok () ∧ w.Sends [.delete path] last) := by
  refine always_ask_bind.mpr ⟨⟨_, before⟩, ?_⟩
  rintro _ after rfl
  refine always_enqueue_sends quiet ?_
  exact before.trans (.of_agrees (state.agrees_report _) (state.report_pathCache _))

/-- Phase 5, one row. -/
theorem always_orphanRow {dbPath : String} (running : w.shutdown = false)
    : Always env.sem w.Sending (orphanRow ⟨cfg, false⟩ primary localRelSet dbPath) w
        (fun result last =>
          result = .ok () ∧ w.Sends (rowTasks primary localRelSet dbPath) last) := by
  refine always_unlessShutdown quiet running ?_
  have start : w.Sends [] w := .of_agrees (.refl w) rfl
  unfold rowTasks
  split
  · exact ⟨⟨_, start⟩, rfl, start⟩
  · exact always_sendDelete quiet start

/-- Phase 6, one remote file. -/
theorem always_orphanRemote {file : RemoteFile} (running : w.shutdown = false)
    : Always env.sem w.Sending
        (orphanRemote ⟨cfg, false⟩ primary ignore localRelSet dbIndex file) w
        (fun result last =>
          result = .ok ()
          ∧ w.Sends (remoteTasks w.disk primary ignore localRelSet dbIndex file) last) := by
  refine always_unlessShutdown quiet running ?_
  have start : w.Sends [] w := .of_agrees (.refl w) rfl
  have here : w.Sending w := ⟨_, start⟩
  unfold remoteTasks
  by_cases seen : file.relativePath ∈ localRelSet
  · simp only [seen, true_or, if_true]
    exact ⟨here, rfl, start⟩
  simp only [seen, if_false, false_or]
  refine always_isDir_bind here ?_
  cases directory : w.disk.isDir (primary.localPath.join file.relativePath) with
  | true =>
      simp only [true_or, if_true]
      exact ⟨here, rfl, start⟩
  | false =>
      simp only [Bool.false_eq_true, if_false, false_or]
      by_cases known : file.relativePath ∈ dbIndex
      · simp only [known, true_or, if_true]
        exact ⟨here, rfl, start⟩
      simp only [known, if_false, false_or]
      refine always_isDir_bind here ?_
      rw [directory]
      split
      · exact ⟨here, rfl, start⟩
      · exact always_sendDelete quiet start

/-- Phases 4 to 6 send what the comparison left, then a deletion for each orphan. -/
theorem always_sendPhases {toSync : List Path} {index : RemoteIndex}
    (running : w.shutdown = false)
    : Always env.sem w.Sending
        (do
          sendFiles ⟨cfg, false⟩ toSync
          dbIndex.forM (orphanRow ⟨cfg, false⟩ primary localRelSet)
          index.files.forM (orphanRemote ⟨cfg, false⟩ primary ignore localRelSet dbIndex)
          reportWhen (false = true) .idle)
        w
        (fun result last =>
          result = .ok ()
          ∧ w.Sends
              (toSync.map .syncFile
                ++ (dbIndex.flatMap (rowTasks primary localRelSet)
                  ++ (index.files.flatMap
                        (remoteTasks w.disk primary ignore localRelSet dbIndex)
                      ++ [])))
              last) := by
  refine always_send_bind (always_sendFiles quiet running) ?_
  intro filesSent before
  have disk := before.1.disk
  replace running := before.1.running.trans running
  refine always_send_bind (always_sendEach (rowTasks primary localRelSet) dbIndex running
    (fun _ _ _ running => always_orphanRow quiet running)) ?_
  intro rowsSent before
  replace disk := before.1.disk.trans disk
  replace running := before.1.running.trans running
  refine always_send_bind (always_sendEach _ index.files running ?_) ?_
  · rintro file state ⟨sent, sending⟩ running
    rw [← show state.disk = w.disk from sending.1.disk.trans disk]
    exact always_orphanRemote quiet running
  · intro last _
    have here : last.Sends [] last := .of_agrees (.refl last) rfl
    exact ⟨⟨_, here⟩, rfl, here⟩

end Phases

end SyncGDrive
