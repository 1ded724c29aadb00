import SyncGDrive.Data.Concat
import SyncGDrive.Realtime.Duties

/-! What every run of the real-time path keeps: copies and rows are of versions their files
have had, what is owed to an edited path fits its file, and the other paths stay as they were.
-/

namespace SyncGDrive

open Program

-----------------------------------------------------------------------------------------
-- The invariant
-----------------------------------------------------------------------------------------

/-- The copy and the record are those of the file, except that an empty file is not looked
at.
-/
def Setting.Current (s : Setting) (view : Setting.View) : Prop :=
  match view.file with
  | none => view.copy = none ∧ view.record = none
  | some (content, time) =>
      content ≠ [] → view.copy = some content ∧ view.record = some (s.md5 content, time)

/-- What is owed to a slot fits its file: it is there to be synchronised, or gone to be
removed, or nothing is owed any more.
-/
def Setting.Fulfils (s : Setting) (view : Setting.View) : Option Duty → Prop
  | some .synchronise => view.file.isSome
  | some .remove => view.file = none
  | none => s.Current view

/-- What handling a request makes of its slot. -/
def Setting.fulfil (s : Setting) (view : Setting.View) : Duty → Setting.View
  | .synchronise => view.sync s.md5 Setting.vacant
  | .remove => view.remove

/-- No edit has been made at a path. -/
def Unedited (edits : List Edit) (rel : Path) : Prop := ∀ edit ∈ edits, edit.1 ≠ rel

structure Live.Kept (s : Setting) (start : World) (edits : List Edit) (live : Live) : Prop where
  fits : s.Fits live.world.disk
  stored : s.Stored live.world
  cached : s.Cached live.world
  running : live.world.shutdown = false
  online : live.world.offline = false
  folders
    : ∀ id key,
        live.world.remote.FolderAt s.folder id key ↔ start.remote.FolderAt s.folder id key
  followed : ∀ edit ∈ edits, Followed s.primary s.ignore start edit.1
  leaf : ∀ edit ∈ edits, s.leaf edit.1
  tasks
    : ∀ task ∈ live.world.tasks,
        ∃ edit ∈ edits, ∃ duty, task.request = some (s.base ++ edit.1, duty)
  events
    : ∀ event ∈ live.inbox,
        ∃ edit ∈ edits, ∃ duty, event.request = some (s.base ++ edit.1, duty)
  waiting : ∀ path ∈ live.pending, ∃ edit ∈ edits, path = s.base ++ edit.1
  files
    : ∀ rel data,
        Plain rel → Unedited edits rel
        → (live.world.disk.node? (s.base ++ rel) = some (.file data)
          ↔ start.disk.node? (s.base ++ rel) = some (.file data))
  dirs
    : ∀ rel,
        Plain rel
        → ((∃ listing child, live.world.disk.node? (s.base ++ rel) = some (.dir listing child))
          ↔ ∃ listing child, start.disk.node? (s.base ++ rel) = some (.dir listing child))
  same : ∀ rel, Plain rel → Unedited edits rel → s.slot live.world rel = s.slot start rel
  shown
    : ∀ edit ∈ edits, ∀ content time,
        s.visible live.world.disk edit.1 = some (content, time)
        → Version s.folder start edits edit.1 content time
  backed
    : ∀ rel,
        Plain rel → (s.slot live.world rel).Backed s.md5 (Version s.folder start edits rel)
  owed : ∀ edit ∈ edits, s.Fulfils (s.slot live.world edit.1) (live.owed (s.base ++ edit.1))

-----------------------------------------------------------------------------------------
-- Handling a request
-----------------------------------------------------------------------------------------

section Handling

variable (s : Setting) {start : World} {edits : List Edit} {rel : Path} {view : Setting.View}
  {duty : Duty} (told : Told s.md5 s.folder start edits)
  (backed : view.Backed s.md5 (Version s.folder start edits rel))
  (shown
    : ∀ content time,
        view.file = some (content, time) → Version s.folder start edits rel content time)

include told backed shown

/-- Handling a request leaves versions. -/
theorem Setting.backed_fulfil
    : (s.fulfil view duty).Backed s.md5 (Version s.folder start edits rel) := by
  cases duty with
  | remove => exact Mirror.Slot.backed_remove
  | synchronise =>
      cases file : view.file with
      | none => simpa only [fulfil, Mirror.Slot.sync, file] using backed
      | some data =>
          exact backed.sync (told.times rel) (told.digests rel) file (shown _ _ file)

/-- Handling the last request for a slot fulfils what was owed; before that, the rest is still
owed.
-/
theorem Setting.fulfils_fulfil {owed : Option Duty} (owes : s.Fulfils view (owed.or (some duty)))
    : s.Fulfils (s.fulfil view duty) owed := by
  have sameFile : (s.fulfil view duty).file = view.file := by
    cases duty with
    | remove => rfl
    | synchronise => exact Mirror.Slot.sync_file
  cases owed with
  | some later => cases later <;> simpa only [Fulfils, Option.some_or, sameFile] using owes
  | none =>
      cases duty with
      | remove =>
          have gone : view.file = none := owes
          simp [Fulfils, Current, fulfil, Mirror.Slot.remove, gone]
      | synchronise =>
          obtain ⟨⟨content, time⟩, file⟩ := Option.isSome_iff_exists.mp owes
          simp only [Fulfils, Current, sameFile, file]
          intro full
          have sent
              : view.sync s.md5 vacant
                = ⟨view.file, some content, some (s.md5 content, time)⟩ :=
            backed.sync_eq (told.times rel) (told.digests rel) file (shown _ _ file)
              (by simpa [vacant] using full)
          simp only [fulfil, sent, and_self]

end Handling

/-- Handling a task brings its slot where the request leads, whatever the file is by now. -/
theorem Setting.moves_of_handle {s : Setting} {w after : World} {rel : Path} {duty : Duty}
    {task : Task} {result : Except Error Unit} (fits : s.Fits w.disk) (stored : s.Stored w)
    (cached : s.Cached w) (running : w.shutdown = false) (plain : Plain rel) (leaf : s.leaf rel)
    (ignored : s.ignore.isIgnored (s.base ++ rel) false = false)
    (folder : ∃ id, w.remote.FolderAt s.folder id (relKey rel.dropLast))
    (known : task.request = some (s.base ++ rel, duty))
    (handles
      : Reaches (Environment.calm s.md5 s.folder).sem (handle ⟨s.cfg, false⟩ s.ignore task) w
          (.done result) after)
    : s.Cached after ∧ s.Moves w rel (s.fulfil (s.slot w rel) duty) after := by
  have free (state : World) (view : View) : s.Moves w rel view state → True := fun _ => trivial
  cases task with
  | rename source target => cases known
  | syncFile path =>
      obtain ⟨rfl, rfl⟩ := Prod.mk.inj (Option.some.inj known)
      cases shown : s.visible w.disk rel with
      | none =>
          have still
              : Always (Environment.calm s.md5 s.folder).sem (fun _ => True)
                  (syncFile ⟨s.cfg, false⟩ s.ignore (s.base ++ rel)) w (fun _ last => last = w) :=
            always_syncFile_absent shown trivial
          obtain ⟨-, same⟩ := still.reaches handles
          have gone : (s.slot w rel).file = none := shown
          have unchanged : s.fulfil (s.slot w rel) .synchronise = s.slot w rel := by
            simp only [fulfil, Mirror.Slot.sync, gone]
          rw [same, unchanged]
          exact ⟨cached, .refl rel stored.sound⟩
      | some file =>
          have sends
              : Always (Environment.calm s.md5 s.folder).sem (fun _ => True)
                  (syncFile ⟨s.cfg, false⟩ s.ignore (s.base ++ rel)) w _ :=
            always_syncFile fits stored cached plain running shown (fun _ => folder)
              (fun state => free state _) (fun state => free state _) (fun state => free state _)
          exact (sends.reaches handles).2.2
  | delete path =>
      obtain ⟨rfl, rfl⟩ := Prod.mk.inj (Option.some.inj known)
      have removes
          : Always (Environment.calm s.md5 s.folder).sem (fun _ => True)
              (delete ⟨s.cfg, false⟩ s.ignore (s.base ++ rel)) w _ :=
        always_delete fits stored cached plain leaf ignored running rfl
          (fun state => free state _) (fun state => free state _) (fun state => free state _)
      exact (removes.reaches handles).2.2

namespace Live.Kept

variable {s : Setting} {start : World} {edits : List Edit} {live : Live}

-----------------------------------------------------------------------------------------
-- Requests move on
-----------------------------------------------------------------------------------------

/-- Sending tasks and moving requests on keeps everything. -/
theorem moved (kept : live.Kept s start edits) {after : Live} {sent : List Task}
    (sends : live.world.Sends sent after.world) (online : after.world.offline = false)
    (owed : ∀ path, after.owed path = live.owed path)
    (tasks
      : ∀ task ∈ sent, ∃ edit ∈ edits, ∃ duty, task.request = some (s.base ++ edit.1, duty))
    (events : ∀ event ∈ after.inbox, event ∈ live.inbox)
    (waiting : ∀ path ∈ after.pending, ∃ edit ∈ edits, path = s.base ++ edit.1)
    : after.Kept s start edits := by
  obtain ⟨⟨disk, db, remote, queued, running⟩, pathCache⟩ := sends
  have slots (rel : Path) : s.slot after.world rel = s.slot live.world rel :=
    Setting.slot_congr disk remote db
  have disk : after.world.disk = live.world.disk := disk
  have remote : after.world.remote = live.world.remote := remote
  exact
    { fits := disk ▸ kept.fits
      stored := kept.stored.same remote db
      cached := kept.cached.same remote pathCache
      running := running.trans kept.running
      online
      folders := remote ▸ kept.folders
      followed := kept.followed
      leaf := kept.leaf
      tasks := by
        intro task member
        rw [queued] at member
        exact (List.mem_append.mp member).elim (kept.tasks task) (tasks task)
      events := fun event member => kept.events event (events event member)
      waiting
      files := disk ▸ kept.files
      dirs := disk ▸ kept.dirs
      same := by simpa only [slots] using kept.same
      shown := disk ▸ kept.shown
      backed := by simpa only [slots] using kept.backed
      owed := by simpa only [slots, owed] using kept.owed }

/-- Receiving a report keeps everything. -/
theorem received (kept : live.Kept s start edits) {event : WatchEvent} {rest : List WatchEvent}
    {result : Except Error Bool} {after : World} (reported : live.inbox = event :: rest)
    (dispatches
      : Reaches (Environment.calm s.md5 s.folder).sem (dispatchEvent s.base event) live.world
          (.done result) after)
    : (Live.mk after rest (live.pending.note live.now event) live.now).Kept s start edits := by
  have quiet : (Environment.calm s.md5 s.folder).Undisturbed := Environment.calm_undisturbed
  obtain ⟨-, -, sends⟩ := (always_dispatchEvent quiet kept.online).reaches dispatches
  have online := ((always_online _ kept.online).reaches dispatches).here
  obtain ⟨edit, made, duty, known⟩ := kept.events event (by simp [reported])
  refine kept.moved sends online ?_ ?_ ?_ ?_
  · intro path
    exact Live.owed_receive reported (by simp [known]) sends.1.tasks
  · intro task member
    refine ⟨edit, made, duty, ?_⟩
    rw [← known]
    cases event with
    | modified path => cases member
    | deleted path | renamed source target =>
        obtain rfl := List.mem_singleton.mp member
        rfl
  · intro other member
    rw [reported]
    exact List.mem_cons_of_mem _ member
  · intro path member
    cases event with
    | modified other =>
        rcases AList.mem_insert _ |>.mp member with rfl | member
        · exact ⟨edit, made, congrArg Prod.fst (Option.some.inj known)⟩
        · exact kept.waiting path member
    | deleted other => exact kept.waiting path (AList.mem_erase.mp member).2
    | renamed source target => cases known

/-- A tick keeps everything. -/
theorem ticked (kept : live.Kept s start edits) {debounceMs now : Nat} {ready : List Path}
    {result : Except Error Bool} {after : World}
    (order : ready.Perm (live.pending.ready now debounceMs))
    (dispatches
      : Reaches (Environment.calm s.md5 s.folder).sem (dispatchAll s.base ready) live.world
          (.done result) after)
    : (Live.mk after live.inbox (live.pending.without ready) now).Kept s start edits := by
  have quiet : (Environment.calm s.md5 s.folder).Undisturbed := Environment.calm_undisturbed
  obtain ⟨-, -, sends⟩ := (always_dispatchAll quiet kept.running kept.online).reaches dispatches
  have online := ((always_online _ kept.online).reaches dispatches).here
  have waiting (path : Path) (due : path ∈ ready) : path ∈ live.pending :=
    Pending.mem_of_ready (order.mem_iff.mp due)
  refine kept.moved sends online ?_ ?_ (fun _ => id) ?_
  · intro path
    exact Live.owed_tick waiting sends.1.tasks
  · intro task member
    obtain ⟨path, due, rfl⟩ := List.mem_map.mp member
    obtain ⟨edit, made, rfl⟩ := kept.waiting path (waiting path due)
    exact ⟨edit, made, .synchronise, rfl⟩
  · intro path member
    exact kept.waiting path (Pending.mem_without.mp member).1

-----------------------------------------------------------------------------------------
-- Edits
-----------------------------------------------------------------------------------------

/-- An edit keeps everything, and is owed its report. -/
theorem edited (kept : live.Kept s start edits) {edit : Edit} {disk : Disk}
    (followed : Followed s.primary s.ignore start edit.1) (leaf : s.leaf edit.1)
    (changes : edit.Changes s.base live.world.disk disk)
    : (Live.mk { live.world with disk } (live.inbox ++ [edit.event s.base]) live.pending
        live.now).Kept s start (edits ++ [edit]) := by
  obtain ⟨rel, after⟩ := edit
  have earlier {other : Path} (unedited : Unedited (edits ++ [(rel, after)]) other)
      : Unedited edits other ∧ other ≠ rel :=
    ⟨fun edit made => unedited edit (List.mem_append_left _ made),
      fun same => unedited (rel, after) (by simp) same.symm⟩
  have others (other : Path) (plain : Plain other) (different : other ≠ rel)
      : s.visible disk other = s.visible live.world.disk other :=
    Setting.visible_congr (fun data => changes.others other data plain different)
  have slots (other : Path) (plain : Plain other) (different : other ≠ rel)
      : s.slot { live.world with disk } other = s.slot live.world other := by
    simp only [Setting.slot, others other plain different]
  have here
      : s.visible disk rel = after.map (fun data => (data.content, data.modified / 1000000000))
      := by
    have kept : s.ignore.isIgnored (s.base ++ rel) false = false := followed.kept
    unfold Setting.visible
    rw [show disk.node? (s.base ++ rel) = _ from changes.here]
    cases after with
    | none => rfl
    | some data => simp [kept]
  have request : ∃ duty,
      (Edit.event s.base (rel, after)).request = some (s.base ++ rel, duty)
      ∧ s.Fulfils (s.slot { live.world with disk } rel) (some duty) := by
    cases after with
    | none => exact ⟨.remove, rfl, here⟩
    | some data => exact ⟨.synchronise, rfl, by simp [Setting.Fulfils, Setting.slot, here]⟩
  have widen {made : Edit → Prop} (found : ∃ edit ∈ edits, made edit)
      : ∃ edit ∈ edits ++ [(rel, after)], made edit := by
    obtain ⟨edit, member, holds⟩ := found
    exact ⟨edit, List.mem_append_left _ member, holds⟩
  have older {edit : Edit} (made : edit ∈ edits ++ [(rel, after)]) (different : edit.1 ≠ rel)
      : edit ∈ edits ∧ Plain edit.1 := by
    have before : edit ∈ edits := by
      refine (List.mem_append.mp made).resolve_right (fun last => different ?_)
      exact congrArg Prod.fst (List.mem_singleton.mp last)
    exact ⟨before, (kept.followed edit before).plain⟩
  obtain ⟨duty, known, fulfils⟩ := request
  have owes (path : Path)
      : (Live.mk { live.world with disk } (live.inbox ++ [Edit.event s.base (rel, after)])
          live.pending live.now).owed path
        = if s.base ++ rel = path then some duty else live.owed path :=
    Live.owed_report known rfl
  exact
    { fits :=
        { orderly := changes.orderly
          files := by
            intro other data plain found
            by_cases same : other = rel
            · exact same ▸ leaf
            · exact kept.fits.files other data plain
                ((changes.others other data plain same).mp found)
          dirs := by
            intro other listing child plain found
            obtain ⟨listing, child, found⟩ := (changes.dirs other plain).mp ⟨listing, child, found⟩
            exact kept.fits.dirs other listing child plain found }
      stored := kept.stored.same rfl rfl
      cached := kept.cached
      running := kept.running
      online := kept.online
      folders := kept.folders
      followed := List.forall_mem_concat.mpr ⟨kept.followed, followed⟩
      leaf := List.forall_mem_concat.mpr ⟨kept.leaf, leaf⟩
      tasks := fun task member => widen (kept.tasks task member)
      events := List.forall_mem_concat.mpr
        ⟨fun event member => widen (kept.events event member), _, List.mem_concat_self, duty, known⟩
      waiting := fun path member => widen (kept.waiting path member)
      files := by
        intro other data plain unedited
        obtain ⟨unedited, different⟩ := earlier unedited
        exact (changes.others other data plain different).trans
          (kept.files other data plain unedited)
      dirs := fun other plain => (changes.dirs other plain).trans (kept.dirs other plain)
      same := by
        intro other plain unedited
        obtain ⟨unedited, different⟩ := earlier unedited
        exact (slots other plain different).trans (kept.same other plain unedited)
      shown := by
        intro edit made content time shown
        by_cases same : edit.1 = rel
        · rw [same] at shown ⊢
          obtain ⟨data, rfl, same⟩ := Option.map_eq_some_iff.mp (here.symm.trans shown)
          obtain ⟨rfl, rfl⟩ := Prod.mk.inj same
          exact .inl ⟨data, by simp, rfl, rfl⟩
        · obtain ⟨made, plain⟩ := older made same
          rw [others edit.1 plain same] at shown
          exact (kept.shown edit made content time shown).mono _
      backed := fun other plain =>
        Mirror.Slot.Backed.mono (kept.backed other plain) (fun _ _ version => version.mono _)
      owed := by
        intro edit made
        rw [owes]
        by_cases same : edit.1 = rel
        · rw [same, if_pos rfl]
          exact fulfils
        · obtain ⟨made, plain⟩ := older made same
          rw [if_neg (fun equal => same (List.append_cancel_left equal).symm),
            slots edit.1 plain same]
          exact kept.owed edit made }

-----------------------------------------------------------------------------------------
-- Tasks
-----------------------------------------------------------------------------------------

/-- Handling a task keeps everything, and what it leaves owed is owed to other requests. -/
theorem handled (kept : live.Kept s start edits) (told : Told s.md5 s.folder start edits)
    {task : Task} {rest : List Task} {result : Except Error Unit} {after : World}
    (queued : live.world.tasks = task :: rest)
    (handles
      : Reaches (Environment.calm s.md5 s.folder).sem (handle ⟨s.cfg, false⟩ s.ignore task)
          { live.world with tasks := rest } (.done result) after)
    : (Live.mk after live.inbox live.pending live.now).Kept s start edits := by
  obtain ⟨edit, made, duty, known⟩ := kept.tasks task (by simp [queued])
  obtain ⟨plain, ignored, folder, -⟩ := kept.followed edit made
  have parent
      : ∃ id, live.world.remote.FolderAt s.folder id (relKey edit.1.dropLast) :=
    folder.imp (fun id => (kept.folders id _).mpr)
  obtain ⟨cached, moves⟩
      : s.Cached after
        ∧ s.Moves { live.world with tasks := rest } edit.1
            (s.fulfil (s.slot live.world edit.1) duty) after :=
    Setting.moves_of_handle kept.fits (kept.stored.same rfl rfl) kept.cached kept.running plain
      (kept.leaf edit made) ignored parent known handles
  have online : after.offline = false := by
    have before : ({ live.world with tasks := rest } : World).offline = false := kept.online
    exact ((always_online _ before).reaches handles).here
  have leaf := kept.leaf edit made
  have backed := kept.backed edit.1 plain
  have disk : after.disk = live.world.disk := moves.disk
  have shown (content : List UInt8) (time : Int)
      (file : (s.slot live.world edit.1).file = some (content, time))
      : Version s.folder start edits edit.1 content time :=
    kept.shown edit made content time file
  have owes (path : Path)
      : live.owed path
        = ((Live.mk after live.inbox live.pending live.now).owed path).or
            (lastFor path ([task].filterMap Task.request)) :=
    Live.owed_handle queued moves.tasks
  exact
    { fits := disk ▸ kept.fits
      stored := moves.stored (kept.stored.same rfl rfl) plain leaf ignored
      cached
      running := moves.running.trans kept.running
      online
      folders := fun id key => (moves.folders id key).trans (kept.folders id key)
      followed := kept.followed
      leaf := kept.leaf
      tasks := by
        intro other member
        have remaining : after.tasks = rest := moves.tasks
        rw [remaining] at member
        exact kept.tasks other (by simp [queued, member])
      events := kept.events
      waiting := kept.waiting
      files := disk ▸ kept.files
      dirs := disk ▸ kept.dirs
      same := by
        intro rel plain' unedited
        exact (moves.others rel plain' (unedited edit made).symm).trans
          (kept.same rel plain' unedited)
      shown := disk ▸ kept.shown
      backed := by
        intro rel plain'
        by_cases same : rel = edit.1
        · subst same
          rw [moves.here]
          exact s.backed_fulfil told backed shown
        · rw [moves.others rel plain' same]
          exact kept.backed rel plain'
      owed := by
        intro other made'
        have owed := kept.owed other made'
        rw [owes] at owed
        by_cases same : other.1 = edit.1
        · rw [same] at owed ⊢
          rw [moves.here]
          simp only [List.filterMap_cons, known, List.filterMap_nil, lastFor, Option.none_or,
            if_true] at owed
          exact s.fulfils_fulfil told backed shown owed
        · have nothing : lastFor (s.base ++ other.1) ([task].filterMap Task.request) = none := by
            simp [known, lastFor, Ne.symm same]
          rw [nothing, Option.or_none] at owed
          rw [moves.others other.1 (kept.followed other made').plain same]
          exact owed }

end Live.Kept

end SyncGDrive
