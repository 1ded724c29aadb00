import SyncGDrive.Data.Concat
import SyncGDrive.Engine.Detour

/-! The debounce loop as its events and ticks go by: what its map holds at every moment, and
which modification each dispatch is due to.
-/

namespace SyncGDrive

open Program

-----------------------------------------------------------------------------------------
-- The loop
-----------------------------------------------------------------------------------------

/-- The loop of a dispatcher: when it last looked at the clock, its map, and what is left of the
tick it is busy with. It is not going any more once the task channel is closed.
-/
structure Debouncer where
  world : World
  now : Nat
  pending : Pending := ∅
  ready : List Path := []
  going : Bool := true

inductive DebounceLabel
  | event (event : WatchEvent)
  | tick
  | dispatched (path : Path)
  | elsewhere

/-- An event or a tick at a later time, one path of a tick, or a change around the loop. -/
inductive Debouncer.Step (env : Environment) (root : Path) (debounceMs : Nat)
    : Debouncer → DebounceLabel → Debouncer → Prop
  | event {d : Debouncer} {time : Nat} {event : WatchEvent} {going : Bool} {after : World}
    (alive : d.going = true) (idle : d.ready = []) (later : d.now ≤ time)
    (passes : Reaches env.sem (dispatchEvent root event) d.world (.done (.ok going)) after)
    : Step env root debounceMs d (.event event)
        ⟨after, time, d.pending.note time event, [], going⟩
  | tick {d : Debouncer} {time : Nat} {ready : List Path} (alive : d.going = true)
    (idle : d.ready = []) (later : d.now ≤ time)
    (order : ready.Perm (d.pending.ready time debounceMs))
    : Step env root debounceMs d .tick { d with now := time, ready }
  | dispatched {d : Debouncer} {path : Path} {rest : List Path} {going : Bool} {after : World}
    (alive : d.going = true) (waiting : d.ready = path :: rest)
    (passes : Reaches env.sem (dispatchReady root path) d.world (.done (.ok going)) after)
    : Step env root debounceMs d (.dispatched path)
        ⟨after, d.now, d.pending.erase path, rest, going⟩
  | elsewhere {d : Debouncer} (world : World)
    : Step env root debounceMs d .elsewhere { d with world }

/-- The events, ticks and dispatches so far, each with its time; a dispatch has that of its
tick.
-/
abbrev DebounceLog : Type := List (Nat × DebounceLabel)

def debounceLog : Watch Debouncer DebounceLabel DebounceLog
  | log, _, .elsewhere, _ => log
  | log, _, label, next => log ++ [(next.now, label)]

/-- The logs and states that the loop reaches. -/
abbrev DebounceRuns (env : Environment) (root : Path) (debounceMs : Nat) (world : World) (now : Nat)
    (log : DebounceLog) (d : Debouncer)
    : Prop :=
  Observed (Debouncer.Step env root debounceMs) debounceLog anyStep []
    ⟨world, now, ∅, [], true⟩ log d

-----------------------------------------------------------------------------------------
-- What a path goes through
-----------------------------------------------------------------------------------------

/-- An event on the path, at either end of a renaming, or its dispatch. -/
def DebounceLabel.Concerns (path : Path) : DebounceLabel → Prop
  | .event (.modified other) | .event (.deleted other) | .dispatched other => other = path
  | .event (.renamed source target) => source = path ∨ target = path
  | .tick | .elsewhere => False

/-- The last that the log says of the path is its modification at that time. -/
def LastModified (log : DebounceLog) (path : Path) (time : Nat) : Prop :=
  ∃ before after,
    log = before ++ (time, .event (.modified path)) :: after
    ∧ ∀ entry ∈ after, ¬ entry.2.Concerns path

/-- The dispatches of a tick, and nothing else. -/
def OnlyDispatches (log : DebounceLog) : Prop :=
  ∀ entry ∈ log, ∃ path, entry.2 = .dispatched path

variable {env : Environment} {root : Path} {debounceMs : Nat} {d d' : Debouncer}
  {log : DebounceLog} {label : DebounceLabel} {path : Path} {time : Nat}

/-- A list that ends with an item is split there, or before. -/
theorem append_singleton_split {α : Type} {items before after : List α} {last item : α}
    (split : items ++ [last] = before ++ item :: after)
    : before = items ∧ item = last ∧ after = []
      ∨ ∃ rest, items = before ++ item :: rest ∧ after = rest ++ [last] := by
  rcases List.eq_nil_or_concat after with rfl | ⟨rest, final, rfl⟩
  · obtain ⟨rfl, same⟩ := List.append_inj' split rfl
    exact .inl ⟨rfl, (List.singleton_inj.mp same).symm, rfl⟩
  · rw [List.concat_eq_append, ← List.cons_append, ← List.append_assoc] at split
    obtain ⟨rfl, same⟩ := List.append_inj' split rfl
    rw [List.singleton_inj.mp same, List.concat_eq_append]
    exact .inr ⟨rest, rfl, rfl⟩

/-- One more entry: it is the last modification itself, or it leaves the path alone. -/
theorem lastModified_append {now : Nat}
    : LastModified (log ++ [(now, label)]) path time
      ↔ label = .event (.modified path) ∧ time = now
        ∨ ¬ label.Concerns path ∧ LastModified log path time := by
  constructor
  · rintro ⟨before, after, split, silent⟩
    rcases append_singleton_split split with ⟨rfl, same, rfl⟩ | ⟨rest, rfl, rfl⟩
    · cases same
      exact .inl ⟨rfl, rfl⟩
    · refine .inr ⟨silent (now, label) (by simp), before, rest, rfl, ?_⟩
      exact fun entry member => silent entry (List.mem_append_left _ member)
  · rintro (⟨rfl, rfl⟩ | ⟨silent, before, after, rfl, rest⟩)
    · exact ⟨log, [], rfl, by simp⟩
    · exact ⟨before, after ++ [(now, label)], by simp, List.forall_mem_concat.mpr ⟨rest, silent⟩⟩

/-- Either an entry after a modification concerns the path, or it is the last one. -/
theorem lastModified_or_concerned (before after : DebounceLog)
    : LastModified (before ++ (time, .event (.modified path)) :: after) path time
      ∨ ∃ entry ∈ after, entry.2.Concerns path := by
  by_cases concerned : ∃ entry ∈ after, entry.2.Concerns path
  · exact .inr concerned
  · refine .inl ⟨before, after, rfl, ?_⟩
    intro entry member concerns
    exact concerned ⟨entry, member, concerns⟩

-----------------------------------------------------------------------------------------
-- The map
-----------------------------------------------------------------------------------------

namespace Pending

variable {pending : Pending} {event : WatchEvent} {now : Nat}

/-- An event sets the time of the path that it modifies, and forgets the others it names. -/
theorem lookup_note
    : (pending.note now event).lookup path = some time
      ↔ event = .modified path ∧ time = now
        ∨ ¬ (DebounceLabel.event event).Concerns path ∧ pending.lookup path = some time := by
  cases event with
  | modified other =>
      by_cases same : path = other
      · subst same
        simp [note, DebounceLabel.Concerns, eq_comm]
      · simp [note, DebounceLabel.Concerns, AList.lookup_insert_ne same, Ne.symm same]
  | deleted other =>
      by_cases same : path = other
      · subst same
        simp [note, DebounceLabel.Concerns]
      · simp [note, DebounceLabel.Concerns, AList.lookup_erase_ne same, Ne.symm same]
  | renamed source target =>
      by_cases atSource : path = source
      · subst atSource
        have gone : ((pending.erase path).erase target).lookup path = none :=
          AList.lookup_eq_none.mpr (fun member => by simp [AList.mem_erase] at member)
        simp [note, DebounceLabel.Concerns, gone]
      · by_cases atTarget : path = target
        · subst atTarget
          simp [note, DebounceLabel.Concerns]
        · simp [note, DebounceLabel.Concerns, AList.lookup_erase_ne atSource,
            AList.lookup_erase_ne atTarget, Ne.symm atSource, Ne.symm atTarget]

/-- A path is ready once its delay has elapsed. -/
theorem mem_ready
    : path ∈ pending.ready now debounceMs
      ↔ ∃ time, pending.lookup path = some time ∧ debounceMs ≤ now - time := by
  rw [ready, List.mem_map]
  constructor
  · rintro ⟨⟨other, time⟩, member, rfl⟩
    obtain ⟨entry, elapsed⟩ := List.mem_filter.mp member
    exact ⟨time, AList.mem_lookup_iff.mpr entry, of_decide_eq_true elapsed⟩
  · rintro ⟨time, found, elapsed⟩
    exact ⟨⟨path, time⟩,
      List.mem_filter.mpr ⟨AList.mem_lookup_iff.mp found, decide_eq_true elapsed⟩,
      rfl⟩

theorem ready_nodup : (pending.ready now debounceMs).Nodup :=
  List.NodupKeys.sublist List.filter_sublist pending.nodupKeys

end Pending

-----------------------------------------------------------------------------------------
-- The invariant
-----------------------------------------------------------------------------------------

/-- What the log says of the map, of the tick in progress, and of all dispatches before. -/
structure Debounced (debounceMs : Nat) (log : DebounceLog) (d : Debouncer) : Prop where
  times : ∀ entry ∈ log, entry.1 ≤ d.now
  ordered : log.Pairwise (fun earlier later => earlier.1 ≤ later.1)
  pending : ∀ path time, d.pending.lookup path = some time ↔ LastModified log path time
  distinct : d.ready.Nodup
  due : ∀ path ∈ d.ready, ∃ time, d.pending.lookup path = some time ∧ debounceMs ≤ d.now - time
  caused
    : ∀ before time path after,
        log = before ++ (time, .dispatched path) :: after
        → ∃ modified, LastModified before path modified ∧ modified + debounceMs ≤ time
  prompt
    : ∀ before time after,
        log = before ++ (time, .tick) :: after → OnlyDispatches after → d.going = true
        → ∀ path modified,
            d.pending.lookup path = some modified
            → path ∈ d.ready ∨ time < modified + debounceMs

namespace Debounced

theorem modified_le (debounced : Debounced debounceMs log d) (last : LastModified log path time)
    : time ≤ d.now := by
  obtain ⟨before, after, rfl, -⟩ := last
  exact debounced.times (time, .event (.modified path)) (by simp)

theorem start (world : World) (now : Nat) : Debounced debounceMs [] ⟨world, now, ∅, [], true⟩ := by
  have unheard (path : Path) (time : Nat) : ¬ LastModified [] path time := by
    rintro ⟨before, after, split, -⟩
    simp at split
  refine ⟨by simp, .nil, fun path time => ?_, .nil, by simp, ?_, ?_⟩
  · simp [unheard]
  · intro before time path after split
    simp at split
  · intro before time after split
    simp at split

/-- One more entry comes after all others. -/
theorem ordered_append (debounced : Debounced debounceMs log d) (later : d.now ≤ time)
    : (log ++ [(time, label)]).Pairwise (fun earlier later => earlier.1 ≤ later.1) :=
  List.pairwise_concat.mpr
    ⟨debounced.ordered, fun entry member => le_trans (debounced.times entry member) later⟩

theorem times_append (debounced : Debounced debounceMs log d) (later : d.now ≤ time)
    : ∀ entry ∈ log ++ [(time, label)], entry.1 ≤ time :=
  List.forall_mem_concat.mpr
    ⟨fun entry earlier => le_trans (debounced.times entry earlier) later, le_rfl⟩

/-- Every entry keeps what was due to be so before it, a dispatch aside. -/
theorem caused_append (debounced : Debounced debounceMs log d) {now : Nat}
    (last
      : ∀ path,
          label = .dispatched path
          → ∃ modified, LastModified log path modified ∧ modified + debounceMs ≤ now)
    : ∀ before time path after,
        log ++ [(now, label)] = before ++ (time, .dispatched path) :: after
        → ∃ modified, LastModified before path modified ∧ modified + debounceMs ≤ time := by
  intro before time path after split
  rcases append_singleton_split split with ⟨rfl, same, rfl⟩ | ⟨rest, earlier, rfl⟩
  · cases same
    exact last path rfl
  · exact debounced.caused _ _ _ _ earlier

theorem event {event : WatchEvent} {going : Bool} {after : World}
    (debounced : Debounced debounceMs log d) (later : d.now ≤ time)
    : Debounced debounceMs (log ++ [(time, .event event)])
        ⟨after, time, d.pending.note time event, [], going⟩ where
  times := debounced.times_append later
  ordered := debounced.ordered_append later
  pending path modified := by
    rw [lastModified_append, ← debounced.pending, Pending.lookup_note]
    simp only [DebounceLabel.event.injEq]
  distinct := .nil
  due := by simp
  caused := debounced.caused_append (by simp)
  prompt := by
    intro before time after split only
    rcases append_singleton_split split with ⟨-, same, -⟩ | ⟨rest, -, rfl⟩
    · cases same
    · obtain ⟨path, same⟩ := only _ (List.mem_append_right rest (List.mem_singleton_self _))
      cases same

theorem tick {ready : List Path} (debounced : Debounced debounceMs log d) (later : d.now ≤ time)
    (order : ready.Perm (d.pending.ready time debounceMs))
    : Debounced debounceMs (log ++ [(time, .tick)]) { d with now := time, ready } where
  times := debounced.times_append later
  ordered := debounced.ordered_append later
  pending path modified := by
    rw [lastModified_append, ← debounced.pending]
    simp [DebounceLabel.Concerns]
  distinct := order.nodup_iff.mpr Pending.ready_nodup
  due path member := Pending.mem_ready.mp (order.mem_iff.mp member)
  caused := debounced.caused_append (by simp)
  prompt := by
    intro before time' after split only going path modified found
    rcases append_singleton_split split with ⟨-, same, -⟩ | ⟨rest, -, rfl⟩
    · cases same
      by_cases elapsed : debounceMs ≤ time - modified
      · exact .inl (order.mem_iff.mpr (Pending.mem_ready.mpr ⟨modified, found, elapsed⟩))
      · exact .inr (by omega)
    · obtain ⟨path, same⟩ := only _ (List.mem_append_right rest (List.mem_singleton_self _))
      cases same

theorem dispatched {rest : List Path} {going : Bool} {after : World}
    (debounced : Debounced debounceMs log d) (alive : d.going = true)
    (waiting : d.ready = path :: rest)
    : Debounced debounceMs (log ++ [(d.now, .dispatched path)])
        ⟨after, d.now, d.pending.erase path, rest, going⟩ := by
  have distinct := debounced.distinct
  rw [waiting, List.nodup_cons] at distinct
  refine ⟨debounced.times_append le_rfl, debounced.ordered_append le_rfl,
    fun other modified => ?_, distinct.2, ?_, ?_, ?_⟩
  · rw [lastModified_append, ← debounced.pending]
    by_cases same : other = path
    · subst same
      simp [DebounceLabel.Concerns]
    · simp [DebounceLabel.Concerns, AList.lookup_erase_ne same, Ne.symm same]
  · intro other member
    obtain ⟨modified, found, elapsed⟩ := debounced.due other (waiting ▸ .tail _ member)
    have differs : other ≠ path := by
      rintro rfl
      exact distinct.1 member
    exact ⟨modified, (AList.lookup_erase_ne differs).trans found, elapsed⟩
  · refine debounced.caused_append ?_
    rintro other ⟨⟩
    obtain ⟨modified, found, elapsed⟩ := debounced.due path (waiting ▸ .head _)
    have last := (debounced.pending path modified).mp found
    exact ⟨modified, last, by have := debounced.modified_le last; omega⟩
  · intro before time after split only _ other modified found
    have differs : other ≠ path := by
      rintro rfl
      simp at found
    have found' : d.pending.lookup other = some modified :=
      (AList.lookup_erase_ne differs).symm.trans found
    rcases append_singleton_split split with ⟨-, same, -⟩ | ⟨earlier, split', rfl⟩
    · cases same
    · have onlyEarlier : OnlyDispatches earlier :=
        fun entry member => only entry (List.mem_append_left _ member)
      rcases debounced.prompt _ _ _ split' onlyEarlier alive other modified found' with
        still | recent
      · rw [waiting] at still
        exact .inl ((List.mem_cons.mp still).resolve_left differs)
      · exact .inr recent

theorem step (debounced : Debounced debounceMs log d)
    (step : d.Step env root debounceMs label d')
    : Debounced debounceMs (debounceLog log d label d') d' := by
  cases step with
  | event alive idle later passes => exact debounced.event later
  | tick alive idle later order => exact debounced.tick later order
  | dispatched alive waiting passes => exact debounced.dispatched alive waiting
  | elsewhere world =>
      exact ⟨debounced.times, debounced.ordered, debounced.pending, debounced.distinct,
        debounced.due, debounced.caused, debounced.prompt⟩

/-- Between two dispatches of a path lies the modification that caused the second. -/
theorem apart (debounced : Debounced debounceMs log d) {before middle after : DebounceLog}
    {time' : Nat}
    (split
      : log = before ++ (time, .dispatched path) :: (middle ++ (time', .dispatched path) :: after))
    : time + debounceMs ≤ time' := by
  have whole
      : log = (before ++ (time, .dispatched path) :: middle) ++ (time', .dispatched path) :: after
    := by simp [split]
  obtain ⟨modified, ⟨first, rest, same, silent⟩, elapsed⟩ := debounced.caused _ _ _ _ whole
  have ordered := debounced.ordered
  rw [whole, same] at ordered
  obtain ⟨ordered, -⟩ := List.pairwise_append.mp ordered
  have member : (time, DebounceLabel.dispatched path) ∈ first := by
    have inAll : (time, DebounceLabel.dispatched path)
        ∈ first ++ (modified, .event (.modified path)) :: rest := by
      rw [← same]
      simp
    rcases List.mem_append.mp inAll with here | there
    · exact here
    · rcases List.mem_cons.mp there with cause | later
      · cases cause
      · exact absurd rfl (silent _ later)
  have before := (List.pairwise_append.mp ordered).2.2 _ member _ (.head _)
  exact le_trans (Nat.add_le_add_right before debounceMs) elapsed

end Debounced

-----------------------------------------------------------------------------------------
-- What a dispatch is
-----------------------------------------------------------------------------------------

/-- Online the path is sent, offline it is recorded if it is below the root. -/
structure Dispatches (env : Environment) (root path : Path) (w : World) (going : Bool) (w' : World)
    : Prop where
  online : w.offline = false → Offered env (.syncFile path) w (.ok going) w'
  offline
    : w.offline = true
      → ∀ rel, path = root ++ rel → Noted env "sync" (relKey rel.trim) none w (.ok going) w'

/-- What an event passes on at once is no modification. -/
structure PassesOthers (w w' : World) : Prop where
  tasks : ∃ sent, w'.tasks = w.tasks ++ sent ∧ ∀ path, .syncFile path ∉ sent
  rows
    : ∃ rows, w'.db.getOfflineTasks = w.db.getOfflineTasks ++ rows
        ∧ ∀ row ∈ rows, row.action ≠ "sync"

theorem dispatches {w w' : World} {going : Bool}
    (run : Reaches env.sem (dispatchReady root path) w (.done (.ok going)) w')
    : Dispatches env root path w going w' := by
  have run : Reaches env.sem (passOn root (.modified path)) w (.done (.ok going)) w' := run
  refine ⟨fun online => ((always_passOn_online online).reaches run).2, ?_⟩
  rintro offline rel rfl
  rcases ((always_passOn_offline offline).reaches run).2 with
    ⟨_, _, _, ⟨rfl, rfl, rel', below, rfl⟩, noted⟩ | ⟨rowless, -⟩
  · rw [Path.stripPrefix_append] at below
    exact Option.some.inj below ▸ noted
  · exact absurd ⟨rfl, rfl, rel.trim, Path.stripPrefix_append root rel, rfl⟩ (rowless "sync" _ none)

/-- What has been offered is one task at most. -/
theorem Offered.others {task : Task} {w w' : World} {result : Except Error Bool}
    (offered : Offered env task w result w') (other : ∀ path, task ≠ .syncFile path)
    : PassesOthers w w' := by
  refine ⟨?_, [], by rw [offered.db, List.append_nil], by simp⟩
  rcases offered.tasks with ⟨-, sent⟩ | ⟨-, -, unsent⟩
  · refine ⟨[task], sent, fun path member => ?_⟩
    exact other path (List.mem_singleton.mp member).symm
  · exact ⟨[], by rw [unsent, List.append_nil], by simp⟩

/-- What has been noted is one row at most. -/
theorem Noted.others {action key : String} {extra : Option String} {w w' : World}
    {result : Except Error Bool} (noted : Noted env action key extra w result w')
    (other : action ≠ "sync")
    : PassesOthers w w' := by
  refine ⟨⟨[], by rw [noted.tasks, List.append_nil], by simp⟩, ?_⟩
  rcases noted.db with pushed | ⟨-, same⟩
  · refine ⟨[⟨w.db.offlineQueue.nextId, action, key, extra⟩], by rw [pushed]; rfl, ?_⟩
    intro row member
    rw [List.mem_singleton.mp member]
    exact other
  · exact ⟨[], by rw [same, List.append_nil], by simp⟩

theorem PassesOthers.refl (w : World) : PassesOthers w w :=
  ⟨⟨[], by simp, by simp⟩, [], by simp, by simp⟩

/-- An output that is no modification. -/
theorem passOn_others {output : Output} (other : ∀ path, output ≠ .modified path)
    {w w' : World} {result : Except Error Bool}
    (run : Reaches env.sem (passOn root output) w (.done result) w')
    : PassesOthers w w' := by
  cases connected : w.offline with
  | false =>
      refine (((always_passOn_online connected).reaches run).2).others ?_
      intro path same
      cases output with
      | modified file => exact other file rfl
      | deleted file | renamed source target => cases same
  | true =>
      rcases ((always_passOn_offline connected).reaches run).2 with
        ⟨action, key, extra, row, noted⟩ | ⟨-, -, rfl⟩
      · refine noted.others ?_
        cases output with
        | modified file => exact absurd rfl (other file)
        | deleted file | renamed source target => simp [row.1]
      · exact .refl w'

theorem passesOthers {event : WatchEvent} {w w' : World} {result : Except Error Bool}
    (run : Reaches env.sem (dispatchEvent root event) w (.done result) w')
    : PassesOthers w w' := by
  cases event with
  | modified path =>
      cases run
      exact .refl w
  | deleted path => exact @passOn_others env root (.deleted path) (by simp) _ _ _ run
  | renamed source target =>
      exact @passOn_others env root (.renamed source target) (by simp) _ _ _ run

-----------------------------------------------------------------------------------------
-- Exact debounce
-----------------------------------------------------------------------------------------

/-- What the map holds, and when paths are dispatched. -/
structure ExactDebounce (debounceMs : Nat) (log : DebounceLog) (d : Debouncer) : Prop where
  pending : ∀ path time, d.pending.lookup path = some time ↔ LastModified log path time
  caused
    : ∀ before time path after,
        log = before ++ (time, .dispatched path) :: after
        → ∃ modified, LastModified before path modified ∧ modified + debounceMs ≤ time
  prompt
    : ∀ before time after,
        log = before ++ (time, .tick) :: after → OnlyDispatches after → d.going = true
        → d.ready = []
        → ∀ path modified, d.pending.lookup path = some modified → time < modified + debounceMs
  apart
    : ∀ before time path middle time' after,
        log = before ++ (time, .dispatched path) :: (middle ++ (time', .dispatched path) :: after)
        → time + debounceMs ≤ time'
  remembered
    : ∀ before time path after,
        log = before ++ (time, .event (.modified path)) :: after
        → d.pending.lookup path = some time ∨ ∃ entry ∈ after, entry.2.Concerns path

/-- Debouncing is exact in every run of the loop, and a dispatch sends or records its path. -/
theorem debounce_exact (env : Environment) (root : Path) (debounceMs : Nat) (world : World)
    (now : Nat)
    : (∀ log d, DebounceRuns env root debounceMs world now log d → ExactDebounce debounceMs log d)
      ∧ (∀ d path d',
          Debouncer.Step env root debounceMs d (.dispatched path) d'
          → Dispatches env root path d.world d'.going d'.world)
      ∧ ∀ d event d',
          Debouncer.Step env root debounceMs d (.event event) d'
            → PassesOthers d.world d'.world := by
  refine ⟨fun log d run => ?_, ?_, ?_⟩
  · have debounced : Debounced debounceMs log d :=
      run.invariant (Debounced debounceMs) (.start world now)
        (fun _ _ _ _ debounced step _ => debounced.step step)
    refine ⟨debounced.pending, debounced.caused, ?_, ?_, ?_⟩
    · intro before time after split only alive idle path modified found
      rcases debounced.prompt _ _ _ split only alive path modified found with still | recent
      · rw [idle] at still
        cases still
      · exact recent
    · intro before time path middle time' after split
      exact debounced.apart split
    · intro before time path after split
      subst split
      exact (lastModified_or_concerned before after).imp (debounced.pending path time).mpr id
  · intro d path d' step
    cases step with
    | dispatched alive waiting passes => exact dispatches passes
  · intro d event d' step
    cases step with
    | event alive idle later passes => exact passesOthers passes

/-- A file is written twice, and is sent once its delay has elapsed since the second time. -/
theorem burst_dispatched
    : ∃ log d,
        DebounceRuns (.calm (fun _ => "") "root") [] 500
            { disk := .backup .empty (fun _ => .special) } 0 log d
        ∧ log = [(0, .event (.modified [.utf8 "a"])), (300, .event (.modified [.utf8 "a"])),
            (800, .tick), (800, .dispatched [.utf8 "a"])]
        ∧ d.world.tasks = [.syncFile [.utf8 "a"]] ∧ ExactDebounce 500 log d := by
  let file : Path := [.utf8 "a"]
  let w : World := { disk := .backup .empty (fun _ => .special) }
  have sends : Reaches (Environment.calm (fun _ => "") "root").sem (dispatchReady [] file) w
      (.done (.ok true)) { w.report (.addTotals 1 0) with tasks := [.syncFile file] } := by
    refine .step ⟨rfl, rfl⟩ ?_
    have absent : (Environment.calm (fun _ => "") "root").sem (.metadata file) w
        (.error (.msg "No such file or directory")) w :=
      ⟨rfl, _, rfl⟩
    have counted : (Environment.calm (fun _ => "") "root").sem (.report (.addTotals 1 0)) w ()
        (w.report (.addTotals 1 0)) := rfl
    refine .step absent (.step counted ?_)
    exact .step (.inl ⟨rfl, rfl⟩) .refl
  have launched : DebounceRuns (.calm (fun _ => "") "root") [] 500 w 0 [] _ := .start
  have written := launched.step
    (@Debouncer.Step.event _ _ _ _ 0 (.modified file) _ _ rfl rfl (Nat.le_refl _) .refl) trivial
  have again := written.step
    (@Debouncer.Step.event _ _ _ _ 300 (.modified file) _ _ rfl rfl (Nat.zero_le _) .refl) trivial
  have ticked := again.step
    (@Debouncer.Step.tick _ _ _ _ 800 [file] rfl rfl (show 300 ≤ 800 by decide) (.refl _)) trivial
  have dispatched := ticked.step (.dispatched rfl rfl sends) trivial
  exact ⟨_, _, dispatched, rfl, rfl, (debounce_exact _ _ _ _ _).1 _ _ dispatched⟩

end SyncGDrive
