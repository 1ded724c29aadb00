import SyncGDrive.Reconciliation.Folders

/-! The comparison of a scan when everything works: every visible file is settled or joins the
files to send.
-/

namespace SyncGDrive

open Program

namespace Setting

variable {s : Setting} {w : World} {goal : Path → View} {inv : World → Prop} {rel : Path}
  {content : List UInt8} {time : Int} {α : Type}

-----------------------------------------------------------------------------------------
-- One file
-----------------------------------------------------------------------------------------

/-- The list of rows read at the start still tells what the comparison needs: whether there
is a record, unless it has been adopted since.
-/
def Listed (s : Setting) (slot : View) (content : List UInt8) (time : Int) (inDb : Bool) : Prop :=
  inDb = slot.record.isSome ∨ slot.copy.isSome ∧ slot.record = some (s.md5 content, time)

/-- The list still tells enough after the comparison. -/
theorem Listed.compare {slot : View} {inDb : Bool} (file : slot.file = some (content, time))
    (listed : s.Listed slot content time inDb)
    : s.Listed (slot.compare s.md5).1 content time inDb := by
  rcases slot with ⟨_ | ⟨content', time'⟩, _ | copy, _ | ⟨hash, recorded⟩⟩ <;>
    simp only [Listed, Mirror.Slot.compare] at * <;> grind

theorem always_mtimeOf_bind {modified : Int} {env : Environment}
    (found : w.disk.metadata (s.base ++ rel) = some ⟨false, true, content.length, modified⟩)
    (afterEpoch : 0 ≤ modified) (seconds : modified / 1000000000 = time) {f : Int → Eff α}
    {post : Except Error α → World → Prop} (rest : Always env.sem inv (f time) w post)
    : Always env.sem inv (mtimeOf (s.base ++ rel) >>= f) w post := by
  unfold mtimeOf
  simp only [bind_assoc]
  refine always_ask_bind.mpr ⟨rest.here, ?_⟩
  rintro answer after ⟨rfl, answered⟩
  simp only [found] at answered
  subst answered
  simpa [Int.not_lt.mpr afterEpoch, Metadata.seconds, seconds] using rest

/-- Comparing a file moves its slot the way the abstract comparison does, and tells whether to
send it.
-/
theorem always_compareFile {modified : Int} {inDb : Bool} {view : View}
    (seen : s.Seen w rel content time modified) (sound : w.remote.Sound s.folder)
    (plain : Plain rel) (slot : s.slot w rel = view) (file : view.file = some (content, time))
    (listed : s.Listed view content time inDb)
    (start : inv w)
    (last
      : ∀ state, s.Moves w rel (view.compare s.md5).1 state → inv state)
    : Always (Environment.calm s.md5 s.folder).sem inv
        (compareFile (s.base ++ rel) (relKey rel) inDb view.copy.isSome) w
        (fun result state =>
          result = .ok (view.compare s.md5).2 ∧ state.remote = w.remote
          ∧ state.pathCache = w.pathCache ∧ s.Moves w rel (view.compare s.md5).1 state) := by
  have still : s.Moves w rel view w := slot ▸ Moves.refl rel sound
  have upserted (hash : String) := still.upserted plain hash time
  have row (hash : String) (mtime : Int) (recorded : view.record = some (hash, mtime))
      : w.db.get (relKey rel) = some ⟨relKey rel, hash, mtime⟩ := by
    rw [← slot] at recorded
    obtain ⟨columns, found, same⟩ := Option.map_eq_some_iff.mp recorded
    obtain ⟨rfl, rfl⟩ := Prod.mk.inj same
    simp [Database.get, found]
  obtain ⟨file', copy, record⟩ := view
  obtain rfl : file' = some (content, time) := file
  unfold compareFile
  rcases copy with _ | copy
  · have sent : Mirror.Slot.compare s.md5 ⟨some (content, time), none, record⟩
        = (⟨some (content, time), none, record⟩, true) := by
      simp [Mirror.Slot.compare]
    rw [sent]
    simp only [Option.isSome_none, Bool.and_false, Bool.false_eq_true, if_false]
    exact ⟨start, rfl, rfl, rfl, still⟩
  cases inDb with
  | false =>
      -- The file is new to the database: it is recorded as it stands.
      have adopted
          : Mirror.Slot.compare s.md5 ⟨some (content, time), some copy, record⟩
            = (⟨some (content, time), some copy, some (s.md5 content, time)⟩, false) := by
        rcases record with _ | ⟨hash, recorded⟩
        · simp [Mirror.Slot.compare]
        · obtain ⟨rfl, rfl⟩ : hash = s.md5 content ∧ recorded = time := by
            simpa [Listed] using listed
          simp [Mirror.Slot.compare]
      rw [adopted] at last ⊢
      simp only [Option.isSome_some, Bool.false_and, Bool.false_eq_true, if_false, if_true]
      refine always_known (Environment.calm_md5 seen.read) start ?_
      refine always_mtimeOf_bind seen.metadata seen.afterEpoch seen.seconds ?_
      refine always_known (fun _ _ served => Environment.calm_undisturbed.sem_upsert.mp served)
        start ?_
      exact ⟨last _ (upserted _), rfl, rfl, rfl, upserted _⟩
  | true =>
      rcases record with _ | ⟨hash, recorded⟩
      · simp [Listed] at listed
      simp only [Option.isSome_some, Bool.and_self, if_true]
      refine always_known (fun _ _ served => Environment.calm_undisturbed.sem_get.mp served)
        start ?_
      simp only [row hash recorded rfl]
      refine always_mtimeOf_bind seen.metadata seen.afterEpoch seen.seconds ?_
      by_cases timely : time = recorded
      · subst timely
        have current
            : Mirror.Slot.compare s.md5 ⟨some (content, time), some copy, some (hash, time)⟩
            = (⟨some (content, time), some copy, some (hash, time)⟩, false) := by
          simp [Mirror.Slot.compare]
        rw [if_pos rfl, current]
        exact ⟨start, rfl, rfl, rfl, still⟩
      rw [if_neg timely]
      refine always_known (Environment.calm_md5 seen.read) start ?_
      by_cases touched : s.md5 content = hash
      · subst touched
        have refreshed
            : Mirror.Slot.compare s.md5
                ⟨some (content, time), some copy, some (s.md5 content, recorded)⟩
              = (⟨some (content, time), some copy, some (s.md5 content, time)⟩, false) := by
          simp [Mirror.Slot.compare, Ne.symm timely]
        rw [refreshed] at last ⊢
        simp only [if_true]
        refine always_known
          (fun _ _ served => Environment.calm_undisturbed.sem_upsert.mp served) start ?_
        exact ⟨last _ (upserted _), rfl, rfl, rfl, upserted _⟩
      · have changed
            : Mirror.Slot.compare s.md5 ⟨some (content, time), some copy, some (hash, recorded)⟩
              = (⟨some (content, time), some copy, some (hash, recorded)⟩, true) := by
          simp [Mirror.Slot.compare, Ne.symm timely, Ne.symm touched]
        simp only [if_neg touched]
        rw [changed]
        exact ⟨start, rfl, rfl, rfl, still⟩

-----------------------------------------------------------------------------------------
-- Phase 3
-----------------------------------------------------------------------------------------

/-- A visible file with something to send that a comparison asks for. -/
def Due (s : Setting) (state : World) (rel : Path) : Prop :=
  ∃ content time,
    s.visible state.disk rel = some (content, time) ∧ vacant content = false
    ∧ ((s.slot state rel).compare s.md5).2 = true

/-- What holds while files are compared: `rest` is still to come, `toSync` is to be sent. -/
structure Comparing (s : Setting) (goal : Path → View) (w : World) (dbIndex : List String)
    (rest : List (Path × Nat)) (toSync : List Path) (state : World) : Prop where
  consistent : s.Consistent goal state
  disk : state.disk = w.disk
  remote : state.remote = w.remote
  pathCache : state.pathCache = w.pathCache
  tasks : state.tasks = w.tasks
  running : state.shutdown = w.shutdown
  listed
    : ∀ rel content time,
        Plain rel → s.visible w.disk rel = some (content, time)
        → s.Listed (s.slot state rel) content time (dbIndex.contains (relKey rel))
  sent
    : ∀ path ∈ toSync,
        ∃ rel,
          path = s.base ++ rel ∧ Plain rel ∧ (s.visible w.disk rel).isSome
          ∧ ((s.slot state rel).compare s.md5).2 = true
  compared
    : ∀ rel content time,
        Plain rel → s.visible w.disk rel = some (content, time) → vacant content = false
        → (∃ i, (s.base ++ rel, i) ∈ rest) ∨ s.base ++ rel ∈ toSync ∨ s.slot state rel = goal rel
  gone : ∀ rel, Plain rel → s.visible w.disk rel = none → s.slot state rel = s.slot w rel

variable {dbIndex : List String} {rest : List (Path × Nat)} {toSync : List Path} {i : Nat}

/-- Reports change nothing of it. -/
theorem Comparing.agrees {state after : World}
    (comparing : s.Comparing goal w dbIndex rest toSync state) (agrees : state.Agrees after)
    (pathCache : after.pathCache = state.pathCache)
    : s.Comparing goal w dbIndex rest toSync after := by
  have slots (rel : Path) : s.slot after rel = s.slot state rel :=
    slot_congr agrees.disk agrees.remote agrees.db
  exact
    { consistent := comparing.consistent.agrees agrees
      disk := agrees.disk.trans comparing.disk
      remote := agrees.remote.trans comparing.remote
      pathCache := pathCache.trans comparing.pathCache
      tasks := agrees.tasks.trans comparing.tasks
      running := agrees.running.trans comparing.running
      listed := fun rel => slots rel ▸ comparing.listed rel
      sent := by
        simp only [slots]
        exact comparing.sent
      compared := fun rel => slots rel ▸ comparing.compared rel
      gone := fun rel => slots rel ▸ comparing.gone rel }

/-- One more file has been compared. -/
theorem Comparing.next {state after : World}
    (comparing : s.Comparing goal w dbIndex ((s.base ++ rel, i) :: rest) toSync state)
    (plain : Plain rel) (shown : s.visible w.disk rel = some (content, time)) (leaf : s.leaf rel)
    (kept : s.ignore.isIgnored (s.base ++ rel) false = false)
    (moves : s.Moves state rel ((s.slot state rel).compare s.md5).1 after)
    (remote : after.remote = state.remote) (pathCache : after.pathCache = state.pathCache)
    : s.Comparing goal w dbIndex rest
        (if ((s.slot state rel).compare s.md5).2 then toSync ++ [s.base ++ rel] else toSync)
        after := by
  have coherent := comparing.consistent.coherent rel plain
  have headed := comparing.consistent.headed rel plain
  have file : (s.slot state rel).file = some (content, time) := by
    rw [← comparing.disk] at shown
    exact shown
  -- A file that must be sent keeps its slot, any other one is where the pass ends.
  have here : s.slot after rel = ((s.slot state rel).compare s.md5).1 := moves.here
  have still (sent : ((s.slot state rel).compare s.md5).2 = true)
      : s.slot after rel = s.slot state rel :=
    here.trans (Mirror.Slot.compare_of_sent sent)
  refine ⟨?consistent, moves.disk.trans comparing.disk, remote.trans comparing.remote,
    pathCache.trans comparing.pathCache, moves.tasks.trans comparing.tasks,
    moves.running.trans comparing.running, ?listed, ?sent, ?compared, ?gone⟩
  case consistent =>
    exact moves.consistent comparing.consistent plain leaf kept coherent.compare
      (coherent.pass_compare.trans headed)
  case listed =>
    intro rel' content' time' plain' shown'
    have listed := comparing.listed rel' content' time' plain' shown'
    by_cases same : rel' = rel
    · subst same
      rw [here]
      obtain ⟨rfl, rfl⟩ := Prod.mk.inj (Option.some.inj (shown.symm.trans shown'))
      exact listed.compare file
    · rw [moves.others rel' plain' same]
      exact listed
  case sent =>
    intro path member
    have before
        : (∃ rel', path = s.base ++ rel' ∧ Plain rel' ∧ (s.visible w.disk rel').isSome
            ∧ ((s.slot state rel').compare s.md5).2 = true) := by
      split at member
      · rename_i sent
        rcases List.mem_append.mp member with earlier | last
        · exact comparing.sent path earlier
        · exact ⟨rel, List.mem_singleton.mp last, plain, by simp [shown], sent⟩
      · exact comparing.sent path member
    obtain ⟨rel', rfl, plain', visible, sent⟩ := before
    refine ⟨rel', rfl, plain', visible, ?_⟩
    by_cases same : rel' = rel
    · subst same
      rw [still sent]
      exact sent
    · rw [moves.others rel' plain' same]
      exact sent
  case compared =>
    intro rel' content' time' plain' shown' full
    by_cases same : rel' = rel
    · subst same
      obtain ⟨rfl, rfl⟩ := Prod.mk.inj (Option.some.inj (shown.symm.trans shown'))
      cases sent : ((s.slot state rel').compare s.md5).2 with
      | true => exact .inr (.inl (by simp))
      | false =>
          refine .inr (.inr ?_)
          rw [here, Mirror.Slot.compare_eq_pass file full sent, headed]
    · rw [moves.others rel' plain' same]
      rcases comparing.compared rel' content' time' plain' shown' full with
        ⟨j, coming⟩ | member | settled
      · refine .inl ⟨j, (List.mem_cons.mp coming).resolve_left ?_⟩
        simp [same]
      · refine .inr (.inl ?_)
        split
        · exact List.mem_append_left _ member
        · exact member
      · exact .inr (.inr settled)
  case gone =>
    intro rel' plain' absent
    have same : rel' ≠ rel := by
      rintro rfl
      rw [absent] at shown
      cases shown
    rw [moves.others rel' plain' same]
    exact comparing.gone rel' plain' absent

/-- One turn of the comparison. -/
theorem always_compareNext {state : World} {total : Nat}
    (comparing : s.Comparing goal w dbIndex ((s.base ++ rel, i) :: rest) toSync state)
    (plain : Plain rel) (shown : s.visible w.disk rel = some (content, time))
    (cached : s.Cached state) (running : state.shutdown = false)
    : Always (Environment.calm s.md5 s.folder).sem (s.Consistent goal)
        (compareNext s.primary dbIndex total toSync (s.base ++ rel, i)) state
        (fun result last =>
          ∃ toSync',
            result = .ok toSync' ∧ s.Comparing goal w dbIndex rest toSync' last
            ∧ s.Cached last) := by
  have consistent := comparing.consistent
  refine always_unlessShutdown Environment.calm_undisturbed running ?_
  simp only [show s.primary.localPath = s.base from rfl, plain.clean.stripPrefix]
  refine always_silent_bind Environment.calm_undisturbed (uses_reportWhen rfl)
    (neverFails_reportWhen Environment.calm_undisturbed) running
    (fun _ agrees => consistent.agrees agrees) ?_
  intro _ state agrees pathCache
  replace comparing := comparing.agrees agrees pathCache
  replace cached := cached.same agrees.remote pathCache
  replace consistent := comparing.consistent
  have shown' : s.visible state.disk rel = some (content, time) := comparing.disk ▸ shown
  obtain ⟨modified, seen⟩ := consistent.fits.seen plain shown'
  have coherent := consistent.coherent rel plain
  have headed := consistent.headed rel plain
  refine always_known (fun _ _ served => served) consistent ?_
  simp only [cached.lookup_isSome consistent.stored plain seen.leaf]
  have compares
      : Always (Environment.calm s.md5 s.folder).sem (s.Consistent goal) _ state _ :=
    always_compareFile seen consistent.stored.sound plain rfl shown'
      (comparing.listed rel content time plain shown) consistent
      (fun last moves => moves.consistent consistent plain seen.leaf seen.kept coherent.compare
        (coherent.pass_compare.trans headed))
  refine compares.bind ?_ ?_
  · rintro sent last here ⟨same, remote, pathCache, moves⟩
    obtain rfl := Except.ok.inj same
    have next := comparing.next plain shown seen.leaf seen.kept moves remote pathCache
    have cached := cached.same remote pathCache
    cases sent : ((s.slot state rel).compare s.md5).2 with
    | true => exact ⟨here, _, rfl, by simpa [sent] using next, cached⟩
    | false => exact ⟨here, _, rfl, by simpa [sent] using next, cached⟩
  · rintro error last - ⟨same, -⟩
    cases same

/-- What the comparison leaves: every visible file is to be sent or where its pass ends. -/
structure Compared (s : Setting) (goal : Path → View) (w : World) (toSync : List Path)
    (state : World) : Prop where
  disk : state.disk = w.disk
  remote : state.remote = w.remote
  tasks : state.tasks = w.tasks
  running : state.shutdown = w.shutdown
  due : ∀ path ∈ toSync, ∃ rel, path = s.base ++ rel ∧ Plain rel ∧ s.Due state rel
  compared
    : ∀ rel,
        Plain rel → (s.visible w.disk rel).isSome
        → s.base ++ rel ∈ toSync ∨ s.slot state rel = goal rel
  gone : ∀ rel, Plain rel → s.visible w.disk rel = none → s.slot state rel = s.slot w rel

/-- Reports change nothing of what the comparison leaves. -/
theorem Compared.agrees {state after : World} (compared : s.Compared goal w toSync state)
    (agrees : state.Agrees after)
    : s.Compared goal w toSync after := by
  have slots (rel : Path) : s.slot after rel = s.slot state rel :=
    slot_congr agrees.disk agrees.remote agrees.db
  exact
    { disk := agrees.disk.trans compared.disk
      remote := agrees.remote.trans compared.remote
      tasks := agrees.tasks.trans compared.tasks
      running := agrees.running.trans compared.running
      due := by
        simp only [Due, slots, agrees.disk]
        exact compared.due
      compared := fun rel => slots rel ▸ compared.compared rel
      gone := fun rel => slots rel ▸ compared.gone rel }

/-- Leaving out the empty files finishes the comparison. -/
theorem Comparing.finish {state : World} {kept : List Path}
    (comparing : s.Comparing goal w dbIndex [] toSync state)
    (keeps
      : ∀ path,
          path ∈ kept
          ↔ path ∈ toSync ∧ ∃ metadata, w.disk.metadata path = some metadata ∧ 0 < metadata.len)
    : s.Compared goal w kept state := by
  refine ⟨comparing.disk, comparing.remote, comparing.tasks, comparing.running, ?_, ?_,
    comparing.gone⟩
  · intro path member
    obtain ⟨toSend, metadata, found, full⟩ := (keeps path).mp member
    obtain ⟨rel, rfl, plain, visible, sent⟩ := comparing.sent path toSend
    obtain ⟨⟨content, time⟩, shown⟩ := Option.isSome_iff_exists.mp visible
    rw [← comparing.disk] at shown found
    obtain ⟨modified, seen⟩ := comparing.consistent.fits.seen plain shown
    obtain rfl := Option.some.inj (found.symm.trans seen.metadata)
    exact ⟨rel, rfl, plain, content, time, shown,
      by simpa [vacant] using List.ne_nil_of_length_pos full, sent⟩
  · intro rel plain visible
    obtain ⟨⟨content, time⟩, shown⟩ := Option.isSome_iff_exists.mp visible
    have shown' : s.visible state.disk rel = some (content, time) := comparing.disk ▸ shown
    cases full : vacant content with
    | true =>
        right
        rw [← comparing.consistent.headed rel plain]
        exact (Mirror.Slot.pass_of_vacant shown' full).symm
    | false =>
        rcases comparing.compared rel content time plain shown full with
          ⟨j, coming⟩ | toSend | settled
        · simp at coming
        · refine .inl ((keeps _).mpr ⟨toSend, ?_⟩)
          obtain ⟨modified, seen⟩ := comparing.consistent.fits.seen plain shown'
          have nonempty : content ≠ [] := by simpa [vacant] using full
          exact ⟨_, comparing.disk ▸ seen.metadata, List.length_pos_of_ne_nil nonempty⟩
        · exact .inr settled

/-- The files that are not empty are kept, and nothing changes. -/
theorem always_keepNonEmpty (toSync : List Path)
    : Always (Environment.calm s.md5 s.folder).sem (fun state => state = w)
        (toSync.foldlM compareFiles.keepNonEmpty []) w
        (fun result _ =>
          ∃ kept,
            result = .ok kept
            ∧ ∀ path,
                path ∈ kept
                ↔ path ∈ toSync
                  ∧ ∃ metadata, w.disk.metadata path = some metadata ∧ 0 < metadata.len) := by
  refine always_foldlM
    (fun rest kept state =>
      state = w
      ∧ ∃ done,
          toSync = done ++ rest
          ∧ ∀ path,
              path ∈ kept
              ↔ path ∈ done
                ∧ ∃ metadata, w.disk.metadata path = some metadata ∧ 0 < metadata.len)
    ?kept ?step _ _ ⟨rfl, [], rfl, by simp⟩
  case kept =>
    rintro kept last ⟨rfl, done, spelled, keeps⟩
    rw [List.append_nil] at spelled
    exact ⟨rfl, kept, rfl, spelled ▸ keeps⟩
  case step =>
    rintro path rest kept _ ⟨rfl, done, rfl, keeps⟩
    unfold compareFiles.keepNonEmpty sizeOf
    simp only [bind_assoc]
    refine always_ask_bind.mpr ⟨rfl, ?_⟩
    rintro answer after ⟨rfl, answered⟩
    have whole : done ++ path :: rest = (done ++ [path]) ++ rest := by simp
    cases found : after.disk.metadata path with
    | some metadata =>
        simp only [found] at answered
        subst answered
        refine ⟨rfl, rfl, done ++ [path], whole, ?_⟩
        intro other
        by_cases full : 0 < metadata.len
        · rw [if_pos full, List.mem_append, List.mem_append, keeps]
          constructor
          · rintro (earlier | last)
            · exact ⟨.inl earlier.1, earlier.2⟩
            · obtain rfl := List.mem_singleton.mp last
              exact ⟨.inr last, metadata, found, full⟩
          · rintro ⟨earlier | last, known⟩
            · exact .inl ⟨earlier, known⟩
            · exact .inr last
        · rw [if_neg full, List.mem_append, keeps]
          constructor
          · rintro ⟨earlier, known⟩
            exact ⟨.inl earlier, known⟩
          · rintro ⟨earlier | last, metadata', found', full'⟩
            · exact ⟨earlier, metadata', found', full'⟩
            · obtain rfl := List.mem_singleton.mp last
              obtain rfl := Option.some.inj (found.symm.trans found')
              exact absurd full' full
    | none =>
        simp only [found] at answered
        obtain ⟨error, rfl⟩ := answered
        refine ⟨rfl, rfl, done ++ [path], whole, ?_⟩
        intro other
        simp only [Nat.lt_irrefl, if_false, List.mem_append, keeps]
        constructor
        · rintro ⟨earlier, known⟩
          exact ⟨.inl earlier, known⟩
        · rintro ⟨earlier | last, metadata', found', full'⟩
          · exact ⟨earlier, metadata', found', full'⟩
          · obtain rfl := List.mem_singleton.mp last
            rw [found] at found'
            cases found'

/-- Phase 3 as a whole. -/
theorem always_compareFiles {localFiles : List Path} (consistent : s.Consistent goal w)
    (cached : s.Cached w) (running : w.shutdown = false)
    (listed
      : ∀ rel, Plain rel → dbIndex.contains (relKey rel) = (s.slot w rel).record.isSome)
    (walked
      : ∀ path ∈ localFiles,
          ∃ rel, path = s.base ++ rel ∧ Plain rel ∧ (s.visible w.disk rel).isSome)
    (every
      : ∀ rel, Plain rel → (s.visible w.disk rel).isSome → s.base ++ rel ∈ localFiles)
    : Always (Environment.calm s.md5 s.folder).sem (s.Consistent goal)
        (compareFiles s.primary dbIndex localFiles) w
        (fun result last =>
          ∃ toSync, result = .ok toSync ∧ s.Compared goal w toSync last ∧ s.Cached last) := by
  have compares
      : Always (Environment.calm s.md5 s.folder).sem (s.Consistent goal)
          (localFiles.zipIdx.foldlM (compareNext s.primary dbIndex localFiles.length) []) w
          (fun result last =>
            ∃ toSync,
              result = .ok toSync ∧ s.Comparing goal w dbIndex [] toSync last
              ∧ s.Cached last) := by
    refine always_foldlM
      (fun rest toSync state =>
        (∀ file ∈ rest, file.1 ∈ localFiles)
        ∧ s.Comparing goal w dbIndex rest toSync state ∧ s.Cached state)
      ?kept ?step _ _ ⟨fun file member => List.fst_mem_of_mem_zipIdx member, ?_, cached⟩
    case kept =>
      rintro toSync last ⟨-, comparing, cached⟩
      exact ⟨comparing.consistent, toSync, rfl, comparing, cached⟩
    case step =>
      rintro ⟨path, i⟩ rest toSync middle ⟨coming, comparing, cached⟩
      obtain ⟨rel, rfl, plain, visible⟩ := walked path (coming (path, i) (by simp))
      obtain ⟨⟨content, time⟩, shown⟩ := Option.isSome_iff_exists.mp visible
      refine (always_compareNext comparing plain shown cached
        (comparing.running.trans running)).mono ?_
      rintro result last - ⟨toSync', rfl, comparing, cached⟩
      exact ⟨fun file member => coming file (by simp [member]), comparing, cached⟩
    · exact
        { consistent, disk := rfl, remote := rfl, pathCache := rfl, tasks := rfl, running := rfl
          listed := fun rel content time plain _ => .inl (listed rel plain)
          sent := by simp
          compared := by
            intro rel content time plain shown _
            obtain ⟨i, found⟩ := List.getElem?_of_mem (every rel plain (by simp [shown]))
            exact .inl ⟨i, List.mk_mem_zipIdx_iff_getElem?.mpr found⟩
          gone := fun _ _ _ => rfl }
  unfold compareFiles
  refine compares.bind ?_ ?_
  · rintro toSync state - ⟨_, same, comparing, cached⟩
    obtain rfl := Except.ok.inj same
    refine ((always_keepNonEmpty toSync).weaken ?_).mono ?_
    · rintro _ rfl
      exact comparing.consistent
    · rintro result _ - ⟨rfl, kept, rfl, keeps⟩
      refine ⟨kept, rfl, comparing.finish ?_, cached⟩
      rw [← comparing.disk]
      exact keeps
  · rintro error state - ⟨_, same, -⟩
    cases same

end Setting

end SyncGDrive
