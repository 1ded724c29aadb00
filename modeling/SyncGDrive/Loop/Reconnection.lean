import SyncGDrive.Loop.Losses
import SyncGDrive.Loop.Order
import SyncGDrive.Loop.Plain

/-! Reconnections: whether the channel receives events in the order in which they were passed
on, and what overtakes a deletion that has been recorded offline.
-/

namespace SyncGDrive

open Program

namespace SyncEngine

/-- In every run of the discipline the channel receives the events in order. -/
theorem keeps_order {host : Host} {w : World} {cfg : AppConfig} {dryRun : Bool} {note : Stamps}
    {e : SyncEngine}
    (run : Runs host stamps KeepsOrder (.of w) (launch host w cfg dryRun) note e)
    : note.log.Pairwise (· < ·) :=
  (run.invariant Ordered (ordered_launch host w cfg dryRun)
    (fun _ _ _ _ ordered step fine => ordered.step step fine)).sorted

/-- The steps that the discipline says nothing about. -/
theorem keepsOrder_of_other {note : Stamps} {e e' : SyncEngine} {label : Label}
    (other : ∀ index op, label ≠ .dispatcher index op)
    (kept : ∀ id, label ≠ .main (.removeOfflineTask id))
    : KeepsOrder note e label e' :=
  ⟨fun index _ same => absurd same (other index _), fun index same => absurd same (other index _),
    fun id same => absurd same (kept id)⟩

/-- The first dispatcher is alone. -/
theorem alone_of_one {e : SyncEngine} {dispatcher : Dispatcher}
    (one : e.dispatchers = [dispatcher])
    : ∀ other ≠ 0, ∀ d, e.dispatchers[other]? = some d → passing d.busy = false := by
  intro other differs d found
  rw [one, List.getElem?_eq_none (by simp only [List.length_singleton]; omega)] at found
  cases found

-----------------------------------------------------------------------------------------
-- A deletion that is recorded offline
-----------------------------------------------------------------------------------------

/-- The network is gone, a file has been deleted, and the network is back. -/
def deletedOffline : SyncEngine :=
  let e := started (fun _ => False) { disk := emptyDisk }
  { e.tell (.error "Réseau indisponible (Mode Hors-ligne)") with
    world :=
      { (e.tell (.error "Réseau indisponible (Mode Hors-ligne)")).world with
        db := ({} : Database).pushOfflineTask "delete" "a" none }
    mode := .reconnecting }

/-- The deletion has the first stamp, and is recorded under the first key. -/
def deletedStamps : Stamps where
  next := 2
  current := Function.update (fun _ => 0) 0 1
  recorded := [(1, 1)]

theorem runs_deletedOffline
    : Runs (.plain (fun _ => False)) stamps KeepsOrder (.of { disk := emptyDisk })
        (launch (.plain (fun _ => False)) { disk := emptyDisk } backupConfig false) deletedStamps
        deletedOffline := by
  have running :=
    @runs_started _ (fun _ => False) stamps KeepsOrder (.of { disk := emptyDisk })
      { disk := emptyDisk } rfl rfl id
      (fun note e op e' kept => by cases op <;> first | rfl | cases kept)
      (by rintro e label e' (rfl | rfl) <;> rfl)
      (fun note e op e' kept => keepsOrder_of_other (by simp) (by rintro id ⟨⟩; cases kept))
      (by rintro e label e' (rfl | rfl) <;> exact keepsOrder_of_other (by simp) (by simp))
  have asked :=
    running.step (.main (.healthTick rfl rfl rfl)) (keepsOrder_of_other (by simp) (by simp))
  have offline :=
    asked.step (.main (@MainStep.health _ _ (.ok .unreachable) rfl))
      (keepsOrder_of_other (by simp) (by simp))
  have observed :=
    offline.step (.outside (@OutsideStep.observed _ 0 _ (.deleted missingFile) rfl rfl))
      (keepsOrder_of_other (by simp) (by simp))
  have taken :=
    observed.step
      (.dispatcher (by rintro ⟨⟩)
        (@DispatcherStep.taken _ _ 0 _ (.deleted missingFile) [] rfl rfl rfl rfl))
      (keepsOrder_of_other (by simp) (by simp))
  have answered :=
    taken.step
      (.dispatcher (by rintro ⟨⟩)
        (@DispatcherStep.worked _ _ 0 _ .isOffline _ true _ rfl rfl ⟨⟨rfl, rfl⟩, trivial⟩))
      ⟨by rintro _ _ ⟨⟩, by rintro _ ⟨⟩; exact alone_of_one rfl, by rintro _ ⟨⟩⟩
  have recorded :=
    answered.step
      (.dispatcher (by rintro ⟨⟩)
        (@DispatcherStep.worked _ _ 0 _ (.pushOfflineTask "delete" "a" none) _ (.ok ()) _ rfl rfl
          ⟨.inl ⟨rfl, rfl⟩, trivial⟩))
      ⟨by rintro _ _ ⟨⟩, by rintro _ ⟨⟩, by rintro _ ⟨⟩⟩
  have again :=
    recorded.step (.main (.healthTick rfl rfl rfl)) (keepsOrder_of_other (by simp) (by simp))
  have back :=
    again.step (.main (@MainStep.health _ _ (.ok .authExpired) rfl))
      (keepsOrder_of_other (by simp) (by simp))
  exact back

/-- Flushed before anything else happens, the deletion comes before the next one. -/
theorem deletion_comes_first
    : ∃ note : Stamps, note.log = [1, 2] ∧ note.log.Pairwise (· < ·) := by
  have turned :=
    runs_deletedOffline.step (.main (.reconnected rfl)) (keepsOrder_of_other (by simp) (by simp))
  have read :=
    turned.step (.main (.flush rfl ⟨.inl ⟨rfl, rfl⟩, trivial⟩))
      (keepsOrder_of_other (by simp) (by simp))
  have sent :=
    read.step
      (.main (@MainStep.flush _ _ (.send (.delete missingFile)) _ true _ rfl
        ⟨.inl ⟨rfl, rfl⟩, fun _ => ⟨rfl, show 0 < channelCapacity by decide⟩,
          fun gone => absurd trivial gone⟩))
      (keepsOrder_of_other (by simp) (by simp))
  have removed :=
    sent.step
      (.main (@MainStep.flush _ _ (.removeOfflineTask 1) _ (.ok ()) _ rfl
        ⟨.inl ⟨rfl, rfl⟩, trivial⟩))
      ⟨by rintro _ _ ⟨⟩, by rintro _ ⟨⟩, by rintro _ ⟨⟩; rintro ⟨⟩⟩
  have flushed := removed.step (.main (.flushed rfl)) (keepsOrder_of_other (by simp) (by simp))
  have observed :=
    flushed.step (.outside (@OutsideStep.observed _ 0 _ (.deleted missingFile) rfl rfl))
      (keepsOrder_of_other (by simp) (by simp))
  have taken :=
    observed.step
      (.dispatcher (by rintro ⟨⟩)
        (@DispatcherStep.taken _ _ 0 _ (.deleted missingFile) [] rfl rfl rfl rfl))
      (keepsOrder_of_other (by simp) (by simp))
  have answered :=
    taken.step
      (.dispatcher (by rintro ⟨⟩)
        (@DispatcherStep.worked _ _ 0 _ .isOffline _ false _ rfl rfl ⟨⟨rfl, rfl⟩, trivial⟩))
      ⟨by rintro _ _ ⟨⟩, by rintro _ ⟨⟩; exact alone_of_one rfl, by rintro _ ⟨⟩⟩
  have counted :=
    answered.step
      (.dispatcher (by rintro ⟨⟩)
        (@DispatcherStep.worked _ _ 0 _ (.report (.addTotals 1 0)) _ () _ rfl rfl
          ⟨rfl, trivial⟩))
      ⟨by rintro _ _ ⟨⟩, by rintro _ ⟨⟩, by rintro _ ⟨⟩⟩
  have passed :=
    counted.step
      (.dispatcher (by rintro ⟨⟩)
        (@DispatcherStep.worked _ _ 0 _ (.send (.delete missingFile)) _ true _ rfl rfl
          ⟨.inl ⟨rfl, rfl⟩, fun _ => ⟨rfl, show 1 < channelCapacity by decide⟩,
            fun gone => absurd trivial gone⟩))
      ⟨by rintro _ _ ⟨⟩ row ⟨⟩, by rintro _ ⟨⟩, by rintro _ ⟨⟩⟩
  exact ⟨_, rfl, keeps_order passed⟩

/-- The file is there again. -/
def recreatedDisk : Disk :=
  .backup (.single (.utf8 "a") OsString.proper_a)
    (fun _ => .file { content := [97], modified := 0 })

/-- The file is created again before the flush, and its upload overtakes the deletion. -/
theorem runs_overtaken
    : ∃ note e,
        Runs (.plain (fun _ => False)) stamps anyStep (.of { disk := emptyDisk })
          (launch (.plain (fun _ => False)) { disk := emptyDisk } backupConfig false) note e
        ∧ note.log = [2, 1]
        ∧ e.world.tasks = [.syncFile missingFile, .delete missingFile] := by
  have back :=
    @Observed.mono _ _ _ _ _ _ anyStep _ _ _ _ runs_deletedOffline (fun _ _ _ _ _ => trivial)
  have created := back.step (.outside (.edited recreatedDisk)) trivial
  have observed :=
    created.step (.outside (@OutsideStep.observed _ 0 _ (.modified missingFile) rfl rfl)) trivial
  have taken :=
    observed.step
      (.dispatcher (by rintro ⟨⟩)
        (@DispatcherStep.taken _ _ 0 _ (.modified missingFile) [] rfl rfl rfl rfl)) trivial
  have elapsed := taken.step (.outside (@OutsideStep.later _ 500 (Nat.zero_le _))) trivial
  have ticked :=
    elapsed.step
      (.dispatcher (by rintro ⟨⟩)
        (@DispatcherStep.ticked _ _ 0 _ [missingFile] rfl rfl rfl (.refl _))) trivial
  have answered :=
    ticked.step
      (.dispatcher (by rintro ⟨⟩)
        (@DispatcherStep.worked _ _ 0 _ .isOffline _ false _ rfl rfl ⟨⟨rfl, rfl⟩, trivial⟩)) trivial
  have sized :=
    answered.step
      (.dispatcher (by rintro ⟨⟩)
        (@DispatcherStep.worked _ _ 0 _ (.metadata missingFile) _
          (.ok ⟨false, true, 1, 0⟩) _ rfl rfl
          ⟨⟨rfl, rfl⟩, trivial⟩)) trivial
  have counted :=
    sized.step
      (.dispatcher (by rintro ⟨⟩)
        (@DispatcherStep.worked _ _ 0 _ (.report (.addTotals 1 1)) _ () _ rfl rfl
          ⟨rfl, trivial⟩)) trivial
  have passed :=
    counted.step
      (.dispatcher (by rintro ⟨⟩)
        (@DispatcherStep.worked _ _ 0 _ (.send (.syncFile missingFile)) _ true _ rfl rfl
          ⟨.inl ⟨rfl, rfl⟩, fun _ => ⟨rfl, show 0 < channelCapacity by decide⟩,
            fun gone => absurd trivial gone⟩)) trivial
  have turned := passed.step (.main (.reconnected rfl)) trivial
  have read := turned.step (.main (.flush rfl ⟨.inl ⟨rfl, rfl⟩, trivial⟩)) trivial
  have sent :=
    read.step
      (.main (@MainStep.flush _ _ (.send (.delete missingFile)) _ true _ rfl
        ⟨.inl ⟨rfl, rfl⟩, fun _ => ⟨rfl, show 1 < channelCapacity by decide⟩,
          fun gone => absurd trivial gone⟩)) trivial
  exact ⟨_, _, sent, rfl, rfl⟩

/-- The channel does not receive events in order. -/
theorem deletion_overtaken
    : ¬ ∀ host w cfg dryRun note e,
        Runs host stamps anyStep (.of w) (launch host w cfg dryRun) note e
        → note.log.Pairwise (· < ·) := by
  intro ordered
  obtain ⟨note, e, run, log, -⟩ := runs_overtaken
  have sorted := ordered _ _ _ _ _ _ run
  rw [log] at sorted
  exact absurd sorted (by decide)

end SyncEngine

end SyncGDrive
