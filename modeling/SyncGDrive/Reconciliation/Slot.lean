import Mathlib.Data.Option.Basic

/-! One path of a mirrored tree, abstractly: the local file, its remote copy, and the record
of what was last sent. Contents, digests and times are arbitrary; `vacant` tells the contents
that are never sent.
-/

namespace Mirror

/-- The three views of one path. -/
structure Slot (Content Digest Time : Type) where
  file : Option (Content × Time)
  copy : Option Content
  record : Option (Digest × Time)

namespace Slot

variable {Content Digest Time : Type} [DecidableEq Digest] [DecidableEq Time]
  (digest : Content → Digest) (vacant : Content → Bool)

-----------------------------------------------------------------------------------------
-- What is done to a slot
-----------------------------------------------------------------------------------------

/-- Bring the copy and the record up to date with the file, if there is something to send. -/
def sync (slot : Slot Content Digest Time) : Slot Content Digest Time :=
  match slot.file with
  | none => slot
  | some (content, time) =>
      if vacant content then slot
      else if slot.copy.isSome ∧ slot.record.map Prod.snd = some time then slot
      else if slot.copy.isSome ∧ slot.record.map Prod.fst = some (digest content) then
        { slot with record := some (digest content, time) }
      else { slot with copy := some content, record := some (digest content, time) }

/-- Halfway through sending: the copy is in place, the record is not. -/
def halfway (slot : Slot Content Digest Time) : Slot Content Digest Time :=
  { slot with copy := (slot.sync digest vacant).copy }

/-- Compare the three views: a record may be refreshed or adopted, and the result tells
whether the file must be sent.
-/
def compare (slot : Slot Content Digest Time) : Slot Content Digest Time × Bool :=
  match slot.file with
  | none => (slot, false)
  | some (content, time) =>
      if slot.copy.isNone then (slot, true)
      else if slot.record.isNone then
        ({ slot with record := some (digest content, time) }, false)
      else if slot.record.map Prod.snd = some time then (slot, false)
      else if slot.record.map Prod.fst = some (digest content) then
        ({ slot with record := some (digest content, time) }, false)
      else (slot, true)

/-- Forget the copy and the record. -/
def remove (slot : Slot Content Digest Time) : Slot Content Digest Time :=
  { slot with copy := none, record := none }

/-- One whole pass: compare, then send what must be sent; without a file, remove. -/
def pass (slot : Slot Content Digest Time) : Slot Content Digest Time :=
  match slot.file with
  | none => slot.remove
  | some (content, _) =>
      if vacant content then slot
      else if (slot.compare digest).2 then slot.sync digest vacant
      else (slot.compare digest).1

-----------------------------------------------------------------------------------------
-- What a slot may look like
-----------------------------------------------------------------------------------------

/-- The copy and the record are those of the file; without anything to send there are none.
-/
def Settled (slot : Slot Content Digest Time) : Prop :=
  match slot.file with
  | none => slot.copy = none ∧ slot.record = none
  | some (content, time) =>
      if vacant content then slot.copy = none ∧ slot.record = none
      else slot.copy = some content ∧ slot.record = some (digest content, time)

/-- Nothing is kept of a file that is never sent, and no record is without its copy while the
file is there.
-/
structure Coherent (slot : Slot Content Digest Time) : Prop where
  empty
    : ∀ content time,
        slot.file = some (content, time) → vacant content = true
        → slot.copy = none ∧ slot.record = none
  copied
    : ∀ content time record,
        slot.file = some (content, time) → slot.record = some record → slot.copy ≠ none

/-- A copy and a record that a comparison judges rightly, should the file still be there. -/
structure Reconcilable (slot : Slot Content Digest Time) : Prop where
  sameTime
    : ∀ content time copy hash,
        slot.file = some (content, time) → slot.copy = some copy
        → slot.record = some (hash, time) → copy = content ∧ hash = digest content
  sameDigest
    : ∀ content time copy recorded,
        slot.file = some (content, time) → slot.copy = some copy
        → slot.record = some (digest content, recorded) → copy = content
  unrecorded
    : ∀ content time copy,
        slot.file = some (content, time) → slot.copy = some copy → slot.record = none
        → copy = content

variable {digest vacant} {slot : Slot Content Digest Time}

-----------------------------------------------------------------------------------------
-- Files stay as they are
-----------------------------------------------------------------------------------------

@[simp] theorem sync_file : (slot.sync digest vacant).file = slot.file := by
  unfold sync
  split <;> repeat' split
  all_goals rfl

@[simp] theorem halfway_file : (slot.halfway digest vacant).file = slot.file := rfl

@[simp] theorem compare_file : (slot.compare digest).1.file = slot.file := by
  unfold compare
  split <;> repeat' split
  all_goals rfl

omit [DecidableEq Digest] [DecidableEq Time] in
@[simp] theorem remove_file : slot.remove.file = slot.file := rfl

@[simp] theorem pass_file : (slot.pass digest vacant).file = slot.file := by
  unfold pass
  split
  · rfl
  · split
    · rfl
    · split <;> simp

-----------------------------------------------------------------------------------------
-- The cases of sending
-----------------------------------------------------------------------------------------

section Cases

variable {content : Content} {time : Time} (file : slot.file = some (content, time))

include file

theorem sync_vacant (nothing : vacant content = true) : slot.sync digest vacant = slot := by
  simp only [sync, file, nothing, if_true]

theorem sync_current (recorded : slot.copy.isSome ∧ slot.record.map Prod.snd = some time)
    : slot.sync digest vacant = slot := by
  simp only [sync, file, if_pos recorded, ite_self]

variable (full : vacant content = false)
  (stale : ¬ (slot.copy.isSome ∧ slot.record.map Prod.snd = some time))

include full stale

theorem sync_touched
    (recorded : slot.copy.isSome ∧ slot.record.map Prod.fst = some (digest content))
    : slot.sync digest vacant = { slot with record := some (digest content, time) } := by
  simp only [sync, file, full, Bool.false_eq_true, if_false, if_neg stale, if_pos recorded]

theorem sync_sent
    (changed : ¬ (slot.copy.isSome ∧ slot.record.map Prod.fst = some (digest content)))
    : slot.sync digest vacant = ⟨slot.file, some content, some (digest content, time)⟩ := by
  simp only [sync, file, full, Bool.false_eq_true, if_false, if_neg stale, if_neg changed]

end Cases

-----------------------------------------------------------------------------------------
-- Every step leads to what the whole pass makes of a slot
-----------------------------------------------------------------------------------------

theorem pass_of_none (gone : slot.file = none) : slot.pass digest vacant = slot.remove := by
  simp only [pass, gone]

theorem pass_of_vacant {content : Content} {time : Time} (file : slot.file = some (content, time))
    (nothing : vacant content = true)
    : slot.pass digest vacant = slot := by
  simp only [pass, file, nothing, if_true]

/-- What a comparison leaves unsent is where the pass ends. -/
theorem compare_eq_pass {content : Content} {time : Time}
    (file : slot.file = some (content, time)) (full : vacant content = false)
    (unsent : (slot.compare digest).2 = false)
    : (slot.compare digest).1 = slot.pass digest vacant := by
  simp [pass, file, full, unsent]

/-- Sending what a comparison asks for ends the pass. -/
theorem sync_eq_pass {content : Content} {time : Time}
    (file : slot.file = some (content, time)) (full : vacant content = false)
    (sent : (slot.compare digest).2 = true)
    : slot.sync digest vacant = slot.pass digest vacant := by
  simp [pass, file, full, sent]

/-- A comparison that asks for nothing new leaves the slot as it was. -/
theorem compare_of_sent (sent : (slot.compare digest).2 = true)
    : (slot.compare digest).1 = slot := by
  rcases slot with ⟨_ | ⟨content, time⟩, _ | copy, _ | ⟨hash, recorded⟩⟩ <;>
    simp only [compare] at * <;> grind

/-- A comparison leaves a coherent slot. -/
theorem Coherent.compare (coherent : slot.Coherent vacant)
    : (slot.compare digest).1.Coherent vacant := by
  obtain ⟨empty, copied⟩ := coherent
  rcases slot with ⟨_ | ⟨content, time⟩, _ | copy, _ | ⟨hash, recorded⟩⟩ <;>
    simp only [Slot.compare] at * <;> constructor <;> grind

/-- A comparison does not change where the pass ends. -/
theorem Coherent.pass_compare (coherent : slot.Coherent vacant)
    : (slot.compare digest).1.pass digest vacant = slot.pass digest vacant := by
  obtain ⟨empty, copied⟩ := coherent
  rcases slot with ⟨_ | ⟨content, time⟩, _ | copy, _ | ⟨hash, recorded⟩⟩ <;>
    simp only [pass, sync, Slot.compare] at * <;> grind

/-- Sending again what the pass has ended with changes nothing. -/
theorem Coherent.sync_pass {content : Content} {time : Time} (coherent : slot.Coherent vacant)
    (file : slot.file = some (content, time)) (full : vacant content = false)
    : (slot.pass digest vacant).sync digest vacant = slot.pass digest vacant := by
  obtain ⟨empty, copied⟩ := coherent
  rcases slot with ⟨_ | ⟨content, time⟩, _ | copy, _ | ⟨hash, recorded⟩⟩ <;>
    simp only [pass, sync, Slot.compare] at * <;> grind

/-- The end of a pass is the end of its own pass. -/
theorem Coherent.pass_pass (coherent : slot.Coherent vacant)
    : (slot.pass digest vacant).pass digest vacant = slot.pass digest vacant := by
  obtain ⟨empty, copied⟩ := coherent
  rcases slot with ⟨_ | ⟨content, time⟩, _ | copy, _ | ⟨hash, recorded⟩⟩ <;>
    simp only [pass, sync, Slot.compare, remove] at * <;> grind

/-- The end of a pass is coherent. -/
theorem Coherent.pass (coherent : slot.Coherent vacant)
    : (slot.pass digest vacant).Coherent vacant := by
  obtain ⟨empty, copied⟩ := coherent
  rcases slot with ⟨_ | ⟨content, time⟩, _ | copy, _ | ⟨hash, recorded⟩⟩ <;>
    simp only [Slot.pass, sync, Slot.compare, remove] at * <;> constructor <;> grind

/-- Halfway through sending what a comparison asked for, the pass still ends the same. -/
theorem Coherent.pass_halfway (coherent : slot.Coherent vacant)
    (sent : (slot.compare digest).2 = true)
    : (slot.halfway digest vacant).pass digest vacant = slot.pass digest vacant := by
  obtain ⟨empty, copied⟩ := coherent
  rcases slot with ⟨_ | ⟨content, time⟩, _ | copy, _ | ⟨hash, recorded⟩⟩ <;>
    simp only [Slot.pass, sync, Slot.compare, halfway] at * <;> grind

/-- Halfway through sending, a slot is coherent. -/
theorem Coherent.halfway (coherent : slot.Coherent vacant)
    : (slot.halfway digest vacant).Coherent vacant := by
  obtain ⟨empty, copied⟩ := coherent
  rcases slot with ⟨_ | ⟨content, time⟩, _ | copy, _ | ⟨hash, recorded⟩⟩ <;>
    simp only [Slot.halfway, sync] at * <;> constructor <;> grind

/-- Where nothing is sent, halfway is where it started. -/
theorem halfway_eq (same : slot.sync digest vacant = slot) : slot.halfway digest vacant = slot := by
  rw [Slot.halfway, same]

omit [DecidableEq Digest] [DecidableEq Time] in
/-- Without a file every slot is coherent. -/
theorem coherent_of_none (gone : slot.file = none) : slot.Coherent vacant := by
  constructor <;> simp [gone]

-----------------------------------------------------------------------------------------
-- Where the pass ends settled
-----------------------------------------------------------------------------------------

/-- The pass settles a slot that can be compared. -/
theorem Coherent.settled_pass (coherent : slot.Coherent vacant)
    (reconcilable : slot.Reconcilable digest)
    : (slot.pass digest vacant).Settled digest vacant := by
  obtain ⟨empty, copied⟩ := coherent
  obtain ⟨sameTime, sameDigest, unrecorded⟩ := reconcilable
  rcases slot with ⟨_ | ⟨content, time⟩, _ | copy, _ | ⟨hash, recorded⟩⟩ <;>
    simp only [Settled, Slot.pass, sync, Slot.compare, remove] at * <;> grind

omit [DecidableEq Digest] [DecidableEq Time] in
/-- A settled slot has the copy of a file worth sending. -/
theorem Settled.copy_eq_some {content : Content} (settled : slot.Settled digest vacant)
    : slot.copy = some content
      ↔ ∃ time, slot.file = some (content, time) ∧ vacant content = false := by
  rcases slot with ⟨_ | ⟨content', time'⟩, copy, record⟩
  · simp [Settled] at settled ⊢
    simp [settled]
  · simp only [Settled] at settled
    split at settled
    · rename_i nothing
      simp only [settled, reduceCtorEq, Option.some.injEq, Prod.mk.injEq, false_iff, not_exists]
      rintro time ⟨⟨rfl, -⟩, full⟩
      rw [nothing] at full
      cases full
    · rename_i full
      simp only [settled, Option.some.injEq, Prod.mk.injEq]
      constructor
      · rintro rfl
        exact ⟨time', ⟨rfl, rfl⟩, by simpa using full⟩
      · rintro ⟨time, ⟨same, -⟩, -⟩
        exact same

omit [DecidableEq Digest] [DecidableEq Time] in
/-- The file determines a settled slot. -/
theorem Settled.ext {other : Slot Content Digest Time} (settled : slot.Settled digest vacant)
    (settled' : other.Settled digest vacant) (same : slot.file = other.file)
    : slot = other := by
  obtain ⟨file, copy, record⟩ := slot
  obtain ⟨file', copy', record'⟩ := other
  obtain rfl : file = file' := same
  rcases file with _ | ⟨content, time⟩ <;> simp only [Settled] at settled settled' <;> grind

-----------------------------------------------------------------------------------------
-- Slots whose copy and record are of one version
-----------------------------------------------------------------------------------------

/-- The copy and the record are of one version of the file, or there are none. -/
def Backed (digest : Content → Digest) (version : Content → Time → Prop)
    (slot : Slot Content Digest Time)
    : Prop :=
  match slot.copy, slot.record with
  | none, none => True
  | some copy, some (hash, time) => hash = digest copy ∧ version copy time
  | _, _ => False

section Versions

variable {version : Content → Time → Prop}

omit [DecidableEq Digest] [DecidableEq Time] in
theorem backed_remove : slot.remove.Backed digest version := trivial

omit [DecidableEq Digest] [DecidableEq Time] in
theorem Backed.mono {more : Content → Time → Prop} (backed : slot.Backed digest version)
    (weaker : ∀ content time, version content time → more content time)
    : slot.Backed digest more := by
  rcases slot with ⟨file, _ | copy, _ | ⟨hash, time⟩⟩
  · trivial
  · exact backed
  · exact backed
  · exact ⟨backed.1, weaker _ _ backed.2⟩

variable (times : ∀ content content' time,
    version content time → version content' time → content = content')
  (digests : ∀ content content' time time',
    version content time → version content' time' → digest content = digest content'
    → content = content')

include times digests

/-- Where versions differ in their times and their digests, sending settles the slot. -/
theorem Backed.sync_eq {content : Content} {time : Time} (backed : slot.Backed digest version)
    (file : slot.file = some (content, time)) (known : version content time)
    (full : vacant content = false)
    : slot.sync digest vacant = ⟨slot.file, some content, some (digest content, time)⟩ := by
  rcases slot with ⟨_ | ⟨content', time'⟩, _ | copy, _ | ⟨hash, recorded⟩⟩ <;>
    simp only [Backed, Slot.sync] at * <;> grind

/-- Sending a version of the file leaves a version. -/
theorem Backed.sync {content : Content} {time : Time} (backed : slot.Backed digest version)
    (file : slot.file = some (content, time)) (known : version content time)
    : (slot.sync digest vacant).Backed digest version := by
  cases full : vacant content with
  | true =>
      rw [sync_vacant file full]
      exact backed
  | false =>
      rw [backed.sync_eq times digests file known full]
      exact ⟨rfl, known⟩

omit [DecidableEq Digest] [DecidableEq Time] in
/-- Where versions differ in their times and their digests, a comparison judges rightly. -/
theorem Backed.reconcilable (backed : slot.Backed digest version)
    (known : ∀ content time, slot.file = some (content, time) → version content time)
    : slot.Reconcilable digest := by
  rcases slot with ⟨_ | ⟨content', time'⟩, _ | copy, _ | ⟨hash, recorded⟩⟩ <;>
    simp only [Backed] at * <;> constructor <;> grind

end Versions

end Slot

end Mirror
