import SyncGDrive.Engine.Footprints

/-! A dispatcher asks whether the engine is offline once for every event or path that it
passes on, and then sends or records at most one operation for it.
-/

namespace SyncGDrive

open Program

/-- A dispatcher has asked, and has not passed its event on yet. -/
def passing {α : Type} : Eff α → Bool
  | .done _ | .call .isOffline _ => false
  | .call .. => true

/-- The operations that pass an event on. -/
def Op.passesOn : Op → Bool
  | .send _ | .pushOfflineTask .. => true
  | _ => false

/-- Whatever passes an event on is the last operation before the next question. -/
def PassesOnce {α : Type} : Eff α → Prop
  | .done _ => True
  | .call op next =>
      ∀ answer,
        (op.passesOn = true → passing (next answer) = false) ∧ PassesOnce (next answer)

/-- A program that passes once may be followed by another that begins by asking. -/
theorem PassesOnce.bind {α β : Type} {program : Eff α} {f : α → Eff β}
    (first : PassesOnce program) (second : ∀ value, PassesOnce (f value))
    (asks : ∀ value, passing (f value) = false)
    : PassesOnce (program >>= f) := by
  induction program with
  | done result =>
      cases result with
      | ok value => exact second value
      | error error => trivial
  | call op next ih =>
      intro answer
      refine ⟨fun passes => ?_, ih answer (first answer).2⟩
      have calm := (first answer).1 passes
      change passing (next answer >>= f) = false
      generalize next answer = rest at calm
      cases rest with
      | done result =>
          cases result with
          | ok value => exact asks value
          | error error => rfl
      | call op next =>
          cases op <;> first | rfl | cases calm

section Dispatcher

variable {root : Path}

theorem passesOnce_recordOffline {action : String} {path : Path}
    : PassesOnce (recordOffline root action path) := by
  unfold recordOffline
  split
  · exact fun answer => ⟨fun _ => rfl, trivial⟩
  · trivial

theorem passesOnce_send {files bytes : Nat} {task : Task}
    : PassesOnce (do ask (.report (.addTotals files bytes)); ask (.send task)) :=
  fun _ => ⟨nofun, fun _ => ⟨fun _ => rfl, trivial⟩⟩

theorem passesOnce_dispatchReady {path : Path} : PassesOnce (dispatchReady root path) := by
  intro offline
  refine ⟨nofun, ?_⟩
  cases offline with
  | true => exact passesOnce_recordOffline
  | false =>
      intro answer
      refine ⟨nofun, ?_⟩
      cases answer <;> exact passesOnce_send

theorem asks_dispatchAll {paths : List Path} : passing (dispatchAll root paths) = false := by
  cases paths <;> rfl

/-- By induction on the paths. -/
theorem passesOnce_dispatchAll {paths : List Path} : PassesOnce (dispatchAll root paths) := by
  induction paths with
  | nil => trivial
  | cons path paths ih =>
      refine passesOnce_dispatchReady.bind ?_ ?_
      · rintro (_ | _)
        · trivial
        · exact ih
      · rintro (_ | _)
        · rfl
        · exact asks_dispatchAll

theorem asks_dispatchEvent {event : WatchEvent}
    : passing (dispatchEvent root event) = false := by
  cases event <;> rfl

theorem passesOnce_dispatchEvent {event : WatchEvent}
    : PassesOnce (dispatchEvent root event) := by
  cases event with
  | modified path => trivial
  | deleted path =>
      intro offline
      refine ⟨nofun, ?_⟩
      cases offline with
      | true => exact passesOnce_recordOffline
      | false => exact passesOnce_send
  | renamed source target =>
      intro offline
      refine ⟨nofun, ?_⟩
      cases offline with
      | true =>
          cases Path.stripPrefix root source with
          | none => trivial
          | some sourceRel =>
              cases Path.stripPrefix root target with
              | none => trivial
              | some targetRel => exact fun answer => ⟨fun _ => rfl, trivial⟩
      | false => exact passesOnce_send

end Dispatcher

end SyncGDrive
