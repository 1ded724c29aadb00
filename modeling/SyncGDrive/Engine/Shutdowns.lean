import SyncGDrive.Engine.Exclusion
import SyncGDrive.Loop.Engine
import SyncGDrive.Program.Notes

/-! How the engine tells errors that stand for a shutdown: where the errors of scans and tasks come
from, with the texts they take from outside, and when the search through these texts is right.
-/

namespace SyncGDrive

open Program

-----------------------------------------------------------------------------------------
-- Words in texts
-----------------------------------------------------------------------------------------

/-- A word without a separator occurs in a text exactly when it occurs on one side of it. -/
theorem infix_append_cons {α : Type} {word front back : List α} {separator : α}
    (apart : separator ∉ word)
    : word <:+: front ++ separator :: back ↔ word <:+: front ∨ word <:+: back := by
  constructor
  · intro ⟨before, after, same⟩
    rw [List.append_assoc, List.append_eq_append_iff] at same
    rcases same with ⟨middle, split, rest⟩ | ⟨middle, split, rest⟩
    · -- The word starts in the front, and ends before the separator.
      rw [List.append_eq_append_iff] at rest
      rcases rest with ⟨later, whole, -⟩ | ⟨later, whole, tail⟩
      · exact .inl ⟨before, later, by rw [split, whole, List.append_assoc]⟩
      · cases later with
        | nil => exact .inl ⟨before, [], by simp [split, whole]⟩
        | cons c later =>
            obtain ⟨rfl, -⟩ := List.cons.inj tail
            exact absurd (by simp [whole]) apart
    · cases middle with
      | nil =>
          cases word with
          | nil => exact .inl (List.nil_infix)
          | cons c word =>
              simp only [List.nil_append, List.cons_append, List.cons.injEq] at rest
              exact absurd (by simp [rest.1]) apart
      | cons c middle =>
          simp only [List.cons_append, List.cons.injEq] at rest
          exact .inr ⟨middle, after, by rw [List.append_assoc, rest.2]⟩
  · intro part
    rcases part with ⟨before, after, same⟩ | ⟨before, after, same⟩
    · exact ⟨before, after ++ separator :: back, by simp [← same]⟩
    · exact ⟨front ++ separator :: before, after, by simp [← same]⟩

/-- The text names a shutdown or an interruption. -/
def mentionsShutdown (text : String) : Bool :=
  "shutdown".toList <:+: text.toList || "interrupted".toList <:+: text.toList

theorem mentionsShutdown_iff {text : String}
    : mentionsShutdown text = true
      ↔ "shutdown".toList <:+: text.toList ∨ "interrupted".toList <:+: text.toList := by
  unfold mentionsShutdown
  rw [Bool.or_eq_true]
  exact or_congr decide_eq_true_iff decide_eq_true_iff

/-- With a space between two texts, it is one of them that names it. -/
theorem mentionsShutdown_space (front back : String)
    : mentionsShutdown (front ++ " " ++ back)
      = (mentionsShutdown front || mentionsShutdown back) := by
  have apart : ' ' ∉ "shutdown".toList ∧ ' ' ∉ "interrupted".toList := by decide +kernel
  have split : (front ++ " " ++ back).toList = front.toList ++ ' ' :: back.toList := by simp
  rw [Bool.eq_iff_iff, Bool.or_eq_true, mentionsShutdown_iff, mentionsShutdown_iff,
    mentionsShutdown_iff, split, infix_append_cons apart.1, infix_append_cons apart.2]
  tauto

/-- A number names no shutdown. -/
theorem mentionsShutdown_toString (number : Nat) : mentionsShutdown (toString number) = false := by
  have letters {word : List Char} {c : Char} (first : c ∈ word) (letter : c.isDigit = false)
      : ¬ word <:+: (toString number).toList := by
    intro inside
    have digit : c.isDigit = true := by
      apply @Nat.isDigit_of_mem_toDigits 10 number c (by decide) (by decide)
      simpa using inside.subset first
    rw [letter] at digit
    cases digit
  have shutdown := @letters "shutdown".toList 's' (by decide +kernel) (by decide)
  have interrupted := @letters "interrupted".toList 'i' (by decide +kernel) (by decide)
  rw [Bool.eq_false_iff, ne_eq, mentionsShutdown_iff, not_or]
  exact ⟨shutdown, interrupted⟩

theorem mentionsShutdown_mismatch (attempts : Nat)
    : mentionsShutdown ("mismatch md5 détecté post-upload après " ++ toString attempts ++ " essais")
      = false := by
  have split : "mismatch md5 détecté post-upload après " ++ toString attempts ++ " essais"
      = "mismatch md5 détecté post-upload après" ++ " " ++ (toString attempts ++ " " ++ "essais")
      := by
    simp [← String.toList_inj]
  rw [split, mentionsShutdown_space, mentionsShutdown_space, mentionsShutdown_toString]
  decide +kernel

theorem mentionsShutdown_notUnder (path root : String)
    : mentionsShutdown (path ++ " not under " ++ root)
      = (mentionsShutdown path || mentionsShutdown root) := by
  have split : path ++ " not under " ++ root = path ++ " " ++ ("not under" ++ " " ++ root) := by
    simp [← String.toList_inj]
  have between : mentionsShutdown "not under" = false := by decide +kernel
  rw [split, mentionsShutdown_space, mentionsShutdown_space, between, Bool.false_or]

theorem mentionsShutdown_missingParent (parentRel : String)
    : mentionsShutdown ("Dossier parent introuvable dans le cache : " ++ parentRel)
      = mentionsShutdown parentRel := by
  have before : mentionsShutdown "Dossier parent introuvable dans le cache :" = false := by
    decide +kernel
  have split := mentionsShutdown_space "Dossier parent introuvable dans le cache :" parentRel
  rw [before, Bool.false_or] at split
  rw [← split]
  simp

theorem mentionsShutdown_failedUpload (message : String)
    : mentionsShutdown ("upload a échoué: " ++ message) = mentionsShutdown message := by
  have before : mentionsShutdown "upload a échoué:" = false := by decide +kernel
  have split := mentionsShutdown_space "upload a échoué:" message
  rw [before, Bool.false_or] at split
  rw [← split]
  simp

-----------------------------------------------------------------------------------------
-- Runs
-----------------------------------------------------------------------------------------

/-- An operation with its answer. -/
abbrev Answered : Type := Σ op : Op, op.Answer

/-- The operations of a run, last first. -/
def trail : Noting effects (List Answered) := fun op answer before => ⟨op, answer⟩ :: before

/-- The last operation was a check that has found the shutdown requested. -/
def Stopped : List Answered → Prop
  | ⟨.isCancelled, cancelled⟩ :: _ => cancelled = true
  | ⟨.sleep _, stopped⟩ :: _ => stopped = true
  | _ => False

/-- What an operation has failed with. -/
def Answered.failure : Answered → Option Error
  | ⟨.provider (.listRemote _), .error error⟩ => some error
  | ⟨.provider (.mkdir ..), .error error⟩ => some error
  | ⟨.provider (.upload ..), .error error⟩ => some error
  | ⟨.provider (.delete _), .error error⟩ => some error
  | ⟨.provider (.rename ..), .error error⟩ => some error
  | ⟨.metadata _, .error error⟩ => some error
  | ⟨.md5 _, .error error⟩ => some error
  | ⟨.get _, .error error⟩ => some error
  | ⟨.upsert _, .error error⟩ => some error
  | ⟨.deleteRow _, .error error⟩ => some error
  | ⟨.renameRow .., .error error⟩ => some error
  | ⟨.allPaths, .error error⟩ => some error
  | _ => none

/-- An error that has stopped a run by a check comes with the shutdown, and none comes without. -/
structure ShutdownRecognised (trace : List Answered) (shutdown : Bool) (error : Error) : Prop where
  spared : shutdown = false → isShutdownErr error = false
  stopped : Stopped trace → isShutdownErr error = true

-----------------------------------------------------------------------------------------
-- Origins
-----------------------------------------------------------------------------------------

/-- Where an error of a scan or a task comes from, with the texts that it takes from outside. -/
inductive Origin
  | scanCheck
  | attemptCheck
  | pauseCheck
  | closedQueue
  | fixed (message : String)
  | mismatch (maxAttempts : Nat)
  | notUnder (path root : Path)
  | missingParent (parentRel : String)
  | failedUpload (error : Error)
  | answered (contexts : List String) (error : Error)

namespace Origin

/-- The messages that take nothing from outside. -/
def fixedMessages : List String :=
  ["Aucun dossier", "prefix not found", "called Option::unwrap() on a None value",
    "Dossier destination introuvable", "second time provided was later than self"]

/-- What is put before an error that is passed on. -/
def passedContexts : List (List String) := [[], ["Metadata inaccessible"], ["stat"], ["read"]]

def error : Origin → Error
  | .scanCheck => .msg "shutdown: scan interrupted"
  | .attemptCheck => .msg "Annulé"
  | .pauseCheck => .msg "Annulé proprement pendant le retry"
  | .closedQueue => .msg "shutdown: task queue closed"
  | .fixed message => .msg message
  | .mismatch maxAttempts =>
      .msg ("mismatch md5 détecté post-upload après " ++ toString maxAttempts ++ " essais")
  | .notUnder path root =>
      (Error.msg "prefix not found").context (path.display ++ " not under " ++ root.display)
  | .missingParent parentRel => .msg ("Dossier parent introuvable dans le cache : " ++ parentRel)
  | .failedUpload error => .msg ("upload a échoué: " ++ error.display)
  | .answered contexts error => ⟨contexts ++ error.chain⟩

/-- The run of a job may have ended so. -/
def Arises (cfg : AppConfig) (job : Job) (trace : List Answered) : Origin → Prop
  | .scanCheck => job = .scan ∧ ∃ before, trace = ⟨.isCancelled, true⟩ :: before
  | .attemptCheck => ∃ before, trace = ⟨.isCancelled, true⟩ :: before
  | .pauseCheck => ∃ milliseconds before, trace = ⟨.sleep milliseconds, true⟩ :: before
  | .closedQueue => ∃ task before, trace = ⟨.send task, false⟩ :: before
  | .fixed message => ¬ Stopped trace ∧ message ∈ fixedMessages
  | .mismatch maxAttempts => ¬ Stopped trace ∧ maxAttempts = cfg.retry.maxAttempts
  | .notUnder path root =>
      ¬ Stopped trace ∧ (∃ task, job = .task task ∧ path = task.subject)
      ∧ ∃ primary, cfg.getPrimaryPair = some primary ∧ root = primary.localPath
  | .missingParent parentRel =>
      ¬ Stopped trace ∧ ∃ task primary,
        job = .task task ∧ cfg.getPrimaryPair = some primary
        ∧ parentRel = parentRelStr primary.localPath task.subject
  | .failedUpload error =>
      ∃ path parentId name existing before,
        trace = ⟨.provider (.upload path parentId name existing), .error error⟩ :: before
  | .answered contexts error =>
      ¬ Stopped trace ∧ contexts ∈ passedContexts
      ∧ ∃ served ∈ trace, served.failure = some error

/-- The texts that decide are those of the origin: the check of an attempt is never recognised, and
what is no check is taken for one where the queue is closed, or where a text from outside names a
shutdown.
-/
def Clear (shutdown : Bool) : Origin → Prop
  | .scanCheck | .fixed _ | .mismatch _ => True
  | .attemptCheck | .pauseCheck => False
  | .closedQueue => shutdown = true
  | .notUnder path root =>
      shutdown = false
      → mentionsShutdown path.display = false ∧ mentionsShutdown root.display = false
  | .missingParent parentRel => shutdown = false → mentionsShutdown parentRel = false
  | .failedUpload error => shutdown = false → mentionsShutdown error.display = false
  | .answered _ error => shutdown = false → error.chain.any mentionsShutdown = false

variable {cfg : AppConfig} {job : Job} {trace : List Answered} {shutdown : Bool} {origin : Origin}

/-- An error is recognised as what it is exactly when its origin is clear. -/
theorem recognised_iff (arises : origin.Arises cfg job trace)
    (requested : Stopped trace → shutdown = true)
    : ShutdownRecognised trace shutdown origin.error ↔ origin.Clear shutdown := by
  -- Apart from the checks, only the text decides.
  have unstopped (error : Error) (going : ¬ Stopped trace)
      : ShutdownRecognised trace shutdown error
        ↔ (shutdown = false → error.chain.any mentionsShutdown = false) :=
    ⟨fun recognised => recognised.spared,
      fun spared => ⟨spared, fun stopped => absurd stopped going⟩⟩
  cases origin with
  | scanCheck =>
      obtain ⟨-, before, rfl⟩ := arises
      have shut : shutdown = true := requested rfl
      exact iff_of_true ⟨by simp [shut], fun _ => by decide +kernel⟩ trivial
  | attemptCheck =>
      obtain ⟨before, rfl⟩ := arises
      exact iff_of_false (fun recognised => absurd (recognised.stopped rfl) (by decide +kernel)) id
  | pauseCheck =>
      obtain ⟨milliseconds, before, rfl⟩ := arises
      exact iff_of_false (fun recognised => absurd (recognised.stopped rfl) (by decide +kernel)) id
  | closedQueue =>
      obtain ⟨task, before, rfl⟩ := arises
      rw [unstopped _ id]
      have named : (Origin.closedQueue.error.chain.any mentionsShutdown) = true := by decide +kernel
      simp [named, Clear]
  | fixed message =>
      obtain ⟨going, known⟩ := arises
      have all : ∀ message ∈ fixedMessages, mentionsShutdown message = false := by decide +kernel
      rw [unstopped _ going]
      simp [error, Error.msg, all message known, Clear]
  | mismatch maxAttempts =>
      obtain ⟨going, -⟩ := arises
      rw [unstopped _ going]
      simp only [error, Error.msg, List.any_cons, List.any_nil, mentionsShutdown_mismatch,
        Bool.or_self, implies_true, Clear]
  | notUnder path root =>
      obtain ⟨going, -, -⟩ := arises
      have inner : mentionsShutdown "prefix not found" = false := by decide +kernel
      rw [unstopped _ going]
      simp only [error, Error.msg, Error.context, List.any_cons, List.any_nil,
        mentionsShutdown_notUnder, inner, Bool.or_false, Bool.or_eq_false_iff, Clear]
  | missingParent parentRel =>
      obtain ⟨going, -⟩ := arises
      rw [unstopped _ going]
      simp only [error, Error.msg, List.any_cons, List.any_nil, mentionsShutdown_missingParent,
        Bool.or_false, Clear]
  | failedUpload failure =>
      obtain ⟨path, parentId, name, existing, trace, rfl⟩ := arises
      rw [unstopped _ id]
      simp only [error, Error.msg, List.any_cons, List.any_nil, mentionsShutdown_failedUpload,
        Bool.or_false, Clear]
  | answered contexts failure =>
      obtain ⟨going, known, -⟩ := arises
      rw [unstopped _ going]
      have all : ∀ contexts ∈ passedContexts, contexts.any mentionsShutdown = false := by
        decide +kernel
      have silent := all contexts known
      simp only [error, List.any_append, silent, Bool.false_or, Clear]

end Origin

-----------------------------------------------------------------------------------------
-- Every error has an origin
-----------------------------------------------------------------------------------------

/-- The last operation was no check that found a shutdown. -/
def Going (trace : List Answered) : Prop := ¬ Stopped trace

/-- How a run of a job ends: an error has an origin. -/
def AccountedFor {α : Type} (cfg : AppConfig) (job : Job) (onward : List Answered → Prop)
    : Except Error α → World × List Answered → Prop
  | .ok _, last => onward last.2
  | .error error, last => ∃ origin : Origin, origin.Arises cfg job last.2 ∧ origin.error = error

/-- So every run of a part of the job ends. -/
def Accounts {α : Type} (env : Environment) (cfg : AppConfig) (job : Job)
    (onward : List Answered → Prop) (program : Eff α)
    : Prop :=
  ∀ here : World × List Answered,
    Going here.2
    → Always (noted env.sem trail) (fun _ => True) program here (AccountedFor cfg job onward)

/-- An operation that is no check. -/
def Op.Unchecked : Op → Prop
  | .isCancelled | .sleep _ => False
  | _ => True

theorem Op.Unchecked.going {op : Op} (unchecked : op.Unchecked) (answer : op.Answer)
    (trace : List Answered)
    : Going (⟨op, answer⟩ :: trace) := by
  cases op with
  | isCancelled | sleep milliseconds => exact unchecked.elim
  | _ => exact id

section Rules

variable {env : Environment} {cfg : AppConfig} {job : Job} {onward : List Answered → Prop}
  {α β : Type} {program : Eff α} {f : α → Eff β}

theorem Accounts.bind (first : Accounts env cfg job Going program)
    (second : ∀ value, Accounts env cfg job onward (f value))
    : Accounts env cfg job onward (program >>= f) := by
  intro here going
  apply Always.bind (first here going)
  · intro value middle _ going
    exact second value middle going
  · intro error middle _ accounted
    exact accounted

theorem Accounts.weaken (accounts : Accounts env cfg job Going program)
    : Accounts env cfg job (fun _ => True) program := by
  intro here going
  apply (accounts here going).mono
  intro result last _ accounted
  cases result with
  | ok value => trivial
  | error error => exact accounted

theorem accounts_pure (value : α) : Accounts env cfg job Going (pure value : Eff α) :=
  fun _ going => ⟨trivial, going⟩

theorem accounts_ask {op : Op} (unchecked : op.Unchecked) : Accounts env cfg job Going (ask op) :=
  fun _ _ => always_noted.mpr ⟨trivial, fun answer _ _ => ⟨trivial, unchecked.going answer _⟩⟩

theorem accounts_raise {message : String} (known : message ∈ Origin.fixedMessages)
    : Accounts env cfg job onward (throw (.msg message) : Eff α) :=
  fun _ going => ⟨trivial, .fixed message, ⟨going, known⟩, rfl⟩

theorem accounts_orError {message : String} (known : message ∈ Origin.fixedMessages)
    (value : Option α)
    : Accounts env cfg job Going (propagate (orError message value) : Eff α) := by
  cases value with
  | none => exact accounts_raise known
  | some value => exact accounts_pure value

/-- An answer is used, or its error is passed on with a context. -/
theorem accounts_passed {op : Op} (read : op.Answer → Except Error α) (unchecked : op.Unchecked)
    (fails
      : ∀ answer error, read answer = .error error
        → ∃ contexts ∈ Origin.passedContexts, ∃ cause,
            Answered.failure ⟨op, answer⟩ = some cause ∧ error = ⟨contexts ++ cause.chain⟩)
    : Accounts env cfg job Going (ask op >>= fun answer => propagate (read answer)) := by
  intro here _
  apply always_noted.mpr
  refine ⟨trivial, fun answer after _ => ⟨trivial, ?_⟩⟩
  show AccountedFor cfg job Going (read answer) (after, ⟨op, answer⟩ :: here.2)
  cases outcome : read answer with
  | ok value => exact unchecked.going answer _
  | error error =>
      obtain ⟨contexts, known, cause, failed, rfl⟩ := fails answer error outcome
      refine ⟨.answered contexts cause, ⟨unchecked.going answer _, known, _, ?_, failed⟩, rfl⟩
      exact List.mem_cons_self ..

/-- The same without a context. -/
theorem accounts_answered {op : Op} (read : op.Answer → Except Error α) (unchecked : op.Unchecked)
    (fails
      : ∀ answer error, read answer = .error error → Answered.failure ⟨op, answer⟩ = some error)
    : Accounts env cfg job Going (ask op >>= fun answer => propagate (read answer)) :=
  accounts_passed read unchecked (fun answer error failed =>
    ⟨[], by simp [Origin.passedContexts], error, fails answer error failed, rfl⟩)

/-- The context that a failing read gets. -/
theorem accounts_withContext_bind {op : Op} {message : String} {read : op.Answer → Except Error α}
    (unchecked : op.Unchecked) (known : [message] ∈ Origin.passedContexts)
    (fails
      : ∀ answer error, read answer = .error error → Answered.failure ⟨op, answer⟩ = some error)
    (rest : ∀ value, Accounts env cfg job onward (f value))
    : Accounts env cfg job onward
        (ask op >>= fun answer => propagate (withContext message (read answer)) >>= f) := by
  rw [← bind_assoc]
  apply Accounts.bind _ rest
  apply accounts_passed (fun answer => withContext message (read answer)) unchecked
  intro answer error failed
  cases outcome : read answer with
  | ok value => simp [withContext, outcome, Except.mapError] at failed
  | error cause =>
      simp only [withContext, outcome, Except.mapError, Except.error.injEq] at failed
      exact ⟨[message], known, cause, fails answer cause outcome, failed.symm⟩

/-- And the program goes on with the answer. -/
theorem accounts_answered_bind {op : Op} {read : op.Answer → Except Error α}
    (unchecked : op.Unchecked)
    (fails
      : ∀ answer error, read answer = .error error → Answered.failure ⟨op, answer⟩ = some error)
    (rest : ∀ value, Accounts env cfg job onward (f value))
    : Accounts env cfg job onward (ask op >>= fun answer => propagate (read answer) >>= f) := by
  rw [← bind_assoc]
  exact (accounts_answered read unchecked fails).bind rest

theorem accounts_forM {γ : Type} {body : γ → Eff Unit} (items : List γ)
    (each : ∀ item, Accounts env cfg job Going (body item))
    : Accounts env cfg job Going (items.forM body) := by
  induction items with
  | nil => exact accounts_pure ()
  | cons item items ih => exact (each item).bind (fun _ => ih)

theorem accounts_foldlM {γ : Type} {body : β → γ → Eff β} (items : List γ) (start : β)
    (each : ∀ acc item, Accounts env cfg job Going (body acc item))
    : Accounts env cfg job Going (items.foldlM body start) := by
  induction items generalizing start with
  | nil => exact accounts_pure start
  | cons item items ih =>
      rw [List.foldlM_cons]
      exact (each start item).bind ih

/-- The check at the head of a loop of the scan. -/
theorem accounts_unlessShutdown (scans : job = .scan) {body : Eff α}
    (rest : Accounts env cfg job onward body)
    : Accounts env cfg job onward (unlessShutdown body) := by
  intro here going
  apply always_noted.mpr
  refine ⟨trivial, fun cancelled after _ => ?_⟩
  cases cancelled with
  | true => exact ⟨trivial, .scanCheck, ⟨scans, _, rfl⟩, rfl⟩
  | false => exact rest _ (by simp [Going, Stopped, trail])

/-- What an attempt leaves: no check, and with a failure the operation that failed so. -/
def AttemptOver {α : Type} : Except Error (Except Error α) → World × List Answered → Prop
  | .ok (.ok _), last => Going last.2
  | .ok (.error error), last => Going last.2 ∧ ∃ served ∈ last.2, served.failure = some error
  | .error _, _ => False

theorem attempt_over (op : Op) (read : op.Answer → Except Error α) (unchecked : op.Unchecked)
    (fails
      : ∀ answer error, read answer = .error error → Answered.failure ⟨op, answer⟩ = some error)
    (here : World × List Answered)
    : Always (noted env.sem trail) (fun _ => True)
        (ask op >>= fun answer => pure (read answer)) here AttemptOver := by
  apply always_noted.mpr
  refine ⟨trivial, fun answer after _ => ⟨trivial, ?_⟩⟩
  show AttemptOver (.ok (read answer)) (after, ⟨op, answer⟩ :: here.2)
  cases outcome : read answer with
  | ok value => exact unchecked.going answer _
  | error error =>
      exact ⟨unchecked.going answer _, _, List.mem_cons_self .., fails answer error outcome⟩

/-- Attempts that are made again, with the checks before and after them. -/
theorem accounts_retry (appCfg : AppConfig) {operation : Eff (Except Error α)}
    (attempt
      : ∀ here, Always (noted env.sem trail) (fun _ => True) operation here AttemptOver)
    : Accounts env cfg job Going (retry appCfg operation) := by
  intro here going
  apply always_retry (fun _ here => Going here.2)
    (fun _ error here => Going here.2 ∧ ∃ served ∈ here.2, served.failure = some error)
    _ _ _ going
  · intro left here going
    refine ⟨trivial, ?_⟩
    intro cancelled after served
    obtain ⟨-, noted⟩ := served
    cases cancelled with
    | true => exact ⟨trivial, .attemptCheck, ⟨_, noted⟩, rfl⟩
    | false =>
        apply (attempt after).mono
        intro result last _ attempted
        match result with
        | .ok (.ok _) => exact attempted
        | .ok (.error _) => exact attempted
  · intro error last _ failed
    obtain ⟨going, served⟩ := failed
    exact ⟨.answered [] error, ⟨going, by simp [Origin.passedContexts], served⟩, rfl⟩
  · intro left error here _ failed stopped after served
    obtain ⟨-, noted⟩ := served
    cases stopped with
    | true => exact ⟨trivial, .pauseCheck, ⟨_, _, noted⟩, rfl⟩
    | false =>
        show Going after.2
        rw [noted]
        simp [Going, Stopped, trail]

end Rules

-----------------------------------------------------------------------------------------
-- The scan
-----------------------------------------------------------------------------------------

section Scan

variable {env : Environment} {cfg : AppConfig} {job : Job} {ctx : EngineContext}
  {primary : SyncPair} {ignore : IgnoreMatcher}

theorem accounts_report (report : Report)
    : Accounts env cfg job Going (ask (.report report)) :=
  accounts_ask (by trivial)

theorem accounts_reportWhen (due : Prop) [Decidable due] (status : EngineStatus)
    : Accounts env cfg job Going (reportWhen due status) := by
  unfold reportWhen
  split
  · exact accounts_report _
  · exact accounts_pure ()

theorem accounts_isDir (path : Path) : Accounts env cfg job Going (isDir path) := by
  apply (accounts_ask (by trivial)).bind
  intro answer
  cases answer <;> exact accounts_pure _

theorem accounts_isFile (path : Path) : Accounts env cfg job Going (isFile path) := by
  apply (accounts_ask (by trivial)).bind
  intro answer
  cases answer <;> exact accounts_pure _

theorem accounts_sizeOf (path : Path) : Accounts env cfg job Going (sizeOf path) := by
  apply (accounts_ask (by trivial)).bind
  intro answer
  cases answer <;> exact accounts_pure _

theorem accounts_mtimeOf (path : Path) : Accounts env cfg job Going (mtimeOf path) := by
  apply (accounts_ask (by trivial)).bind
  intro answer
  cases answer <;> exact accounts_pure _

theorem accounts_listRemote : Accounts env cfg job Going (listRemote primary) := by
  apply (accounts_report _).bind
  intro _
  apply (accounts_ask (by trivial)).bind
  intro answer
  cases answer <;> exact accounts_pure _

theorem accounts_fillCache (index : RemoteIndex)
    : Accounts env cfg job Going (fillCache index) := by
  apply (accounts_forM _ (fun _ => accounts_ask (by trivial))).bind
  intro _
  exact accounts_forM _ (fun _ => accounts_ask (by trivial))

theorem accounts_takeInventory (scans : job = .scan)
    : Accounts env cfg job Going (takeInventory primary ignore) := by
  apply (accounts_report _).bind
  intro _
  apply (accounts_ask (by trivial)).bind
  intro entries
  apply accounts_foldlM
  intro inventory entry
  apply accounts_unlessShutdown scans
  apply (accounts_reportWhen _ _).bind
  intro _
  exact accounts_pure _

theorem accounts_enterFolder (current : String × DriveId) (name : OsString)
    : Accounts env cfg job Going (enterFolder ctx current name) := by
  apply (accounts_ask (by trivial)).bind
  intro known
  cases known with
  | some entry => exact accounts_pure _
  | none =>
      apply Accounts.bind
      · unfold enterFolder.create
        split
        · exact accounts_pure _
        · apply accounts_retry
          apply attempt_over (.provider (.mkdir current.2 name.toStringLossy)) id (by trivial)
          intro answer error failed
          cases failed
          rfl
      · intro newId
        apply (accounts_ask (by trivial)).bind
        intro _
        exact accounts_pure _

theorem accounts_createFolders (scans : job = .scan) (localDirs : List Path)
    : Accounts env cfg job Going (createFolders ctx primary localDirs) := by
  apply accounts_forM
  intro dir
  apply accounts_unlessShutdown scans
  cases Path.stripPrefix primary.localPath dir.1 with
  | none => exact accounts_raise (by decide)
  | some rel =>
      apply (accounts_report _).bind
      intro _
      apply (accounts_ask (by trivial)).bind
      intro known
      cases known with
      | some entry => exact accounts_pure _
      | none =>
          simp only [discard, Functor.discard, LawfulFunctor.map_const, Function.comp_apply,
            map_eq_pure_bind]
          apply (accounts_foldlM rel _ accounts_enterFolder).bind
          intro _
          exact accounts_pure _

/-- Recording a row: its failure is dropped. -/
theorem accounts_dropped {α : Type} {op : Op} (value : α) (unchecked : op.Unchecked)
    : Accounts env cfg job Going (ask op >>= fun _ => pure value) :=
  (accounts_ask unchecked).bind (fun _ => accounts_pure _)

theorem accounts_compareFile (path : Path) (rel : String) (inDb remoteExists : Bool)
    : Accounts env cfg job Going (compareFile path rel inDb remoteExists) := by
  unfold compareFile
  split
  · apply (accounts_ask (by trivial)).bind
    intro row
    match row with
    | .ok (some entry) =>
        apply (accounts_mtimeOf path).bind
        intro mtime
        split
        · exact accounts_pure _
        · apply (accounts_ask (by trivial)).bind
          intro digest
          cases digest with
          | error error => exact accounts_pure _
          | ok hash =>
              show Accounts env cfg job Going (if _ then _ else _)
              split
              · exact accounts_dropped _ (by trivial)
              · exact accounts_pure _
    | .ok none => exact accounts_pure _
    | .error error => exact accounts_pure _
  · split
    · apply (accounts_ask (by trivial)).bind
      intro digest
      cases digest with
      | error error => exact accounts_pure _
      | ok hash =>
          apply (accounts_mtimeOf path).bind
          intro mtime
          exact accounts_dropped _ (by trivial)
    · exact accounts_pure _

theorem accounts_compareFiles (scans : job = .scan) (dbIndex : List String)
    (localFiles : List Path)
    : Accounts env cfg job Going (compareFiles primary dbIndex localFiles) := by
  apply Accounts.bind
  · apply accounts_foldlM
    intro toSync file
    apply accounts_unlessShutdown scans
    cases Path.stripPrefix primary.localPath file.1 with
    | none => exact accounts_pure _
    | some relPath =>
        apply (accounts_reportWhen _ _).bind
        intro _
        apply (accounts_ask (by trivial)).bind
        intro known
        apply (accounts_compareFile _ _ _ _).bind
        intro changed
        cases changed <;> exact accounts_pure _
  · intro toSync
    apply accounts_foldlM
    intro kept path
    apply (accounts_sizeOf path).bind
    intro size
    exact accounts_pure _

theorem accounts_unlessDryRun {body : Eff Unit} (accounts : Accounts env cfg job Going body)
    : Accounts env cfg job Going (unlessDryRun ctx body) := by
  unfold unlessDryRun
  split
  · exact accounts_pure _
  · exact accounts

theorem accounts_enqueue (task : Task) : Accounts env cfg job Going (enqueue task) := by
  intro here _
  apply always_noted.mpr
  refine ⟨trivial, fun accepted after _ => ?_⟩
  cases accepted with
  | true => exact ⟨trivial, not_false⟩
  | false => exact ⟨trivial, .closedQueue, ⟨task, _, rfl⟩, rfl⟩

theorem accounts_sendFiles (scans : job = .scan) (toSync : List Path)
    : Accounts env cfg job Going (sendFiles ctx toSync) := by
  apply Accounts.bind
  · apply accounts_foldlM
    intro bytes path
    apply (accounts_sizeOf path).bind
    intro size
    exact accounts_pure _
  · intro bytes
    apply (accounts_unlessDryRun (accounts_report _)).bind
    intro _
    apply accounts_forM
    intro file
    apply accounts_unlessShutdown scans
    apply (accounts_report _).bind
    intro _
    exact accounts_unlessDryRun (accounts_enqueue _)

theorem accounts_sendDelete (path : Path)
    : Accounts env cfg job Going (sendDelete ctx path) :=
  accounts_unlessDryRun ((accounts_report _).bind (fun _ => accounts_enqueue _))

theorem accounts_orphanRow (scans : job = .scan) (localRelSet : List String) (dbPath : String)
    : Accounts env cfg job Going (orphanRow ctx primary localRelSet dbPath) := by
  apply accounts_unlessShutdown scans
  split
  · exact accounts_pure _
  · exact accounts_sendDelete _

theorem accounts_orphanRemote (scans : job = .scan) (localRelSet dbIndex : List String)
    (file : RemoteFile)
    : Accounts env cfg job Going (orphanRemote ctx primary ignore localRelSet dbIndex file) := by
  apply accounts_unlessShutdown scans
  split
  · exact accounts_pure _
  · apply (accounts_isDir _).bind
    intro directory
    cases directory with
    | true => exact accounts_pure _
    | false =>
        simp only [Bool.false_eq_true, if_false]
        split
        · exact accounts_pure _
        · apply (accounts_isDir _).bind
          intro directory
          split
          · exact accounts_pure _
          · exact accounts_sendDelete _

/-- Every error of a scan has an origin. -/
theorem accounts_scan (scans : job = .scan)
    : Accounts env cfg job Going (scan ctx ignore) := by
  apply (accounts_orError (by decide) _).bind
  intro primary
  apply accounts_listRemote.bind
  intro remoteIndex
  apply (accounts_fillCache remoteIndex).bind
  intro _
  apply (accounts_takeInventory scans).bind
  intro inventory
  apply (accounts_createFolders scans inventory.localDirs).bind
  intro _
  apply (accounts_report _).bind
  intro _
  apply accounts_answered_bind (by trivial)
  · intro answer error failed
    cases failed
    rfl
  · intro dbIndex
    apply (accounts_compareFiles scans dbIndex inventory.localFiles).bind
    intro toSync
    apply (accounts_sendFiles scans toSync).bind
    intro _
    apply (accounts_forM _ (accounts_orphanRow scans _)).bind
    intro _
    apply (accounts_forM _ (accounts_orphanRemote scans _ _)).bind
    intro _
    exact accounts_reportWhen _ _

end Scan

-----------------------------------------------------------------------------------------
-- Tasks
-----------------------------------------------------------------------------------------

section Tasks

variable {env : Environment} {cfg : AppConfig} {job : Job} {ctx : EngineContext}
  {primary : SyncPair} {ignore : IgnoreMatcher} {path : Path}

theorem accounts_verifyUpload (result : UploadResult)
    : Accounts env cfg job Going (verifyUpload path result) := by
  apply (accounts_ask (by trivial)).bind
  intro digest
  cases digest with
  | error error => exact accounts_pure _
  | ok localHash =>
      show Accounts env cfg job Going (if _ then _ else _)
      split
      · exact accounts_pure _
      · exact accounts_pure _

/-- A pause before the next attempt. -/
theorem accounts_pauseThen {next : Eff UploadResult} (retry : RetryConfig)
    (accounts : Accounts env cfg job Going next)
    : Accounts env cfg job Going (uploadAttempt.pauseThen retry next) := by
  intro here _
  apply always_noted.mpr
  refine ⟨trivial, fun stopped after _ => ?_⟩
  cases stopped with
  | true => exact ⟨trivial, .pauseCheck, ⟨_, _, rfl⟩, rfl⟩
  | false => exact accounts _ (by simp [Going, Stopped, trail])

theorem accounts_uploadAttempt {parentId : DriveId} {fileName : String}
    {lastAttemptId : Option DriveId} {again : Option (Option DriveId → Eff UploadResult)}
    (next : ∀ next ∈ again, ∀ id, Accounts env cfg job Going (next id))
    : Accounts env cfg job Going
        (uploadAttempt cfg.retry path parentId fileName lastAttemptId again) := by
  have unverified (target : Option DriveId)
      : Accounts env cfg job Going
          (uploadAttempt.orNext cfg.retry again
            (.msg ("mismatch md5 détecté post-upload après "
              ++ toString cfg.retry.maxAttempts ++ " essais"))
            target) := by
    cases again with
    | none =>
        intro here going
        exact ⟨trivial, .mismatch cfg.retry.maxAttempts, ⟨going, rfl⟩, rfl⟩
    | some later => exact accounts_pauseThen _ (next later rfl target)
  intro here _
  apply always_noted.mpr
  refine ⟨trivial, fun cancelled after _ => ?_⟩
  cases cancelled with
  | true => exact ⟨trivial, .attemptCheck, ⟨_, rfl⟩, rfl⟩
  | false =>
      apply always_noted.mpr
      refine ⟨trivial, fun answer after _ => ?_⟩
      cases answer with
      | error error =>
          cases again with
          | none => exact ⟨trivial, .failedUpload error, ⟨_, _, _, _, _, rfl⟩, rfl⟩
          | some later => exact accounts_pauseThen _ (next later rfl _) _ not_false
      | ok result =>
          refine (accounts_verifyUpload result).bind ?_ _ not_false
          intro verdict
          match verdict with
          | .ok .ok => exact accounts_pure _
          | .ok (.mismatch _ _) => exact unverified (some result.driveId)
          | .error _ => exact unverified (some result.driveId)

/-- By induction on the attempts that are left. -/
theorem accounts_uploadLoop {parentId : DriveId} {fileName : String} (left : Nat)
    (lastAttemptId : Option DriveId)
    : Accounts env cfg job Going
        (uploadLoop cfg.retry path parentId fileName lastAttemptId left) := by
  induction left generalizing lastAttemptId with
  | zero => exact accounts_uploadAttempt (by simp)
  | succ left ih =>
      apply accounts_uploadAttempt
      intro next again id
      obtain rfl := Option.mem_some.mp again
      exact ih id

theorem accounts_folderId {rel missing : String}
    (arises
      : ∀ trace, Going trace
        → ∃ origin : Origin, origin.Arises cfg job trace ∧ origin.error = .msg missing)
    : Accounts env cfg job Going (folderId primary rel missing) := by
  unfold folderId
  split
  · exact accounts_pure _
  · apply (accounts_ask (by trivial)).bind
    intro known
    cases known with
    | none =>
        intro here going
        exact ⟨trivial, arises _ going⟩
    | some entry => exact accounts_pure _

theorem accounts_uploadFile (configured : ctx.cfg.getPrimaryPair = some primary)
    (subject : ∃ task, job = .task task ∧ path = task.subject) (rel hash : String) (mtime : Int)
    (fileSize : Nat)
    : Accounts env ctx.cfg job Going (uploadFile ctx primary path rel hash mtime fileSize) := by
  apply (accounts_orError (by decide) _).bind
  intro fileName
  apply Accounts.bind
  · apply accounts_folderId
    intro trace going
    obtain ⟨task, same, rfl⟩ := subject
    exact ⟨.missingParent _, ⟨going, task, primary, same, configured, rfl⟩, rfl⟩
  · intro parentId
    apply (accounts_ask (by trivial)).bind
    intro existing
    apply (accounts_report _).bind
    intro _
    apply (accounts_uploadLoop _ _).bind
    intro result
    apply (accounts_ask (by trivial)).bind
    intro _
    exact accounts_answered _ (by trivial) (fun answer error failed => by cases failed; rfl)

theorem accounts_mtime (path : Path) : Accounts env cfg job Going (mtime path) := by
  apply accounts_withContext_bind (by trivial) (by decide)
  · intro answer error failed
    cases failed
    rfl
  · intro metadata
    split
    · exact accounts_raise (by decide)
    · exact accounts_pure _

theorem accounts_recorded (rel : String) (test : FileEntry → Bool)
    : Accounts env cfg job Going (syncFile.recorded rel test) := by
  apply accounts_answered_bind (by trivial)
  · intro answer error failed
    cases failed
    rfl
  · intro row
    cases row with
    | none => exact accounts_pure _
    | some entry =>
        simp only
        split
        · apply (accounts_ask (by trivial)).bind
          intro known
          exact accounts_pure _
        · exact accounts_pure _

/-- The worker's check, which leaves without an error. -/
theorem accounts_unlessCancelled {body : Eff Unit}
    (rest : Accounts env cfg job (fun _ => True) body)
    : Accounts env cfg job (fun _ => True)
        (ask .isCancelled >>= fun cancelled => if cancelled then pure () else body) := by
  intro here _
  apply always_noted.mpr
  refine ⟨trivial, fun cancelled after _ => ?_⟩
  cases cancelled with
  | true => exact ⟨trivial, trivial⟩
  | false => exact rest _ (by simp [Going, Stopped, trail])

/-- Hashing a file: its error is kept for later, when the file is known to be still there. -/
theorem accounts_hashed {body : String → Eff Unit}
    (rest : ∀ hash, Accounts env cfg job (fun _ => True) (body hash))
    : Accounts env cfg job (fun _ => True)
        (hashFile path >>= fun digest =>
          match digest with
          | .error error =>
              isFile path >>= fun there =>
                if !there then pure ()
                else
                  ask .isCancelled >>= fun cancelled =>
                    if cancelled then pure () else throw error
          | .ok hash => body hash) := by
  intro here _
  apply always_noted.mpr
  refine ⟨trivial, fun answer after _ => ?_⟩
  cases answer with
  | ok hash => exact rest hash _ not_false
  | error cause =>
      apply always_noted.mpr
      refine ⟨trivial, fun stat later _ => ?_⟩
      have thrown (there : Bool)
          : Always (noted env.sem trail) (fun _ => True)
              (if !there then pure ()
                else
                  ask .isCancelled >>= fun cancelled =>
                    if cancelled then pure ()
                    else throw (cause.context "read") : Eff Unit)
              (later, ⟨.metadata path, stat⟩ :: ⟨.md5 path, .error cause⟩ :: here.2)
              (AccountedFor cfg job (fun _ => True)) := by
        cases there with
        | false => exact ⟨trivial, trivial⟩
        | true =>
            apply always_noted.mpr
            refine ⟨trivial, fun cancelled last _ => ?_⟩
            cases cancelled with
            | true => exact ⟨trivial, trivial⟩
            | false =>
                have hashed : (⟨.md5 path, .error cause⟩ : Answered)
                    ∈ trail .isCancelled false
                        (⟨.metadata path, stat⟩ :: ⟨.md5 path, .error cause⟩ :: here.2) := by
                  simp [trail]
                refine ⟨trivial, .answered ["read"] cause, ⟨?_, by decide, _, hashed, rfl⟩, rfl⟩
                simp [Stopped, trail]
      cases stat with
      | error error => exact thrown false
      | ok metadata => exact thrown _

theorem accounts_relStr (configured : ctx.cfg.getPrimaryPair = some primary)
    (subject : ∃ task, job = .task task ∧ path = task.subject)
    : Accounts env ctx.cfg job Going (propagate (relStr primary.localPath path)) := by
  intro here going
  unfold relStr
  split
  · exact ⟨trivial, going⟩
  · refine ⟨trivial, .notUnder path primary.localPath, ?_, rfl⟩
    exact ⟨going, subject, primary, configured, rfl⟩

theorem accounts_syncFile (subject : ∃ task, job = .task task ∧ path = task.subject)
    : Accounts env ctx.cfg job (fun _ => True) (syncFile ctx ignore path) := by
  have failed {answer : Except Error Metadata} {error : Error} (same : answer = .error error)
      : Answered.failure ⟨.metadata path, answer⟩ = some error := by
    subst same
    rfl
  apply accounts_answered_bind (by trivial) (fun _ _ => failed)
  intro stat
  split
  · exact (accounts_pure ()).weaken
  apply accounts_withContext_bind (by trivial) (by decide) (fun _ _ => failed)
  intro metadata
  split
  · exact (accounts_pure ()).weaken
  cases configured : ctx.cfg.getPrimaryPair with
  | none => exact accounts_raise (by decide)
  | some primary =>
  simp only [orError, propagate]
  apply (accounts_relStr configured subject).bind
  intro rel
  apply (accounts_mtime path).bind
  intro seconds
  apply (accounts_recorded rel _).bind
  intro upToDate
  split
  · exact (accounts_pure ()).weaken
  apply accounts_unlessCancelled
  apply accounts_hashed
  intro hash
  apply (accounts_recorded rel _).bind
  intro recorded
  cases recorded with
  | true =>
      apply Accounts.weaken
      apply accounts_answered _ (by trivial)
      intro answer error same
      cases same
      rfl
  | false => exact (accounts_uploadFile configured subject rel hash seconds metadata.len).weaken

theorem accounts_deleteItem (rel : String)
    : Accounts env cfg job Going (deleteItem ctx rel) := by
  apply (accounts_ask (by trivial)).bind
  intro known
  cases known with
  | none => exact accounts_pure ()
  | some entry =>
      apply Accounts.bind
      · apply accounts_retry
        apply attempt_over (.provider (.delete entry.driveId)) id (by trivial)
        intro answer error failed
        cases failed
        rfl
      · intro _
        exact accounts_ask (by trivial)

theorem accounts_delete : Accounts env cfg job Going (delete ctx ignore path) := by
  apply (accounts_isDir path).bind
  intro directory
  split
  · exact accounts_pure ()
  apply (accounts_orError (by decide) _).bind
  intro primary
  cases relStr primary.localPath path with
  | error error => exact accounts_pure ()
  | ok rel =>
      apply (accounts_deleteItem rel).bind
      intro _
      exact accounts_answered _ (by trivial) (fun answer error same => by cases same; rfl)

theorem accounts_bothIgnored (source target : Path)
    : Accounts env cfg job Going (rename.bothIgnored ignore source target) := by
  apply (accounts_isDir source).bind
  intro directory
  split
  · exact (accounts_isDir target).bind (fun _ => accounts_pure _)
  · exact accounts_pure _

theorem accounts_inDb (rel : String) : Accounts env cfg job Going (rename.inDb rel) := by
  unfold rename.inDb
  split
  · exact accounts_pure _
  · apply accounts_answered_bind (by trivial)
    · intro answer error failed
      cases failed
      rfl
    · intro row
      exact accounts_pure _

theorem accounts_rename {source target : Path}
    (subject : ∃ task, job = .task task ∧ target = task.subject)
    : Accounts env ctx.cfg job (fun _ => True) (rename ctx ignore source target) := by
  apply (accounts_bothIgnored source target).bind
  intro ignored
  split
  · exact (accounts_pure ()).weaken
  apply (accounts_orError (by decide) _).bind
  intro primary
  apply (accounts_ask (by trivial)).bind
  intro sourceEntry
  apply (accounts_inDb _).bind
  intro sourceInDb
  split
  · apply Accounts.weaken
    apply (accounts_orError (by decide) _).bind
    intro newName
    apply Accounts.bind
    · apply accounts_folderId
      intro trace going
      exact ⟨.fixed "Dossier destination introuvable", ⟨going, by decide⟩, rfl⟩
    · intro newParentId
      apply Accounts.bind
      · apply accounts_retry
        apply attempt_over (.provider (.rename _ newName newParentId)) id (by trivial)
        intro answer error failed
        cases failed
        rfl
      · intro _
        apply (accounts_ask (by trivial)).bind
        intro _
        apply (accounts_ask (by trivial)).bind
        intro _
        exact accounts_answered _ (by trivial) (fun answer error same => by cases same; rfl)
  · apply (accounts_isFile target).bind
    intro file
    split
    · apply (accounts_isDir target).bind
      intro directory
      split
      · exact (accounts_pure ()).weaken
      · exact accounts_syncFile subject
    · exact (accounts_pure ()).weaken

/-- Every error of a task has an origin. -/
theorem accounts_handle (task : Task)
    : Accounts env ctx.cfg (.task task) (fun _ => True) (handle ctx ignore task) := by
  unfold handle
  split
  · exact (accounts_pure ()).weaken
  cases task with
  | syncFile path => exact accounts_syncFile ⟨.syncFile path, rfl, rfl⟩
  | delete path => exact accounts_delete.weaken
  | rename source target => exact accounts_rename ⟨.rename source target, rfl, rfl⟩

end Tasks

-----------------------------------------------------------------------------------------
-- The jobs of the engine
-----------------------------------------------------------------------------------------

/-- A check finds the shutdown where it is requested. -/
theorem stopped_requested {env : Environment} {op : Op} {here after : World × List Answered}
    {answer : op.Answer} (served : noted env.sem trail op here answer after)
    : Stopped after.2 → after.1.shutdown = true := by
  obtain ⟨served, noted⟩ := served
  rw [noted]
  intro stopped
  cases op with
  | isCancelled =>
      obtain ⟨-, rfl⟩ := served
      exact stopped
  | sleep milliseconds =>
      obtain ⟨-, rfl | ⟨rfl, -⟩⟩ := served
      · exact stopped
      · cases stopped
  | _ => exact stopped.elim

/-- So it is in every run. By induction on the program. -/
theorem always_requested {env : Environment} {α : Type} {program : Eff α}
    {here : World × List Answered} (start : Stopped here.2 → here.1.shutdown = true)
    : Always (noted env.sem trail) (fun here => Stopped here.2 → here.1.shutdown = true) program
        here (fun _ _ => True) := by
  induction program generalizing here with
  | done result => exact ⟨start, trivial⟩
  | call op next ih =>
      exact ⟨start, fun answer after served => ih answer (stopped_requested served)⟩

/-- Every error of a job has an origin. -/
theorem accounts_job {env : Environment} {ctx : EngineContext} {ignore : IgnoreMatcher} (job : Job)
    (w : World)
    : Always (noted env.sem trail) (fun _ => True) (job.program ctx ignore) (w, [])
        (AccountedFor ctx.cfg job (fun _ => True)) := by
  cases job with
  | scan => exact (accounts_scan rfl).weaken (w, []) not_false
  | task task => exact accounts_handle task (w, []) not_false

-----------------------------------------------------------------------------------------
-- What the engine makes of an error
-----------------------------------------------------------------------------------------

namespace SyncEngine

/-- Without a shutdown an error cancels nothing and is told, and after a check nothing is told of
it, neither as an error nor as being offline.
-/
structure Answers (e after : SyncEngine) (trace : List Answered) : Prop where
  spared
    : e.world.shutdown = false
      → after.world.shutdown = false
        ∧ ∃ message, .error message ∈ after.world.statuses.drop e.world.statuses.length
  quiet
    : Stopped trace
      → after.world.offline = e.world.offline
        ∧ ∀ message, .error message ∉ after.world.statuses.drop e.world.statuses.length

variable {e : SyncEngine} {trace : List Answered} {error : Error}

/-- A scan is answered so where its error is recognised as what it is. -/
theorem answers_scanned (recognised : ShutdownRecognised trace e.world.shutdown error)
    (site : ScanSite)
    : e.Answers (e.scanned site (.error error)) trace := by
  constructor
  · intro running
    have unnamed := recognised.spared running
    cases site <;>
      simp [scanned, unnamed, running, afterScan, tell, World.report]
  · intro stopped
    have named := recognised.stopped stopped
    cases site <;>
      simp [scanned, named, leave, afterScan, finish, cancel, tell, World.report]

/-- And so is a task. -/
theorem answers_handled (recognised : ShutdownRecognised trace e.world.shutdown error) (index : Nat)
    : e.Answers (e.handled index (.error error)) trace := by
  constructor
  · intro running
    have unnamed := recognised.spared running
    simp only [handled, unnamed, running, Bool.not_false, Bool.and_self, if_true, retire]
    split <;> simp [tell, World.report, running]
  · intro stopped
    have named := recognised.stopped stopped
    simp only [handled, named, Bool.not_true, Bool.false_and, Bool.false_eq_true, if_false, retire]
    split <;> simp [tell, World.report]

end SyncEngine

-----------------------------------------------------------------------------------------
-- The law
-----------------------------------------------------------------------------------------

/-- An error of a job is recognised as what it is exactly when it comes from a clear origin, and
where it is, the engine answers it as it should.
-/
theorem shutdown_recognised_iff (env : Environment) (ctx : EngineContext) (ignore : IgnoreMatcher)
    (job : Job) (w : World)
    : Always (noted env.sem trail) (fun _ => True) (job.program ctx ignore) (w, [])
        (fun result last =>
          ∀ error, result = .error error
          → (ShutdownRecognised last.2 last.1.shutdown error
              ↔ ∃ origin : Origin,
                  origin.Arises ctx.cfg job last.2 ∧ origin.error = error
                  ∧ origin.Clear last.1.shutdown)
            ∧ ∀ e : SyncEngine, e.world.shutdown = last.1.shutdown
              → ShutdownRecognised last.2 last.1.shutdown error
              → (∀ site, e.Answers (e.scanned site (.error error)) last.2)
                ∧ ∀ index, e.Answers (e.handled index (.error error)) last.2) := by
  have requested :=
    @always_requested env Unit (job.program ctx ignore) (w, []) (fun stopped => stopped.elim)
  have accounted := @accounts_job env ctx ignore job w
  apply ((accounted.and requested).weaken (fun _ _ => trivial)).mono
  intro result last _ ended error failed
  obtain ⟨requested, accounted, -⟩ := ended
  rw [failed] at accounted
  obtain ⟨origin, arises, rfl⟩ := accounted
  refine ⟨⟨fun recognised => ⟨origin, arises, rfl, ?_⟩, ?_⟩, ?_⟩
  · exact (origin.recognised_iff arises requested.2).mp recognised
  · intro known
    obtain ⟨other, arises, same, clear⟩ := known
    rw [← same]
    exact (other.recognised_iff arises requested.2).mpr clear
  · intro e running recognised
    rw [← running] at recognised
    exact ⟨SyncEngine.answers_scanned recognised, SyncEngine.answers_handled recognised⟩

/-- A file in a folder that has no cache entry, which is named like the word that is searched. -/
def shutdownFolder : World where
  disk :=
    .backup (.single (.utf8 "shutdown") (by decide))
      (fun _ => .dir (.single (.utf8 "a") OsString.proper_a) (fun _ => .file ⟨[1], 0, true⟩))

/-- The row of a deleted file is locked: the error is told. -/
theorem locked_row_recognised
    : ∃ last,
        Reaches (noted (Environment.unruly (fun _ => "digest") (.ok ⟨[], []⟩)).sem trail)
          (Job.program ⟨backupConfig, false⟩ .nothing (.task (.delete [.utf8 "backup", .utf8 "a"])))
          (shutdownFolder, []) (.done (.error (.msg "database is locked"))) last
        ∧ ShutdownRecognised last.2 last.1.shutdown (.msg "database is locked") := by
  have reached
      : Reaches (noted (Environment.unruly (fun _ => "digest") (.ok ⟨[], []⟩)).sem trail)
          (Job.program ⟨backupConfig, false⟩ .nothing (.task (.delete [.utf8 "backup", .utf8 "a"])))
          (shutdownFolder, []) (.done (.error (.msg "database is locked")))
          (shutdownFolder,
            [⟨.deleteRow "a", .error (.msg "database is locked")⟩, ⟨.lookup "a", none⟩,
              ⟨.metadata [.utf8 "backup", .utf8 "a"], .error (.msg "not found")⟩]) := by
    refine reaches_noted_call (.error (.msg "not found")) _ ⟨rfl, _, rfl⟩ ?_
    refine reaches_noted_call none _ ⟨rfl, rfl⟩ ?_
    have locked : (Environment.unruly (fun _ => "digest") (.ok ⟨[], []⟩)).sem (.deleteRow "a")
        shutdownFolder (.error (.msg "database is locked")) shutdownFolder :=
      .inr ⟨trivial, ⟨_, rfl⟩, rfl⟩
    refine reaches_noted_call _ _ locked ?_
    exact .refl
  have law :=
    (shutdown_recognised_iff (Environment.unruly (fun _ => "digest") (.ok ⟨[], []⟩))
      ⟨backupConfig, false⟩ .nothing (.task (.delete [.utf8 "backup", .utf8 "a"]))
      shutdownFolder).reaches reached
  refine ⟨_, reached, (law.2 _ rfl).1.mpr ?_⟩
  have served : Answered.failure ⟨.deleteRow "a", .error (.msg "database is locked")⟩
      = some (.msg "database is locked") := rfl
  refine ⟨.answered [] (.msg "database is locked"), ⟨not_false, by decide, _, ?_, served⟩, rfl, ?_⟩
  · exact List.mem_cons_self ..
  · intro _
    decide +kernel

/-- A deletion that its check has stopped is no shutdown, and a folder's name is one. -/
theorem shutdown_misjudged
    : (∃ w last,
        Reaches (noted (Environment.unruly (fun _ => "digest") (.ok ⟨[], []⟩)).sem trail)
          (Job.program ⟨backupConfig, false⟩ .nothing (.task (.delete [.utf8 "backup", .utf8 "a"])))
          (w, []) (.done (.error (.msg "Annulé"))) last
        ∧ Stopped last.2 ∧ last.1.shutdown = true ∧ isShutdownErr (.msg "Annulé") = false)
      ∧ ∃ last,
          Reaches (noted (Environment.unruly (fun _ => "digest") (.ok ⟨[], []⟩)).sem trail)
            (Job.program ⟨backupConfig, false⟩ .nothing
              (.task (.syncFile [.utf8 "backup", .utf8 "shutdown", .utf8 "a"])))
            (shutdownFolder, [])
            (.done (.error (.msg "Dossier parent introuvable dans le cache : shutdown"))) last
          ∧ last.1.shutdown = false
          ∧ isShutdownErr (.msg "Dossier parent introuvable dans le cache : shutdown") = true := by
  constructor
  · refine ⟨{ shutdownFolder with pathCache := PathCache.insert {} "a" "id" "root" },
      ({ shutdownFolder with
          pathCache := PathCache.insert {} "a" "id" "root"
          shutdown := true },
        [⟨.isCancelled, true⟩, ⟨.lookup "a", some ⟨"id", "root"⟩⟩,
          ⟨.metadata [.utf8 "backup", .utf8 "a"], .error (.msg "not found")⟩]), ?_, rfl, rfl,
      by decide +kernel⟩
    refine reaches_noted_call (.error (.msg "not found")) _ ⟨rfl, _, rfl⟩ ?_
    refine reaches_noted_call _ _ ⟨rfl, rfl⟩ ?_
    refine reaches_noted_call true _ ⟨.inr ⟨trivial, rfl⟩, rfl⟩ ?_
    exact .refl
  · have reached
        : ∃ trace,
            Reaches (noted (Environment.unruly (fun _ => "digest") (.ok ⟨[], []⟩)).sem trail)
              (Job.program ⟨backupConfig, false⟩ .nothing
                (.task (.syncFile [.utf8 "backup", .utf8 "shutdown", .utf8 "a"])))
              (shutdownFolder, [])
              (.done (.error (.msg "Dossier parent introuvable dans le cache : shutdown")))
              (shutdownFolder, trace) := by
      apply Exists.intro
      -- The file is looked at three times, then its row, and the folder is not known.
      refine reaches_noted_call (.ok ⟨false, true, 1, 0⟩) _ ⟨rfl, rfl⟩ ?_
      refine reaches_noted_call (.ok ⟨false, true, 1, 0⟩) _ ⟨rfl, rfl⟩ ?_
      refine reaches_noted_call (.ok ⟨false, true, 1, 0⟩) _ ⟨rfl, rfl⟩ ?_
      refine reaches_noted_call (.ok none) _ (.inl ⟨rfl, rfl⟩) ?_
      refine reaches_noted_call false _ ⟨.inl rfl, rfl⟩ ?_
      refine reaches_noted_call (.ok "digest") _ ⟨rfl, rfl⟩ ?_
      refine reaches_noted_call (.ok none) _ (.inl ⟨rfl, rfl⟩) ?_
      refine reaches_noted_call none _ ⟨rfl, rfl⟩ ?_
      exact .refl
    obtain ⟨trace, reached⟩ := reached
    exact ⟨_, reached, rfl, by decide +kernel⟩

end SyncGDrive
