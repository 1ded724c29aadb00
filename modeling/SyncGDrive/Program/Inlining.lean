import SyncGDrive.Program.Uses

/-! Programs with their operations replaced by programs of a lower signature. What is proved of a
program against a semantics of its operations holds of the replacement, if the bodies implement
that semantics.
-/

namespace Program

variable {sig low : Signature} {ε α β State : Type}

/-- Every operation replaced by the program that carries it out. -/
def Prog.inline (body : (op : sig.Op) → Prog low ε (sig.Answer op)) : Prog sig ε α → Prog low ε α
  | .done result => .done result
  | .call op next => body op >>= fun answer => (next answer).inline body

/-- Inlining goes through a sequence, by induction on the first program. -/
theorem inline_bind (body : (op : sig.Op) → Prog low ε (sig.Answer op)) (program : Prog sig ε α)
    (f : α → Prog sig ε β)
    : (program >>= f).inline body
      = program.inline body >>= fun value => (f value).inline body := by
  induction program with
  | done result => cases result <;> rfl
  | call op next ih =>
      change (body op >>= fun answer => (next answer >>= f).inline body)
        = (body op >>= fun answer => (next answer).inline body) >>= _
      rw [bind_assoc]
      exact congrArg (body op >>= ·) (funext ih)

/-- The body of every allowed operation succeeds, with an answer and an end that the semantics
allows.
-/
def Implements (lowSem : Semantics low State) (inv : State → Prop) (allowed : sig.Op → Prop)
    (body : (op : sig.Op) → Prog low ε (sig.Answer op)) (sem : Semantics sig State)
    : Prop :=
  ∀ op state,
    allowed op
    → inv state
    → Always lowSem inv (body op) state
        (fun result after => ∃ answer, result = .ok answer ∧ sem op state answer after)

/-- A program keeps, with its operations inlined, what it keeps under the semantics that the
bodies implement.
-/
theorem Always.inline {lowSem : Semantics low State} {sem : Semantics sig State}
    {inv : State → Prop} {allowed : sig.Op → Prop}
    {body : (op : sig.Op) → Prog low ε (sig.Answer op)} {program : Prog sig ε α} {state : State}
    {post : Except ε α → State → Prop} (implements : Implements lowSem inv allowed body sem)
    (uses : Uses allowed program) (always : Always sem inv program state post)
    : Always lowSem inv (program.inline body) state post := by
  induction program generalizing state with
  | done result => exact always
  | call op next ih =>
      apply (implements op state uses.1 always.1).bind
      · intro value middle _ served
        obtain ⟨answer, same, allowed⟩ := served
        obtain rfl : value = answer := Except.ok.inj same
        exact ih value (uses.2 value) (always.2 value middle allowed)
      · intro error middle _ failed
        obtain ⟨answer, same, _⟩ := failed
        cases same

end Program
