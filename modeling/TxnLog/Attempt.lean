/-!
# Attempts

An attempt works on a state and may fail; it leaves a state behind in either case. Readers of
the record archive and the actions of the tailer are attempts.
-/

namespace TxnLog

/-- A computation that gives a result or fails, and leaves a state behind in either case. -/
def Attempt (σ ε α : Type) : Type := σ → Except ε α × σ

namespace Attempt

variable {σ ε α β : Type}

/-- Succeeds and leaves the state as it is. -/
protected def pure (a : α) : Attempt σ ε α := fun s => (.ok a, s)

/-- Continues with what `f` makes of the result of `m`, unless `m` fails. -/
protected def bind (m : Attempt σ ε α) (f : α → Attempt σ ε β) : Attempt σ ε β := fun s =>
  match m s with
  | (.ok a, s') => f a s'
  | (.error e, s') => (.error e, s')

instance : Monad (Attempt σ ε) where
  pure := Attempt.pure
  bind := Attempt.bind

/-- Fails and leaves the state as it is. -/
def fail (e : ε) : Attempt σ ε α := fun s => (.error e, s)

/-- The state. -/
def state : Attempt σ ε σ := fun s => (.ok s, s)

/-- Changes the state. -/
def modify (f : σ → σ) : Attempt σ ε Unit := fun s => (.ok (), f s)

/-- Succeeding changes nothing. -/
@[simp] theorem pure_eq_ok_iff {a b : α} {s s' : σ} :
    (pure a : Attempt σ ε α) s = (.ok b, s') ↔ a = b ∧ s = s' := by
  simp [pure, Attempt.pure]

/-- Two attempts in a row succeed if the first does and the second does from where it ends. -/
@[simp] theorem bind_eq_ok_iff {m : Attempt σ ε α} {f : α → Attempt σ ε β} {b : β}
    {s s' : σ} :
    (m >>= f) s = (.ok b, s') ↔ ∃ a mid, m s = (.ok a, mid) ∧ f a mid = (.ok b, s') := by
  simp only [bind, Attempt.bind]
  constructor
  · intro h
    split at h
    · next a mid heq => exact ⟨a, mid, heq, h⟩
    · simp at h
  · rintro ⟨a, mid, hm, hf⟩
    simp [hm, hf]

/-- A failure is no success. -/
@[simp] theorem fail_ne_ok {e : ε} {a : α} {s s' : σ} : fail e s ≠ (.ok a, s') := by
  simp [fail]

/-- Asking for the state gives it. -/
@[simp] theorem state_eq_ok_iff {a s s' : σ} :
    (state : Attempt σ ε σ) s = (.ok a, s') ↔ s = a ∧ s = s' := by
  simp [state]

/-- A change of the state succeeds. -/
@[simp] theorem modify_eq_ok_iff {f : σ → σ} {u : Unit} {s s' : σ} :
    (modify f : Attempt σ ε Unit) s = (.ok u, s') ↔ f s = s' := by
  simp [modify]

end Attempt

end TxnLog
