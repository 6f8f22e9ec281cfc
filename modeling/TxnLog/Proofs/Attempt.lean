import TxnLog.Attempt

/-!
# Attempts, run one after the other

An attempt made of several is run by running the first one: if it fails so does the whole, and
otherwise the rest goes on from its result and the state that it leaves. `bind_apply` says so,
and the other lemmas run the attempts of one step. Proofs about readers and about the actions of
the tailer go through long attempts by these.
-/

namespace TxnLog.Attempt

variable {σ ε α β : Type}

/-- Two attempts in a row: the second goes on where the first succeeded. -/
theorem bind_apply (m : Attempt σ ε α) (f : α → Attempt σ ε β) (s : σ) :
    (m >>= f) s = match m s with
      | (.ok a, s') => f a s'
      | (.error e, s') => (.error e, s') := rfl

/-- Attempts in a row may be taken together in either way. -/
theorem bind_assoc {γ : Type} (m : Attempt σ ε α) (f : α → Attempt σ ε β)
    (g : β → Attempt σ ε γ) : m >>= f >>= g = m >>= fun a => f a >>= g := by
  funext s
  simp only [bind_apply]
  cases m s with
  | mk result s' => cases result <;> rfl

/-- To succeed first changes nothing. -/
theorem pure_bind (a : α) (f : α → Attempt σ ε β) : pure a >>= f = f a := rfl

/-- Succeeding changes nothing. -/
theorem pure_apply (a : α) (s : σ) : (pure a : Attempt σ ε α) s = (.ok a, s) := rfl

/-- Failing changes nothing. -/
theorem fail_apply (e : ε) (s : σ) : (fail e : Attempt σ ε α) s = (.error e, s) := rfl

/-- Asking for the state gives it. -/
theorem state_apply (s : σ) : (state : Attempt σ ε σ) s = (.ok s, s) := rfl

/-- A change of the state succeeds. -/
theorem modify_apply (f : σ → σ) (s : σ) :
    (modify f : Attempt σ ε Unit) s = (.ok (), f s) := rfl

end TxnLog.Attempt
