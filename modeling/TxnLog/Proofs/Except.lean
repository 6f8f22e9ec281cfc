/-!
# Computations that may fail

What a chain of computations comes to is known from its steps: `bind_eq_ok_iff` and `map_eq_ok_iff`
say when it gives a result, `bind_eq_error_iff` and `map_eq_error_iff` when it fails. Proofs about
settings, which are read, converted and checked in such chains, take them apart by these.
-/

namespace TxnLog

variable {ε α β : Type} {x : Except ε α} {b : β} {e : ε}

/-- A computation gives a result if its steps do. -/
theorem bind_eq_ok_iff {f : α → Except ε β} : x >>= f = .ok b ↔ ∃ a, x = .ok a ∧ f a = .ok b := by
  cases x with
  | error e => simp [bind, Except.bind]
  | ok a => simp [bind, Except.bind]

/-- A computation that is mapped gives a result if it gave one before. -/
theorem map_eq_ok_iff {f : α → β} : x.map f = .ok b ↔ ∃ a, x = .ok a ∧ b = f a := by
  cases x with
  | error e => simp [Except.map]
  | ok a => simp [Except.map, eq_comm]

/-- A computation fails if its first step does, or its second one after the first. -/
theorem bind_eq_error_iff {f : α → Except ε β} :
    x >>= f = .error e ↔ x = .error e ∨ ∃ a, x = .ok a ∧ f a = .error e := by
  cases x with
  | error e' => simp [bind, Except.bind]
  | ok a => simp [bind, Except.bind]

/-- A computation that is mapped fails if it failed before. -/
theorem map_eq_error_iff {f : α → β} : x.map f = .error e ↔ x = .error e := by
  cases x with
  | error e' => simp [Except.map]
  | ok a => simp [Except.map]

end TxnLog
