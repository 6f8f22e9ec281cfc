import TxnLog.Proofs.Archive.Delimited

/-!
# What errors tell

A reader is `Honest` if it stays within its archive and if an error that it gives tells the truth
about it: how many bytes are left where more are needed, a number that is below that of null, bytes
that are no text. Attempts in a row are honest if each one is, and so all fields are.
-/

namespace TxnLog

/-- What the error says is true of an archive of this size. -/
def DecodeError.Tells (size : Nat) : DecodeError → Prop
  | .emptyPayload => size = 0
  | .endOfRecord _ need position left => position + left = size ∧ left < need
  | .bufferLength length _ => length < -1
  | .vectorLength count _ => count < -1
  | .text fault _ => ∃ raw, Text.Utf8.decode raw = .error fault

namespace Archive

variable {α β : Type}

/-- The reader stops within its archive, or says truly why it fails. -/
def Honest (r : Reader α) : Prop :=
  ∀ c, match r c with
    | (.ok _, next) => next.position + next.rest.length = c.position + c.rest.length
    | (.error e, _) => e.Tells (c.position + c.rest.length)

/-- A value is given without reading anything. -/
theorem Honest.pure (a : α) : Honest (pure a : Reader α) := fun _ => rfl

/-- A reader may fail with an error that is true whatever the archive. -/
theorem Honest.fail {e : DecodeError} (h : ∀ size, e.Tells size) :
    Honest (Attempt.fail e : Reader α) := fun _ => h _

/-- Attempts in a row are honest if each one is. -/
theorem Honest.bind {r : Reader α} {f : α → Reader β} (hr : Honest r) (hf : ∀ a, Honest (f a)) :
    Honest (r >>= f) := by
  intro c
  have hfirst := hr c
  rw [Attempt.bind_apply]
  cases hread : r c with
  | mk result next =>
  rw [hread] at hfirst
  cases result with
  | error e => exact hfirst
  | ok a =>
    dsimp only at hfirst ⊢
    rw [← hfirst]
    exact hf a next

/-- What is read is given in another shape. -/
theorem Honest.map {r : Reader α} (f : α → β) (hr : Honest r) : Honest (do return f (← r)) :=
  hr.bind fun a => .pure (f a)

/-- A reader may ask how much is left. -/
theorem honest_remaining : Honest remaining := fun _ => rfl

/-- Bytes are taken if there are as many. -/
theorem honest_take (tag : String) (n : Nat) : Honest (take tag n) := by
  intro c
  by_cases hshort : (c.rest.take n).length < n
  · rw [take, if_pos hshort]
    rw [List.length_take] at hshort
    exact ⟨rfl, by omega⟩
  · rw [take, if_neg hshort]
    rw [List.length_take] at hshort
    simp only [Cursor.advance, List.length_drop]
    omega

/-- All that is left is there. -/
theorem honest_rest : Honest rest := by
  intro c
  simp [rest, Cursor.advance]

/-- An integer is read, or something of it is missing. -/
theorem honest_int (tag : String) : Honest (int tag) := (honest_take tag 4).map _

/-- A long integer is read, or something of it is missing. -/
theorem honest_long (tag : String) : Honest (long tag) := (honest_take tag 8).map _

/-- A truth value is read, or it is missing. -/
theorem honest_bool (tag : String) : Honest (bool tag) := (honest_take tag 1).map _

/-- Behind a number, there is null, a number below that of null, or as much as it tells. -/
theorem honest_counted {n : Int} (null : α) {e : DecodeError} (he : n < -1 → ∀ size, e.Tells size)
    {r : Nat → Reader α} (hr : ∀ count, Honest (r count)) :
    Honest (if n = -1 then pure null else if n < 0 then Attempt.fail e else r n.toNat) := by
  by_cases hnull : n = -1
  · rw [if_pos hnull]
    exact .pure null
  rw [if_neg hnull]
  by_cases hneg : n < 0
  · rw [if_pos hneg]
    exact .fail (he (by omega))
  · rw [if_neg hneg]
    exact hr _

/-- A buffer is read, or it is cut or has no length. -/
theorem honest_buffer (tag : String) : Honest (buffer tag) :=
  (honest_int tag).bind fun _ =>
    honest_counted none (fun h _ => h) fun count => (honest_take tag count).map some

/-- A buffer is read, or it is cut or has no length. -/
theorem honest_bytes (tag : String) : Honest (bytes tag) := (honest_buffer tag).map _

/-- A text is read, or its buffer is not or holds none. -/
theorem honest_string (tag : String) : Honest (string tag) := by
  refine (honest_buffer tag).bind fun ob => ?_
  cases ob with
  | none => exact .pure none
  | some raw =>
    dsimp only
    split
    · exact .pure _
    · next fault hdecode => exact .fail fun _ => ⟨raw, hdecode⟩

/-- Elements are read, or one of them is not. -/
theorem honest_elements {element : Reader α} (h : Honest element) (count : Nat) (done : List α) :
    Honest (elements element count done) := by
  induction count generalizing done with
  | zero => exact fun _ => rfl
  | succ count ih =>
    intro c
    have hfirst := h c
    rw [elements]
    cases hread : element c with
    | mk result next =>
    rw [hread] at hfirst
    cases result with
    | error e => exact hfirst
    | ok a =>
      dsimp only at hfirst ⊢
      rw [← hfirst]
      exact ih (a :: done) next

/-- A vector is read, or it has no count or one of its elements is not read. -/
theorem Honest.vector (tag : String) {element : Reader α} (h : Honest element) :
    Honest (vector tag element) :=
  (honest_int tag).bind fun _ =>
    honest_counted [] (fun h _ => h) fun count => honest_elements h count []

end Archive

end TxnLog
