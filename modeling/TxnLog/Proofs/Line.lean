import TxnLog.Line

/-!
# Lines in units

The lines of a history come in units: the banner, the lines of each record, and every note about
the end of what is written. Only the lines of a record after its summary do not start a unit, so
the units can be told from the lines. `wholeUnits` completes the unit that a line is in.
-/

namespace TxnLog.Line

/-- The line goes on with the record of the line before it. -/
def continues : Line → Bool
  | .data _ | .dump _ => true
  | _ => false

/-- The line is the first one of a record. -/
def isSummary : Line → Bool
  | .summary _ => true
  | _ => false

/-- The lines up to the end of the unit that the `k`-th line is in: those up to it, and those that
go on with its record. -/
def wholeUnits (lines : List Line) (k : Nat) : List Line :=
  lines.take k ++ (lines.drop k).takeWhile continues

/-- The lines of a transaction after the first go on with its record. -/
theorem continues_of_mem_tail {d : Display} {txn : Txn} {l : Line} (h : l ∈ (ofTxn d txn).tail) :
    l.continues = true := by
  simp only [ofTxn, List.tail_cons, List.mem_append] at h
  obtain h | h := h
  · split at h
    · obtain ⟨text, -, rfl⟩ := List.mem_map.mp h
      rfl
    · contradiction
  · split at h
    · rw [List.mem_singleton.mp h]
      rfl
    · contradiction

/-- A line that goes on with a record is not the first one of any. -/
theorem isSummary_of_continues {l : Line} (h : l.continues = true) : l.isSummary = false := by
  cases l <;> first | rfl | contradiction

/-- The lines of a transaction are those of one record. -/
theorem countP_ofTxn (d : Display) (txn : Txn) : (ofTxn d txn).countP isSummary = 1 := by
  have htail : (ofTxn d txn).tail.countP isSummary = 0 := by
    rw [List.countP_eq_zero]
    intro l hl
    rw [isSummary_of_continues (continues_of_mem_tail hl)]
    exact Bool.false_ne_true
  rw [ofTxn, List.countP_cons_of_pos rfl]
  exact congrArg (· + 1) htail

/-- No line of a transaction is about the end of the file. -/
theorem finished_notMem_ofTxn {d : Display} {txn : Txn} {n : Nat} :
    .finished n ∉ ofTxn d txn := by
  intro h
  obtain h | h := List.mem_cons.mp h
  · contradiction
  · have hcontinues : (Line.finished n).continues = true := continues_of_mem_tail (d := d) h
    contradiction

/-- The unit of the last line is complete with it. -/
theorem wholeUnits_of_length_le {lines : List Line} {k : Nat} (h : lines.length ≤ k) :
    wholeUnits lines k = lines := by
  rw [wholeUnits, List.take_of_length_le h, List.drop_eq_nil_of_le h]
  exact List.append_nil lines

/-- The unit of a line ends where another one starts. -/
theorem wholeUnits_append {before unit after : List Line} {k : Nat}
    (hunit : ∀ l ∈ unit.tail, l.continues = true)
    (hafter : ∀ l ∈ after.head?, l.continues = false)
    (hbefore : before.length < k) (hk : k ≤ (before ++ unit).length) :
    wholeUnits (before ++ unit ++ after) k = before ++ unit := by
  have htake : (before ++ unit ++ after).take k = (before ++ unit).take k :=
    List.take_append_of_le_length hk
  have hdrop : (before ++ unit ++ after).drop k = (before ++ unit).drop k ++ after :=
    List.drop_append_of_le_length hk
  -- What is left of the unit is no more than its tail.
  have hrest : ∀ l ∈ (before ++ unit).drop k, l.continues = true := by
    intro l hl
    rw [List.drop_append, List.drop_eq_nil_of_le (by omega), List.nil_append] at hl
    rw [show k - before.length = k - before.length - 1 + 1 by omega, ← List.drop_tail] at hl
    exact hunit l (List.mem_of_mem_drop hl)
  have hstop : after.takeWhile continues = [] := by
    cases after with
    | nil => rfl
    | cons l after => rw [List.takeWhile_cons, hafter l rfl]; rfl
  rw [wholeUnits, htake, hdrop, List.takeWhile_append_of_pos hrest, hstop, List.append_nil,
    List.take_append_drop]

end TxnLog.Line
