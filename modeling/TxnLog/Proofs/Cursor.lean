import TxnLog.Cursor

/-!
# What a cursor reads

A read sees the bytes from the cursor on and nothing else, however its calls fall short, as long
as no call comes back empty before the end (`read_eq`). So a read is a matter of `take` and
`advance`, and the proofs about frames never look at single calls.
-/

namespace TxnLog

/-- No call comes back empty before the end. -/
def CallLimit.Productive (limit : CallLimit) : Prop := ∀ p k, limit p = some k → 0 < k

/-- Calls without a limit are productive. -/
theorem CallLimit.productive_unlimited : unlimited.Productive := by
  intro p k h
  simp [unlimited] at h

namespace Cursor

/-- Two cursors at one position with the same bytes ahead are equal. -/
theorem ext {c c' : Cursor} (hposition : c.position = c'.position) (hrest : c.rest = c'.rest) :
    c = c' := by
  cases c
  cases c'
  simp_all

@[simp] theorem advance_position (c : Cursor) (n : Nat) :
    (c.advance n).position = c.position + n := rfl

@[simp] theorem advance_rest (c : Cursor) (n : Nat) : (c.advance n).rest = c.rest.drop n := rfl

@[simp] theorem seek_position (content : Bytes) (p : Nat) : (seek content p).position = p := rfl

@[simp] theorem seek_rest (content : Bytes) (p : Nat) :
    (seek content p).rest = content.drop p := rfl

@[simp] theorem advance_zero (c : Cursor) : c.advance 0 = c := rfl

/-- Advancing twice is advancing by the sum. -/
theorem advance_advance (c : Cursor) (m n : Nat) :
    (c.advance m).advance n = c.advance (m + n) := by
  apply ext
  · exact Nat.add_assoc ..
  · simp

/-- Advancing in a content is seeking further on. -/
theorem advance_seek (content : Bytes) (p n : Nat) :
    (seek content p).advance n = seek content (p + n) := by
  apply ext
  · rfl
  · simp

/-- A productive call returns at most the bytes asked for, and moves behind what it returns. -/
theorem call_eq {limit : CallLimit} (hlimit : limit.Productive) (n : Nat) (c : Cursor) :
    ∃ most ≤ n, (n ≠ 0 → most ≠ 0) ∧
      c.call limit n = (c.rest.take most, c.advance (c.rest.take most).length) := by
  cases h : limit c.position with
  | none => exact ⟨n, Nat.le_refl n, id, by simp [call, h]⟩
  | some k =>
    have hpos := hlimit _ _ h
    refine ⟨min n k, Nat.min_le_left n k, ?_, by simp [call, h]⟩
    omega

/-- A productive call that asks for something returns nothing only at the end. -/
theorem rest_eq_nil_of_call {limit : CallLimit} (hlimit : limit.Productive) {n : Nat}
    {c next : Cursor} (hn : n ≠ 0) (h : c.call limit n = ([], next)) : c.rest = [] := by
  obtain ⟨most, -, hmost, heq⟩ := call_eq hlimit n c
  rw [heq, Prod.mk.injEq, List.take_eq_nil_iff] at h
  exact h.1.resolve_left (hmost hn)

/-- A productive call that returns something returns the bytes ahead and moves behind them. -/
theorem call_eq_cons {limit : CallLimit} (hlimit : limit.Productive) {n : Nat} {c next : Cursor}
    {b : UInt8} {bs : Bytes} (h : c.call limit n = (b :: bs, next)) :
    bs.length + 1 ≤ n ∧ c.rest.take (bs.length + 1) = b :: bs
      ∧ next = c.advance (bs.length + 1) := by
  obtain ⟨most, hle, -, heq⟩ := call_eq hlimit n c
  rw [heq, Prod.mk.injEq] at h
  obtain ⟨hgot, hnext⟩ := h
  have hlength : min most c.rest.length = bs.length + 1 := by
    rw [← List.length_take, hgot, List.length_cons]
  refine ⟨by omega, ?_, ?_⟩
  · rw [← hlength, ← List.take_eq_take_min, hgot]
  · rw [← hnext, hgot, List.length_cons]

/-- What productive calls gather is what stands ahead, behind what was gathered before. -/
theorem gather_eq {limit : CallLimit} (hlimit : limit.Productive) (n : Nat) (c : Cursor)
    (parts : List Bytes) :
    (c.gather limit n parts).1.reverse.flatten = parts.reverse.flatten ++ c.rest.take n
      ∧ (c.gather limit n parts).2 = c.advance (c.rest.take n).length := by
  fun_induction gather limit n c parts with
  | case1 => simp
  | case2 n c parts hn next heq =>
    have hnil := rest_eq_nil_of_call hlimit hn heq
    simp [hnil]
  | case3 n c parts hn b bs next heq ih =>
    obtain ⟨hle, htake, rfl⟩ := call_eq_cons hlimit heq
    have hsplit : c.rest.take n
        = (b :: bs) ++ (c.rest.drop (bs.length + 1)).take (n - (bs.length + 1)) := by
      rw [← htake, ← List.take_add]
      congr 1
      omega
    obtain ⟨hgot, hnext⟩ := ih
    constructor
    · rw [hgot, hsplit]
      simp
    · rw [hnext, hsplit, advance_advance]
      simp [Nat.add_assoc, Nat.add_comm 1]

/-- Productive calls read the bytes ahead and move behind them. -/
theorem read_eq {limit : CallLimit} (hlimit : limit.Productive) (n : Nat) (c : Cursor) :
    c.read limit n = (c.rest.take n, c.advance (c.rest.take n).length) := by
  obtain ⟨hgot, hnext⟩ := gather_eq hlimit n c []
  exact Prod.ext (by simpa [read] using hgot) (by simpa [read] using hnext)

end Cursor

end TxnLog
