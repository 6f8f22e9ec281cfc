import Mathlib.Algebra.Order.Ring.Nat
import TxnLog.Proofs.Text.Digits
import TxnLog.Text.Split

/-!
# Line breaks

`breaks` counts the line breaks of a text. It is additive, and a numeral has none, so that the line
breaks of what is put together from numerals and fixed words are those of the words. Where lines
are written one after the other, each ended by a line break, a reader who splits the text finds
them again if and only if none of them holds a line break itself (`split_lines_iff`).
-/

namespace TxnLog.Text

/-- The number of line breaks in a text. -/
def breaks (s : String) : Nat := s.toList.count '\n'

/-- A text without line breaks. -/
theorem breaks_eq_zero_iff {s : String} : breaks s = 0 ↔ '\n' ∉ s.toList := List.count_eq_zero

/-- The line breaks of two texts add up. -/
@[simp]
theorem breaks_append (s s' : String) : breaks (s ++ s') = breaks s + breaks s' := by
  unfold breaks
  rw [String.toList_append, List.count_append]

/-! ### Numerals -/

/-- A digit is no line break. -/
theorem notMem_toDigits {base : Nat} (hbase : 1 < base) (n : Nat) : '\n' ∉ Nat.toDigits base n :=
  fun h =>
    forall_mem_toDigits (p := (· ≠ '\n')) hbase (fun _ _ => Nat.digitChar_ne '\n' rfl) _ h rfl

/-- A hexadecimal numeral has no line break. -/
@[simp]
theorem breaks_hexDigits (n : Nat) : breaks (hexDigits n) = 0 := by
  rw [breaks_eq_zero_iff, hexDigits, String.toList_ofList]
  exact notMem_toDigits (by decide) n

/-- A decimal numeral has no line break. -/
@[simp]
theorem breaks_decimal (n : Int) : breaks (decimal n) = 0 := by
  have hdigits (n : Nat) : breaks (String.ofList (Nat.toDigits 10 n)) = 0 := by
    rw [breaks_eq_zero_iff, String.toList_ofList]
    exact notMem_toDigits (by decide) n
  cases n with
  | ofNat n => exact hdigits n
  | negSucc n => rw [decimal, breaks_append, hdigits]; rfl

/-- Zeros in front of a text are no line breaks. -/
@[simp]
theorem breaks_padZeros (width : Nat) (s : String) : breaks (padZeros width s) = breaks s := by
  have hzeros : '\n' ∉ List.replicate (width - s.length) '0' := by simp
  rw [padZeros, breaks_append, breaks_eq_zero_iff.mpr (by rwa [String.toList_ofList]), Nat.zero_add]

/-- A padded numeral has no line break. -/
@[simp]
theorem breaks_decimalPadded (width n : Nat) : breaks (decimalPadded width n) = 0 := by
  rw [decimalPadded, breaks_padZeros, breaks_decimal]

/-! ### Lines one after the other -/

variable {separator : Char}

/-- A text has one part more than separators. -/
theorem length_splitFrom (part cs : List Char) :
    (splitFrom separator part cs).length = cs.count separator + 1 := by
  fun_induction splitFrom separator part cs with
  | case1 part => rfl
  | case2 part cs ih => rw [List.length_cons, ih, List.count_cons_self]
  | case3 part c cs hne ih => rw [ih, List.count_cons_of_ne hne]

/-- A part ends at the first separator. -/
theorem splitFrom_append {cs : List Char} (h : separator ∉ cs) (part rest : List Char) :
    splitFrom separator part (cs ++ separator :: rest)
      = (part.reverse ++ cs) :: split separator rest := by
  induction cs generalizing part with
  | nil => rw [List.nil_append, splitFrom, if_pos rfl, List.append_nil, split]
  | cons c cs ih =>
    rw [List.mem_cons, not_or] at h
    rw [List.cons_append, splitFrom, if_neg (Ne.symm h.1), ih h.2]
    simp

/-- Beside the separators that end lines there are those in the lines. -/
theorem count_lines (lines : List (List Char)) :
    (lines.flatMap (· ++ [separator])).count separator
      = lines.length + (lines.map (List.count separator)).sum := by
  induction lines with
  | nil => rfl
  | cons l lines ih =>
    rw [List.flatMap_cons, List.count_append, ih, List.count_append, List.count_singleton_self,
      List.length_cons, List.map_cons, List.sum_cons]
    omega

/-- Lines that are each ended by a separator are found again by splitting if and only if none of
them holds one; behind the last of them is always an empty part. -/
theorem split_lines_iff (lines : List (List Char)) :
    split separator (lines.flatMap (· ++ [separator])) = lines ++ [[]]
      ↔ ∀ l ∈ lines, separator ∉ l := by
  constructor
  · intro h l hl
    -- There are no more parts than lines, so there are no other separators.
    have hlength := congrArg List.length h
    rw [split, length_splitFrom, count_lines, List.length_append, List.length_singleton] at hlength
    have hnone : (lines.map (List.count separator)).sum = 0 := by omega
    have hcount := List.sum_eq_zero_iff_forall_eq_nat.mp hnone _ (List.mem_map_of_mem hl)
    exact List.count_eq_zero.mp hcount
  · intro h
    induction lines with
    | nil => rfl
    | cons l lines ih =>
      rw [List.forall_mem_cons] at h
      rw [List.flatMap_cons, List.append_assoc, List.singleton_append, split,
        splitFrom_append h.1, ih h.2]
      rfl

end TxnLog.Text
