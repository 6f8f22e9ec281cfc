import Mathlib.Data.List.Basic
import TxnLog.Text.Digits

/-!
# Numerals are read back

A numeral's digits give back its number (`value_toDigits`), and zeros in front of them change
nothing, so numbers written the same way to the same base are the same.
-/

namespace TxnLog.Text

variable {base n : Nat} {c : Char}

/-! ### Digits -/

/-- The number that a digit stands for. -/
def digitValue (c : Char) : Nat := if c.isDigit then c.toNat - 0x30 else c.toNat - 0x57

/-- A digit stands for its number. -/
theorem digitValue_digitChar : ∀ d < 16, digitValue d.digitChar = d := by decide

/-- The characters of a numeral are digits to its base. -/
theorem exists_digitChar_of_mem_toDigits (hbase : 1 < base) (h : c ∈ Nat.toDigits base n) :
    ∃ d < base, c = d.digitChar := by
  induction n using Nat.base_induction base hbase with
  | single d hd =>
    rw [Nat.toDigits_of_lt_base hd, List.mem_singleton] at h
    exact ⟨d, hd, h⟩
  | digit m d hd hm ih =>
    rw [← Nat.toDigits_append_toDigits hbase hm hd, Nat.toDigits_of_lt_base hd,
      List.mem_append, List.mem_singleton] at h
    obtain h | h := h
    · exact ih h
    · exact ⟨d, hd, h⟩

/-- What holds of the sixteen digits holds of the characters of a numeral. -/
theorem forall_mem_toDigits {p : Char → Prop} (hbase : 1 < base)
    (hp : ∀ d < base, p d.digitChar) : ∀ c ∈ Nat.toDigits base n, p c := by
  intro c hc
  obtain ⟨d, hd, rfl⟩ := exists_digitChar_of_mem_toDigits hbase hc
  exact hp d hd

/-! ### The value of a numeral -/

/-- The number with the given digits. -/
def value (base : Nat) (digits : List Char) : Nat :=
  digits.foldl (fun n c => base * n + digitValue c) 0

/-- A numeral has the value that it was made from. -/
@[simp]
theorem value_toDigits (hbase : 1 < base) (hsmall : base ≤ 16) (n : Nat) :
    value base (Nat.toDigits base n) = n := by
  have hdigit (d : Nat) (hd : d < base) : digitValue d.digitChar = d :=
    digitValue_digitChar d (by omega)
  induction n using Nat.base_induction base hbase with
  | single d hd => simp [value, Nat.toDigits_of_lt_base hd, hdigit d hd]
  | digit m d hd hm ih =>
    rw [← Nat.toDigits_append_toDigits hbase hm hd, value, List.foldl_append]
    rw [value] at ih
    rw [ih, Nat.toDigits_of_lt_base hd, List.foldl_cons, List.foldl_nil, hdigit d hd]

/-- Zeros in front of a numeral do not change its value. -/
@[simp]
theorem value_replicate_append (base k : Nat) (digits : List Char) :
    value base (List.replicate k '0' ++ digits) = value base digits := by
  induction k with
  | zero => rfl
  | succ k ih => rw [List.replicate_succ, List.cons_append, ← ih]; rfl

/-- A numeral has one number only, however many zeros are in front of it. -/
theorem toDigits_replicate_injective {j k m : Nat} (hbase : 1 < base) (hsmall : base ≤ 16)
    (h : List.replicate j '0' ++ Nat.toDigits base m
      = List.replicate k '0' ++ Nat.toDigits base n) : m = n := by
  have hvalue := congrArg (value base) h
  rwa [value_replicate_append, value_replicate_append, value_toDigits hbase hsmall,
    value_toDigits hbase hsmall] at hvalue

/-- A numeral has one number only. -/
theorem toDigits_injective (hbase : 1 < base) (hsmall : base ≤ 16) :
    Function.Injective (Nat.toDigits base) := fun _ _ h =>
  toDigits_replicate_injective (j := 0) (k := 0) hbase hsmall h

/-! ### Numerals as texts -/

/-- The numeral of a natural number consists of its digits. -/
theorem toList_decimal_natCast (n : Nat) : (decimal n).toList = Nat.toDigits 10 n :=
  String.toList_ofList

/-- The characters of a decimal numeral are digits and the minus sign. -/
theorem forall_mem_decimal {p : Char → Prop} (hminus : p '-') (hp : ∀ d < 10, p d.digitChar)
    (n : Int) : ∀ c ∈ (decimal n).toList, p c := by
  have hdigits (n : Nat) : ∀ c ∈ Nat.toDigits 10 n, p c := forall_mem_toDigits (by decide) hp
  intro c hc
  cases n with
  | ofNat n => exact hdigits n c (by rwa [decimal, String.toList_ofList] at hc)
  | negSucc n =>
    simp only [decimal, String.toList_append, String.toList_ofList, List.mem_append] at hc
    obtain hc | hc := hc
    · rwa [List.mem_singleton.mp hc]
    · exact hdigits (n + 1) c hc

/-- A decimal numeral has one number only. -/
theorem decimal_injective : Function.Injective decimal := by
  have hsign (m n : Nat) : Nat.toDigits 10 m ≠ '-' :: Nat.toDigits 10 n := by
    intro h
    have hmem : '-' ∈ Nat.toDigits 10 m := by rw [h]; exact List.mem_cons_self
    exact forall_mem_toDigits (p := (· ≠ '-')) (by decide) (by decide) _ hmem rfl
  intro m n h
  have hlist := congrArg String.toList h
  cases m <;> cases n <;>
    simp only [decimal, String.toList_append, String.toList_ofList] at hlist
  case ofNat.ofNat m n => rw [toDigits_injective (by decide) (by decide) hlist]
  case ofNat.negSucc m n => exact absurd hlist (hsign m (n + 1))
  case negSucc.ofNat m n => exact absurd hlist.symm (hsign n (m + 1))
  case negSucc.negSucc m n =>
    have hnat : m + 1 = n + 1 :=
      toDigits_injective (by decide) (by decide) (List.append_cancel_left hlist)
    rw [Nat.succ.inj hnat]

/-- A hexadecimal numeral has one number only. -/
theorem hexDigits_injective : Function.Injective hexDigits := by
  intro m n h
  have hlist := congrArg String.toList h
  rw [hexDigits, hexDigits, String.toList_ofList, String.toList_ofList] at hlist
  exact toDigits_injective (by decide) (by decide) hlist

/-- A padded numeral consists of zeros and of digits. -/
theorem toList_decimalPadded (width n : Nat) :
    (decimalPadded width n).toList
      = List.replicate (width - (decimal n).length) '0' ++ Nat.toDigits 10 n := by
  rw [decimalPadded, padZeros, String.toList_append, String.toList_ofList, toList_decimal_natCast]

/-- A padded numeral holds digits only. -/
theorem isDigit_of_mem_decimalPadded {width : Nat} (h : c ∈ (decimalPadded width n).toList) :
    c.isDigit = true := by
  rw [toList_decimalPadded, List.mem_append, List.mem_replicate] at h
  obtain ⟨-, rfl⟩ | h := h
  · decide
  · exact Nat.isDigit_of_mem_toDigits (by decide) (by decide) h

/-- A numeral of a natural number is a padded one without zeros in front. -/
theorem decimal_natCast_eq (n : Nat) : decimal n = decimalPadded 0 n := by
  rw [← String.toList_inj, toList_decimalPadded, Nat.zero_sub, toList_decimal_natCast]
  rfl

/-- A padded numeral has one number only. -/
theorem decimalPadded_injective (width : Nat) : Function.Injective (decimalPadded width) := by
  intro m n h
  have hlist := congrArg String.toList h
  rw [toList_decimalPadded, toList_decimalPadded] at hlist
  exact toDigits_replicate_injective (by decide) (by decide) hlist

end TxnLog.Text
