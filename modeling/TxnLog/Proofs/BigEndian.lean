import Mathlib.Algebra.Order.Ring.Nat
import Mathlib.Data.List.Induction
import TxnLog.Bytes

/-!
# Big-endian fields can be read back

Reading and writing a field of a given width are inverse to each other, unsigned
(`toNat_ofNat`, `ofNat_toNat`) and in two's complement (`toInt_ofInt`, `ofInt_toInt`). A field
whose last bytes are zeros in place of what they should be reads as a smaller number
(`toNat_take_zeros_le`).

Everything rests on `toNat_append`: the bytes before a byte string count as many times its
capacity.
-/

namespace TxnLog.BigEndian

/-- A field of `width` bytes has `256 ^ width` values. -/
theorem capacity_eq (width : Nat) : capacity width = 256 ^ width := by
  induction width with
  | zero => rfl
  | succ width ih => rw [capacity, ih, Nat.pow_succ, Nat.mul_comm]

/-- Every field has a value. -/
theorem capacity_pos (width : Nat) : 0 < capacity width := by
  rw [capacity_eq]
  exact Nat.pow_pos (by decide)

/-- What is read before `bs` counts as many times the capacity of `bs`. -/
theorem foldl_eq (bs : Bytes) (n : Nat) :
    bs.foldl (fun acc b => acc * 256 + b.toNat) n = n * capacity bs.length + toNat bs := by
  induction bs generalizing n with
  | nil => simp [toNat, capacity]
  | cons b bs ih =>
    have hcons : toNat (b :: bs) = b.toNat * capacity bs.length + toNat bs := by
      show bs.foldl _ (0 * 256 + b.toNat) = _
      rw [ih, Nat.zero_mul, Nat.zero_add]
    rw [List.foldl_cons, ih, List.length_cons, capacity, hcons, Nat.add_mul, Nat.mul_assoc,
      Nat.add_assoc]

/-- The bytes in front of `bs` count as many times the capacity of `bs`. -/
theorem toNat_append (as bs : Bytes) :
    toNat (as ++ bs) = toNat as * capacity bs.length + toNat bs := by
  unfold toNat
  rw [List.foldl_append, foldl_eq]
  rfl

/-- A byte string is read as less than its capacity. -/
theorem toNat_lt (bs : Bytes) : toNat bs < capacity bs.length := by
  induction bs with
  | nil => decide
  | cons b bs ih =>
    rw [← List.singleton_append, toNat_append, List.singleton_append, List.length_cons, capacity]
    have hb : toNat [b] < 256 := by simpa [toNat] using b.toNat_lt
    calc toNat [b] * capacity bs.length + toNat bs
        < toNat [b] * capacity bs.length + capacity bs.length := by omega
      _ = (toNat [b] + 1) * capacity bs.length := by rw [Nat.add_mul, Nat.one_mul]
      _ ≤ 256 * capacity bs.length := Nat.mul_le_mul_right _ hb

/-- Zeros are read as zero. -/
@[simp] theorem toNat_replicate_zero (n : Nat) : toNat (List.replicate n 0) = 0 := by
  induction n with
  | zero => rfl
  | succ n ih =>
    rw [List.replicate_succ, ← List.singleton_append, toNat_append, ih]
    simp [toNat]

/-- A field has as many bytes as it should. -/
@[simp] theorem length_ofNat (width n : Nat) : (ofNat width n).length = width := by
  induction width generalizing n with
  | zero => rfl
  | succ width ih => simp [ofNat, ih]

/-- A field has as many bytes as it should. -/
@[simp] theorem length_ofInt (width : Nat) (n : Int) : (ofInt width n).length = width :=
  length_ofNat width _

/-- What is written into a wide enough field can be read back. -/
theorem toNat_ofNat {width n : Nat} (h : n < capacity width) : toNat (ofNat width n) = n := by
  induction width generalizing n with
  | zero => simp only [capacity] at h; simp [ofNat, toNat]; omega
  | succ width ih =>
    rw [capacity] at h
    rw [ofNat, toNat_append, ih (by omega)]
    simp [capacity, toNat]
    omega

/-- A byte string is what its number is written as. -/
theorem ofNat_toNat {bs : Bytes} {width : Nat} (h : bs.length = width) :
    ofNat width (toNat bs) = bs := by
  subst h
  induction bs using List.reverseRecOn with
  | nil => rfl
  | append_singleton bs b ih =>
    have hb := b.toNat_lt
    have hquot : toNat (bs ++ [b]) / 256 = toNat bs := by
      rw [toNat_append]; simp [capacity, toNat]; omega
    rw [List.length_append, List.length_singleton, ofNat, hquot, ih]
    congr 2
    apply UInt8.toNat_inj.mp
    rw [toNat_append]
    simp [capacity, toNat]

/-- Byte strings of one length are read as different numbers. -/
theorem eq_of_toNat_eq {bs bs' : Bytes} (hlength : bs.length = bs'.length)
    (h : toNat bs = toNat bs') : bs = bs' := by
  rw [← ofNat_toNat hlength, h, ofNat_toNat rfl]

/-- A byte string whose first bit is clear is read alike, signed or not. -/
theorem toInt_of_lt {bs : Bytes} (h : 2 * toNat bs < capacity bs.length) :
    toInt bs = toNat bs := by
  unfold toInt
  exact Int.bmod_eq_of_le (by omega) (by omega)

/-- The first bit of a byte string that is read as no negative number is clear. -/
theorem two_mul_toNat_lt {bs : Bytes} (h : 0 ≤ toInt bs) :
    2 * toNat bs < capacity bs.length := by
  have hlt := toNat_lt bs
  by_contra hbit
  unfold toInt at h
  rw [Int.bmod_def, Int.emod_eq_of_lt (by omega) (by omega)] at h
  split at h <;> omega

/-- An integer that fits a field can be read back from it. -/
theorem toInt_ofInt {width : Nat} {n : Int} (h : Fits width n) : toInt (ofInt width n) = n := by
  have hpos := capacity_pos width
  obtain ⟨hlow, hhigh⟩ := h
  have hnonneg : 0 ≤ n % (capacity width : Int) := Int.emod_nonneg _ (by omega)
  have hlt : n % (capacity width : Int) < capacity width := Int.emod_lt_of_pos _ (by omega)
  unfold toInt
  rw [length_ofInt, ofInt, toNat_ofNat (by omega), Int.toNat_of_nonneg hnonneg]
  rw [Int.emod_bmod]
  exact Int.bmod_eq_of_le (by omega) (by omega)

/-- What is read from a field fits it. -/
theorem fits_toInt {bs : Bytes} {width : Nat} (h : bs.length = width) : Fits width (toInt bs) := by
  subst h
  have hpos := capacity_pos bs.length
  have hlow := Int.le_bmod (x := toNat bs) hpos
  have hhigh := Int.bmod_lt (x := toNat bs) hpos
  unfold Fits toInt
  omega

/-- A byte string is what its integer is written as. -/
theorem ofInt_toInt {bs : Bytes} {width : Nat} (h : bs.length = width) :
    ofInt width (toInt bs) = bs := by
  have hlt := toNat_lt bs
  unfold ofInt toInt
  rw [h] at hlt ⊢
  rw [Int.bmod_emod, Int.emod_eq_of_lt (by omega) (by omega), Int.toNat_natCast, ofNat_toNat h]

/-- Zeros in place of the bytes from the `n`-th on make a number no larger. -/
theorem toNat_take_zeros_le (bs : Bytes) (n : Nat) :
    toNat (bs.take n ++ List.replicate (bs.length - n) 0) ≤ toNat bs := by
  calc toNat (bs.take n ++ List.replicate (bs.length - n) 0)
      = toNat (bs.take n) * capacity (bs.length - n) := by
        rw [toNat_append, toNat_replicate_zero, List.length_replicate, Nat.add_zero]
    _ ≤ toNat (bs.take n) * capacity (bs.drop n).length + toNat (bs.drop n) := by
        rw [List.length_drop]; omega
    _ = toNat bs := by rw [← toNat_append, List.take_append_drop]

end TxnLog.BigEndian
