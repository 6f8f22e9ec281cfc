import Mathlib.Data.Nat.ModEq
import Mathlib.Tactic.NormNum.Prime
import Mathlib.Tactic.Ring
import TxnLog.Proofs.Checksum.OneByte

/-!
# Two exchanged bytes

An exchange of two bytes leaves the low sum of Adler-32 as it is, so only the high sum can tell.
Modulo 65521 that is the sum of the bytes weighted by their distance from the end
(`foldl_add_high`), and two bytes that trade places change it by the product of their difference
and their distance (`weighted_swapped`). The modulus is a prime beyond 255, so it divides the
product only if it divides the distance.
-/

namespace TxnLog.Checksum

/-- The bytes with those at two positions exchanged. -/
def swapped (bs : Bytes) (i j : Fin bs.length) : Bytes := (bs.set i bs[j]).set j bs[i]

/-- An exchange keeps the number of bytes. -/
theorem length_swapped (bs : Bytes) (i j : Fin bs.length) :
    (swapped bs i j).length = bs.length := by
  rw [swapped, List.length_set, List.length_set]

namespace Adler32

variable {bs bs' : Bytes}

/-! ### The high sum -/

/-- The sum of the bytes, the last one taken once, the one before it twice, and so on. -/
def weighted : Bytes → Nat
  | [] => 0
  | b :: bs => (bs.length + 1) * b.toNat + weighted bs

/-- The high sum adds up what the low sum was on the way: its start at every byte, and every byte
from its own place to the end. -/
theorem foldl_add_high (bs : Bytes) (s : Sums) :
    (bs.foldl Sums.add s).high ≡ s.high + bs.length * s.low + weighted bs [MOD modulus] := by
  induction bs generalizing s with
  | nil =>
    rw [weighted, List.length_nil, Nat.zero_mul]
    rfl
  | cons b bs ih =>
    have hlow : (s.add b).low ≡ s.low + b.toNat [MOD modulus] := Nat.mod_modEq _ _
    have hhigh : (s.add b).high ≡ s.high + (s.low + b.toNat) [MOD modulus] :=
      (Nat.mod_modEq _ _).trans (hlow.add_left s.high)
    calc (bs.foldl Sums.add (s.add b)).high
        ≡ (s.add b).high + bs.length * (s.add b).low + weighted bs [MOD modulus] := ih _
      _ ≡ s.high + (s.low + b.toNat) + bs.length * (s.low + b.toNat) + weighted bs
          [MOD modulus] := (hhigh.add (hlow.mul_left _)).add_right _
      _ = s.high + (b :: bs).length * s.low + weighted (b :: bs) := by
          rw [List.length_cons, weighted]
          ring

/-- As many bytes have the same high sum if the weighted sums agree modulo 65521. -/
theorem high_sums_eq_iff (h : bs.length = bs'.length) :
    (sums bs).high = (sums bs').high ↔ weighted bs ≡ weighted bs' [MOD modulus] := by
  have hlt (bs : Bytes) : (sums bs).high < modulus := (foldl_add_lt bs (by decide)).2
  have hsum (bs : Bytes) : (sums bs).high ≡ bs.length + weighted bs [MOD modulus] := by
    have hhigh := foldl_add_high bs Sums.start
    rwa [Sums.start, Nat.zero_add, Nat.mul_one] at hhigh
  constructor
  · intro heq
    have hmod : bs.length + weighted bs ≡ bs'.length + weighted bs' [MOD modulus] :=
      (hsum bs).symm.trans (heq ▸ hsum bs')
    rw [h] at hmod
    exact hmod.add_left_cancel' _
  · intro heq
    have hmod : bs.length + weighted bs ≡ bs'.length + weighted bs' [MOD modulus] := by
      rw [h]
      exact heq.add_left _
    exact (((hsum bs).trans hmod).trans (hsum bs').symm).eq_of_lt_of_lt (hlt bs) (hlt bs')

/-- Checksums are equal if the low sums are and the high sums are. -/
theorem checksum_eq_iff : checksum bs = checksum bs' ↔
    (sums bs).low = (sums bs').low ∧ (sums bs).high = (sums bs').high := by
  constructor
  · intro h
    have hlow := low_eq_of_checksum_eq h
    refine ⟨hlow, ?_⟩
    unfold checksum at h
    dsimp only at h
    omega
  · rintro ⟨hlow, hhigh⟩
    rw [checksum, checksum, hlow, hhigh]

/-! ### Exchanges -/

/-- An exchange does not change the low sum. -/
theorem low_sums_swapped (bs : Bytes) (i j : Fin bs.length) :
    (sums (swapped bs i j)).low = (sums bs).low := by
  have hlt (bs : Bytes) : (sums bs).low < modulus := (foldl_add_lt bs (by decide)).1
  have hperm : (swapped bs i j).Perm bs := List.set_set_perm i.isLt j.isLt
  have hsum : ((swapped bs i j).map UInt8.toNat).sum = (bs.map UInt8.toNat).sum :=
    (hperm.map _).sum_nat
  have hmod : (sums (swapped bs i j)).low ≡ (sums bs).low [MOD modulus] := by
    unfold Nat.ModEq sums
    rw [foldl_add_low, foldl_add_low, hsum]
  exact hmod.eq_of_lt_of_lt (hlt _) (hlt bs)

/-- A byte that is replaced counts as often as it is far from the end. -/
theorem weighted_set {i : Nat} (hi : i < bs.length) (b : UInt8) :
    weighted (bs.set i b) + (bs.length - i) * bs[i].toNat
      = weighted bs + (bs.length - i) * b.toNat := by
  induction bs generalizing i with
  | nil => exact absurd hi (Nat.not_lt_zero i)
  | cons c bs ih =>
    cases i with
    | zero =>
      simp only [List.set_cons_zero, weighted, List.length_cons, List.getElem_cons_zero,
        Nat.sub_zero]
      omega
    | succ i =>
      have ih := ih (Nat.lt_of_succ_lt_succ hi)
      simp only [List.set_cons_succ, weighted, List.length_cons, List.length_set,
        List.getElem_cons_succ, Nat.add_sub_add_right]
      omega

/-- Two bytes that trade places change the weighted sum by their difference, as often as they are
apart. -/
theorem weighted_swapped {i j : Fin bs.length} (hij : i < j) :
    weighted (swapped bs i j) + (j - i : Nat) * bs[i].toNat
      = weighted bs + (j - i : Nat) * bs[j].toNat := by
  have hlt : (i : Nat) < j := hij
  have hj : (j : Nat) < (bs.set i bs[j]).length := by
    rw [List.length_set]
    exact j.isLt
  have hfirst := weighted_set i.isLt bs[j]
  have hsecond := weighted_set hj bs[i]
  rw [List.getElem_set_ne hlt.ne] at hsecond
  simp only [List.length_set] at hsecond
  have hapart : bs.length - i = (j - i : Nat) + (bs.length - j) := by omega
  rw [hapart, Nat.add_mul, Nat.add_mul] at hfirst
  -- What both bytes count behind the second position is the same on both sides.
  unfold swapped
  simp only [Fin.getElem_fin] at hfirst hsecond ⊢
  omega

/-- The modulus is a prime. -/
theorem prime_modulus : Nat.Prime modulus := by
  unfold modulus
  norm_num

/-- A multiple of two different bytes agrees modulo 65521 only if the factor vanishes. -/
theorem mul_modEq_mul_iff {b c : UInt8} (h : b ≠ c) (k : Nat) :
    k * b.toNat ≡ k * c.toNat [MOD modulus] ↔ modulus ∣ k := by
  constructor
  · intro heq
    by_contra hdvd
    have hcoprime : Nat.gcd modulus k = 1 := (prime_modulus.coprime_iff_not_dvd).mpr hdvd
    have hbytes := Nat.ModEq.cancel_left_of_coprime hcoprime heq
    have hlt (b : UInt8) : b.toNat < modulus := b.toNat_lt.trans (by decide)
    exact h (UInt8.toNat_inj.mp (hbytes.eq_of_lt_of_lt (hlt b) (hlt c)))
  · intro hdvd
    have hzero (n : Nat) : k * n ≡ 0 [MOD modulus] :=
      Nat.modEq_zero_iff_dvd.mpr (hdvd.mul_right n)
    exact (hzero _).trans (hzero _).symm

/-- An exchange of two different bytes keeps the checksum exactly if the modulus divides their
distance. -/
theorem checksum_swapped_eq_iff {i j : Fin bs.length} (hij : i < j) (h : bs[i] ≠ bs[j]) :
    checksum (swapped bs i j) = checksum bs ↔ modulus ∣ (j - i : Nat) := by
  have hweighted := weighted_swapped hij
  rw [checksum_eq_iff, high_sums_eq_iff (length_swapped bs i j), ← mul_modEq_mul_iff h]
  constructor
  · rintro ⟨-, heq⟩
    have hsum := heq.add_right ((j - i : Nat) * bs[i].toNat)
    rw [hweighted] at hsum
    exact (hsum.add_left_cancel' _).symm
  · intro heq
    refine ⟨low_sums_swapped bs i j, ?_⟩
    have hsum := heq.add_left (weighted (swapped bs i j))
    rw [hweighted] at hsum
    exact (hsum.add_right_cancel' _).symm

end Adler32

/-- A payload in which two different bytes are exchanged is taken for the original by Adler-32
exactly if their distance is a multiple of 65521. So it never is if the payload has at most 65521
bytes or the two are neighbours. -/
theorem verify_swapped {payload : Bytes} {i j : Fin payload.length} (hij : i < j)
    (h : payload[i] ≠ payload[j]) :
    (Algorithm.adler32.verify (swapped payload i j) (Algorithm.adler32.compute payload) = true
        ↔ 65521 ∣ (j - i : Nat))
      ∧ (payload.length ≤ 65521 →
        Algorithm.adler32.verify (swapped payload i j) (Algorithm.adler32.compute payload) = false)
      ∧ ((j : Nat) = i + 1 →
        Algorithm.adler32.verify (swapped payload i j) (Algorithm.adler32.compute payload)
          = false) := by
  have hiff : Algorithm.adler32.verify (swapped payload i j) (Algorithm.adler32.compute payload)
      = true ↔ 65521 ∣ (j - i : Nat) := by
    rw [Algorithm.verify, beq_iff_eq, Int.natCast_inj]
    exact Adler32.checksum_swapped_eq_iff hij h
  have hfalse (hshort : (j - i : Nat) < 65521) :
      Algorithm.adler32.verify (swapped payload i j) (Algorithm.adler32.compute payload)
        = false := by
    rw [← Bool.not_eq_true, hiff]
    have hpos : 0 < (j - i : Nat) := Nat.sub_pos_of_lt hij
    exact Nat.not_dvd_of_pos_of_lt hpos hshort
  refine ⟨hiff, fun hlength => hfalse ?_, fun hnext => hfalse ?_⟩
  · have := j.isLt
    omega
  · omega

/-- Two different bytes with `n` zeros between them. -/
def apart (n : Nat) : Bytes := 1 :: (List.replicate n 0 ++ [2])

/-- The first of the bytes. -/
theorem first_lt_length_apart (n : Nat) : 0 < (apart n).length := Nat.succ_pos _

/-- The last of the bytes. -/
theorem last_lt_length_apart (n : Nat) : n + 1 < (apart n).length := by simp [apart]

/-- The first and the last byte differ. -/
theorem first_apart_ne_last {n : Nat} (hfirst : 0 < (apart n).length)
    (hlast : n + 1 < (apart n).length) : (apart n)[0] ≠ (apart n)[n + 1] := by
  simp [apart]

/-- Two bytes that are 65521 places apart may be exchanged unseen, but not so two neighbours. -/
theorem verify_swapped_apart :
    Algorithm.adler32.verify
        (swapped (apart 65520) ⟨0, first_lt_length_apart 65520⟩
          ⟨65521, last_lt_length_apart 65520⟩)
        (Algorithm.adler32.compute (apart 65520)) = true
      ∧ Algorithm.adler32.verify (swapped [0x61, 0x62] ⟨0, by decide⟩ ⟨1, by decide⟩)
        (Algorithm.adler32.compute [0x61, 0x62]) = false := by
  constructor
  · exact (@verify_swapped (apart 65520) ⟨0, first_lt_length_apart 65520⟩
      ⟨65521, last_lt_length_apart 65520⟩ (Nat.succ_pos 65520)
      (first_apart_ne_last _ _)).1.mpr ⟨1, rfl⟩
  · exact (@verify_swapped [0x61, 0x62] ⟨0, by decide⟩ ⟨1, by decide⟩ (by decide)
      (by decide)).2.2 rfl

end TxnLog.Checksum
