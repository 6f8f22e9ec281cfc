import TxnLog.Checksum
import TxnLog.Proofs.BigEndian

/-!
# Checksums fit their field

A frame stores its checksum on eight bytes. Both algorithms give a number of 32 bits
(`compute_lt`), so every checksum can be stored and read back.
-/

namespace TxnLog.Checksum

namespace Adler32

/-- Sums below the modulus stay below it. -/
theorem foldl_add_lt (bs : Bytes) {s : Sums} (h : s.low < modulus ∧ s.high < modulus) :
    (bs.foldl Sums.add s).low < modulus ∧ (bs.foldl Sums.add s).high < modulus := by
  induction bs generalizing s with
  | nil => exact h
  | cons b bs ih => exact ih ⟨Nat.mod_lt _ (by decide), Nat.mod_lt _ (by decide)⟩

/-- The checksum has 32 bits. -/
theorem checksum_lt (bs : Bytes) : checksum bs < 2 ^ 32 := by
  obtain ⟨hlow, hhigh⟩ := foldl_add_lt bs (s := Sums.start) (by decide)
  simp only [checksum, sums, modulus] at *
  omega

end Adler32

/-- The checksum has 32 bits. -/
theorem Crc32c.checksum_lt (bs : Bytes) : checksum bs < 2 ^ 32 := (~~~ register bs).isLt

/-- A checksum fits the eight bytes of its field. -/
theorem Algorithm.compute_lt (a : Algorithm) (payload : Bytes) :
    a.compute payload < BigEndian.capacity 8 := by
  have hwide : 2 ^ 32 < BigEndian.capacity 8 := by decide
  cases a with
  | adler32 => exact Nat.lt_trans (Adler32.checksum_lt payload) hwide
  | crc32c => exact Nat.lt_trans (Crc32c.checksum_lt payload) hwide

end TxnLog.Checksum
