import TxnLog.Proofs.Checksum

/-!
# One changed byte changes a checksum

Neither algorithm lets a single changed byte pass (`compute_set_ne`), however long the payload is.
The low sum of Adler-32 is the sum of the bytes modulo a prime beyond 255 (`foldl_add_low`), so it
tells two payloads apart that differ in one byte. The register of CRC-32C can be shifted back,
since the bit that falls out stands at the top of the polynomial that it adds (`shift_injective`).
So one byte tells registers apart (`add_right_injective`), and no byte behind it brings them
together again (`foldl_add_injective`).
-/

namespace TxnLog.Checksum

namespace Adler32

/-- The low sum is the sum of the bytes, on top of what it started with. -/
theorem foldl_add_low (bs : Bytes) (s : Sums) :
    (bs.foldl Sums.add s).low % modulus = (s.low + (bs.map UInt8.toNat).sum) % modulus := by
  induction bs generalizing s with
  | nil => rfl
  | cons b bs ih =>
    rw [List.foldl_cons, ih, List.map_cons, List.sum_cons, Sums.add, Nat.mod_add_mod,
      Nat.add_assoc]

/-- Equal checksums have equal low sums. -/
theorem low_eq_of_checksum_eq {bs bs' : Bytes} (h : checksum bs = checksum bs') :
    (sums bs).low = (sums bs').low := by
  have hlow : (sums bs).low < modulus := (foldl_add_lt bs (by decide)).1
  have hlow' : (sums bs').low < modulus := (foldl_add_lt bs' (by decide)).1
  unfold modulus at hlow hlow'
  unfold checksum at h
  dsimp only at h
  omega

/-- One changed byte changes the checksum. -/
theorem checksum_ne (before after : Bytes) {b b' : UInt8} (h : b ≠ b') :
    checksum (before ++ b :: after) ≠ checksum (before ++ b' :: after) := by
  intro heq
  have hsum := congrArg (· % modulus) (low_eq_of_checksum_eq heq)
  simp only [sums, foldl_add_low, List.map_append, List.map_cons, List.sum_append,
    List.sum_cons] at hsum
  -- The two sums differ by less than the modulus.
  have hb := b.toNat_lt
  have hb' := b'.toNat_lt
  have hne : b.toNat ≠ b'.toNat := fun hnat => h (UInt8.toNat_inj.mp hnat)
  unfold modulus at hsum
  omega

end Adler32

namespace Crc32c

/-- The bit that falls out of the register is its highest one afterwards. -/
theorem getLsbD_shift_top (r : BitVec 32) : (shift r).getLsbD 31 = r.getLsbD 0 := by
  unfold shift
  cases h : r.getLsbD 0 with
  | true => simp [polynomial]
  | false => simp

/-- A shift can be undone. -/
theorem shift_injective : Function.Injective shift := by
  intro r r' h
  have hlow : r.getLsbD 0 = r'.getLsbD 0 := by
    rw [← getLsbD_shift_top, h, getLsbD_shift_top]
  have hhigh : r >>> 1 = r' >>> 1 := by
    unfold shift at h
    rw [hlow] at h
    split at h
    · exact (BitVec.xor_left_inj polynomial).mp h
    · exact h
  apply BitVec.eq_of_getLsbD_eq
  intro i _
  cases i with
  | zero => exact hlow
  | succ i =>
    have hbit := congrArg (BitVec.getLsbD · i) hhigh
    simpa [Nat.add_comm] using hbit

/-- Eight shifts can be undone. -/
theorem shiftByte_injective : Function.Injective shiftByte := by
  intro r r' h
  unfold shiftByte at h
  iterate 8 replace h := shift_injective h
  exact h

/-- Different registers stay different when they take in one byte. -/
theorem add_left_injective (b : UInt8) : Function.Injective (add · b) := by
  intro r r' h
  exact (BitVec.xor_left_inj _).mp (shiftByte_injective h)

/-- Different bytes make one register different. -/
theorem add_right_injective (r : BitVec 32) : Function.Injective (add r) := by
  intro b b' h
  have hwide := (BitVec.xor_right_inj r).mp (shiftByte_injective h)
  have hnarrow := congrArg (BitVec.setWidth 8) hwide
  apply UInt8.toBitVec_inj.mp
  simpa using hnarrow

/-- Different registers stay different when they take in the same bytes. -/
theorem foldl_add_injective (bs : Bytes) : Function.Injective (bs.foldl add ·) := by
  induction bs with
  | nil => exact Function.injective_id
  | cons b bs ih => exact ih.comp (add_left_injective b)

/-- One changed byte changes the checksum. -/
theorem checksum_ne (before after : Bytes) {b b' : UInt8} (h : b ≠ b') :
    checksum (before ++ b :: after) ≠ checksum (before ++ b' :: after) := by
  intro heq
  have hregister := BitVec.not_inj.mp (BitVec.eq_of_toNat_eq heq)
  unfold register at hregister
  rw [List.foldl_append, List.foldl_append, List.foldl_cons, List.foldl_cons] at hregister
  exact h (add_right_injective _ (foldl_add_injective after hregister))

end Crc32c

/-- One changed byte changes the checksum, by either algorithm. -/
theorem Algorithm.compute_set_ne (a : Algorithm) {bs : Bytes} {i : Nat} (hi : i < bs.length)
    {b : UInt8} (hb : bs[i] ≠ b) : a.compute (bs.set i b) ≠ a.compute bs := by
  have hbs : bs = bs.take i ++ bs[i] :: bs.drop (i + 1) := by
    rw [← List.drop_eq_getElem_cons hi, List.take_append_drop]
  have hset : bs.set i b = bs.take i ++ b :: bs.drop (i + 1) := by
    rw [List.set_eq_take_append_cons_drop, if_pos hi]
  intro heq
  rw [hset] at heq
  conv at heq => rhs; rw [hbs]
  cases a with
  | adler32 => exact Adler32.checksum_ne _ _ hb.symm heq
  | crc32c => exact Crc32c.checksum_ne _ _ hb.symm heq

end TxnLog.Checksum
