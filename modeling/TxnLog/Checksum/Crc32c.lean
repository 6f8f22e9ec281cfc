import TxnLog.Bytes

/-!
# CRC-32C

The cyclic redundancy check with Castagnoli's polynomial, least significant bit first: the
register starts at all ones, takes in each byte at its low end, is shifted eight times, and is
complemented in the end.
-/

namespace TxnLog.Checksum.Crc32c

/-- Castagnoli's polynomial with its bits reversed. -/
def polynomial : BitVec 32 := 0x82f63b78#32

/-- One shift of the register: the bit that falls out adds the polynomial. -/
def shift (r : BitVec 32) : BitVec 32 :=
  if r.getLsbD 0 then (r >>> 1) ^^^ polynomial else r >>> 1

/-- Eight shifts, one for each bit of a byte. -/
def shiftByte (r : BitVec 32) : BitVec 32 :=
  shift (shift (shift (shift (shift (shift (shift (shift r)))))))

/-- Takes in one byte. -/
def add (r : BitVec 32) (b : UInt8) : BitVec 32 :=
  shiftByte (r ^^^ b.toBitVec.setWidth 32)

/-- The register after all bytes. -/
def register (bs : Bytes) : BitVec 32 := bs.foldl add (BitVec.allOnes 32)

/-- The CRC-32C checksum. -/
def checksum (bs : Bytes) : Nat := (~~~ register bs).toNat

end TxnLog.Checksum.Crc32c
