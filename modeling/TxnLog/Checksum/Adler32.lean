import TxnLog.Bytes

/-!
# Adler-32

Two sums modulo the prime 65521: `low` adds the bytes to one, `high` adds up the successive
values of `low`. The checksum is `high * 2^16 + low`.
-/

namespace TxnLog.Checksum.Adler32

/-- The largest prime below `2^16`, the modulus of both sums. -/
def modulus : Nat := 65521

/-- The two running sums. -/
structure Sums where
  /-- One more than the sum of the bytes. -/
  low : Nat
  /-- The sum of the successive values of `low`. -/
  high : Nat

/-- The sums before any byte. -/
def Sums.start : Sums := ⟨1, 0⟩

/-- Adds one byte. -/
def Sums.add (s : Sums) (b : UInt8) : Sums :=
  let low := (s.low + b.toNat) % modulus
  ⟨low, (s.high + low) % modulus⟩

/-- The sums after all bytes. -/
def sums (bs : Bytes) : Sums := bs.foldl Sums.add Sums.start

/-- The Adler-32 checksum. -/
def checksum (bs : Bytes) : Nat :=
  let s := sums bs
  s.high * 65536 + s.low

end TxnLog.Checksum.Adler32
