/-!
# Bytes and big-endian integers

Every integer of a transaction log is stored with its most significant byte first, either
unsigned or in two's complement. `toNat` and `toInt` read such a field, `ofNat` and `ofInt`
write it, and `Fits` says which integers a field of a given width can hold.
-/

namespace TxnLog

/-- A byte string. -/
abbrev Bytes := List UInt8

namespace BigEndian

/-- The number whose base-256 digits, most significant first, are the bytes. -/
def toNat (bs : Bytes) : Nat :=
  bs.foldl (fun acc b => acc * 256 + b.toNat) 0

/-- The number of values of a field of `width` bytes. -/
def capacity : (width : Nat) → Nat
  | 0 => 1
  | width + 1 => 256 * capacity width

/-- The two's complement reading of the bytes, on eight bits per byte. -/
def toInt (bs : Bytes) : Int :=
  Int.bmod (toNat bs) (capacity bs.length)

/-- The `width` lowest base-256 digits of `n`, most significant first. -/
def ofNat : (width : Nat) → Nat → Bytes
  | 0, _ => []
  | width + 1, n => ofNat width (n / 256) ++ [UInt8.ofNat n]

/-- The two's complement of `n` on `width` bytes. -/
def ofInt (width : Nat) (n : Int) : Bytes :=
  ofNat width (n % capacity width).toNat

/-- The integer `n` is in the range of two's complement on `width` bytes. -/
def Fits (width : Nat) (n : Int) : Prop :=
  -capacity width ≤ 2 * n ∧ 2 * n < capacity width

instance (width : Nat) (n : Int) : Decidable (Fits width n) :=
  inferInstanceAs (Decidable (_ ∧ _))

end BigEndian

end TxnLog
